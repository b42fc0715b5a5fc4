import Mathlib.Data.Nat.Digits.Defs
import X64dbgMcp.Runtime.EventChange

/-!
# Sessions and histories of events

Two bounded histories belong to two debug sessions: the established one and the
announced one.  `Consistent` relates them to the list of all events recorded so
far.  A history that calls itself complete holds every event of its session;
that no other session shares its identifier needs the numbers to be fresh, and
between two callbacks there are fewer session numbers than event numbers.
-/

namespace X64dbgMcp.Runtime

namespace EventLog

/-! ## Session identifiers -/

theorem length_repr_le {value : Nat} (small : value ≤ kMaxJsonSafeInteger) :
    (toString value).toList.length ≤ 16 := by
  have digits : (Nat.toDigits 10 value).length ≤ 16 :=
    (Nat.length_toDigits_le_iff (by decide) (by decide)).mpr
      (Nat.lt_of_le_of_lt small (by decide))
  rwa [Nat.toString_eq_repr, Nat.toList_repr]

theorem toString_injective : Function.Injective (toString : Nat → String) := by
  intro first second same
  have digits : Nat.toDigits 10 first = Nat.toDigits 10 second := by
    simpa only [Nat.toString_eq_repr, Nat.toList_repr] using congrArg String.toList same
  calc
    first = Nat.ofDigitChars 10 (Nat.toDigits 10 first) 0 :=
      (Nat.ofDigitChars_toDigits (by decide) (by decide)).symm
    _ = Nat.ofDigitChars 10 (Nat.toDigits 10 second) 0 := by rw [digits]
    _ = second := Nat.ofDigitChars_toDigits (by decide) (by decide)

/-- An instance identifier has at most 36 characters, so the buffer holds the
whole session identifier. -/
theorem sessionIdOf_inj {instanceId : String} {first second : Nat}
    (short : instanceId.length ≤ 36) (firstSmall : first ≤ kMaxJsonSafeInteger)
    (secondSmall : second ≤ kMaxJsonSafeInteger)
    (same : sessionIdOf instanceId first = sessionIdOf instanceId second) : first = second := by
  have whole : ∀ epoch, epoch ≤ kMaxJsonSafeInteger →
      sessionIdOf instanceId epoch = instanceId ++ ":" ++ toString epoch := by
    intro epoch small
    have fits : (instanceId ++ ":" ++ toString epoch).toList.length ≤ 79 := by
      have digits := length_repr_le small
      have prefixed : instanceId.toList.length ≤ 36 := short
      calc
        (instanceId ++ ":" ++ toString epoch).toList.length
            = instanceId.toList.length + 1 + (toString epoch).toList.length := by
              simp only [String.toList_append, List.length_append]
              rfl
        _ ≤ 79 := by omega
    rw [sessionIdOf, List.take_of_length_le fits, String.ofList_toList]
  rw [whole first firstSmall, whole second secondSmall, String.append_right_inj] at same
  exact toString_injective same

/-! ## One history -/

namespace History

/-- The records of one owner, in the order of `past` and within the bound. -/
structure Fits (past : List EventRecord) (own : EventRecord → Prop) (history : History) :
    Prop where
  sublist : history.records.Sublist past
  bound : history.records.length ≤ kMaxEventHistory
  owned : ∀ event ∈ history.records, own event

/-- A complete history holds every event of its session. -/
def Covers (past : List EventRecord) (sessionId : String) (history : History) : Prop :=
  history.complete = true → ∀ event ∈ past, event.sessionId = sessionId → event ∈ history.records

variable {past : List EventRecord} {own : EventRecord → Prop} {sessionId : String}
  {history : History} {event : EventRecord}

theorem records_append (history : History) (event : EventRecord) (stored : Bool) :
    ((history.append event stored).records).Sublist (history.records ++ [event]) := by
  simp only [append]
  apply List.Sublist.append
  · split
    · exact List.tail_sublist _
    · exact List.Sublist.refl _
  · cases stored
    · exact List.nil_sublist _
    · exact List.Sublist.refl _

theorem Fits.later (fits : Fits past own history) (event : EventRecord) :
    Fits (past ++ [event]) own history :=
  ⟨fits.sublist.trans (List.sublist_append_left _ _), fits.bound, fits.owned⟩

theorem Fits.append (fits : Fits past own history) (owned : own event)
    (stored : Bool) : Fits (past ++ [event]) own (history.append event stored) := by
  have grown := records_append history event stored
  constructor
  · exact grown.trans (fits.sublist.append (List.Sublist.refl _))
  · simp only [History.append]
    by_cases full : history.records.length = kMaxEventHistory
    · have shorter : history.records.tail.length + 1 = kMaxEventHistory := by
        rw [List.length_tail, full]
        rfl
      cases stored <;> simp [full] at shorter ⊢
      omega
    · have room := fits.bound
      have notFull : (history.records.length == kMaxEventHistory) = false := beq_false_of_ne full
      cases stored <;> simp [notFull] <;> omega
  · intro record member
    rcases List.mem_append.mp (grown.mem member) with old | new
    · exact fits.owned record old
    · rw [List.mem_singleton.mp new]
      exact owned

theorem Covers.later (covers : Covers past sessionId history)
    (other : event.sessionId ≠ sessionId) : Covers (past ++ [event]) sessionId history := by
  intro complete record member own
  rcases List.mem_append.mp member with old | new
  · exact covers complete record old own
  · rw [List.mem_singleton.mp new] at own
    exact absurd own other

theorem Covers.append (covers : Covers past sessionId history) (stored : Bool) :
    Covers (past ++ [event]) sessionId (history.append event stored) := by
  intro complete record member own
  simp only [History.append, Bool.and_eq_true, Bool.not_eq_true'] at complete
  rcases complete with ⟨⟨complete, notFull⟩, stored⟩
  simp only [History.append, notFull, stored, if_true, Bool.false_eq_true, if_false]
  rcases List.mem_append.mp member with old | new
  · exact List.mem_append_left _ (covers complete record old own)
  · exact List.mem_append_right _ new

end History

/-! ## The log -/

/-- The history of the established session. -/
def main (log : EventLog) : History :=
  ⟨log.eventHistory, log.eventHistoryOffset, log.historyComplete⟩

/-- The history of the announced session. -/
def candidate (log : EventLog) : History :=
  ⟨log.candidateEvents, log.candidateHistoryOffset, log.candidateHistoryComplete⟩

/-- The session of an epoch. -/
def idOf (log : EventLog) (epoch : Nat) : String :=
  sessionIdOf log.instanceId epoch

/-- The sessions in use. -/
def sessions (log : EventLog) : List Nat :=
  log.eventSessionEpoch :: log.candidateEventSession.toList

/-- The session that receives the next record. -/
def session (log : EventLog) : Nat :=
  log.candidateEventSession.getD log.eventSessionEpoch

/-- The log against the list of all recorded events, given which events belong
to the session of a number. -/
structure Consistent (own : Nat → EventRecord → Prop) (past : List EventRecord)
    (log : EventLog) : Prop where
  main : log.main.Fits past (own log.eventSessionEpoch)
  candidate : ∀ epoch ∈ log.candidateEventSession, log.candidate.Fits past (own epoch)
  empty : log.candidateEventSession = none → log.candidateEvents = []
  ascending : (past.map EventRecord.sequence).Pairwise (· < ·)
  numbered : ∀ event ∈ past, event.sequence < log.nextEventSequence
  established : log.eventSessionEpoch ≤ log.eventSessionCounter
  announced : ∀ epoch ∈ log.candidateEventSession,
    log.eventSessionEpoch < epoch ∧ epoch ≤ log.eventSessionCounter

variable {own : Nat → EventRecord → Prop} {past : List EventRecord} {log : EventLog}

theorem Consistent.move (consistent : Consistent own past log) (move : SessionMove) :
    Consistent own past (log.move move) := by
  rcases consistent with
    ⟨main, candidate, empty, ascending, numbered, established, announced⟩
  cases move with
  | none => exact ⟨main, candidate, empty, ascending, numbered, established, announced⟩
  | announce =>
      refine ⟨main, ?_, nofun, ascending, numbered, Nat.le_succ_of_le established, ?_⟩
      · rintro epoch -
        exact ⟨List.nil_sublist _, Nat.zero_le _, List.forall_mem_nil _⟩
      · intro epoch member
        cases member
        exact ⟨Nat.lt_succ_of_le established, Nat.le_refl _⟩
  | establish =>
      cases session : log.candidateEventSession with
      | none =>
          refine ⟨?_, nofun, fun _ => rfl, ascending, numbered, ?_, nofun⟩
          · have nothing : (log.move .establish).main.records = [] := empty session
            constructor <;> simp [nothing]
          · simp [EventLog.move, establish, session]
      | some epoch =>
          refine ⟨?_, nofun, fun _ => rfl, ascending, numbered, ?_, nofun⟩
          · have fits := candidate epoch session
            constructor
            · exact fits.sublist
            · exact fits.bound
            · have current : (log.move .establish).eventSessionEpoch = epoch := by
                simp [EventLog.move, establish, session]
              rw [current]
              exact fits.owned
          · have known := (announced epoch session).2
            simp [EventLog.move, establish, session]
            omega

theorem Consistent.closeIf (consistent : Consistent own past log) (closes : Bool) :
    Consistent own past (log.closeIf closes) := by
  cases closes with
  | false => exact consistent
  | true =>
      exact ⟨consistent.main, nofun, fun _ => rfl, consistent.ascending, consistent.numbered,
        consistent.established, nofun⟩

/-! ## Recording -/

/-- An event with its number, its session and its time. -/
def stamped (log : EventLog) (input : RecordInput) (event : EventRecord) : EventRecord :=
  { event with
    sequence := log.nextEventSequence
    sessionId := log.idOf log.session
    timestampUnixMs := input.timestampUnixMs }

theorem recordEventLocked_exhausted {log : EventLog}
    (exhausted : kMaxJsonSafeInteger < log.nextEventSequence) (input : RecordInput)
    (event : EventRecord) :
    log.recordEventLocked input event = (none, log.setTarget { log.target with complete := false }) :=
  if_pos exhausted

theorem recordEventLocked_numbered {log : EventLog}
    (room : log.nextEventSequence ≤ kMaxJsonSafeInteger) (input : RecordInput)
    (event : EventRecord) :
    log.recordEventLocked input event =
      (some (log.stamped input event),
        { log.setTarget (log.target.append (log.stamped input event) input.stored) with
          nextEventSequence := log.nextEventSequence + 1 }) :=
  if_neg (Nat.not_lt.mpr room)

/-- With no candidate the main history receives. -/
theorem receives_main {log : EventLog} (closed : log.candidateEventSession = none) :
    log.session = log.eventSessionEpoch ∧ log.target = log.main ∧
      ∀ history : History, log.setTarget history =
        { log with
          eventHistory := history.records
          eventHistoryOffset := history.offset
          historyComplete := history.complete } := by
  have notOpen : ¬log.candidateEventSession.isSome = true := by simp [closed]
  refine ⟨?_, if_neg notOpen, fun history => if_neg notOpen⟩
  rw [session, closed]
  rfl

theorem receives_candidate {log : EventLog} {epoch : Nat}
    (opened : log.candidateEventSession = some epoch) :
    log.session = epoch ∧ log.target = log.candidate ∧
      ∀ history : History, log.setTarget history =
        { log with
          candidateEvents := history.records
          candidateHistoryOffset := history.offset
          candidateHistoryComplete := history.complete } := by
  have isOpen : log.candidateEventSession.isSome = true := by simp [opened]
  refine ⟨?_, if_pos isOpen, fun history => if_pos isOpen⟩
  rw [session, opened]
  rfl

/-- Replacing the receiving history by one that fits keeps the log consistent. -/
theorem Consistent.setTarget (consistent : Consistent own past log) {history : History}
    (fits : history.Fits past (own log.session)) : Consistent own past (log.setTarget history) := by
  rcases consistent with
    ⟨main, candidate, empty, ascending, numbered, established, announced⟩
  cases opened : log.candidateEventSession with
  | none =>
      rcases receives_main opened with ⟨current, -, replaced⟩
      rw [current] at fits
      rw [replaced]
      refine ⟨fits, ?_, ?_, ascending, numbered, established, announced⟩
      · intro epoch member
        cases opened.symm.trans member
      · intro _
        exact empty opened
  | some epoch =>
      rcases receives_candidate opened with ⟨current, -, replaced⟩
      rw [current] at fits
      rw [replaced]
      refine ⟨main, ?_, ?_, ascending, numbered, established, announced⟩
      · intro other member
        cases opened.symm.trans member
        exact fits
      · intro absent
        cases opened.symm.trans absent

/-- One more recorded event that both histories leave out. -/
theorem Consistent.later (consistent : Consistent own past log) {event : EventRecord}
    (number : event.sequence = log.nextEventSequence) :
    Consistent own (past ++ [event]) { log with nextEventSequence := log.nextEventSequence + 1 } := by
  rcases consistent with
    ⟨main, candidate, empty, ascending, numbered, established, announced⟩
  constructor
  · exact main.later event
  · intro epoch member
    exact (candidate epoch member).later event
  · exact empty
  · rw [List.map_append, List.pairwise_append]
    refine ⟨ascending, List.pairwise_singleton _ _, ?_⟩
    intro earlier earlierMember later laterMember
    rcases List.mem_map.mp earlierMember with ⟨record, member, rfl⟩
    rw [List.mem_singleton.mp laterMember, number]
    exact numbered record member
  · intro record member
    rcases List.mem_append.mp member with old | new
    · exact Nat.lt_succ_of_lt (numbered record old)
    · rw [List.mem_singleton.mp new, number]
      exact Nat.lt_succ_self _
  · exact established
  · exact announced

theorem Consistent.target (consistent : Consistent own past log) :
    log.target.Fits past (own log.session) := by
  cases opened : log.candidateEventSession with
  | none =>
      rcases receives_main opened with ⟨current, target, -⟩
      rw [current, target]
      exact consistent.main
  | some epoch =>
      rcases receives_candidate opened with ⟨current, target, -⟩
      rw [current, target]
      exact consistent.candidate epoch opened

theorem Consistent.session_le (consistent : Consistent own past log) :
    log.session ≤ log.eventSessionCounter := by
  cases opened : log.candidateEventSession with
  | none =>
      rw [(receives_main opened).1]
      exact consistent.established
  | some epoch =>
      rw [(receives_candidate opened).1]
      exact (consistent.announced epoch opened).2

theorem Consistent.record (consistent : Consistent own past log) (input : RecordInput)
    (event : EventRecord) (owned : own log.session (log.stamped input event)) :
    Consistent own (past ++ (log.recordEventLocked input event).1.toList)
      (log.recordEventLocked input event).2 := by
  by_cases room : log.nextEventSequence ≤ kMaxJsonSafeInteger
  · rw [recordEventLocked_numbered room]
    have numbered : Consistent own (past ++ [log.stamped input event])
        { log with nextEventSequence := log.nextEventSequence + 1 } := consistent.later rfl
    have appended := numbered.setTarget (consistent.target.append owned input.stored)
    have same : { log with nextEventSequence := log.nextEventSequence + 1 }.setTarget
        (log.target.append (log.stamped input event) input.stored) =
          { log.setTarget (log.target.append (log.stamped input event) input.stored) with
            nextEventSequence := log.nextEventSequence + 1 } := by
      simp only [EventLog.setTarget]
      split <;> rfl
    rw [same] at appended
    exact appended
  · rw [recordEventLocked_exhausted (Nat.lt_of_not_le room), Option.toList_none, List.append_nil]
    have fits := consistent.target
    exact consistent.setTarget ⟨fits.sublist, fits.bound, fits.owned⟩

/-! ## Completeness -/

/-- Every event came from a session with a small number. -/
def Used (past : List EventRecord) (log : EventLog) : Prop :=
  ∀ event ∈ past, ∃ epoch, epoch ≤ log.eventSessionCounter ∧ epoch ≤ kMaxJsonSafeInteger ∧
    event.sessionId = log.idOf epoch

/-- Between two callbacks a complete history covers its session. -/
structure Complete (past : List EventRecord) (log : EventLog) : Prop where
  room : log.eventSessionCounter < log.nextEventSequence ∨
    kMaxJsonSafeInteger < log.nextEventSequence
  used : log.Used past
  main : log.main.Covers past (log.idOf log.eventSessionEpoch)
  candidate : ∀ epoch ∈ log.candidateEventSession, log.candidate.Covers past (log.idOf epoch)

/-- After the move a session may be open whose first event is still to come.
When the numbers are exhausted that event only marks its history incomplete. -/
structure Pending (past : List EventRecord) (log : EventLog) : Prop where
  room : log.eventSessionCounter ≤ log.nextEventSequence ∨
    kMaxJsonSafeInteger < log.nextEventSequence
  used : log.Used past
  main : log.candidateEventSession.isSome = true ∨
    log.nextEventSequence ≤ kMaxJsonSafeInteger →
      log.main.Covers past (log.idOf log.eventSessionEpoch)
  candidate : log.nextEventSequence ≤ kMaxJsonSafeInteger →
    ∀ epoch ∈ log.candidateEventSession, log.candidate.Covers past (log.idOf epoch)

theorem Complete.pending (complete : Complete past log) : Pending past log := by
  rcases complete with ⟨room, used, main, candidate⟩
  exact ⟨room.imp_left Nat.le_of_lt, used, fun _ => main, fun _ => candidate⟩

theorem Used.later (used : log.Used past) {after : EventLog}
    (instanceId : after.instanceId = log.instanceId)
    (counter : log.eventSessionCounter ≤ after.eventSessionCounter) : after.Used past := by
  intro event member
  rcases used event member with ⟨epoch, le, small, own⟩
  refine ⟨epoch, Nat.le_trans le counter, small, ?_⟩
  rw [own, idOf, idOf, instanceId]

/-- No event carries the identifier of the next session. -/
theorem Used.fresh (short : log.instanceId.length ≤ 36) (used : log.Used past)
    (small : log.eventSessionCounter + 1 ≤ kMaxJsonSafeInteger) (history : History) :
    history.Covers past (log.idOf (log.eventSessionCounter + 1)) := by
  intro _ event member own
  rcases used event member with ⟨epoch, le, epochSmall, other⟩
  have same := sessionIdOf_inj short small epochSmall (own.symm.trans other)
  omega

theorem Complete.move (short : log.instanceId.length ≤ 36) (complete : Complete past log)
    (move : SessionMove) : Pending past (log.move move) := by
  cases move with
  | none => exact complete.pending
  | announce =>
      rcases complete with ⟨room, used, main, candidate⟩
      refine ⟨room, used.later rfl (Nat.le_succ _), fun _ => main, ?_⟩
      intro safe epoch member
      cases member
      apply used.fresh short
      have numbered : log.nextEventSequence ≤ kMaxJsonSafeInteger := safe
      omega
  | establish =>
      rcases complete with ⟨room, used, main, candidate⟩
      refine ⟨room, used.later rfl (Nat.le_succ _), ?_, nofun⟩
      intro safe
      have numbered : log.nextEventSequence ≤ kMaxJsonSafeInteger := by
        rcases safe with opened | numbered
        · cases opened
        · exact numbered
      cases session : log.candidateEventSession with
      | none =>
          have own : (log.move .establish).idOf (log.move .establish).eventSessionEpoch =
              log.idOf (log.eventSessionCounter + 1) := by
            simp [EventLog.move, establish, session, idOf]
          rw [own]
          apply used.fresh short
          omega
      | some epoch =>
          have own : (log.move .establish).idOf (log.move .establish).eventSessionEpoch =
              log.idOf epoch := by
            simp [EventLog.move, establish, session, idOf]
          rw [own]
          exact candidate epoch session

theorem Complete.closeIf (complete : Complete past log) (closes : Bool) :
    Complete past (log.closeIf closes) := by
  cases closes with
  | false => exact complete
  | true => exact ⟨complete.room, complete.used, complete.main, nofun⟩

theorem Pending.record (short : log.instanceId.length ≤ 36) (consistent : Consistent own past log)
    (pending : Pending past log) (input : RecordInput) (event : EventRecord) :
    Complete (past ++ (log.recordEventLocked input event).1.toList)
      (log.recordEventLocked input event).2 := by
  have known := consistent.session_le
  have announced := consistent.announced
  rcases pending with ⟨room, used, main, candidate⟩
  by_cases safe : log.nextEventSequence ≤ kMaxJsonSafeInteger
  · rw [recordEventLocked_numbered safe]
    have counter : log.eventSessionCounter ≤ log.nextEventSequence := by omega
    have usedLater : log.Used (past ++ [log.stamped input event]) := by
      intro record member
      rcases List.mem_append.mp member with old | new
      · exact used record old
      · rw [List.mem_singleton.mp new]
        exact ⟨log.session, known, by omega, rfl⟩
    cases opened : log.candidateEventSession with
    | none =>
        rcases receives_main opened with ⟨own, target, replaced⟩
        rw [target, replaced]
        refine ⟨.inl (Nat.lt_succ_of_le counter), usedLater, ?_, ?_⟩
        · exact (main (.inr safe)).append input.stored
        · intro epoch member
          cases opened.symm.trans member
    | some epoch =>
        rcases receives_candidate opened with ⟨own, target, replaced⟩
        rw [target, replaced]
        refine ⟨.inl (Nat.lt_succ_of_le counter), usedLater, ?_, ?_⟩
        · apply (main (.inl (Option.isSome_of_eq_some opened))).later
          intro same
          have later := announced epoch opened
          have equal := sessionIdOf_inj short (by omega) (by omega) same
          omega
        · intro other member
          exact (candidate safe other member).append input.stored
  · rw [recordEventLocked_exhausted (Nat.lt_of_not_le safe), Option.toList_none, List.append_nil]
    cases opened : log.candidateEventSession with
    | none =>
        rcases receives_main opened with ⟨-, -, replaced⟩
        rw [replaced]
        refine ⟨.inr (Nat.lt_of_not_le safe), used, nofun, ?_⟩
        intro epoch member
        cases opened.symm.trans member
    | some epoch =>
        rcases receives_candidate opened with ⟨-, -, replaced⟩
        rw [replaced]
        exact ⟨.inr (Nat.lt_of_not_le safe), used,
          main (.inl (Option.isSome_of_eq_some opened)), nofun⟩

/-! ## Steps -/

theorem setTarget_frame (log : EventLog) (history : History) :
    (log.setTarget history).instanceId = log.instanceId ∧
      (log.setTarget history).eventSessionEpoch = log.eventSessionEpoch ∧
      (log.setTarget history).eventSessionCounter = log.eventSessionCounter ∧
      (log.setTarget history).candidateEventSession = log.candidateEventSession := by
  unfold setTarget
  split <;> exact ⟨rfl, rfl, rfl, rfl⟩

/-- Recording touches no session. -/
theorem recordEventLocked_frame (log : EventLog) (input : RecordInput) (event : EventRecord) :
    (log.recordEventLocked input event).2.instanceId = log.instanceId ∧
      (log.recordEventLocked input event).2.eventSessionEpoch = log.eventSessionEpoch ∧
      (log.recordEventLocked input event).2.eventSessionCounter = log.eventSessionCounter ∧
      (log.recordEventLocked input event).2.candidateEventSession =
        log.candidateEventSession := by
  simp only [recordEventLocked]
  split <;> exact setTarget_frame log _

/-- With a candidate open, recording leaves the main history alone. -/
theorem main_recordEventLocked (opened : log.candidateEventSession.isSome = true)
    (input : RecordInput) (event : EventRecord) :
    (log.recordEventLocked input event).2.main = log.main := by
  simp only [recordEventLocked, setTarget, opened, if_true]
  split <;> rfl

@[simp]
theorem main_closeIf (log : EventLog) (closes : Bool) : (log.closeIf closes).main = log.main := by
  cases closes <;> rfl

/-- An event of a numbered session of an instance. -/
def OfInstance (instanceId : String) (epoch : Nat) (event : EventRecord) : Prop :=
  event.sessionId = sessionIdOf instanceId epoch

/-- The log of one instance against the list of all recorded events. -/
structure Recorded (instanceId : String) (past : List EventRecord) (log : EventLog) : Prop where
  same : log.instanceId = instanceId
  consistent : Consistent (OfInstance instanceId) past log
  complete : Complete past log

theorem recorded_empty (instanceId : String) :
    Recorded instanceId [] { instanceId := instanceId } := by
  constructor
  · rfl
  · exact ⟨⟨List.nil_sublist _, Nat.zero_le _, List.forall_mem_nil _⟩, nofun, fun _ => rfl,
      List.Pairwise.nil, List.forall_mem_nil _, Nat.le_refl _, nofun⟩
  · exact ⟨.inl Nat.zero_lt_one, List.forall_mem_nil _, fun _ => List.forall_mem_nil _, nofun⟩

theorem instanceId_move (log : EventLog) (move : SessionMove) :
    (log.move move).instanceId = log.instanceId := by
  cases move <;> rfl

theorem Consistent.change (consistent : Consistent own past log)
    (owned : ∀ epoch event, OfInstance log.instanceId epoch event → own epoch event)
    {move : SessionMove} {closes : Bool} {events : List EventRecord} {after : EventLog}
    (change : Change log move closes events after) : Consistent own (past ++ events) after := by
  cases change with
  | kept =>
      rw [List.append_nil]
      exact consistent
  | recorded move closes input event =>
      have stamps : own (log.move move).session ((log.move move).stamped input event) := by
        apply owned
        rw [OfInstance, ← instanceId_move log move]
        rfl
      exact ((consistent.move move).record input event stamps).closeIf closes

/-- Step lemma for the histories. -/
theorem Recorded.change {instanceId : String} (short : instanceId.length ≤ 36)
    (recorded : Recorded instanceId past log) {move : SessionMove} {closes : Bool}
    {events : List EventRecord} {after : EventLog} (change : Change log move closes events after) :
    Recorded instanceId (past ++ events) after := by
  rcases recorded with ⟨rfl, consistent, complete⟩
  have kept := consistent.change (fun _ _ => id) change
  cases change with
  | kept =>
      rw [List.append_nil]
      exact ⟨rfl, consistent, complete⟩
  | recorded move closes input event =>
      have same := instanceId_move log move
      have moved := consistent.move move
      have pending := complete.move short move
      rw [← same] at short
      refine ⟨?_, kept, (pending.record short moved input event).closeIf closes⟩
      rw [← same, ← (recordEventLocked_frame (log.move move) input event).1]
      cases closes <;> rfl

/-- Step lemma for the sessions: a new one exceeds the counter. -/
theorem Change.sessions {before after : EventLog} {move : SessionMove} {closes : Bool}
    {events : List EventRecord} (change : Change before move closes events after) :
    before.eventSessionCounter ≤ after.eventSessionCounter ∧
      (∀ epoch ∈ after.sessions, epoch ∈ before.sessions ∨ before.eventSessionCounter < epoch) ∧
      (move = .announce →
        ∀ epoch ∈ after.candidateEventSession, before.eventSessionCounter < epoch) ∧
      (move = .establish → before.candidateEventSession = none →
        before.eventSessionCounter < after.eventSessionEpoch) := by
  cases change with
  | kept => exact ⟨Nat.le_refl _, fun _ => .inl, by simp, by simp⟩
  | recorded move closes input event =>
      rcases recordEventLocked_frame (before.move move) input event with
        ⟨-, epoch, counter, candidate⟩
      generalize ((before.move move).recordEventLocked input event).2 = recorded at *
      have closedFrame : (recorded.closeIf closes).eventSessionEpoch =
            (before.move move).eventSessionEpoch ∧
          (recorded.closeIf closes).eventSessionCounter =
            (before.move move).eventSessionCounter ∧
          ∀ epoch ∈ (recorded.closeIf closes).candidateEventSession,
            epoch ∈ (before.move move).candidateEventSession := by
        cases closes
        · exact ⟨epoch, counter, fun _ member => candidate ▸ member⟩
        · exact ⟨epoch, counter, by rintro _ ⟨⟩⟩
      rcases closedFrame with ⟨epoch, counter, candidate⟩
      rw [epoch, counter]
      have known : ∀ other ∈ (recorded.closeIf closes).sessions,
          other ∈ (before.move move).sessions := by
        intro other member
        rcases List.mem_cons.mp member with rfl | member
        · rw [epoch]
          exact List.mem_cons_self
        · exact List.mem_cons_of_mem _
            (Option.mem_toList.mpr (candidate other (Option.mem_toList.mp member)))
      cases move with
      | none => exact ⟨Nat.le_refl _, fun other member => .inl (known other member),
          by simp, by simp⟩
      | announce =>
          have opened : ∀ other ∈ (recorded.closeIf closes).candidateEventSession,
              before.eventSessionCounter < other := by
            intro other member
            cases candidate other member
            exact Nat.lt_succ_self _
          refine ⟨Nat.le_succ _, ?_, fun _ => opened, by simp⟩
          intro other member
          rcases List.mem_cons.mp (known other member) with rfl | member
          · exact .inl List.mem_cons_self
          · cases Option.mem_toList.mp member
            exact .inr (Nat.lt_succ_self _)
      | establish =>
          have fresh : before.candidateEventSession = none →
              before.eventSessionCounter < (before.move .establish).eventSessionEpoch := by
            intro closed
            simp [EventLog.move, establish, closed]
          refine ⟨Nat.le_succ _, ?_, by simp, fun _ => fresh⟩
          intro other member
          rcases List.mem_cons.mp (known other member) with rfl | member
          · cases session : before.candidateEventSession with
            | none => exact .inr (fresh session)
            | some epoch =>
                have current : (before.move .establish).eventSessionEpoch = epoch := by
                  simp [EventLog.move, establish, session]
                rw [current]
                exact .inl (List.mem_cons_of_mem _ (Option.mem_toList.mpr session))
          · cases member

end EventLog

end X64dbgMcp.Runtime
