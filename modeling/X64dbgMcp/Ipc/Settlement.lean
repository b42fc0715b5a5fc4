import X64dbgMcp.Ipc.Admission

/-!
# Entries in flight are settled

An entry in flight is never evicted, so somebody has to settle it.  Every exit of
a call tells the ledger, except one: a mutation whose future is dropped leaves
its entry in flight behind.  In the runs without such a drop each entry in
flight belongs to a call that is still running.
-/

namespace X64dbgMcp.Ipc

open Text

/-- The call returned, or its future is gone. -/
def Call.ended (call : Call) : Bool :=
  match call.point with
  | .returned _ | .dropped => true
  | _ => false

theorem Call.ended_eq_false_of_holds {call : Call} {operation : Uuid} {fingerprint : String}
    (holds : call.Holds operation fingerprint) : call.ended = false := by
  have isOpen := holds.2
  cases point : call.point <;> simp_all [Point.isOpen, Call.ended]

namespace State

variable {codec : Codec} {state target : State} {output : Output}

/-- The step drops no mutation that was admitted. -/
def SparesMutations (state : State) : Action → Prop
  | .drop id => (state.calls id).operation = none
  | _ => True

instance decidableSparesMutations (state : State) (action : Action) :
    Decidable (SparesMutations state action) := by
  cases action <;> unfold SparesMutations <;> infer_instance

/-- Every entry in flight has a call that will settle it. -/
def Held (ledger : OperationLedger) (calls : Nat → Call) : Prop :=
  ∀ operation fingerprint touched,
    ledger.get operation = some ⟨fingerprint, .inFlight, touched⟩ →
    ∃ id, (calls id).Holds operation fingerprint

/-- One call moves on and keeps what it holds. -/
theorem Held.move {ledger : OperationLedger} {calls : Nat → Call} (held : Held ledger calls)
    {id : Nat} {call : Call} (keeps : (calls id).Keeps call) :
    Held ledger (Function.update calls id call) := by
  intro operation fingerprint touched found
  obtain ⟨holder, admission, isOpen⟩ := held operation fingerprint touched found
  refine ⟨holder, ?_⟩
  by_cases same : holder = id
  · subst same
    obtain ⟨stays, stillOpen⟩ := keeps (by simp [admission]) isOpen
    rw [Function.update_self]
    exact ⟨stays.trans admission, stillOpen⟩
  · rw [Function.update_of_ne same]
    exact ⟨admission, isOpen⟩

/-- A ledger with no new entry in flight. -/
theorem Held.ledgerStep {ledger updated : OperationLedger} {calls : Nat → Call}
    (held : Held ledger calls)
    (inFlight : ∀ operation fingerprint touched,
      updated.get operation = some ⟨fingerprint, .inFlight, touched⟩ →
      ∃ before, ledger.get operation = some ⟨fingerprint, .inFlight, before⟩) :
    Held updated calls := by
  intro operation fingerprint touched found
  obtain ⟨before, foundBefore⟩ := inFlight operation fingerprint touched found
  exact held operation fingerprint before foundBefore

theorem Held.expire {ledger : OperationLedger} {calls : Nat → Call} (held : Held ledger calls)
    (now : Nat) : Held (ledger.expire now) calls :=
  held.ledgerStep fun _ _ touched found => ⟨touched, OperationLedger.get_of_get_expire found⟩

theorem Held.touch {ledger : OperationLedger} {calls : Nat → Call} (held : Held ledger calls)
    (now : Nat) (operation : Uuid) : Held (ledger.touch now operation) calls := by
  refine held.ledgerStep ?_
  intro other fingerprint touched found
  rw [OperationLedger.get_touch] at found
  split at found
  · obtain ⟨⟨key, status, before⟩, foundBefore, equal⟩ := Option.map_eq_some_iff.mp found
    cases equal
    exact ⟨before, foundBefore⟩
  · exact ⟨touched, found⟩

/-- The holder of an admission tells the ledger and gives it up. -/
theorem Held.settle {ledger updated : OperationLedger} {calls : Nat → Call}
    (held : Held ledger calls) {id : Nat} {call : Call} {operation : Uuid} {fingerprint : String}
    {entry : Option Entry} (holds : (calls id).Holds operation fingerprint)
    (told : ∀ other, updated.get other = if other = operation then entry else ledger.get other)
    (settled : ∀ key touched, entry ≠ some ⟨key, .inFlight, touched⟩) :
    Held updated (Function.update calls id call) := by
  intro other key touched found
  rw [told] at found
  split at found
  · exact absurd found (settled key touched)
  · rename_i distinct
    obtain ⟨holder, holderHolds⟩ := held other key touched found
    have elsewhere : holder ≠ id := by
      rintro rfl
      exact distinct (congrArg Prod.fst (Option.some.inj (holderHolds.1.symm.trans holds.1)))
    exact ⟨holder, by rwa [Function.update_of_ne elsewhere]⟩

theorem held_begin (held : Held state.ledger state.calls) {id now : Nat} {operation : Uuid}
    {fingerprint : String} (entered : (state.calls id).point = .entered operation fingerprint) :
    Held (state.begin id now operation fingerprint).ledger
      (state.begin id now operation fingerprint).calls := by
  -- The caller holds nothing yet.
  have keeps : ∀ call, (state.calls id).Keeps call := by
    intro call _ isOpen
    simp [entered, Point.isOpen] at isOpen
  have expired := held.expire now
  cases found : (state.ledger.expire now).get operation with
  | some entry =>
      rw [begin_of_known found]
      exact (expired.touch now operation).move (keeps _)
  | none =>
      simp only [begin]
      rcases OperationLedger.begin_of_unknown found with full | ⟨started, inserted⟩
      · rw [full]
        exact expired.move (keeps _)
      · rw [started]
        intro other key touched otherFound
        simp only [refusal, setCall, inserted] at otherFound ⊢
        split at otherFound
        · rename_i same
          cases otherFound
          exact ⟨id, by simp [same, Call.Holds, Point.isOpen]⟩
        · exact expired.move (keeps _) other key touched otherFound

/-- Step lemma: only the drop of a mutation leaves an entry behind. -/
theorem held_next (admissions : Admissions state.ledger state.calls)
    (held : Held state.ledger state.calls) {action : Action}
    (spares : SparesMutations state action)
    (stepped : next codec state action = some (output, target)) :
    Held target.ledger target.calls := by
  cases shape_next stepped with
  | plugin ledger calls => exact ledger ▸ calls ▸ held
  | moved id call ledger calls moves keeps =>
      rw [ledger, calls]
      refine held.move ?_
      rcases keeps with keeps | isDrop
      · exact keeps
      · rw [isDrop] at spares
        intro admitted
        rw [show (state.calls id).operation = none from spares] at admitted
        contradiction
  | wrote id call frame sent point ledger calls moves keeps =>
      rw [ledger, calls]
      exact held.move keeps
  | begun id now operation fingerprint isBegin entered equal =>
      rw [equal]
      exact held_begin held entered
  | abandoned id operation fingerprint refused admission equal =>
      have holds : (state.calls id).Holds operation fingerprint :=
        ⟨admission, by simp [refused, Point.isOpen]⟩
      obtain ⟨updated, targetEq, told⟩ := abandon_of_holds admissions holds
      rw [equal, targetEq]
      exact held.settle holds told (by simp)
  | failed id now failure failed equal =>
      rw [equal]
      cases admission : (state.calls id).operation with
      | none =>
          simp only [markUnknown, admission]
          exact held.move (by simp [Call.Keeps, admission])
      | some admitted =>
          have holds : (state.calls id).Holds admitted.1 admitted.2 :=
            ⟨admission, by simp [failed, Point.isOpen]⟩
          obtain ⟨updated, targetEq, told⟩ := markUnknown_of_holds admissions holds
          rw [targetEq]
          exact held.settle holds told (by simp)
  | completed id now operation fingerprint outcome recording admission equal =>
      have holds : (state.calls id).Holds operation fingerprint :=
        ⟨admission, by simp [recording, Point.isOpen]⟩
      obtain ⟨updated, targetEq, told⟩ := complete_of_holds admissions holds
      rw [equal, targetEq]
      exact held.settle holds told (by simp)

/-- Run lemma. -/
theorem held_of_execute {actions : List Action} {outputs : List Output} {reached : State}
    (spares : Transition.Along (next codec) SparesMutations initial actions)
    (run : Transition.execute (next codec) initial actions = some (outputs, reached)) :
    Held reached.ledger reached.calls := by
  have preserved : Transition.Preserves (next codec) SparesMutations
      (fun state => Admissions state.ledger state.calls ∧ Held state.ledger state.calls) :=
    fun _ _ _ _ ⟨admissions, held⟩ spares stepped =>
      ⟨admissions_next admissions stepped, held_next admissions held spares stepped⟩
  have started : Held initial.ledger initial.calls := by
    intro operation fingerprint touched found
    simp [initial, OperationLedger.get, Collection.AssocMap.get, Collection.AssocMap.empty] at found
  exact (preserved.execute ⟨Admissions.initial, started⟩ spares run).2

/-- A replayed outcome is not the answer to an operation in flight. -/
theorem decodeRecorded_ne_alreadyInFlight (value : Json) (operation : Uuid) :
    decodeRecorded value ≠ .error (alreadyInFlight operation) := by
  intro equal
  simp only [decodeRecorded] at equal
  split at equal
  · cases equal
  · have message := congrArg ToolError.message (Except.error.inj equal)
    simp [alreadyInFlight, ToolError.withGuidance] at message

/-- A settled entry is never answered with the in-flight error. -/
theorem knownAnswer_of_settled {entry : Entry} (settled : entry.status.isInFlight = false)
    (operation : Uuid) (fingerprint : String) :
    knownAnswer operation entry fingerprint ≠ .error (alreadyInFlight operation) := by
  obtain ⟨key, status, touched⟩ := entry
  simp only [knownAnswer]
  split
  · intro equal
    have message := congrArg ToolError.message (Except.error.inj equal)
    simp [alreadyInFlight, operationIdConflict, ToolError.withGuidance] at message
  · cases status with
    | inFlight => simp [Status.isInFlight] at settled
    | completed value => exact decodeRecorded_ne_alreadyInFlight value operation
    | unknown =>
        intro equal
        have message := congrArg ToolError.message (Except.error.inj equal)
        simp [alreadyInFlight, unknownOutcome, refreshBeforeRetry, ToolError.withGuidance]
          at message

/-- A settled entry is evicted once its time is over. -/
theorem expire_of_settled {ledger : OperationLedger} {operation : Uuid} {entry : Entry} {now : Nat}
    (found : ledger.get operation = some entry) (settled : entry.status.isInFlight = false)
    (old : entry.touched + ledger.ttl ≤ now) : (ledger.expire now).get operation = none := by
  rw [OperationLedger.get_expire, found]
  have stale : ledger.fresh now entry = false := by
    simp only [OperationLedger.fresh, settled, Bool.false_or, decide_eq_false_iff_not]
    omega
  simp [Option.filter, stale]

end State

open Transition State

/-- In every run that drops no admitted mutation: once no call for an operation
is still running, its entry is settled or absent.  A retry is then not answered
with the in-flight error, and the entry leaves the ledger after its time. -/
theorem operations_settled {codec : Codec} {actions : List Action} {outputs : List Output}
    {reached : State} (run : execute (next codec) initial actions = some (outputs, reached))
    (spares : Along (next codec) SparesMutations initial actions) (operation : Uuid)
    (ended : ∀ id, (reached.calls id).operationId = some operation →
      (reached.calls id).ended = true) :
    ∀ entry, reached.ledger.get operation = some entry →
      entry.status.isInFlight = false ∧
      (∀ fingerprint, knownAnswer operation entry fingerprint ≠
        .error (alreadyInFlight operation)) ∧
      ∀ now, entry.touched + reached.ledger.ttl ≤ now →
        (reached.ledger.expire now).get operation = none := by
  intro entry found
  have settled : entry.status.isInFlight = false := by
    obtain ⟨fingerprint, status, touched⟩ := entry
    cases status with
    | inFlight =>
        obtain ⟨id, holds⟩ := held_of_execute spares run operation fingerprint touched found
        have stillRunning := Call.ended_eq_false_of_holds holds
        rw [ended id (by simp [Call.operationId, holds.1])] at stillRunning
        contradiction
    | completed value => rfl
    | unknown => rfl
  exact ⟨settled, knownAnswer_of_settled settled operation, fun _ => expire_of_settled found settled⟩

/-- A pause that waits for the stream until its deadline. -/
def timedOutPause : List Action :=
  [.enter 0 "debugger.pause" pauseArguments, .begin 0 0, .checkReady 0 1 0, .timeout 0,
    .markUnknown 0 0, .clearReady 0, .finish 0]

theorem operations_settled_timedOut :
    ∃ outputs reached entry,
      execute (next smallCodec) initial timedOutPause = some (outputs, reached) ∧
      reached.ledger.get 1 = some entry ∧ entry.status.isInFlight = false := by
  refine ⟨_, _, _, rfl, rfl, ?_⟩
  refine (@operations_settled smallCodec timedOutPause _ _ rfl (by decide) 1 ?_ _ rfl).1
  intro id admitted
  cases id with
  | zero => rfl
  | succ other => cases (show (none : Option Uuid) = some 1 from admitted)

/-- The same pause, dropped where it waits for the stream that a read holds. -/
def droppedPause : List Action :=
  [.enter 1 "debugger.state" (.object []), .checkReady 1 2 0, .acquire 1,
    .enter 0 "debugger.pause" pauseArguments, .begin 0 0, .checkReady 0 1 0, .drop 0,
    .remember 0]

set_option maxRecDepth 2000 in
/-- Nobody runs for the operation, but its entry is in flight and no time evicts it. -/
theorem operation_stuck_after_drop :
    ∃ outputs reached entry,
      execute (next smallCodec) initial droppedPause = some (outputs, reached) ∧
      reached.lock = some 1 ∧
      (∀ id, (reached.calls id).operationId = some 1 → (reached.calls id).ended = true) ∧
      reached.ledger.get 1 = some entry ∧ entry.status.isInFlight = true ∧
      ∀ now, (reached.ledger.expire now).get 1 = some entry := by
  refine ⟨_, _, _, rfl, rfl, ?_, rfl, rfl, ?_⟩
  · intro id admitted
    rcases id with _ | _ | other
    · rfl
    · cases (show (none : Option Uuid) = some 1 from admitted)
    · cases (show (none : Option Uuid) = some 1 from admitted)
  · intro now
    exact OperationLedger.get_expire_of_inFlight rfl rfl

end X64dbgMcp.Ipc
