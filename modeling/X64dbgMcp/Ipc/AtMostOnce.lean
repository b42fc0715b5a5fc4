import X64dbgMcp.Ipc.Admission

/-!
# At most one frame per operation

While the entry of an operation stays in the ledger, at most one request frame
that carries it is written.  The latch is closed when the entry exists and every
call that still holds the admission has already written: a new admission needs
the entry to be gone, and an entry goes only by its expiry or by a withdrawal
before the write.
-/

namespace X64dbgMcp.Ipc

open Text

/-- The first byte of a request frame that carries the operation. -/
def Output.carries (operation : Uuid) : Output → Bool
  | .frame _ (some written) => written == operation
  | _ => false

namespace State

variable {codec : Codec} {state target : State} {output : Output} {operation : Uuid}

/-- The step does not evict the operation's entry. -/
def Keeps (operation : Uuid) (state : State) : Action → Prop
  | .begin _ now => (state.ledger.expire now).get operation = state.ledger.get operation
  | _ => True

/-- No further frame can carry the operation. -/
structure Dispatched (operation : Uuid) (state : State) : Prop where
  known : (state.ledger.get operation).isSome = true
  written : ∀ id fingerprint, (state.calls id).Holds operation fingerprint →
    (state.calls id).wrote = true

/-- The holders after one call was replaced. -/
theorem holds_update {calls : Nat → Call} {id : Nat} {call : Call}
    (moved : ∀ fingerprint, call.Holds operation fingerprint →
      (calls id).Holds operation fingerprint ∧
        ((calls id).wrote = true → call.wrote = true)) :
    ∀ other fingerprint, (Function.update calls id call other).Holds operation fingerprint →
      (calls other).Holds operation fingerprint ∧
        ((calls other).wrote = true → (Function.update calls id call other).wrote = true) :=
  (Function.forall_update_iff calls fun other call => ∀ fingerprint,
    call.Holds operation fingerprint → (calls other).Holds operation fingerprint ∧
      ((calls other).wrote = true → call.wrote = true)).mpr
    ⟨moved, fun _ _ _ holds => ⟨holds, fun known => known⟩⟩

/-- A call that is closed holds nothing. -/
theorem holds_setPoint (calls : Nat → Call) {id : Nat} {point : Point}
    (closed : point.isOpen = false) :
    ∀ other fingerprint, (Function.update calls id { calls id with point := point } other).Holds
        operation fingerprint →
      (calls other).Holds operation fingerprint ∧ ((calls other).wrote = true →
        (Function.update calls id { calls id with point := point } other).wrote = true) := by
  refine holds_update ?_
  rintro fingerprint ⟨-, isOpen⟩
  rw [closed] at isOpen
  contradiction

/-- A call that holds an admission held it before, or is admitted by this step
because the entry was gone. -/
theorem holds_next {action : Action} (stepped : next codec state action = some (output, target))
    (id : Nat) (fingerprint : String)
    (holdsAfter : (target.calls id).Holds operation fingerprint) :
    ((state.calls id).Holds operation fingerprint ∧
        ((state.calls id).wrote = true → (target.calls id).wrote = true)) ∨
      ∃ now, action = .begin id now ∧ (state.ledger.expire now).get operation = none := by
  cases shape_next stepped with
  | plugin ledger calls =>
      rw [calls] at holdsAfter ⊢
      exact .inl ⟨holdsAfter, fun known => known⟩
  | moved other call ledger calls moves =>
      rw [calls] at holdsAfter ⊢
      exact .inl (holds_update (moves.holds operation) id fingerprint holdsAfter)
  | wrote other call frame sent point ledger calls moves =>
      rw [calls] at holdsAfter ⊢
      exact .inl (holds_update (moves.holds operation) id fingerprint holdsAfter)
  | begun other now requested key isBegin entered equal =>
      rw [equal] at holdsAfter ⊢
      simp only [begin] at holdsAfter ⊢
      cases found : (state.ledger.expire now).get requested with
      | some entry =>
          rw [OperationLedger.begin_of_known found, refusal_admission] at holdsAfter ⊢
          exact .inl (holds_setPoint state.calls rfl id fingerprint holdsAfter)
      | none =>
          rcases OperationLedger.begin_of_unknown found with full | ⟨started, -⟩
          · rw [full] at holdsAfter ⊢
            exact .inl (holds_setPoint state.calls rfl id fingerprint holdsAfter)
          · rw [started] at holdsAfter ⊢
            simp only [refusal, setCall] at holdsAfter ⊢
            by_cases same : id = other
            · subst same
              rw [Function.update_self] at holdsAfter
              obtain ⟨admission, -⟩ := holdsAfter
              cases admission
              exact .inr ⟨now, isBegin, found⟩
            · rw [Function.update_of_ne same] at holdsAfter ⊢
              exact .inl ⟨holdsAfter, fun known => known⟩
  | abandoned other requested key refused admission equal =>
      rw [equal] at holdsAfter ⊢
      simp only [abandon] at holdsAfter ⊢
      split at holdsAfter <;>
        exact .inl (holds_setPoint state.calls rfl id fingerprint holdsAfter)
  | failed other now failure failed equal =>
      rw [equal, markUnknown_calls] at holdsAfter ⊢
      exact .inl (holds_setPoint state.calls rfl id fingerprint holdsAfter)
  | completed other now requested key outcome recording admission equal =>
      rw [equal] at holdsAfter ⊢
      simp only [complete] at holdsAfter ⊢
      split at holdsAfter <;>
        exact .inl (holds_setPoint state.calls rfl id fingerprint holdsAfter)

theorem known_begin {id now : Nat} {other : Uuid} {fingerprint : String} {entry : Entry}
    (kept : (state.ledger.expire now).get operation = some entry) :
    ((state.begin id now other fingerprint).ledger.get operation).isSome = true := by
  cases found : (state.ledger.expire now).get other with
  | some otherEntry =>
      rw [begin_of_known found]
      simp only [setPoint, setCall, OperationLedger.get_touch, kept]
      split <;> rfl
  | none =>
      simp only [begin]
      rcases OperationLedger.begin_of_unknown found with full | ⟨started, inserted⟩
      · rw [full]
        simp [setPoint, setCall, refusal, kept]
      · rw [started]
        simp only [refusal, setCall, inserted, kept]
        split <;> rfl

/-- Without an eviction an entry leaves the ledger only in the step that withdraws an
admission unwritten. -/
theorem known_next (admissions : Admissions state.ledger state.calls) {action : Action}
    (keeps : Keeps operation state action)
    (stepped : next codec state action = some (output, target))
    (known : (state.ledger.get operation).isSome = true) :
    (target.ledger.get operation).isSome = true ∨
      ∃ id fingerprint, action = .abandon id ∧ (state.calls id).point = .refused ∧
        (state.calls id).Holds operation fingerprint ∧ (state.calls id).wrote = false := by
  cases shape_next stepped with
  | plugin ledger calls => exact .inl (by rw [ledger, known])
  | moved id call ledger calls moves => exact .inl (by rw [ledger, known])
  | wrote id call frame sent point ledger calls moves => exact .inl (by rw [ledger, known])
  | begun id now other fingerprint isBegin entered equal =>
      rw [isBegin] at keeps
      obtain ⟨entry, entryEq⟩ := Option.isSome_iff_exists.mp known
      rw [equal]
      exact .inl (known_begin (keeps.trans entryEq))
  | abandoned id other fingerprint refused admission equal _ isAbandon =>
      have holds : (state.calls id).Holds other fingerprint :=
        ⟨admission, by simp [refused, Point.isOpen]⟩
      by_cases same : operation = other
      · subst same
        exact .inr ⟨id, fingerprint, isAbandon, refused, holds,
          admissions.unsent id (by simp [refused, Point.isUnsent])⟩
      · obtain ⟨updated, targetEq, told⟩ := abandon_of_holds admissions holds
        rw [equal, targetEq]
        exact .inl (by simp [setPoint, setCall, told, same, known])
  | failed id now failure failed equal =>
      left
      rw [equal]
      cases admission : (state.calls id).operation with
      | none => simp [markUnknown, admission, setPoint, setCall, known]
      | some admitted =>
          obtain ⟨updated, targetEq, told⟩ := markUnknown_of_holds admissions
            ⟨admission, by simp [failed, Point.isOpen]⟩
          rw [targetEq]
          simp only [setPoint, setCall, told]
          split
          · rfl
          · exact known
  | completed id now other fingerprint outcome recording admission equal =>
      left
      obtain ⟨updated, targetEq, told⟩ := complete_of_holds admissions
        ⟨admission, by simp [recording, Point.isOpen]⟩
      rw [equal, targetEq]
      simp only [setPoint, setCall, told]
      split
      · rfl
      · exact known

/-- The latch: without an eviction nothing opens it again. -/
theorem dispatched_next (admissions : Admissions state.ledger state.calls) {action : Action}
    (keeps : Keeps operation state action)
    (stepped : next codec state action = some (output, target))
    (dispatched : state.Dispatched operation) : target.Dispatched operation := by
  constructor
  · rcases known_next admissions keeps stepped dispatched.known with
      known | ⟨id, fingerprint, -, -, holds, unwritten⟩
    · exact known
    · rw [dispatched.written id fingerprint holds] at unwritten
      contradiction
  · intro id fingerprint holdsAfter
    rcases holds_next stepped id fingerprint holdsAfter with
      ⟨holds, stays⟩ | ⟨now, isBegin, gone⟩
    · exact stays (dispatched.written id fingerprint holds)
    · rw [isBegin] at keeps
      have absent : state.ledger.get operation = none := keeps.symm.trans gone
      have known := dispatched.known
      rw [absent] at known
      contradiction

/-- Writing a frame closes the latch, which was open. -/
theorem dispatched_of_frame (admissions : Admissions state.ledger state.calls) {action : Action}
    (stepped : next codec state action = some (output, target))
    (carries : output.carries operation = true) :
    ¬ state.Dispatched operation ∧ target.Dispatched operation := by
  have shape := shape_next stepped
  cases shape with
  | wrote id call frame sent point ledger calls moves keeps written outputEq =>
      rw [outputEq] at carries
      cases wrote : (state.calls id).wrote with
      | true => simp [wrote, Output.carries] at carries
      | false =>
          cases admission : (state.calls id).operation with
          | none => simp [wrote, Call.operationId, admission, Output.carries] at carries
          | some admitted =>
              obtain ⟨carried, fingerprint⟩ := admitted
              simp only [wrote, Call.operationId, admission, Output.carries, Option.map_some,
                Bool.false_eq_true, if_false, beq_iff_eq] at carries
              subst carries
              have holds : (state.calls id).Holds carried fingerprint :=
                ⟨admission, by simp [point, Point.isOpen]⟩
              refine ⟨?_, ?_, ?_⟩
              · intro dispatched
                rw [dispatched.written id fingerprint holds] at wrote
                contradiction
              · obtain ⟨touched, found⟩ := admissions.inFlight id carried fingerprint holds
                simp [ledger, found]
              · intro other key otherHolds
                rw [calls] at otherHolds ⊢
                by_cases equal : other = id
                · subst equal
                  simpa using written
                · rw [Function.update_of_ne equal] at otherHolds
                  exact absurd (admissions.unique other id carried key fingerprint otherHolds
                    holds) equal
  | plugin _ _ silent => simp [silent, Output.carries] at carries
  | moved _ _ _ _ _ _ silent => simp [silent, Output.carries] at carries
  | begun _ _ _ _ _ _ _ silent => simp [silent, Output.carries] at carries
  | abandoned _ _ _ _ _ _ silent => simp [silent, Output.carries] at carries
  | failed _ _ _ _ _ silent => simp [silent, Output.carries] at carries
  | completed _ _ _ _ _ _ _ _ silent => simp [silent, Output.carries] at carries

/-- In any period in which the entry is not evicted, one frame at most. -/
theorem frames_le_one (admissions : Admissions state.ledger state.calls)
    {actions : List Action} {outputs : List Output}
    (keeps : Transition.Along (next codec) (Keeps operation) state actions)
    (run : Transition.execute (next codec) state actions = some (outputs, target)) :
    outputs.countP (Output.carries operation) ≤ 1 := by
  have preserved : Transition.Preserves (next codec) (Keeps operation)
      (fun state => Admissions state.ledger state.calls) :=
    fun _ _ _ _ admissions _ stepped => admissions_next admissions stepped
  refine (Transition.countP_le_one_of_latch (Dispatched operation) preserved ?_ ?_ admissions
    keeps run).1
  · exact fun _ _ _ _ admissions _ stepped carries =>
      dispatched_of_frame admissions stepped carries
  · exact fun _ _ _ _ admissions keeps stepped dispatched =>
      dispatched_next admissions keeps stepped dispatched

/-! ## Later calls -/

/-- A call that returned is not touched again. -/
theorem returned_next {action : Action} {id : Nat} {outcome : Outcome}
    (returned : (state.calls id).point = .returned outcome)
    (stepped : next codec state action = some (output, target)) :
    target.calls id = state.calls id := by
  -- The step moves a call that stands elsewhere.
  have untouched : ∀ other call, (∀ outcome, (state.calls other).point ≠ .returned outcome) →
      Function.update state.calls other call id = state.calls id := by
    intro other call unreturned
    have distinct : id ≠ other := by
      rintro rfl
      exact unreturned outcome returned
    exact Function.update_of_ne distinct call state.calls
  cases shape_next stepped with
  | plugin ledger calls => rw [calls]
  | moved other call ledger calls moves =>
      rw [calls]
      exact untouched other call moves.unreturned
  | wrote other call frame sent point ledger calls moves =>
      rw [calls]
      exact untouched other call moves.unreturned
  | begun other now operation fingerprint isBegin entered equal =>
      rw [equal]
      simp only [begin]
      split <;> exact untouched other _ (by simp [entered])
  | abandoned other operation fingerprint refused admission equal =>
      rw [equal]
      simp only [abandon]
      split <;> exact untouched other _ (by simp [refused])
  | failed other now failure failed equal =>
      rw [equal, markUnknown_calls]
      exact untouched other _ (by simp [failed])
  | completed other now operation fingerprint outcome recording admission equal =>
      rw [equal]
      simp only [complete]
      split <;> exact untouched other _ (by simp [recording])

theorem returned_of_execute {actions : List Action} {outputs : List Output} {id : Nat}
    {outcome : Outcome} (returned : (state.calls id).point = .returned outcome)
    (run : Transition.execute (next codec) state actions = some (outputs, target)) :
    target.calls id = state.calls id := by
  have preserved : Transition.Preserves (next codec) Transition.anything
      (fun later => later.calls id = state.calls id) := by
    intro middle action output target unchanged _ stepped
    exact (returned_next (by rw [unchanged]; exact returned) stepped).trans unchanged
  exact preserved.execute_anything rfl run

/-- An entry in flight is never evicted. -/
theorem keeps_of_inFlight {entry : Entry} (found : state.ledger.get operation = some entry)
    (inFlight : entry.status.isInFlight = true) (action : Action) :
    Keeps operation state action := by
  cases action with
  | begin id now =>
      exact (OperationLedger.get_expire_of_inFlight found inFlight).trans found.symm
  | _ => trivial

/-- A call for an operation that is still known ends at once, for good and
without a frame. -/
theorem begin_known_returns (admissions : Admissions state.ledger state.calls) {id now : Nat}
    {fingerprint : String} {entry : Entry}
    (entered : (state.calls id).point = .entered operation fingerprint)
    (found : (state.ledger.expire now).get operation = some entry) :
    ∃ target, next codec state (.begin id now) = some (.silent, target) ∧
      ∀ actions outputs later,
        Transition.execute (next codec) target actions = some (outputs, later) →
        (later.calls id).point = .returned (knownAnswer operation entry fingerprint) ∧
          (later.calls id).wrote = false := by
  have unwritten : (state.calls id).wrote = false :=
    admissions.unsent id (by simp [entered, Point.isUnsent])
  have answered : ((state.begin id now operation fingerprint).calls id).point =
      .returned (knownAnswer operation entry fingerprint) := by
    simp [begin_of_known found, setPoint, setCall]
  refine ⟨state.begin id now operation fingerprint, by simp only [next, entered], ?_⟩
  intro actions outputs later run
  rw [returned_of_execute answered run]
  refine ⟨answered, ?_⟩
  simpa [begin_of_known found, setPoint, setCall] using unwritten

/-- The answers to a repeated call with the same fingerprint. -/
theorem knownAnswer_of_same (admissions : Admissions state.ledger state.calls) {now : Nat}
    {entry : Entry} (found : (state.ledger.expire now).get operation = some entry) :
    knownAnswer operation entry entry.fingerprint = .error (alreadyInFlight operation) ∨
      knownAnswer operation entry entry.fingerprint = .error (unknownOutcome operation) ∨
      ∃ first outcome, (state.calls first).point = .returned outcome ∧
        (state.calls first).operation = some (operation, entry.fingerprint) ∧
        (state.calls first).wrote = true ∧
        knownAnswer operation entry entry.fingerprint =
          decodeRecorded (encodeRecorded outcome) := by
  obtain ⟨fingerprint, status, touched⟩ := entry
  cases status with
  | inFlight => exact .inl (by simp [knownAnswer])
  | unknown => exact .inr (.inl (by simp [knownAnswer]))
  | completed value =>
      obtain ⟨first, outcome, returned, admission, written, valueEq⟩ :=
        admissions.recorded operation fingerprint value touched
          (OperationLedger.get_of_get_expire found)
      exact .inr (.inr ⟨first, outcome, returned, admission, written,
        by simp [knownAnswer, valueEq]⟩)

end State

open Transition State

/-- At most once.  From every reachable state: a period that does not evict the
entry of an operation writes at most one frame for it; a call that finds the
entry returns for good without a frame, with the answer that the entry stands
for; an admission is withdrawn only unwritten; and a step removes an entry in
flight only by such a withdrawal. -/
theorem mutation_dispatched_at_most_once {codec : Codec} {actions : List Action}
    {outputs : List Output} {reached : State}
    (run : execute (next codec) initial actions = some (outputs, reached)) (operation : Uuid) :
    (∀ period frames later, Along (next codec) (Keeps operation) reached period →
      execute (next codec) reached period = some (frames, later) →
      frames.countP (Output.carries operation) ≤ 1) ∧
    (∀ id fingerprint now entry, (reached.calls id).point = .entered operation fingerprint →
      (reached.ledger.expire now).get operation = some entry →
      ∃ answer target, next codec reached (.begin id now) = some (.silent, target) ∧
        (∀ period frames later, execute (next codec) target period = some (frames, later) →
          (later.calls id).point = .returned answer ∧ (later.calls id).wrote = false) ∧
        (entry.fingerprint ≠ fingerprint → answer = .error (operationIdConflict operation)) ∧
        (entry.fingerprint = fingerprint →
          answer = .error (alreadyInFlight operation) ∨
          answer = .error (unknownOutcome operation) ∨
          ∃ first outcome, (reached.calls first).point = .returned outcome ∧
            (reached.calls first).operation = some (operation, fingerprint) ∧
            (reached.calls first).wrote = true ∧
            answer = decodeRecorded (encodeRecorded outcome))) ∧
    (∀ id, (reached.calls id).point = .refused → (reached.calls id).wrote = false) ∧
    (∀ action output target entry, next codec reached action = some (output, target) →
      reached.ledger.get operation = some entry → entry.status.isInFlight = true →
      (target.ledger.get operation).isSome = true ∨
        ∃ id fingerprint, action = .abandon id ∧ (reached.calls id).point = .refused ∧
          (reached.calls id).Holds operation fingerprint ∧ (reached.calls id).wrote = false) := by
  have admissions := admissions_of_execute run
  refine ⟨?_, ?_, ?_, ?_⟩
  · intro period frames later keeps continued
    exact frames_le_one admissions keeps continued
  · intro id fingerprint now entry entered found
    obtain ⟨target, stepped, final⟩ := begin_known_returns admissions entered found
    refine ⟨_, target, stepped, final, ?_, ?_⟩
    · intro different
      simp [knownAnswer, different]
    · rintro rfl
      exact knownAnswer_of_same admissions found
  · intro id refused
    exact admissions.unsent id (by simp [refused, Point.isUnsent])
  · intro action output target entry stepped found inFlight
    exact known_next admissions (keeps_of_inFlight found inFlight action) stepped
      (by simp [found])

/-- A pause is admitted; a second call repeats it. -/
def repeatedPause : List Action :=
  [.enter 0 "debugger.pause" pauseArguments, .begin 0 0,
    .enter 1 "debugger.pause" pauseArguments]

/-- The repeated pause finds the entry in flight and never writes. -/
theorem mutation_dispatched_at_most_once_repeated :
    ∃ outputs reached answer target,
      execute (next smallCodec) initial repeatedPause = some (outputs, reached) ∧
      next smallCodec reached (.begin 1 0) = some (.silent, target) ∧
      (target.calls 1).point = .returned answer ∧ (target.calls 1).wrote = false := by
  obtain ⟨answer, target, stepped, final, -⟩ :=
    (@mutation_dispatched_at_most_once smallCodec repeatedPause _ _ rfl 1).2.1 1 _ 0 _ rfl rfl
  exact ⟨_, _, answer, target, rfl, stepped, final [] [] target rfl⟩

end X64dbgMcp.Ipc
