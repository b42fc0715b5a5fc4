import X64dbgMcp.Ipc.Admission

/-!
# Accepted responses

Whatever the plugin sends and whoever is cancelled, a call takes a response only
when it carries the call's own request identifier, and returns what that response
says.
-/

namespace X64dbgMcp.Ipc

open Text

/-- The response decides the outcome from here on. -/
def Point.answered : Point → Bool
  | .recording _ | .returned _ => true
  | _ => false

namespace Call

/-- The outcome that the call makes of a response. -/
def answer (call : Call) (response : IpcResponse) : Outcome :=
  outcomeOf call.name call.arguments call.mutation response.outcome

/-- A response that was taken is the call's own and is what the call returns. -/
def Truthful (call : Call) : Prop :=
  ∀ response, call.accepted = some response →
    response.requestId = call.requestId ∧
      (call.point = .recording (call.answer response) ∨
        call.point = .returned (call.answer response))

theorem Truthful.of_none {call : Call} (unaccepted : call.accepted = none) : call.Truthful := by
  intro response accepted
  rw [unaccepted] at accepted
  contradiction

/-- Before the correlation no response was taken. -/
theorem Truthful.accepted_eq_none {call : Call} (truthful : call.Truthful)
    (unanswered : call.point.answered = false) : call.accepted = none := by
  cases accepted : call.accepted with
  | none => rfl
  | some response =>
      rcases (truthful response accepted).2 with point | point <;>
        simp [point, Point.answered] at unanswered

end Call

namespace State

variable {codec : Codec} {state target : State} {output : Output}

/-- All calls took their own responses. -/
def Truthful (calls : Nat → Call) : Prop :=
  ∀ id, (calls id).Truthful

/-- A call without a response moves on. -/
theorem Truthful.update {calls : Nat → Call} (truthful : Truthful calls) {id : Nat} {call : Call}
    (unanswered : (calls id).point.answered = false)
    (unaccepted : (calls id).accepted = none → call.accepted = none) :
    Truthful (Function.update calls id call) :=
  (Function.forall_update_iff calls fun _ call => call.Truthful).mpr
    ⟨.of_none (unaccepted ((truthful id).accepted_eq_none unanswered)),
      fun other _ => truthful other⟩

theorem Truthful.setPoint (truthful : Truthful state.calls) {id : Nat} (point : Point)
    (unanswered : (state.calls id).point.answered = false) :
    Truthful (state.setPoint id point).calls :=
  truthful.update unanswered fun unaccepted => unaccepted

theorem truthful_enter (truthful : Truthful state.calls) {id : Nat} {name : String}
    {arguments : Json} (idle : (state.calls id).point = .idle) :
    Truthful (state.enter codec id name arguments).calls := by
  have unanswered : (state.calls id).point.answered = false := by simp [idle, Point.answered]
  simp only [enter]
  split
  · split
    · exact truthful.update unanswered fun _ => rfl
    · split <;> exact truthful.update unanswered fun _ => rfl
  · exact truthful.update unanswered fun _ => rfl

theorem truthful_read (truthful : Truthful state.calls) {id count : Nat} {buffer : Bytes}
    (reading : (state.calls id).point = .reading buffer) :
    Truthful (state.read codec id count buffer).calls := by
  have unanswered : (state.calls id).point.answered = false := by simp [reading, Point.answered]
  simp only [read]
  split
  · exact truthful.setPoint _ unanswered
  · exact truthful.setPoint _ unanswered
  · simp only [receive]
    split
    · exact truthful.setPoint _ unanswered
    · split <;> exact truthful.setPoint _ unanswered

theorem truthful_correlate (truthful : Truthful state.calls) {id : Nat} {response : IpcResponse}
    (own : response.requestId = (state.calls id).requestId) :
    Truthful (state.correlate id response).calls := by
  simp only [correlate, own, ne_eq, not_true_eq_false, if_false]
  refine (Function.forall_update_iff state.calls fun _ call => call.Truthful).mpr
    ⟨?_, fun other _ => truthful other⟩
  intro accepted equal
  cases equal
  refine ⟨own, ?_⟩
  cases (state.calls id).operation.isSome
  · exact .inr rfl
  · exact .inl rfl

/-- The recorded outcome is the one that is returned. -/
theorem truthful_complete (admissions : Admissions state.ledger state.calls)
    (truthful : Truthful state.calls) {id now : Nat} {operation : Uuid} {fingerprint : String}
    {outcome : Outcome} (recording : (state.calls id).point = .recording outcome)
    (admission : (state.calls id).operation = some (operation, fingerprint)) :
    Truthful (state.complete id now operation outcome).calls := by
  obtain ⟨updated, targetEq, -⟩ := complete_of_holds admissions
    ⟨admission, by simp [recording, Point.isOpen]⟩
  rw [targetEq]
  refine (Function.forall_update_iff state.calls fun _ call => call.Truthful).mpr
    ⟨?_, fun other _ => truthful other⟩
  intro response accepted
  obtain ⟨own, point⟩ := truthful id response accepted
  refine ⟨own, .inr ?_⟩
  rw [recording] at point
  rcases point with equal | equal <;> cases equal
  rfl

/-- Step lemma. -/
theorem truthful_next (admissions : Admissions state.ledger state.calls)
    (truthful : Truthful state.calls) {action : Action}
    (stepped : next codec state action = some (output, target)) : Truthful target.calls := by
  have onStreamUnanswered : ∀ {id}, (state.calls id).point.onStream = true →
      (state.calls id).point.answered = false := by
    intro id onStream
    cases point : (state.calls id).point <;> simp_all [Point.onStream, Point.answered]
  cases stepped_next stepped with
  | enter idle => exact truthful_enter truthful idle
  | begin entered =>
      simp only [begin]
      split
      · exact truthful.setPoint _ (by simp [entered, Point.answered])
      · exact truthful.update (by simp [entered, Point.answered]) fun unaccepted => unaccepted
  | request admitted ready fresh =>
      exact truthful.update (by simp [admitted, Point.answered]) fun unaccepted => unaccepted
  | refuse admitted unready admission =>
      exact truthful.setPoint _ (by simp [admitted, Point.answered])
  | unavailable admitted unready admission =>
      exact truthful.setPoint _ (by simp [admitted, Point.answered])
  | abandon refused admission =>
      simp only [abandon]
      split <;> exact truthful.setPoint _ (by simp [refused, Point.answered])
  | unsendable waiting free encoded =>
      exact truthful.setPoint _ (by simp [waiting, Point.answered])
  | acquire waiting free encoded =>
      exact truthful.setPoint _ (by simp [waiting, Point.answered])
  | write writing positive within =>
      exact truthful.update (by simp [writing, Point.answered]) fun unaccepted => unaccepted
  | read reading wants positive within available => exact truthful_read truthful reading
  | ioError onStream => exact truthful.setPoint _ (onStreamUnanswered onStream)
  | timeoutWaiting waiting => exact truthful.setPoint _ (by simp [waiting, Point.answered])
  | timeout onStream => exact truthful.setPoint _ (onStreamUnanswered onStream)
  | dropWaiting waiting => exact truthful.setPoint _ (by simp [waiting, Point.answered])
  | drop onStream => exact truthful.setPoint _ (onStreamUnanswered onStream)
  | remember dropping => exact truthful.setPoint _ (by simp [dropping, Point.answered])
  | mismatch exchanged foreign =>
      exact truthful.setPoint _ (by simp [exchanged, Point.answered])
  | accept exchanged own => exact truthful_correlate truthful own
  | markUnknown failed =>
      rw [markUnknown_calls]
      exact truthful.setPoint _ (by simp [failed, Point.answered])
  | clearReady marked => exact truthful.setPoint _ (by simp [marked, Point.answered])
  | finish flagged => exact truthful.setPoint _ (by simp [flagged, Point.answered])
  | complete recording admission =>
      exact truthful_complete admissions truthful recording admission
  | pluginAnswer complete encoded => exact truthful
  | pluginSend => exact truthful

/-- Run lemma. -/
theorem truthful_of_execute {actions : List Action} {outputs : List Output} {reached : State}
    (run : Transition.execute (next codec) initial actions = some (outputs, reached)) :
    Truthful reached.calls := by
  have preserved : Transition.Preserves (next codec) Transition.anything
      (fun state => Admissions state.ledger state.calls ∧ Truthful state.calls) :=
    fun _ _ _ _ ⟨admissions, truthful⟩ _ stepped =>
      ⟨admissions_next admissions stepped, truthful_next admissions truthful stepped⟩
  exact (preserved.execute_anything ⟨Admissions.initial, fun _ => .of_none rfl⟩ run).2

end State

end X64dbgMcp.Ipc
