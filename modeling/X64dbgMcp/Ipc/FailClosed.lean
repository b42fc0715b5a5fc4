import X64dbgMcp.Ipc.Answers

/-!
# A transport that fails closed

A failed exchange clears the readiness flag, which is read once, before the
stream is awaited.  Whoever passed the check before still waits for the stream,
writes its frame and returns what it reads.  Where nobody has, the check turns
every later call away and the stream is left alone.
-/

namespace X64dbgMcp.Ipc

open Text

/-- The call passed the readiness check, and its exchange has neither failed nor
been answered. -/
def Point.pastCheck : Point → Bool
  | .waiting _ | .writing _ _ | .reading _ | .exchanged _ | .recording _ => true
  | _ => false

namespace State

variable {codec : Codec} {state target : State} {output : Output}

/-- Nobody is between the check and the end of the exchange. -/
def Quiet (calls : Nat → Call) : Prop :=
  ∀ id, (calls id).point.pastCheck = false

/-- No call wrote or took a response in between. -/
def Untouched (before after : Nat → Call) : Prop :=
  ∀ id, ((after id).wrote = true → (before id).wrote = true) ∧
    ∀ response, (after id).accepted = some response → (before id).accepted = some response

theorem Untouched.refl (calls : Nat → Call) : Untouched calls calls :=
  fun _ => ⟨fun wrote => wrote, fun _ accepted => accepted⟩

theorem Untouched.trans {first second third : Nat → Call} (earlier : Untouched first second)
    (later : Untouched second third) : Untouched first third :=
  fun id => ⟨fun wrote => (earlier id).1 ((later id).1 wrote),
    fun response accepted => (earlier id).2 response ((later id).2 response accepted)⟩

/-- One call moves on before the check or after the exchange. -/
theorem Quiet.update {calls : Nat → Call} (quiet : Quiet calls) {id : Nat} {call : Call}
    (outside : call.point.pastCheck = false) (wrote : call.wrote = true → (calls id).wrote = true)
    (accepted : ∀ response, call.accepted = some response →
      (calls id).accepted = some response) :
    Quiet (Function.update calls id call) ∧ Untouched calls (Function.update calls id call) := by
  constructor
  · exact (Function.forall_update_iff calls fun _ call => call.point.pastCheck = false).mpr
      ⟨outside, fun other _ => quiet other⟩
  · refine (Function.forall_update_iff calls fun other call =>
      (call.wrote = true → (calls other).wrote = true) ∧ ∀ response,
        call.accepted = some response → (calls other).accepted = some response).mpr
      ⟨⟨wrote, accepted⟩, fun other _ => Untouched.refl calls other⟩

theorem Quiet.setPoint (quiet : Quiet state.calls) (id : Nat) {point : Point}
    (outside : point.pastCheck = false) :
    Quiet (state.setPoint id point).calls ∧
      Untouched state.calls (state.setPoint id point).calls :=
  quiet.update outside (fun wrote => wrote) fun _ accepted => accepted

/-- The stream after the flag was cleared. -/
structure Closed (state : State) : Prop where
  unready : state.ready = false
  quiet : Quiet state.calls

theorem Closed.outside (closed : Closed state) {id : Nat}
    (pastCheck : (state.calls id).point.pastCheck = true) : False := by
  rw [closed.quiet id] at pastCheck
  contradiction

theorem Closed.offStream (closed : Closed state) {id : Nat}
    (onStream : (state.calls id).point.onStream = true) : False := by
  have pastCheck : (state.calls id).point.pastCheck = true := by
    cases point : (state.calls id).point <;> simp_all [Point.onStream, Point.pastCheck]
  exact closed.outside pastCheck

/-- Only the calls matter once the flag is cleared. -/
theorem Closed.moved (closed : Closed state) (ready : target.ready = state.ready)
    (moved : Quiet target.calls ∧ Untouched state.calls target.calls) :
    Closed target ∧ Untouched state.calls target.calls :=
  ⟨⟨ready.trans closed.unready, moved.1⟩, moved.2⟩

end State

open Transition State

end X64dbgMcp.Ipc
