import X64dbgMcp.Ipc.Stepped

/-!
# One call among many

`CallStep` lists what a step of the adapter can do to a single call, whatever
the ledger, the stream and the other calls are.  Facts that hold of one call
from any state of the adapter are proved by cases on it.
-/

namespace X64dbgMcp.Ipc

open Text Tools

/-- The action hands a call to the adapter. -/
def Action.isEnter : Action → Bool
  | .enter _ _ _ => true
  | _ => false

/-- The steps of one call; the flag tells the one that hands it to the adapter. -/
inductive CallStep (before : Call) : Bool → Call → Prop
  /-- A read, or a mutation without a usable identifier or fingerprint. -/
  | entered {name : String} {arguments : Json} {point : Point} (idle : before.point = .idle)
      (begins : point = .admitted ∧ isMutationCall name arguments = false ∨
        isMutationCall name arguments = true ∧
          ((∃ operation fingerprint, point = .entered operation fingerprint) ∨
            point = .returned (.error operationIdRequired) ∨
              point = .returned (.error fingerprintFailed))) :
      CallStep before true { name := name, arguments := arguments, point := point }
  | answered {operation : Uuid} {fingerprint : String} (outcome : Outcome)
      (entered : before.point = .entered operation fingerprint) :
      CallStep before false { before with point := .returned outcome }
  | started {operation : Uuid} {fingerprint : String}
      (entered : before.point = .entered operation fingerprint) :
      CallStep before false
        { before with point := .admitted, operation := some (operation, fingerprint) }
  | requested (request : IpcRequest) (requestId : Uuid) (admitted : before.point = .admitted) :
      CallStep before false { before with point := .waiting request, requestId := requestId }
  | refused (admitted : before.point = .admitted) :
      CallStep before false { before with point := .refused }
  | unavailable (outcome : Outcome) (unsent : before.point = .admitted ∨ before.point = .refused) :
      CallStep before false { before with point := .returned outcome }
  | acquired {request : IpcRequest} (frame : Bytes) (waiting : before.point = .waiting request) :
      CallStep before false { before with point := .writing frame 0 }
  | wrote (point : Point) (onStream : before.point.onStream = true)
      (stays : point.onStream = true) :
      CallStep before false { before with point := point, wrote := true }
  | read (point : Point) (onStream : before.point.onStream = true)
      (stays : point.onStream = true ∨ ∃ response, point = .exchanged response) :
      CallStep before false { before with point := point }
  | failed (failure : Failure)
      (exchanging : (∃ request, before.point = .waiting request) ∨
        before.point.onStream = true ∨ ∃ response, before.point = .exchanged response) :
      CallStep before false { before with point := .failed failure }
  | dropping (exchanging : (∃ request, before.point = .waiting request) ∨
        before.point.onStream = true) :
      CallStep before false { before with point := .dropping }
  | dropped (dropping : before.point = .dropping) :
      CallStep before false { before with point := .dropped }
  | accepted {response : IpcResponse} (exchanged : before.point = .exchanged response)
      (own : response.requestId = before.requestId) :
      CallStep before false
        { before with
          point :=
            if before.operation.isSome then
              .recording (outcomeOf before.name before.arguments before.mutation response.outcome)
            else
              .returned (outcomeOf before.name before.arguments before.mutation response.outcome)
          accepted := some response }
  | marked {failure : Failure} (failed : before.point = .failed failure) :
      CallStep before false { before with point := .marked failure }
  | flagged {failure : Failure} (marked : before.point = .marked failure) :
      CallStep before false { before with point := .flagged failure }
  | finished {failure : Failure} (flagged : before.point = .flagged failure) :
      CallStep before false
        { before with point := .returned (.error (before.failureError failure)) }
  | recorded {outcome : Outcome} (told : Outcome) (recording : before.point = .recording outcome)
      (tells : told = outcome ∨ told = .error ledgerInternalError) :
      CallStep before false { before with point := .returned told }

/-- Handed to the adapter, with neither an outcome nor dropped. -/
def Point.isUnderway : Point → Bool
  | .idle | .returned _ | .dropped => false
  | _ => true

theorem Point.isUnderway_of_onStream {point : Point} (onStream : point.onStream = true) :
    point.isUnderway = true := by
  cases point <;> first | rfl | contradiction

/-- Only a call under way takes a step of its own. -/
theorem CallStep.isUnderway {before after : Call} (step : CallStep before false after) :
    before.point.isUnderway = true := by
  cases step with
  | answered outcome entered => rw [entered]; rfl
  | started entered => rw [entered]; rfl
  | requested request requestId admitted => rw [admitted]; rfl
  | refused admitted => rw [admitted]; rfl
  | unavailable outcome unsent => rcases unsent with unsent | unsent <;> rw [unsent] <;> rfl
  | acquired frame waiting => rw [waiting]; rfl
  | wrote point onStream => exact Point.isUnderway_of_onStream onStream
  | read point onStream => exact Point.isUnderway_of_onStream onStream
  | failed failure exchanging =>
      rcases exchanging with ⟨request, waiting⟩ | onStream | ⟨response, exchanged⟩
      · rw [waiting]; rfl
      · exact Point.isUnderway_of_onStream onStream
      · rw [exchanged]; rfl
  | dropping exchanging =>
      rcases exchanging with ⟨request, waiting⟩ | onStream
      · rw [waiting]; rfl
      · exact Point.isUnderway_of_onStream onStream
  | dropped dropping => rw [dropping]; rfl
  | accepted exchanged => rw [exchanged]; rfl
  | marked failed => rw [failed]; rfl
  | flagged marked => rw [marked]; rfl
  | finished flagged => rw [flagged]; rfl
  | recorded told recording => rw [recording]; rfl

/-- No step takes a call out of the adapter's hands again. -/
theorem CallStep.not_idle {before after : Call} {enters : Bool}
    (step : CallStep before enters after) : after.point ≠ .idle := by
  cases step with
  | entered idle begins =>
      rcases begins with ⟨rfl, -⟩ | ⟨-, ⟨operation, fingerprint, rfl⟩ | rfl | rfl⟩ <;> nofun
  | wrote point onStream stays =>
      rintro rfl
      contradiction
  | read point onStream stays =>
      rcases stays with stays | ⟨response, rfl⟩
      · rintro rfl
        contradiction
      · nofun
  | accepted =>
      dsimp only
      split <;> nofun
  | _ => nofun

/-- Only a call that holds the stream is given a response. -/
theorem CallStep.not_exchanged {before after : Call} {enters : Bool}
    (step : CallStep before enters after) (offStream : before.point.onStream = false)
    (response : IpcResponse) : after.point ≠ .exchanged response := by
  cases step with
  | entered idle begins =>
      rcases begins with ⟨rfl, -⟩ | ⟨-, ⟨operation, fingerprint, rfl⟩ | rfl | rfl⟩ <;> nofun
  | wrote point onStream | read point onStream => simp [onStream] at offStream
  | accepted =>
      dsimp only
      split <;> nofun
  | _ => nofun

namespace State

variable {codec : Codec} {state target : State} {action : Action} {output : Output}

theorem callStep_enter {id : Nat} {name : String} {arguments : Json}
    (idle : (state.calls id).point = .idle) :
    ∃ call, (state.enter codec id name arguments).calls = Function.update state.calls id call ∧
      CallStep (state.calls id) true call := by
  simp only [enter]
  split
  · rename_i mutation
    split
    · exact ⟨_, rfl, .entered idle (.inr ⟨mutation, .inr (.inl rfl)⟩)⟩
    · split
      · exact ⟨_, rfl, .entered idle (.inr ⟨mutation, .inr (.inr rfl)⟩)⟩
      · exact ⟨_, rfl, .entered idle (.inr ⟨mutation, .inl ⟨_, _, rfl⟩⟩)⟩
  · rename_i reads
    exact ⟨_, rfl, .entered idle (.inl ⟨rfl, by simpa using reads⟩)⟩

theorem callStep_begin {id now : Nat} {operation : Uuid} {fingerprint : String}
    (entered : (state.calls id).point = .entered operation fingerprint) :
    ∃ call, (state.begin id now operation fingerprint).calls =
        Function.update state.calls id call ∧
      CallStep (state.calls id) false call := by
  simp only [begin]
  split
  · exact ⟨_, rfl, .answered _ entered⟩
  · exact ⟨_, rfl, .started entered⟩

theorem callStep_abandon {id : Nat} {operation : Uuid} {fingerprint : String}
    (refused : (state.calls id).point = .refused) :
    ∃ call, (state.abandon id operation fingerprint).calls = Function.update state.calls id call ∧
      CallStep (state.calls id) false call := by
  simp only [abandon]
  split
  · exact ⟨_, rfl, .unavailable _ (.inr refused)⟩
  · exact ⟨_, rfl, .unavailable _ (.inr refused)⟩

theorem callStep_read {id count : Nat} {buffer : Bytes}
    (reading : (state.calls id).point = .reading buffer) :
    ∃ call, (state.read codec id count buffer).calls = Function.update state.calls id call ∧
      CallStep (state.calls id) false call := by
  have onStream : (state.calls id).point.onStream = true := by rw [reading]; rfl
  simp only [read]
  split
  · exact ⟨_, rfl, .read _ onStream (.inl rfl)⟩
  · exact ⟨_, rfl, .failed _ (.inr (.inl onStream))⟩
  · simp only [receive]
    split
    · exact ⟨_, rfl, .failed _ (.inr (.inl onStream))⟩
    · split
      · exact ⟨_, rfl, .read _ onStream (.inr ⟨_, rfl⟩)⟩
      · exact ⟨_, rfl, .read _ onStream (.inl rfl)⟩

theorem callStep_write {id count sent : Nat} {frame : Bytes}
    (writing : (state.calls id).point = .writing frame sent) :
    ∃ call, (state.write id count frame sent).calls = Function.update state.calls id call ∧
      CallStep (state.calls id) false call := by
  refine ⟨_, rfl, .wrote _ (by rw [writing]; rfl) ?_⟩
  split <;> rfl

theorem callStep_correlate {id : Nat} {response : IpcResponse}
    (exchanged : (state.calls id).point = .exchanged response)
    (own : response.requestId = (state.calls id).requestId) :
    ∃ call, (state.correlate id response).calls = Function.update state.calls id call ∧
      CallStep (state.calls id) false call := by
  simp only [correlate, own, ne_eq, not_true_eq_false, if_false]
  exact ⟨_, rfl, .accepted exchanged own⟩

theorem callStep_markUnknown {id now : Nat} {failure : Failure}
    (failed : (state.calls id).point = .failed failure) :
    ∃ call, (state.markUnknown id now failure).calls = Function.update state.calls id call ∧
      CallStep (state.calls id) false call := by
  simp only [markUnknown]
  split
  · exact ⟨_, rfl, .marked failed⟩
  · split
    · exact ⟨_, rfl, .marked failed⟩
    · exact ⟨_, rfl, .marked failed⟩

theorem callStep_complete {id now : Nat} {operation : Uuid} {outcome : Outcome}
    (recording : (state.calls id).point = .recording outcome) :
    ∃ call, (state.complete id now operation outcome).calls =
        Function.update state.calls id call ∧
      CallStep (state.calls id) false call := by
  simp only [complete]
  split
  · exact ⟨_, rfl, .recorded _ recording (.inl rfl)⟩
  · exact ⟨_, rfl, .recorded _ recording (.inr rfl)⟩

/-- The call that a step is about. -/
theorem callStep_stepped (stepped : Stepped codec state action output target) :
    target.calls = state.calls ∨
      ∃ id call, target.calls = Function.update state.calls id call ∧
        CallStep (state.calls id) action.isEnter call := by
  cases stepped with
  | enter idle => exact .inr ⟨_, callStep_enter idle⟩
  | begin entered => exact .inr ⟨_, callStep_begin entered⟩
  | request admitted => exact .inr ⟨_, _, rfl, .requested _ _ admitted⟩
  | refuse admitted => exact .inr ⟨_, _, rfl, .refused admitted⟩
  | unavailable admitted => exact .inr ⟨_, _, rfl, .unavailable _ (.inl admitted)⟩
  | abandon refused => exact .inr ⟨_, callStep_abandon refused⟩
  | unsendable waiting => exact .inr ⟨_, _, rfl, .failed _ (.inl ⟨_, waiting⟩)⟩
  | acquire waiting => exact .inr ⟨_, _, rfl, .acquired _ waiting⟩
  | write writing => exact .inr ⟨_, callStep_write writing⟩
  | read reading => exact .inr ⟨_, callStep_read reading⟩
  | ioError onStream => exact .inr ⟨_, _, rfl, .failed _ (.inr (.inl onStream))⟩
  | timeoutWaiting waiting => exact .inr ⟨_, _, rfl, .failed _ (.inl ⟨_, waiting⟩)⟩
  | timeout onStream => exact .inr ⟨_, _, rfl, .failed _ (.inr (.inl onStream))⟩
  | dropWaiting waiting => exact .inr ⟨_, _, rfl, .dropping (.inl ⟨_, waiting⟩)⟩
  | drop onStream => exact .inr ⟨_, _, rfl, .dropping (.inr onStream)⟩
  | remember dropping => exact .inr ⟨_, _, rfl, .dropped dropping⟩
  | mismatch exchanged => exact .inr ⟨_, _, rfl, .failed _ (.inr (.inr ⟨_, exchanged⟩))⟩
  | accept exchanged own => exact .inr ⟨_, callStep_correlate exchanged own⟩
  | markUnknown failed => exact .inr ⟨_, callStep_markUnknown failed⟩
  | clearReady marked => exact .inr ⟨_, _, rfl, .flagged marked⟩
  | finish flagged => exact .inr ⟨_, _, rfl, .finished flagged⟩
  | complete recording => exact .inr ⟨_, callStep_complete recording⟩
  | pluginAnswer => exact .inl rfl
  | pluginSend => exact .inl rfl

/-- A step leaves a call alone or is one of the call's own steps. -/
theorem callStep_next (stepped : next codec state action = some (output, target)) (id : Nat) :
    target.calls id = state.calls id ∨
      CallStep (state.calls id) action.isEnter (target.calls id) := by
  rcases callStep_stepped (stepped_next stepped) with same | ⟨other, call, updated, step⟩
  · exact .inl (congrFun same id)
  · rw [updated]
    by_cases own : id = other
    · subst own
      rw [Function.update_self]
      exact .inr step
    · rw [Function.update_of_ne own]
      exact .inl rfl

theorem next_enter {id : Nat} {name : String} {arguments : Json}
    (stepped : next codec state (.enter id name arguments) = some (output, target)) :
    (state.calls id).point = .idle ∧ output = .silent ∧
      target = state.enter codec id name arguments := by
  cases stepped_next stepped with
  | enter idle => exact ⟨idle, rfl, rfl⟩

theorem enter_of_ne {id other : Nat} (different : id ≠ other) (name : String)
    (arguments : Json) : (state.enter codec other name arguments).calls id = state.calls id := by
  simp only [enter]
  split
  · split
    · exact Function.update_of_ne different _ _
    · split <;> exact Function.update_of_ne different _ _
  · exact Function.update_of_ne different _ _

theorem enter_mutation (id : Nat) (name : String) (arguments : Json) :
    ((state.enter codec id name arguments).calls id).mutation = isMutationCall name arguments := by
  simp only [enter]
  split
  · split
    · simp only [setCall, Function.update_self, Call.mutation]
    · split <;> simp only [setCall, Function.update_self, Call.mutation]
  · simp only [setCall, Function.update_self, Call.mutation]

/-- A step that moves one call has moved the call that it gives a response. -/
theorem exchanged_moved {id other : Nat} {call : Call} {response : IpcResponse}
    (calls : target.calls = Function.update state.calls other call)
    (without : ∀ given, call.point ≠ .exchanged given)
    (exchanged : (target.calls id).point = .exchanged response) :
    target.calls id = state.calls id := by
  rw [calls] at exchanged ⊢
  by_cases same : id = other
  · subst same
    rw [Function.update_self] at exchanged
    exact absurd exchanged (without response)
  · exact Function.update_of_ne same call state.calls

/-- The portion that completes a frame gives the call the response in it. -/
theorem exchanged_read {id count : Nat} {buffer : Bytes} {response : IpcResponse}
    (exchanged : ((state.read codec id count buffer).calls id).point = .exchanged response) :
    ∃ payload, readProgress (buffer ++ state.fromPlugin.take count) = .complete payload ∧
      codec.fromSlice payload = some response ∧
      ((state.read codec id count buffer).calls id).requestId = (state.calls id).requestId := by
  simp only [read] at exchanged ⊢
  split at exchanged
  · simp [setPoint, setCall] at exchanged
  · simp [release, setPoint, setCall] at exchanged
  · rename_i payload complete
    refine ⟨payload, complete, ?_⟩
    simp only [receive] at exchanged ⊢
    split at exchanged
    · simp [release, setPoint, setCall] at exchanged
    · rename_i given decoded
      split at exchanged
      · rename_i told
        simp only [release, setPoint, setCall, Function.update_self, Point.exchanged.injEq]
          at exchanged
        subst exchanged
        refine ⟨decoded, ?_⟩
        simp [told, release, setPoint, setCall]
      · simp [setPoint, setCall] at exchanged

/-- A response reaches a call only through the read that completes its frame. -/
theorem exchanged_next {id : Nat} {response : IpcResponse}
    (stepped : next codec state action = some (output, target))
    (exchanged : (target.calls id).point = .exchanged response) :
    target.calls id = state.calls id ∨
      ∃ count buffer payload, action = .read id count ∧
        (state.calls id).point = .reading buffer ∧
        readProgress (buffer ++ state.fromPlugin.take count) = .complete payload ∧
        codec.fromSlice payload = some response ∧
        (target.calls id).requestId = (state.calls id).requestId := by
  have moved {other : Nat} {call : Call}
      (calls : target.calls = Function.update state.calls other call)
      (without : ∀ given, call.point ≠ .exchanged given) :
      target.calls id = state.calls id := exchanged_moved calls without exchanged
  cases stepped_next stepped with
  | enter idle =>
      obtain ⟨call, calls, step⟩ := callStep_enter idle
      exact .inl (moved calls (step.not_exchanged (by rw [idle]; rfl)))
  | begin entered =>
      obtain ⟨call, calls, step⟩ := callStep_begin entered
      exact .inl (moved calls (step.not_exchanged (by rw [entered]; rfl)))
  | abandon refused =>
      obtain ⟨call, calls, step⟩ := callStep_abandon refused
      exact .inl (moved calls (step.not_exchanged (by rw [refused]; rfl)))
  | accept answered own =>
      obtain ⟨call, calls, step⟩ := callStep_correlate answered own
      exact .inl (moved calls (step.not_exchanged (by rw [answered]; rfl)))
  | markUnknown failed =>
      obtain ⟨call, calls, step⟩ := callStep_markUnknown failed
      exact .inl (moved calls (step.not_exchanged (by rw [failed]; rfl)))
  | complete recording =>
      obtain ⟨call, calls, step⟩ := callStep_complete recording
      exact .inl (moved calls (step.not_exchanged (by rw [recording]; rfl)))
  | write writing =>
      refine .inl (moved rfl ?_)
      dsimp only
      split <;> nofun
  | @read other count wanted buffer reading =>
      by_cases same : id = other
      · subst same
        obtain ⟨payload, complete, decoded, kept⟩ := exchanged_read exchanged
        exact .inr ⟨count, buffer, payload, rfl, reading, complete, decoded, kept⟩
      · obtain ⟨call, calls, -⟩ := @callStep_read codec state other count buffer reading
        left
        rw [calls]
        exact Function.update_of_ne same call state.calls
  | pluginAnswer | pluginSend => exact .inl rfl
  | _ => exact .inl (moved rfl (by nofun))

/-- The first byte of a frame is written by a call that holds the stream. -/
theorem frame_next {id : Nat} {operation : Option Uuid}
    (stepped : next codec state action = some (.frame id operation, target)) :
    (state.calls id).point.onStream = true ∧ (target.calls id).wrote = true := by
  generalize outputEq : Output.frame id operation = shown at stepped
  cases stepped_next stepped with
  | @write other count sent frame writing =>
      split at outputEq
      · contradiction
      · cases outputEq
        constructor
        · rw [writing]
          rfl
        · simp only [write, setCall, Function.update_self]
  | _ => contradiction

end State

end X64dbgMcp.Ipc
