import X64dbgMcp.Ipc.Adapter

/-!
# Inversion of the adapter's steps

`Stepped` lists, once, everything a step can do, with what enables it and the
state it leads to.  All invariants of the adapter are proved by cases on it.
-/

namespace X64dbgMcp.Ipc

open Text

/-- The call holds the stream. -/
def Point.onStream : Point → Bool
  | .writing _ _ | .reading _ => true
  | _ => false

namespace State

/-- One step of the adapter, by its cases. -/
inductive Stepped (codec : Codec) (state : State) : Action → Output → State → Prop where
  | enter {id : Nat} {name : String} {arguments : Json}
      (idle : (state.calls id).point = .idle) :
      Stepped codec state (.enter id name arguments) .silent (state.enter codec id name arguments)
  | begin {id now : Nat} {operation : Uuid} {fingerprint : String}
      (entered : (state.calls id).point = .entered operation fingerprint) :
      Stepped codec state (.begin id now) .silent (state.begin id now operation fingerprint)
  /-- Ready: the request is built. -/
  | request {id : Nat} {requestId : Uuid} {deadlineUnixMs : UInt64}
      (admitted : (state.calls id).point = .admitted) (ready : state.ready = true)
      (fresh : requestId ∉ state.generated) :
      Stepped codec state (.checkReady id requestId deadlineUnixMs) .silent
        { state.setCall id
            { state.calls id with
              point := .waiting ((state.calls id).request requestId deadlineUnixMs)
              requestId := requestId } with
          generated := requestId :: state.generated }
  /-- Not ready, with an admission to withdraw. -/
  | refuse {id : Nat} {requestId : Uuid} {deadlineUnixMs : UInt64}
      (admitted : (state.calls id).point = .admitted) (unready : state.ready = false)
      (admission : (state.calls id).operation.isSome = true) :
      Stepped codec state (.checkReady id requestId deadlineUnixMs) .silent
        (state.setPoint id .refused)
  /-- Not ready, for a read. -/
  | unavailable {id : Nat} {requestId : Uuid} {deadlineUnixMs : UInt64}
      (admitted : (state.calls id).point = .admitted) (unready : state.ready = false)
      (admission : (state.calls id).operation.isSome = false) :
      Stepped codec state (.checkReady id requestId deadlineUnixMs) .silent
        (state.setPoint id (.returned (.error ToolError.pluginUnavailable)))
  | abandon {id : Nat} {operation : Uuid} {fingerprint : String}
      (refused : (state.calls id).point = .refused)
      (admission : (state.calls id).operation = some (operation, fingerprint)) :
      Stepped codec state (.abandon id) .silent (state.abandon id operation fingerprint)
  /-- The request cannot be framed. -/
  | unsendable {id : Nat} {request : IpcRequest} {error : FrameError}
      (waiting : (state.calls id).point = .waiting request) (free : state.lock = none)
      (encoded : encodeFrame (codec.toVec request) = .error error) :
      Stepped codec state (.acquire id) .silent (state.setPoint id (.failed (.frame error)))
  | acquire {id : Nat} {request : IpcRequest} {frame : Bytes}
      (waiting : (state.calls id).point = .waiting request) (free : state.lock = none)
      (encoded : encodeFrame (codec.toVec request) = .ok frame) :
      Stepped codec state (.acquire id) .silent
        { state.setPoint id (.writing frame 0) with lock := some id }
  | write {id count sent : Nat} {frame : Bytes}
      (writing : (state.calls id).point = .writing frame sent) (positive : 0 < count)
      (within : sent + count ≤ frame.length) :
      Stepped codec state (.write id count)
        (if (state.calls id).wrote then .silent else .frame id (state.calls id).operationId)
        (state.write id count frame sent)
  | read {id count wanted : Nat} {buffer : Bytes}
      (reading : (state.calls id).point = .reading buffer)
      (wants : readProgress buffer = .wants wanted) (positive : 0 < count)
      (within : count ≤ wanted) (available : count ≤ state.fromPlugin.length) :
      Stepped codec state (.read id count) .silent (state.read codec id count buffer)
  | ioError {id : Nat} (onStream : (state.calls id).point.onStream = true) :
      Stepped codec state (.ioError id) .silent (state.release id (.failed (.frame .io)))
  | timeoutWaiting {id : Nat} {request : IpcRequest}
      (waiting : (state.calls id).point = .waiting request) :
      Stepped codec state (.timeout id) .silent (state.setPoint id (.failed .timeout))
  | timeout {id : Nat} (onStream : (state.calls id).point.onStream = true) :
      Stepped codec state (.timeout id) .silent (state.release id (.failed .timeout))
  | dropWaiting {id : Nat} {request : IpcRequest}
      (waiting : (state.calls id).point = .waiting request) :
      Stepped codec state (.drop id) .silent (state.setPoint id .dropping)
  | drop {id : Nat} (onStream : (state.calls id).point.onStream = true) :
      Stepped codec state (.drop id) .silent (state.release id .dropping)
  | remember {id : Nat} (dropping : (state.calls id).point = .dropping) :
      Stepped codec state (.remember id) .silent (state.remember id .dropped)
  | mismatch {id : Nat} {response : IpcResponse}
      (exchanged : (state.calls id).point = .exchanged response)
      (foreign : response.requestId ≠ (state.calls id).requestId) :
      Stepped codec state (.correlate id) .silent (state.setPoint id (.failed .mismatch))
  | accept {id : Nat} {response : IpcResponse}
      (exchanged : (state.calls id).point = .exchanged response)
      (own : response.requestId = (state.calls id).requestId) :
      Stepped codec state (.correlate id) .silent (state.correlate id response)
  | markUnknown {id now : Nat} {failure : Failure}
      (failed : (state.calls id).point = .failed failure) :
      Stepped codec state (.markUnknown id now) .silent (state.markUnknown id now failure)
  | clearReady {id : Nat} {failure : Failure}
      (marked : (state.calls id).point = .marked failure) :
      Stepped codec state (.clearReady id) .silent
        { state.setPoint id (.flagged failure) with ready := false }
  | finish {id : Nat} {failure : Failure}
      (flagged : (state.calls id).point = .flagged failure) :
      Stepped codec state (.finish id) .silent
        (state.remember id (.returned (.error ((state.calls id).failureError failure))))
  | complete {id now : Nat} {operation : Uuid} {fingerprint : String} {outcome : Outcome}
      (recording : (state.calls id).point = .recording outcome)
      (admission : (state.calls id).operation = some (operation, fingerprint)) :
      Stepped codec state (.complete id now) .silent (state.complete id now operation outcome)
  | pluginAnswer {reply frame : Bytes}
      (complete : prefixLength (state.toPlugin.take lengthPrefixBytes) ≠ 0 ∧
        prefixLength (state.toPlugin.take lengthPrefixBytes) ≤ maxFrameBytes ∧
        lengthPrefixBytes + prefixLength (state.toPlugin.take lengthPrefixBytes) ≤
          state.toPlugin.length)
      (encoded : encodeFrame (some reply) = .ok frame) :
      Stepped codec state (.pluginAnswer reply) .silent
        { state with
          toPlugin := state.toPlugin.drop
            (lengthPrefixBytes + prefixLength (state.toPlugin.take lengthPrefixBytes))
          fromPlugin := state.fromPlugin ++ frame }
  | pluginSend {bytes : Bytes} :
      Stepped codec state (.pluginSend bytes) .silent
        { state with fromPlugin := state.fromPlugin ++ bytes }

variable {codec : Codec} {state target : State} {action : Action} {output : Output}

theorem stepped_checkReady {id : Nat} {requestId : Uuid} {deadlineUnixMs : UInt64}
    (admitted : (state.calls id).point = .admitted)
    (checked : state.checkReady id requestId deadlineUnixMs = some target) :
    Stepped codec state (.checkReady id requestId deadlineUnixMs) .silent target := by
  simp only [checkReady] at checked
  split at checked
  · rename_i ready
    split at checked
    · contradiction
    · rename_i fresh
      cases checked
      exact .request admitted ready fresh
  · rename_i unready
    rw [Bool.not_eq_true] at unready
    split at checked <;> rename_i admission <;> cases checked
    · exact .refuse admitted unready admission
    · exact .unavailable admitted unready (by simpa using admission)

theorem stepped_acquire {id : Nat} {request : IpcRequest}
    (waiting : (state.calls id).point = .waiting request) (free : state.lock = none) :
    Stepped codec state (.acquire id) .silent (state.acquire codec id request) := by
  simp only [acquire]
  split
  · rename_i error encoded
    exact .unsendable waiting free encoded
  · rename_i frame encoded
    exact .acquire waiting free encoded

theorem stepped_correlate {id : Nat} {response : IpcResponse}
    (exchanged : (state.calls id).point = .exchanged response) :
    Stepped codec state (.correlate id) .silent (state.correlate id response) := by
  by_cases own : response.requestId = (state.calls id).requestId
  · exact .accept exchanged own
  · have targetEq : state.correlate id response = state.setPoint id (.failed .mismatch) := by
      simp [correlate, own]
    rw [targetEq]
    exact .mismatch exchanged own

theorem stepped_pluginAnswer {reply : Bytes}
    (answered : state.pluginAnswer reply = some target) :
    Stepped codec state (.pluginAnswer reply) .silent target := by
  simp only [pluginAnswer] at answered
  split at answered
  · rename_i complete
    split at answered
    · contradiction
    · rename_i frame encoded
      cases answered
      exact .pluginAnswer ⟨Nat.pos_iff_ne_zero.mp complete.2.1, complete.2.2⟩ encoded
  · contradiction

/-- Every step is one of the cases. -/
theorem stepped_next (stepped : next codec state action = some (output, target)) :
    Stepped codec state action output target := by
  cases action <;> simp only [next] at stepped
  case checkReady id requestId deadlineUnixMs =>
    split at stepped
    · rename_i admitted
      obtain ⟨checked, checkedEq, equal⟩ := Option.map_eq_some_iff.mp stepped
      cases equal
      exact stepped_checkReady admitted checkedEq
    · contradiction
  case pluginAnswer reply =>
    obtain ⟨answered, answeredEq, equal⟩ := Option.map_eq_some_iff.mp stepped
    cases equal
    exact stepped_pluginAnswer answeredEq
  case pluginSend bytes =>
    cases stepped
    exact .pluginSend
  case read id count =>
    split at stepped
    · rename_i buffer reading
      split at stepped
      · rename_i wanted wants
        split at stepped
        · rename_i within
          cases stepped
          exact .read reading wants within.1 within.2.1 within.2.2
        · contradiction
      · contradiction
    · contradiction
  case write id count =>
    split at stepped
    · rename_i frame sent writing
      split at stepped
      · rename_i within
        cases stepped
        exact .write writing within.1 within.2
      · contradiction
    · contradiction
  case enter id name arguments =>
    split at stepped
    · cases stepped
      exact .enter ‹_›
    · contradiction
  case begin id now =>
    split at stepped
    · cases stepped
      exact .begin ‹_›
    · contradiction
  case abandon id =>
    split at stepped
    · cases stepped
      exact .abandon ‹_› ‹_›
    · contradiction
  case acquire id =>
    split at stepped
    · cases stepped
      exact stepped_acquire ‹_› ‹_›
    · contradiction
  case ioError id =>
    split at stepped
    · rename_i writing
      cases stepped
      exact .ioError (by simp [writing, Point.onStream])
    · rename_i reading
      cases stepped
      exact .ioError (by simp [reading, Point.onStream])
    · contradiction
  case timeout id =>
    split at stepped
    · rename_i waiting
      cases stepped
      exact .timeoutWaiting waiting
    · rename_i writing
      cases stepped
      exact .timeout (by simp [writing, Point.onStream])
    · rename_i reading
      cases stepped
      exact .timeout (by simp [reading, Point.onStream])
    · contradiction
  case drop id =>
    split at stepped
    · rename_i waiting
      cases stepped
      exact .dropWaiting waiting
    · rename_i writing
      cases stepped
      exact .drop (by simp [writing, Point.onStream])
    · rename_i reading
      cases stepped
      exact .drop (by simp [reading, Point.onStream])
    · contradiction
  case remember id =>
    split at stepped
    · cases stepped
      exact .remember ‹_›
    · contradiction
  case correlate id =>
    split at stepped
    · cases stepped
      exact stepped_correlate ‹_›
    · contradiction
  case markUnknown id now =>
    split at stepped
    · cases stepped
      exact .markUnknown ‹_›
    · contradiction
  case clearReady id =>
    split at stepped
    · cases stepped
      exact .clearReady ‹_›
    · contradiction
  case finish id =>
    split at stepped
    · cases stepped
      exact .finish ‹_›
    · contradiction
  case complete id now =>
    split at stepped
    · cases stepped
      exact .complete ‹_› ‹_›
    · contradiction

end State

end X64dbgMcp.Ipc
