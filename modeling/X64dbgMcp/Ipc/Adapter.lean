import Mathlib.Logic.Function.Basic
import X64dbgMcp.Ipc.Frame
import X64dbgMcp.Ipc.ToolError
import X64dbgMcp.Tools.Catalog
import X64dbgMcp.Transition.Execution

/-!
# The IPC adapter

Any number of concurrent `IpcAdapter::call` runs share one ledger, one byte
stream behind an asynchronous mutex, one readiness flag and one bounded queue of
abandoned request identifiers.  A step is what one call does between two points
at which another call, the plugin or a cancellation may intervene; the bytes of
a frame may be written and read in any portions.

A call can be dropped only where it awaits: at the stream mutex, in the write or
in the read.  Dropping releases the stream first and remembers the request
identifier afterwards.  The serializer and the identifier parser are parameters.
-/

namespace X64dbgMcp.Ipc

open Text Tools

/-- A request as it is sent to the plugin. -/
structure IpcRequest where
  requestId : Uuid
  deadlineUnixMs : UInt64
  operationId : Option Uuid
  method : String
  payload : Json

/-- The third-party codecs that the adapter calls. -/
structure Codec where
  toVec : IpcRequest → Option Bytes
  fromSlice : Bytes → Option IpcResponse
  fingerprint : String → Json → Option String
  parseUuid : String → Option Uuid

/-- How an exchange fails. -/
inductive Failure where
  | frame (error : FrameError)
  | timeout
  | mismatch
  deriving DecidableEq

/-- Where a call stands. -/
inductive Point where
  | idle
  /-- A mutation before its admission. -/
  | entered (operation : Uuid) (fingerprint : String)
  /-- Admitted, or a read; readiness is not checked yet. -/
  | admitted
  /-- Found not ready; the admission is not withdrawn yet. -/
  | refused
  /-- Waiting for the stream. -/
  | waiting (request : IpcRequest)
  /-- Holding the stream, with `sent` bytes of the frame written. -/
  | writing (frame : Bytes) (sent : Nat)
  /-- Holding the stream, with the bytes of the current frame read so far. -/
  | reading (buffer : Bytes)
  /-- The exchange returned a response; the stream is released. -/
  | exchanged (response : IpcResponse)
  /-- The exchange failed; the stream is released. -/
  | failed (failure : Failure)
  /-- The ledger was told; the readiness flag is not cleared yet. -/
  | marked (failure : Failure)
  /-- The readiness flag is cleared; the request is not remembered yet. -/
  | flagged (failure : Failure)
  /-- The response was correlated; the outcome is not recorded yet. -/
  | recording (outcome : Outcome)
  | returned (outcome : Outcome)
  /-- Dropped; the stream is released but the request is not remembered yet. -/
  | dropping
  | dropped

/-- One run of `call`.  `operation` is the admission of a mutation; `wrote` tells
whether a byte of its frame was written, `accepted` which response it took. -/
structure Call where
  point : Point := .idle
  name : String := ""
  arguments : Json := .null
  operation : Option (Uuid × String) := none
  requestId : Uuid := 0
  wrote : Bool := false
  accepted : Option IpcResponse := none

/-- The adapter with its calls, and the stream to the plugin. -/
structure State where
  ledger : OperationLedger
  ready : Bool := true
  lock : Option Nat := none
  abandoned : List Uuid := []
  /-- Bytes written to the plugin and not consumed by it. -/
  toPlugin : Bytes := []
  /-- Bytes sent by the plugin and not read. -/
  fromPlugin : Bytes := []
  /-- Request identifiers generated so far. -/
  generated : List Uuid := []
  calls : Nat → Call := fun _ => {}

/-- The steps of the calls and of the plugin. -/
inductive Action where
  | enter (id : Nat) (name : String) (arguments : Json)
  | begin (id : Nat) (now : Nat)
  /-- Check readiness and, when ready, build the request. -/
  | checkReady (id : Nat) (requestId : Uuid) (deadlineUnixMs : UInt64)
  | abandon (id : Nat)
  | acquire (id : Nat)
  | write (id : Nat) (count : Nat)
  | read (id : Nat) (count : Nat)
  | ioError (id : Nat)
  | timeout (id : Nat)
  | drop (id : Nat)
  | remember (id : Nat)
  | correlate (id : Nat)
  | markUnknown (id : Nat) (now : Nat)
  | clearReady (id : Nat)
  | finish (id : Nat)
  | complete (id : Nat) (now : Nat)
  /-- The plugin takes one frame and answers it. -/
  | pluginAnswer (reply : Bytes)
  /-- Any other bytes from the plugin. -/
  | pluginSend (bytes : Bytes)

/-- What a step shows: the first byte of a request frame. -/
inductive Output where
  | silent
  | frame (id : Nat) (operation : Option Uuid)

/-- How many operations the ledger remembers. -/
def ledgerCapacity : Nat := 1024

/-- Ten minutes. -/
def ledgerTtl : Nat := 600000000000

/-- How many abandoned requests are remembered. -/
def abandonedRequestCapacity : Nat := 64

/-- Remember one request more, and forget the oldest of a full list. -/
def rememberAbandonedRequest (ids : List Uuid) (requestId : Uuid) : List Uuid :=
  (if ids.length = abandonedRequestCapacity then ids.tail else ids) ++ [requestId]

namespace Call

/-- Whether the call mutates. -/
def mutation (call : Call) : Bool :=
  isMutationCall call.name call.arguments

/-- The operation that the call was admitted for. -/
def operationId (call : Call) : Option Uuid :=
  call.operation.map Prod.fst

/-- The request of a call. -/
def request (call : Call) (requestId : Uuid) (deadlineUnixMs : UInt64) : IpcRequest where
  requestId := requestId
  deadlineUnixMs := deadlineUnixMs
  operationId := call.operationId
  method := call.name
  payload := call.arguments

/-- The error reported for a failed exchange. -/
def failureError (call : Call) : Failure → ToolError
  | .frame _ =>
      transportError .pluginUnavailable "IPC connection failed" (!call.mutation) call.mutation
        (unknownTransportDetails call.operationId)
  | .timeout =>
      transportError .timeout "debugger operation exceeded its deadline" (!call.mutation)
        call.mutation (unknownTransportDetails call.operationId)
  | .mismatch =>
      transportError .internal "IPC response correlation mismatch" (!call.mutation) call.mutation
        (unknownTransportDetails call.operationId)

end Call

namespace State

/-- An established adapter. -/
def initial : State where
  ledger := ⟨ledgerCapacity, ledgerTtl, Collection.AssocMap.empty⟩

/-- Store a call. -/
def setCall (state : State) (id : Nat) (call : Call) : State :=
  { state with calls := Function.update state.calls id call }

/-- Store how far a call has come. -/
def setPoint (state : State) (id : Nat) (point : Point) : State :=
  state.setCall id { state.calls id with point := point }

/-- Leave the exchange and release the stream. -/
def release (state : State) (id : Nat) (point : Point) : State :=
  { state.setPoint id point with lock := none }

variable (codec : Codec)

/-- The part of `call` before the ledger: a mutation needs an operation
identifier and a fingerprint, a read goes straight to the readiness check. -/
def enter (state : State) (id : Nat) (name : String) (arguments : Json) : State :=
  let call : Call := { name := name, arguments := arguments }
  if isMutationCall name arguments then
    match ((arguments.get "operation_id").bind Json.asStr).bind codec.parseUuid with
    | none => state.setCall id { call with point := .returned (.error operationIdRequired) }
    | some operation =>
        match codec.fingerprint name arguments with
        | none => state.setCall id { call with point := .returned (.error fingerprintFailed) }
        | some fingerprint => state.setCall id { call with point := .entered operation fingerprint }
  else state.setCall id { call with point := .admitted }

/-- The answer to a call that the ledger does not admit. -/
def refusal (operation : Uuid) : Admission → Option Outcome
  | .started => none
  | .completed value => some (decodeRecorded value)
  | .inFlight => some (.error (alreadyInFlight operation))
  | .unknown => some (.error (unknownOutcome operation))
  | .conflict => some (.error (operationIdConflict operation))
  | .capacity => some (.error ledgerFull)

/-- Ask the ledger to admit a mutation. -/
def begin (state : State) (id : Nat) (now : Nat) (operation : Uuid) (fingerprint : String) :
    State :=
  let result := state.ledger.begin now operation fingerprint
  let call := state.calls id
  let told := { state with ledger := result.2 }
  match refusal operation result.1 with
  | some outcome => told.setPoint id (.returned outcome)
  | none =>
      told.setCall id { call with point := .admitted, operation := some (operation, fingerprint) }

/-- Build the request with a new identifier, or turn the call away. -/
def checkReady (state : State) (id : Nat) (requestId : Uuid) (deadlineUnixMs : UInt64) :
    Option State :=
  let call := state.calls id
  if state.ready then
    if requestId ∈ state.generated then none
    else
      some
        { state.setCall id
            { call with
              point := .waiting (call.request requestId deadlineUnixMs)
              requestId := requestId } with
          generated := requestId :: state.generated }
  else if call.operation.isSome then some (state.setPoint id .refused)
  else some (state.setPoint id (.returned (.error ToolError.pluginUnavailable)))

/-- Withdraw an admission that was never sent. -/
def abandon (state : State) (id : Nat) (operation : Uuid) (fingerprint : String) : State :=
  match state.ledger.abandonUnstarted operation fingerprint with
  | .ok ledger =>
      { state with ledger := ledger }.setPoint id (.returned (.error ToolError.pluginUnavailable))
  | .error _ => state.setPoint id (.returned (.error ledgerInternalError))

/-- Take the stream and serialize the request into its frame. -/
def acquire (state : State) (id : Nat) (request : IpcRequest) : State :=
  match encodeFrame (codec.toVec request) with
  | .error error => state.setPoint id (.failed (.frame error))
  | .ok frame => { state.setPoint id (.writing frame 0) with lock := some id }

/-- Write a portion of the frame. -/
def write (state : State) (id count : Nat) (frame : Bytes) (sent : Nat) : State :=
  let call := state.calls id
  let point := if sent + count = frame.length then .reading [] else .writing frame (sent + count)
  { state.setCall id { call with point := point, wrote := true } with
    toPlugin := state.toPlugin ++ (frame.drop sent).take count }

/-- A complete response frame: skip it when it answers an abandoned request. -/
def receive (state : State) (id : Nat) (payload : Bytes) : State :=
  match codec.fromSlice payload with
  | none => state.release id (.failed (.frame .invalidPayload))
  | some response =>
      if response.requestId = (state.calls id).requestId ∨
          response.requestId ∉ state.abandoned then
        state.release id (.exchanged response)
      else
        { state.setPoint id (.reading []) with
          abandoned := state.abandoned.erase response.requestId }

/-- Read a portion of the current frame. -/
def read (state : State) (id count : Nat) (buffer : Bytes) : State :=
  let collected := buffer ++ state.fromPlugin.take count
  let rest := { state with fromPlugin := state.fromPlugin.drop count }
  match readProgress collected with
  | .wants _ => rest.setPoint id (.reading collected)
  | .failed error => rest.release id (.failed (.frame error))
  | .complete payload => rest.receive codec id payload

/-- Tell whether the response is the call's own. -/
def correlate (state : State) (id : Nat) (response : IpcResponse) : State :=
  let call := state.calls id
  if response.requestId ≠ call.requestId then state.setPoint id (.failed .mismatch)
  else
    let outcome := outcomeOf call.name call.arguments call.mutation response.outcome
    state.setCall id
      { call with
        point := if call.operation.isSome then .recording outcome else .returned outcome
        accepted := some response }

/-- Tell the ledger that the outcome of the operation is unknown. -/
def markUnknown (state : State) (id now : Nat) (failure : Failure) : State :=
  let told :=
    match (state.calls id).operation with
    | none => state
    | some (operation, _) =>
        match state.ledger.markUnknown now operation with
        | .ok ledger => { state with ledger := ledger }
        | .error _ => state
  told.setPoint id (.marked failure)

/-- Tell the ledger the outcome, then return it. -/
def complete (state : State) (id now : Nat) (operation : Uuid) (outcome : Outcome) : State :=
  match state.ledger.complete now operation (encodeRecorded outcome) with
  | .ok ledger => { state with ledger := ledger }.setPoint id (.returned outcome)
  | .error _ => state.setPoint id (.returned (.error ledgerInternalError))

/-- Remember the request of a call as abandoned. -/
def remember (state : State) (id : Nat) (point : Point) : State :=
  { state.setPoint id point with
    abandoned := rememberAbandonedRequest state.abandoned (state.calls id).requestId }

/-- The frame at the head of what was written to the plugin. -/
def pluginAnswer (state : State) (reply : Bytes) : Option State :=
  let length := prefixLength (state.toPlugin.take lengthPrefixBytes)
  if lengthPrefixBytes ≤ state.toPlugin.length ∧ 0 < length ∧ length ≤ maxFrameBytes ∧
      lengthPrefixBytes + length ≤ state.toPlugin.length then
    match encodeFrame (some reply) with
    | .error _ => none
    | .ok frame =>
        some
          { state with
            toPlugin := state.toPlugin.drop (lengthPrefixBytes + length)
            fromPlugin := state.fromPlugin ++ frame }
  else none

/-- One step of the adapter, its calls and the plugin. -/
def next : Transition.Step State Action Output := fun state action =>
  match action with
  | .enter id name arguments =>
      match (state.calls id).point with
      | .idle => some (.silent, state.enter codec id name arguments)
      | _ => none
  | .begin id now =>
      match (state.calls id).point with
      | .entered operation fingerprint =>
          some (.silent, state.begin id now operation fingerprint)
      | _ => none
  | .checkReady id requestId deadlineUnixMs =>
      match (state.calls id).point with
      | .admitted => (state.checkReady id requestId deadlineUnixMs).map fun next => (.silent, next)
      | _ => none
  | .abandon id =>
      match (state.calls id).point, (state.calls id).operation with
      | .refused, some (operation, fingerprint) =>
          some (.silent, state.abandon id operation fingerprint)
      | _, _ => none
  | .acquire id =>
      match (state.calls id).point, state.lock with
      | .waiting request, none => some (.silent, state.acquire codec id request)
      | _, _ => none
  | .write id count =>
      match (state.calls id).point with
      | .writing frame sent =>
          if 0 < count ∧ sent + count ≤ frame.length then
            some (if (state.calls id).wrote then .silent
              else .frame id (state.calls id).operationId,
              state.write id count frame sent)
          else none
      | _ => none
  | .read id count =>
      match (state.calls id).point with
      | .reading buffer =>
          match readProgress buffer with
          | .wants wanted =>
              if 0 < count ∧ count ≤ wanted ∧ count ≤ state.fromPlugin.length then
                some (.silent, state.read codec id count buffer)
              else none
          | _ => none
      | _ => none
  | .ioError id =>
      match (state.calls id).point with
      | .writing _ _ | .reading _ => some (.silent, state.release id (.failed (.frame .io)))
      | _ => none
  | .timeout id =>
      match (state.calls id).point with
      | .waiting _ => some (.silent, state.setPoint id (.failed .timeout))
      | .writing _ _ | .reading _ => some (.silent, state.release id (.failed .timeout))
      | _ => none
  | .drop id =>
      match (state.calls id).point with
      | .waiting _ => some (.silent, state.setPoint id .dropping)
      | .writing _ _ | .reading _ => some (.silent, state.release id .dropping)
      | _ => none
  | .remember id =>
      match (state.calls id).point with
      | .dropping => some (.silent, state.remember id .dropped)
      | _ => none
  | .correlate id =>
      match (state.calls id).point with
      | .exchanged response => some (.silent, state.correlate id response)
      | _ => none
  | .markUnknown id now =>
      match (state.calls id).point with
      | .failed failure => some (.silent, state.markUnknown id now failure)
      | _ => none
  | .clearReady id =>
      match (state.calls id).point with
      | .marked failure =>
          some (.silent, { state.setPoint id (.flagged failure) with ready := false })
      | _ => none
  | .finish id =>
      match (state.calls id).point with
      | .flagged failure =>
          some (.silent, state.remember id
            (.returned (.error ((state.calls id).failureError failure))))
      | _ => none
  | .complete id now =>
      match (state.calls id).point, (state.calls id).operation with
      | .recording outcome, some (operation, _) =>
          some (.silent, state.complete id now operation outcome)
      | _, _ => none
  | .pluginAnswer reply => (state.pluginAnswer reply).map fun next => (.silent, next)
  | .pluginSend bytes => some (.silent, { state with fromPlugin := state.fromPlugin ++ bytes })

end State

/-! ## Small runs -/

/-- The bytes of an ASCII text. -/
def asciiBytes (text : String) : Bytes :=
  text.toList.map fun character => UInt8.ofNat character.toNat

/-- The arguments of a pause with the operation identifier 1. -/
def pauseArguments : Json :=
  .object [("operation_id", .string "00000000-0000-0000-0000-000000000001")]

/-- A serialized read of the debugger state, but for the last digit of its
request identifier. -/
def stateRequest (digit : String) : Bytes :=
  asciiBytes "\x7b\"request_id\":\"00000000-0000-0000-0000-00000000000" ++ asciiBytes digit ++
    asciiBytes ("\",\"deadline_unix_ms\":0,\"operation_id\":null,\"method\":" ++
      "\"debugger.state\",\"payload\":\x7b\x7d\x7d")

/-- The codecs on the calls of small runs: a pause with the operation identifier
1, and reads of the debugger state whose request identifiers are 1 and 2. -/
def smallCodec : Codec where
  parseUuid text := if text = "00000000-0000-0000-0000-000000000001" then some 1 else none
  fingerprint name _ :=
    some ("[\"" ++ name ++
      "\",\x7b\"operation_id\":\"00000000-0000-0000-0000-000000000001\"\x7d]")
  toVec request := some (stateRequest (if request.requestId = 1 then "1" else "2"))
  fromSlice _ := some ⟨1, 0, .ok (.object [])⟩

end X64dbgMcp.Ipc
