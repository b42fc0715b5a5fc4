import X64dbgMcp.Ipc.CallStep
import X64dbgMcp.Mcp.CallTool
import X64dbgMcp.Text.JsonWriter

/-!
# Tool calls and their replies

`call_tool` checks a call, hands it to the adapter and turns the outcome into a
reply.  Any number of calls run at once over one adapter, and everything the
adapter and the plugin do in between is a step of its own.

The presentation of a memory read, the text of a fractional number and the answers
of the audit log are parameters.
-/

namespace X64dbgMcp.Mcp

open Collection Ipc Text Tools Transition

/-! ## Replies -/

/-- A tool error of any origin. -/
structure ReportedError where
  code : String
  message : String
  recoverable : Bool
  safeToRetry : Bool
  suggestedAction : Option String := none
  nextActions : List NextAction := []
  details : Json

/-- The error of the adapter. -/
def ReportedError.ofToolError (error : ToolError) : ReportedError where
  code := error.code.text
  message := error.message
  recoverable := error.recoverable
  safeToRetry := error.safeToRetry
  suggestedAction := error.suggestedAction
  nextActions := error.nextActions
  details := error.details

/-- What the client reads: a protocol error, the value of a tool, or the error
object of a failed tool. -/
inductive Reply where
  | rpcError (code : Int) (message : String)
  | success (value : Json)
  | failure (error : Json)

/-- An upper-case ASCII letter. -/
def isUpper (byte : UInt8) : Bool := 0x41 ≤ byte && byte ≤ 0x5a

/-- A lower-case ASCII letter. -/
def isLower (byte : UInt8) : Bool := 0x61 ≤ byte && byte ≤ 0x7a

/-- An ASCII digit. -/
def isDigit (byte : UInt8) : Bool := 0x30 ≤ byte && byte ≤ 0x39

/-- Two or more dotted segments, each a lower-case letter first. -/
def validToolName (value : String) : Bool :=
  let segments := (utf8 value).splitOn 0x2e
  2 ≤ segments.length && segments.all fun segment =>
    !segment.isEmpty && segment.zipIdx.all fun (byte, index) =>
      isLower byte || (0 < index && (isDigit byte || byte == 0x5f))

/-- An object of at most that many fields, when present. -/
def smallObject (limit : Nat) (value : Option Json) : Bool :=
  value.all fun value => value.asObject.any fun fields => fields.length ≤ limit

section Configured

variable (floatText : UInt64 → List UInt8)

/-- A next action that is told. -/
def NextAction.isBounded (action : NextAction) : Bool :=
  let code := utf8 action.code
  (3 ≤ code.length && code.length ≤ 64 &&
      code.zipIdx.all fun (byte, index) =>
        isUpper byte || byte == 0x5f || (0 < index && isDigit byte)) &&
    (!action.reason.isEmpty && (utf8 action.reason).length ≤ 256 && !hasControl action.reason) &&
    action.tool.all validToolName &&
    smallObject 32 action.arguments &&
    smallObject 16 action.argumentsPatch &&
    (action.preserveArguments.length ≤ 16 &&
      action.preserveArguments.all fun name => !name.isEmpty && (utf8 name).length ≤ 64) &&
    (action.tool.isSome || (action.arguments.isNone && action.argumentsPatch.isNone &&
      action.preserveArguments.isEmpty)) &&
    (Json.write floatText action.toJson).length ≤ 4096

/-- A suggestion that is told. -/
def boundedGuidance (value : String) : Bool :=
  !value.isEmpty && (utf8 value).length ≤ 512 && !hasControl value

/-- Guidance that is out of bounds is left out. -/
def toolFailure (error : ReportedError) : Reply :=
  let suggestedAction := error.suggestedAction.filter boundedGuidance
  let nextActions := (error.nextActions.filter (NextAction.isBounded floatText)).take 4
  let hasGuidance := suggestedAction.isSome || !nextActions.isEmpty
  .failure (.object
    ([("code", .string error.code), ("message", .string error.message),
        ("recoverable", .bool error.recoverable), ("safeToRetry", .bool error.safeToRetry),
        ("details", error.details)] ++
      (suggestedAction.map fun action => ("suggestedAction", Json.string action)).toList ++
      (if nextActions.isEmpty then []
        else [("nextActions", .array (nextActions.map NextAction.toJson))]) ++
      (if hasGuidance then [("adviceSource", .string "x64dbg-mcp-backend")] else [])))

end Configured

/-! ## One call -/

/-- What a sidecar is built with.  `log` tells whether it keeps an audit log. -/
structure Config where
  codec : Codec
  instanceId : Uuid
  log : Bool
  floatText : UInt64 → List UInt8
  memoryView : Json → Json → Except ReportedError Json

/-- How `call_tool` goes on. -/
inductive Dispatch where
  | replied (reply : Reply)
  /-- The audit log answers. -/
  | logged
  /-- The adapter is asked for the newest event, then the audit log waits. -/
  | barrier
  | called (name : String) (arguments dispatched : Json)
  /-- An expectation of the code does not hold. -/
  | panicked

/-- Read the state of the debugger first. -/
def refreshDebuggerState (reason : String) : NextAction :=
  NextAction.ofTool "REFRESH_DEBUGGER_STATE" .requiredBeforeRetry reason "debugger.state"
    (.object [])

/-- The validator refused the arguments. -/
def invalidArgument (error : ValidationError) : ReportedError where
  code := "INVALID_ARGUMENT"
  message := error.message
  recoverable := true
  safeToRetry := false
  suggestedAction := some "Correct the reported field before calling the tool again."
  details := .object [("field", .string error.field)]

/-- The mutation is meant for another instance. -/
def backendRestarted (supplied current : Uuid) : ReportedError where
  code := "BACKEND_RESTARTED"
  message := "backend instance changed; mutation was not dispatched"
  recoverable := true
  safeToRetry := false
  suggestedAction := some
    ("Refresh debugger state and use its current instance_id before deciding whether to issue " ++
      "the mutation.")
  nextActions :=
    [refreshDebuggerState "Obtain the current backend identity before another mutation."]
  details := .object
    [("outcome", .string "not_started"), ("expected_instance_id", .string supplied.text),
      ("current_instance_id", .string current.text)]

/-- The plugin names another instance than the sidecar's. -/
def identityMismatch (current : Uuid) : ReportedError where
  code := "BACKEND_IDENTITY_MISMATCH"
  message := "plugin and sidecar instance identities do not match"
  recoverable := true
  safeToRetry := false
  suggestedAction :=
    some "Restart the debugger host so the plugin and sidecar establish one identity."
  details := .object [("instance_id", .string current.text)]

/-- There is no audit log to read. -/
def logStoreUnavailable : ReportedError where
  code := "LOG_STORE_UNAVAILABLE"
  message := "audit store is unavailable"
  recoverable := true
  safeToRetry := false
  details := .object []

/-- The answer to the barrier of an event wait lacks a field. -/
def barrierOmitted (message : String) : ReportedError where
  code := "INTERNAL"
  message := message
  recoverable := false
  safeToRetry := false
  details := .object []

variable (config : Config)

/-- `call_tool` up to its first await. -/
def callTool (params : Json) : Dispatch :=
  match (params.get "name").bind Json.asStr with
  | none => .replied (.rpcError (-32602) "Missing tool name")
  | some name =>
      if (Tool.ofName name).isNone ∧ name ≠ "logs.read" ∧ name ≠ "logs.status" then
        .replied (.rpcError (-32602) "Unknown tool name")
      else
        let arguments := (params.get "arguments").getD .null
        if arguments.asObject.isNone then
          .replied (.rpcError (-32602) "Tool arguments must be an object")
        else
          match validateArguments config.codec.parseUuid name arguments with
          | .error error => .replied (toolFailure config.floatText (invalidArgument error))
          | .ok () =>
              if name = "events.wait" ∧ config.log then .barrier
              else if name = "logs.read" ∨ name = "logs.status" then
                if config.log then .logged
                else .replied (toolFailure config.floatText logStoreUnavailable)
              else
                let dispatched :=
                  if name = "memory.read" then nativeArguments arguments else arguments
                if isMutationCall name arguments then
                  match ((arguments.get "instance_id").bind Json.asStr).bind
                      config.codec.parseUuid with
                  | none => .panicked
                  | some supplied =>
                      if supplied ≠ config.instanceId then
                        .replied (toolFailure config.floatText
                          (backendRestarted supplied config.instanceId))
                      else .called name arguments (remove dispatched "instance_id")
                else .called name arguments dispatched

/-- `call_tool` after the adapter. -/
def present (name : String) (arguments : Json) : Outcome → Reply
  | .ok value =>
      if name = "debugger.state" ∧
          (value.get "instance_id").bind Json.asStr ≠ some config.instanceId.text then
        toolFailure config.floatText (identityMismatch config.instanceId)
      else if name = "memory.read" then
        match config.memoryView arguments value with
        | .ok view => .success view
        | .error error => toolFailure config.floatText error
      else .success value
  | .error error => toolFailure config.floatText (.ofToolError error)

/-! ## Many calls -/

/-- Where a run of `call_tool` stands. -/
inductive ToolRun where
  | absent
  | called (name : String) (arguments : Json)
  | barrier
  | logging
  | replied (reply : Reply)

/-- An event wait after its barrier. -/
def afterBarrier : Outcome → ToolRun
  | .error error => .replied (toolFailure config.floatText (.ofToolError error))
  | .ok value =>
      if ((value.get "latest_sequence").bind Json.asU64).isNone then
        .replied (toolFailure config.floatText
          (barrierOmitted "native event barrier omitted latest_sequence"))
      else if ((value.get "session_id").bind Json.asStr).isNone then
        .replied (toolFailure config.floatText
          (barrierOmitted "native event barrier omitted session_id"))
      else .logging

/-- The adapter, and the runs of `call_tool` over it. -/
structure Sidecar where
  adapter : State
  runs : Nat → ToolRun := fun _ => .absent

namespace Sidecar

/-- The steps of the sidecar. -/
inductive Action where
  | call (id : Nat) (params : Json)
  /-- A step of the adapter or of the plugin; only `call_tool` enters the adapter. -/
  | adapter (action : Ipc.Action)
  /-- The adapter's call has returned. -/
  | resume (id : Nat)
  | logged (id : Nat) (result : Except ReportedError Json)

/-- Store where a run stands. -/
def setRun (sidecar : Sidecar) (id : Nat) (toolRun : ToolRun) : Sidecar :=
  { sidecar with runs := Function.update sidecar.runs id toolRun }

/-- Enter the adapter. -/
def enter (sidecar : Sidecar) (id : Nat) (toolRun : ToolRun) (name : String) (arguments : Json) :
    Option (Output × Sidecar) :=
  (State.next config.codec sidecar.adapter (.enter id name arguments)).map fun result =>
    (result.1, { sidecar.setRun id toolRun with adapter := result.2 })

/-- The first step of a run. -/
def call (sidecar : Sidecar) (id : Nat) (params : Json) : Option (Output × Sidecar) :=
  match callTool config params with
  | .replied reply => some (.silent, sidecar.setRun id (.replied reply))
  | .logged => some (.silent, sidecar.setRun id .logging)
  | .barrier =>
      sidecar.enter config id .barrier "events.list" (.object [("limit", .number (.posInt 1))])
  | .called name arguments dispatched =>
      sidecar.enter config id (.called name arguments) name dispatched
  | .panicked => none

/-- One step of the sidecar. -/
def next : Step Sidecar Action Output := fun sidecar action =>
  match action with
  | .call id params =>
      match sidecar.runs id with
      | .absent => sidecar.call config id params
      | _ => none
  | .adapter action =>
      if action.isEnter then none
      else
        (State.next config.codec sidecar.adapter action).map fun result =>
          (result.1, { sidecar with adapter := result.2 })
  | .resume id =>
      match sidecar.runs id, (sidecar.adapter.calls id).point with
      | .called name arguments, .returned outcome =>
          some (.silent, sidecar.setRun id (.replied (present config name arguments outcome)))
      | .barrier, .returned outcome =>
          some (.silent, sidecar.setRun id (afterBarrier config outcome))
      | _, _ => none
  | .logged id result =>
      match sidecar.runs id with
      | .logging =>
          some (.silent, sidecar.setRun id
            (.replied (match result with
              | .ok value => .success value
              | .error error => toolFailure config.floatText error)))
      | _ => none

end Sidecar

end X64dbgMcp.Mcp
