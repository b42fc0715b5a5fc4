import X64dbgMcp.Ipc.Ledger

/-!
# Tool errors and recorded outcomes

The error that a tool call reports, the guidance attached to it, and the form in
which the outcome of a mutation is recorded in the ledger and replayed from it.
-/

namespace X64dbgMcp.Ipc

open Text

/-- The codes of tool errors. -/
inductive ErrorCode where
  | invalidArgument
  | invalidDebuggerState
  | noDebuggee
  | notFound
  | alreadyExists
  | conflict
  | resourceExhausted
  | accessDenied
  | busy
  | timeout
  | staleCursor
  | outputLimitExceeded
  | cancelled
  | unsupported
  | scyllahideNotInstalled
  | scyllahideConfigInvalid
  | profileNotFound
  | configGenerationMismatch
  | profileWriteFailed
  | internal
  | operationIdConflict
  | pluginUnavailable
  deriving DecidableEq

/-- A code as it is told. -/
def ErrorCode.text : ErrorCode → String
  | .invalidArgument => "INVALID_ARGUMENT"
  | .invalidDebuggerState => "INVALID_DEBUGGER_STATE"
  | .noDebuggee => "NO_DEBUGGEE"
  | .notFound => "NOT_FOUND"
  | .alreadyExists => "ALREADY_EXISTS"
  | .conflict => "CONFLICT"
  | .resourceExhausted => "RESOURCE_EXHAUSTED"
  | .accessDenied => "ACCESS_DENIED"
  | .busy => "BUSY"
  | .timeout => "TIMEOUT"
  | .staleCursor => "STALE_CURSOR"
  | .outputLimitExceeded => "OUTPUT_LIMIT_EXCEEDED"
  | .cancelled => "CANCELLED"
  | .unsupported => "UNSUPPORTED"
  | .scyllahideNotInstalled => "SCYLLAHIDE_NOT_INSTALLED"
  | .scyllahideConfigInvalid => "SCYLLAHIDE_CONFIG_INVALID"
  | .profileNotFound => "PROFILE_NOT_FOUND"
  | .configGenerationMismatch => "CONFIG_GENERATION_MISMATCH"
  | .profileWriteFailed => "PROFILE_WRITE_FAILED"
  | .internal => "INTERNAL"
  | .operationIdConflict => "OPERATION_ID_CONFLICT"
  | .pluginUnavailable => "PLUGIN_UNAVAILABLE"

/-- The codes that a plugin may report. -/
def ErrorCode.stable : List ErrorCode :=
  [.invalidArgument, .invalidDebuggerState, .noDebuggee, .notFound, .alreadyExists, .conflict,
    .resourceExhausted, .accessDenied, .busy, .timeout, .staleCursor, .outputLimitExceeded,
    .cancelled, .unsupported, .scyllahideNotInstalled, .scyllahideConfigInvalid,
    .profileNotFound, .configGenerationMismatch, .profileWriteFailed]

/-- Any other code of the plugin becomes an internal error. -/
def stableErrorCode (code : String) : ErrorCode :=
  (ErrorCode.stable.find? fun known => known.text == code).getD .internal

/-- How a next action is meant. -/
inductive ActionExecution where
  | suggested
  | requiredBeforeRetry
  | manual
  deriving DecidableEq

/-- The same as it is told. -/
def ActionExecution.text : ActionExecution → String
  | .suggested => "suggested"
  | .requiredBeforeRetry => "required_before_retry"
  | .manual => "manual"

/-- A step that an error suggests. -/
structure NextAction where
  code : String
  execution : ActionExecution
  reason : String
  tool : Option String
  arguments : Option Json
  argumentsPatch : Option Json
  preserveArguments : List String

namespace NextAction

/-- An action that names a tool and its arguments. -/
def ofTool (code : String) (execution : ActionExecution) (reason tool : String)
    (arguments : Json) : NextAction where
  code := code
  execution := execution
  reason := reason
  tool := some tool
  arguments := some arguments
  argumentsPatch := none
  preserveArguments := []

/-- Absent options and an empty list are left out. -/
def toJson (action : NextAction) : Json :=
  .object
    ([("code", Json.string action.code), ("execution", .string action.execution.text),
        ("reason", .string action.reason)] ++
      (action.tool.map fun tool => ("tool", Json.string tool)).toList ++
      (action.arguments.map fun arguments => ("arguments", arguments)).toList ++
      (action.argumentsPatch.map fun patch => ("argumentsPatch", patch)).toList ++
      (if action.preserveArguments.isEmpty then []
        else [("preserveArguments", .array (action.preserveArguments.map Json.string))]))

/-- An optional field; null reads as absent. -/
def optional (value : Json) (key : String) : Option Json :=
  match value.get key with
  | none | some .null => none
  | some field => some field

/-- Read how a next action is meant. -/
def executionOf (value : Json) : Option ActionExecution :=
  value.asStr.bind fun text =>
    [ActionExecution.suggested, .requiredBeforeRetry, .manual].find? fun known =>
      known.text == text

/-- Read an action back from the object form in which it is recorded. -/
def fromJson (value : Json) : Option NextAction := do
  let code ← (value.get "code").bind Json.asStr
  let execution ← (value.get "execution").bind executionOf
  let reason ← (value.get "reason").bind Json.asStr
  let tool ← match optional value "tool" with
    | none => some none
    | some field => field.asStr.map some
  let preserved ← match value.get "preserveArguments" with
    | none => some []
    | some field => field.asArray.bind fun items => items.mapM Json.asStr
  some
    { code := code
      execution := execution
      reason := reason
      tool := tool
      arguments := optional value "arguments"
      argumentsPatch := optional value "argumentsPatch"
      preserveArguments := preserved }

end NextAction

/-- An error of a tool, with its advice. -/
structure ToolError where
  code : ErrorCode
  message : String
  recoverable : Bool
  safeToRetry : Bool
  suggestedAction : Option String := none
  nextActions : List NextAction := []
  details : Json

/-- The outcome of a tool call. -/
abbrev Outcome := Except ToolError Json

namespace ToolError

/-- An error with a suggestion and next actions. -/
def withGuidance (error : ToolError) (suggestedAction : String)
    (nextActions : List NextAction) : ToolError :=
  { error with suggestedAction := some suggestedAction, nextActions := nextActions }

/-- No plugin is connected; nothing was sent. -/
def pluginUnavailable : ToolError :=
  ToolError.withGuidance
    { code := .pluginUnavailable
      message := "x64dbg plugin is not connected"
      recoverable := true
      safeToRetry := true
      details := .object [] }
    "Start the matching x32dbg or x64dbg host and wait for its plugin to connect." []

/-- The details say that the outcome is unknown. -/
def outcomeUnknown (error : ToolError) : Bool :=
  match (error.details.get "outcome").bind Json.asStr with
  | some outcome => outcome == "unknown"
  | none => false

end ToolError

/-- The hyphenated lower-case form of an identifier. -/
def Uuid.text (id : Uuid) : String :=
  let digits := (List.range 32).map fun index =>
    Nat.digitChar ((id.toNat >>> (4 * (31 - index))) % 16)
  let group (first length : Nat) := String.ofList ((digits.drop first).take length)
  String.intercalate "-" [group 0 8, group 8 4, group 12 4, group 16 4, group 20 12]

/-- Details that name the operation. -/
def operationDetails (operation : Uuid) : Json :=
  .object [("operation_id", .string operation.text)]

/-- Details that call the outcome of the operation unknown. -/
def unknownDetails (operation : Uuid) : Json :=
  .object [("operation_id", .string operation.text), ("outcome", .string "unknown")]

/-- The details of a failed exchange, which for a read say nothing. -/
def unknownTransportDetails (operation : Option Uuid) : Json :=
  match operation with
  | none => .object []
  | some operation => unknownDetails operation

/-- The guidance for a mutation whose outcome is unknown. -/
def refreshBeforeRetry (error : ToolError) : ToolError :=
  error.withGuidance
    "Reconcile current debugger state before deciding whether to issue another mutation."
    [NextAction.ofTool "REFRESH_DEBUGGER_STATE" .requiredBeforeRetry
      "Observe the current debugger state before another mutation." "debugger.state"
      (.object [])]

/-- The error of a failed exchange.  Its caller clears the ready flag first. -/
def transportError (code : ErrorCode) (message : String) (safeToRetry guided : Bool)
    (details : Json) : ToolError :=
  let error : ToolError :=
    { code := code
      message := message
      recoverable := code != .internal
      safeToRetry := safeToRetry
      details := details }
  if guided && error.outcomeUnknown then refreshBeforeRetry error else error

/-- The mutation has no usable operation identifier. -/
def operationIdRequired : ToolError where
  code := .invalidArgument
  message := "mutating tools require a valid UUID operation_id"
  recoverable := true
  safeToRetry := false
  details := .object [("field", .string "operation_id")]

/-- The arguments cannot be fingerprinted. -/
def fingerprintFailed : ToolError where
  code := .invalidArgument
  message := "tool arguments cannot be fingerprinted"
  recoverable := false
  safeToRetry := false
  details := .object []

/-- The ledger refused a change that it has to allow. -/
def ledgerInternalError : ToolError where
  code := .internal
  message := "mutation ledger failure"
  recoverable := false
  safeToRetry := false
  details := .object []

/-- The operation is still being carried out. -/
def alreadyInFlight (operation : Uuid) : ToolError :=
  ToolError.withGuidance
    { code := .busy
      message := "operation is already in flight"
      recoverable := true
      safeToRetry := true
      details := operationDetails operation }
    "Wait for the in-flight operation to finish, then retry with the same operation_id." []

/-- The outcome of the operation is unknown, and it is not sent again. -/
def unknownOutcome (operation : Uuid) : ToolError :=
  refreshBeforeRetry
    { code := .timeout
      message := "mutation outcome is unknown and will not be retried"
      recoverable := true
      safeToRetry := false
      details := unknownDetails operation }

/-- The operation was asked for with other arguments. -/
def operationIdConflict (operation : Uuid) : ToolError :=
  ToolError.withGuidance
    { code := .operationIdConflict
      message := "operation_id was already used with different arguments"
      recoverable := true
      safeToRetry := false
      details := operationDetails operation }
    "Use the original arguments, or use a new operation_id only for a distinct intended mutation."
    []

/-- The ledger takes no operation more. -/
def ledgerFull : ToolError :=
  ToolError.withGuidance
    { code := .busy
      message := "mutation operation ledger is full"
      recoverable := true
      safeToRetry := true
      details := .object [] }
    "Wait for admitted mutations to complete before retrying this request." []

/-! ## Plugin errors -/

/-- An error of the plugin. -/
structure IpcErrorBody where
  code : String
  message : String
  retryable : Bool
  details : Json

/-- What a response says. -/
inductive IpcOutcome where
  | ok (result : Json)
  | error (error : IpcErrorBody)

/-- A response of the plugin. -/
structure IpcResponse where
  requestId : Uuid
  stateGeneration : UInt64
  outcome : IpcOutcome

/-- Whether an error of the plugin is one to recover from. -/
def pluginErrorRecoverable (code : ErrorCode) (nativeRetryable : Bool) : Bool :=
  nativeRetryable || !(code == .internal || code == .unsupported)

/-- The message of the plugin moves into the details. -/
def pluginDetails (error : IpcErrorBody) : Json :=
  match error.details with
  | .object fields =>
      .object ((fields.filter fun field => field.1 != "debugger_message") ++
        [("debugger_message", .string error.message)])
  | details =>
      .object [("debugger_message", .string error.message), ("debugger_details", details)]

/-- The launch of a program information file. -/
def isPifLaunch (name : String) (arguments : Json) : Bool :=
  name == "debuggee.launch" &&
    ((arguments.get "path").bind Json.asStr).any fun path => path.toLower.endsWith ".pif"

/-- The advice that goes with an error of the plugin. -/
def applyPluginGuidance (error : ToolError) (name : String) (arguments : Json)
    (mutation : Bool) : ToolError :=
  if error.code = .timeout ∧ isPifLaunch name arguments = true then
    { error with
      suggestedAction := some
        "Rename a hash-identical analysis copy to .exe, record its provenance, and try again." }
  else if mutation && error.outcomeUnknown then refreshBeforeRetry error
  else
    match error.code with
    | .staleCursor =>
        { error with
          suggestedAction :=
            some "Restart the bounded discovery query without the stale cursor." }
    | .noDebuggee =>
        { error with
          suggestedAction :=
            some "Launch a binary or attach to a process before calling this tool." }
    | .invalidDebuggerState =>
        error.withGuidance
          "Call debugger.state and satisfy the tool's required state before retrying."
          [NextAction.ofTool "REFRESH_DEBUGGER_STATE" .suggested
            "Inspect the current debugger state before choosing the next operation."
            "debugger.state" (.object [])]
    | _ => error

/-- The outcome that a correlated response stands for. -/
def outcomeOf (name : String) (arguments : Json) (mutation : Bool) : IpcOutcome → Outcome
  | .ok result => .ok result
  | .error error =>
      let code := stableErrorCode error.code
      .error (applyPluginGuidance
        { code := code
          message := "debugger rejected the operation"
          recoverable := pluginErrorRecoverable code error.retryable
          safeToRetry := !mutation && error.retryable
          details := pluginDetails error }
        name arguments mutation)

/-! ## Recorded outcomes -/

/-- A text or null. -/
def optionalString : Option String → Json
  | none => .null
  | some text => .string text

/-- An outcome as the ledger keeps it. -/
def encodeRecorded : Outcome → Json
  | .ok value => .object [("ok", .bool true), ("result", value)]
  | .error error =>
      .object
        [("ok", .bool false),
          ("error", .object
            [("code", .string error.code.text), ("message", .string error.message),
              ("recoverable", .bool error.recoverable),
              ("safe_to_retry", .bool error.safeToRetry),
              ("suggested_action", optionalString error.suggestedAction),
              ("next_actions", .array (error.nextActions.map NextAction.toJson)),
              ("details", error.details)])]

/-- The outcome that the ledger has kept. -/
def decodeRecorded (value : Json) : Outcome :=
  match value.index "ok" with
  | .bool true => .ok (value.index "result")
  | _ =>
      let error := value.index "error"
      let nextActions :=
        (error.index "next_actions").asArray.bind fun items => items.mapM NextAction.fromJson
      .error
        { code := stableErrorCode ((error.index "code").asStr.getD "INTERNAL")
          message := "replayed debugger operation result"
          recoverable := (error.index "recoverable").asBool.getD false
          safeToRetry := (error.index "safe_to_retry").asBool.getD false
          suggestedAction := (error.index "suggested_action").asStr
          nextActions := nextActions.getD []
          details := error.index "details" }

end X64dbgMcp.Ipc
