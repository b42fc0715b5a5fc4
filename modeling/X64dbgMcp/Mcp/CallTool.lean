import X64dbgMcp.Collection.Fields
import X64dbgMcp.Ipc.Adapter
import X64dbgMcp.Tools.Validate

/-!
# From a tool call to a request

What `call_tool` hands to the adapter, and the request that the adapter writes to
the pipe.
-/

namespace X64dbgMcp.Mcp

open Text Tools Ipc Collection

/-- How deep arguments may be nested. -/
def maxJsonDepth : Nat := 32

/-- The longest text in arguments. -/
def maxJsonStringBytes : Nat := 8192

/-- The most items of an array or fields of an object. -/
def maxJsonContainerItems : Nat := 512

mutual

/-- The value and everything in it stays within the limits. -/
def withinJsonLimits (depth : Nat) : Json → Bool
  | .string value => depth ≤ maxJsonDepth && (utf8 value).length ≤ maxJsonStringBytes
  | .array values =>
      depth ≤ maxJsonDepth && values.length ≤ maxJsonContainerItems &&
        itemsWithinJsonLimits (depth + 1) values
  | .object values =>
      depth ≤ maxJsonDepth && values.length ≤ maxJsonContainerItems &&
        fieldsWithinJsonLimits (depth + 1) values
  | .null | .bool _ | .number _ => depth ≤ maxJsonDepth

/-- So does every item. -/
def itemsWithinJsonLimits (depth : Nat) : List Json → Bool
  | [] => true
  | value :: rest => withinJsonLimits depth value && itemsWithinJsonLimits depth rest

/-- So does every field, with its key. -/
def fieldsWithinJsonLimits (depth : Nat) : List (String × Json) → Bool
  | [] => true
  | (key, value) :: rest =>
      (utf8 key).length ≤ 128 && withinJsonLimits depth value && fieldsWithinJsonLimits depth rest

end

/-- Remove a key of an object. -/
def remove (value : Json) (key : String) : Json :=
  match value with
  | .object fields => .object (without fields key)
  | other => other

/-- The presentation options of a memory read stay in the sidecar. -/
def nativeArguments (arguments : Json) : Json :=
  remove (remove arguments "format") "byte_order"

/-- The arguments handed to the adapter, unless the sidecar answers the call itself
or the mutation names another backend instance. -/
def dispatchedArguments (parseUuid : String → Option Uuid) (instanceId : Uuid) (log : Bool)
    (name : String) (arguments : Json) : Option Json :=
  if name = "events.wait" ∧ log then none
  else if name = "logs.read" ∨ name = "logs.status" then none
  else
    let dispatched := if name = "memory.read" then nativeArguments arguments else arguments
    if isMutationCall name arguments then
      match ((arguments.get "instance_id").bind Json.asStr).bind parseUuid with
      | none => none
      | some supplied =>
          if supplied ≠ instanceId then none else some (remove dispatched "instance_id")
    else some dispatched

/-- The request of a call that reaches the pipe. -/
def ipcRequest (parseUuid : String → Option Uuid) (name : String) (arguments : Json)
    (requestId : Uuid) (deadlineUnixMs : UInt64) : Option IpcRequest :=
  if isMutationCall name arguments then
    match ((arguments.get "operation_id").bind Json.asStr).bind parseUuid with
    | none => none
    | some operation =>
        some (Call.request { name := name, arguments := arguments, operation := some (operation, "") }
          requestId deadlineUnixMs)
  else some (Call.request { name := name, arguments := arguments } requestId deadlineUnixMs)

/-- A request as a JSON value, in the order of its fields. -/
def requestJson (request : IpcRequest) : Json :=
  .object
    [("request_id", .string request.requestId.text),
      ("deadline_unix_ms", .number (.posInt request.deadlineUnixMs)),
      ("operation_id",
        match request.operationId with
        | none => .null
        | some operation => .string operation.text),
      ("method", .string request.method),
      ("payload", request.payload)]

end X64dbgMcp.Mcp
