import X64dbgMcp.Ipc.ToolError
import X64dbgMcp.Text.JsonWriter
import X64dbgMcp.Tools.Catalog

/-!
# Argument validation in the sidecar

One hand-written validator for each tool, over an object whose keys are distinct.
The first failed check is reported with its field and message.  The identifier
parser is a parameter.
-/

namespace X64dbgMcp.Tools

open Text Ipc

/-- Why arguments are refused, and which field is to blame. -/
structure ValidationError where
  field : String
  message : String
  deriving DecidableEq

/-- The fields of an object. -/
abbrev Object := List (String × Json)

/-- A value, or why it was refused. -/
abbrev Checked (α : Type) := Except ValidationError α

/-- The error of a field. -/
def invalid (field message : String) : ValidationError :=
  ⟨field, message⟩

/-- `ok_or`. -/
def okOr {α : Type} (value : Option α) (error : ValidationError) : Checked α :=
  match value with
  | some value => .ok value
  | none => .error error

/-- An early return of an error unless the condition holds. -/
def ensure (condition : Bool) (error : ValidationError) : Checked Unit :=
  if condition then .ok () else .error error

/-- The object has this field. -/
def containsKey (object : Object) (key : String) : Bool :=
  (object.lookup key).isSome

/-- The object has the required fields and no others than the optional. -/
def exactKeys (object : Object) (required optional : List String) : Checked Unit := do
  ensure (required.all (containsKey object)) (invalid "arguments" "a required field is missing")
  ensure (object.all fun field => required.contains field.1 || optional.contains field.1)
    (invalid "arguments" "contains an unknown field")

/-- A text with a length in these bounds. -/
def string (object : Object) (field : String) (min max : Nat) : Checked String :=
  okOr (((object.lookup field).bind Json.asStr).filter fun value =>
      min ≤ (utf8 value).length && (utf8 value).length ≤ max)
    (invalid field "has an invalid string value")

/-- A whole number in these bounds. -/
def integer (object : Object) (field : String) (min max : Nat) : Checked Unit :=
  okOr ((((object.lookup field).bind Json.asU64).filter fun value =>
      min ≤ value.toNat && value.toNat ≤ max).map fun _ => ())
    (invalid field "is outside its integer bounds")

/-- The same, unless the field is missing. -/
def optionalInteger (object : Object) (field : String) (min max : Nat) : Checked Unit :=
  match object.lookup field with
  | none => .ok ()
  | some _ => integer object field min max

/-- One of these texts. -/
def oneOf (object : Object) (field : String) (accepted : List String) : Checked Unit := do
  let value ← string object field 1 32
  ensure (accepted.contains value) (invalid field "is not an accepted enum value")

/-- One of these numbers. -/
def oneOfInteger (object : Object) (field : String) (accepted : List Nat) : Checked Unit :=
  okOr ((((object.lookup field).bind Json.asU64).filter fun value =>
      accepted.contains value.toNat).map fun _ => ())
    (invalid field "is not an accepted integer value")

/-- `0x` and lower-case hexadecimal digits. -/
def isHexText (value : String) : Bool :=
  (utf8 value).take 2 == [0x30, 0x78] && ((utf8 value).drop 2).all isLowerHex

/-- A hexadecimal text in lower case. -/
def validateHex (value field : String) : Checked Unit := do
  ensure (3 ≤ (utf8 value).length && (utf8 value).length ≤ 18)
    (invalid field "must be canonical lowercase hexadecimal")
  ensure (isHexText value) (invalid field "must be canonical lowercase hexadecimal")

/-- A control character is in the text. -/
def hasControl (value : String) : Bool :=
  value.toList.any isControl

section Identifiers

variable (parseUuid : String → Option Uuid)

/-- A UUID as it is printed. -/
def validateUuidField (object : Object) (field : String) : Checked Unit := do
  let id ← string object field 36 36
  let parsed ← okOr (parseUuid id) (invalid field "must be a UUID")
  ensure (parsed.text == id) (invalid field "must be a canonical lowercase UUID")

/-- The identifier of the operation. -/
def validateOperationId (object : Object) : Checked Unit :=
  validateUuidField parseUuid object "operation_id"

/-- The identifier of the instance. -/
def validateInstanceId (object : Object) : Checked Unit :=
  validateUuidField parseUuid object "instance_id"

/-- The fields of a mutation. -/
def operation (object : Object) (fields : List String) : Checked Unit := do
  ensure (containsKey object "operation_id") (invalid "operation_id" "must be a UUID")
  ensure (containsKey object "instance_id") (invalid "instance_id" "must be a UUID")
  exactKeys object ("operation_id" :: "instance_id" :: fields) []
  validateOperationId parseUuid object
  validateInstanceId parseUuid object

end Identifiers

/-- The code of an exception. -/
def validateExceptionCode (object : Object) : Checked Unit := do
  let code ← string object "code" 3 10
  validateHex code "code"
  ensure (fromStrRadix 16 (2 ^ 32) ((utf8 code).drop 2)).isSome
    (invalid "code" "must be a canonical 32-bit hexadecimal value")

/-- A hexadecimal text of at most so many digits. -/
def validateBoundedHexField (object : Object) (field : String) (digits : Nat) : Checked Unit := do
  let value ← string object field 3 (digits + 2)
  validateHex value field
  ensure (fromStrRadix 16 (2 ^ 64) ((utf8 value).drop 2)).isSome
    (invalid field "must be bounded canonical hexadecimal")

/-- A path. -/
def validatePath (object : Object) (field : String) : Checked Unit := do
  let value ← string object field 3 8192
  ensure (!hasControl value) (invalid field "must not contain control characters")

/-- The name of a module. -/
def validateModuleValue (value : Json) (field : String) : Checked Unit :=
  okOr ((value.asStr.filter fun value =>
      !(utf8 value).isEmpty && (utf8 value).length ≤ 260 && !hasControl value &&
        !value.toList.contains '/' && !value.toList.contains '\\').map fun _ => ())
    (invalid field "module must be a bounded module name")

/-- The same as a field. -/
def validateModuleName (object : Object) (field : String) : Checked Unit := do
  let value ← okOr (object.lookup field) (invalid field "module must be a bounded module name")
  validateModuleValue value field

/-- An address, plain or in a module. -/
def validateAddressRef (object : Object) (field : String) : Checked Unit := do
  let value ← okOr (object.lookup field) (invalid field "must be an address reference")
  match value.asStr with
  | some text => validateHex text field
  | none => do
      let reference ← okOr value.asObject (invalid field "must be an address reference")
      if reference.length = 1 && containsKey reference "absolute" then do
        let absolute ← okOr ((reference.lookup "absolute").bind Json.asStr)
          (invalid field "absolute must be canonical lowercase hexadecimal")
        validateHex absolute field
      else if reference.length = 2 && containsKey reference "module" &&
          containsKey reference "rva" then do
        validateModuleValue ((reference.lookup "module").getD .null) field
        let rva ← okOr ((reference.lookup "rva").bind Json.asStr)
          (invalid field "rva must be canonical lowercase hexadecimal")
        validateHex rva field
      else .error (invalid field "must contain only absolute or module and rva")

/-- A query of at most so many bytes. -/
def optionalQueryWithLimit (object : Object) (maxBytes : Nat) : Checked Unit :=
  match object.lookup "query" with
  | none => .ok ()
  | some value => do
      let query ← okOr (value.asStr.filter fun query =>
          !(utf8 query).isEmpty && (utf8 query).length ≤ maxBytes)
        (invalid "query" "must be a bounded UTF-8 string")
      ensure (!hasControl query) (invalid "query" "must not contain control characters")

/-- A query of the common length. -/
def optionalQuery (object : Object) : Checked Unit :=
  optionalQueryWithLimit object 256

/-- A field that is checked only when it is there. -/
def whenPresent (object : Object) (field : String) (check : Checked Unit) : Checked Unit :=
  if containsKey object field then check else .ok ()

/-- The cursor of a page. -/
def optionalCursor (object : Object) : Checked Unit :=
  whenPresent object "cursor" do
    let _ ← string object "cursor" 1 512
    pure ()

/-- The page of a listing that has other fields. -/
def discoveryPage (object : Object) : Checked Unit := do
  optionalInteger object "limit" 1 256
  optionalCursor object

/-- The page of a listing that has no others. -/
def page (object : Object) : Checked Unit := do
  exactKeys object [] ["limit", "cursor"]
  optionalInteger object "limit" 1 256
  optionalCursor object

/-- An instruction on one line. -/
def validateInstruction (object : Object) : Checked Unit := do
  let value ← string object "instruction" 1 128
  ensure ((utf8 value).all fun byte => 0x20 ≤ byte && byte ≤ 0x7e && byte != 0x3b)
    (invalid "instruction" "must be one printable ASCII instruction without semicolons")

/-- Whole bytes in lower-case hexadecimal. -/
def isByteHex (value : String) : Bool :=
  (utf8 value).length % 2 == 0 && (utf8 value).all isLowerHex

/-- The bytes of a patch. -/
def validateByteHex (object : Object) (field : String) : Checked Unit := do
  let value ← string object field 2 32
  ensure (isByteHex value) (invalid field "must contain 1 to 16 lowercase hexadecimal bytes")

/-- The number of a thread. -/
def validateThreadId (object : Object) : Checked Unit := do
  let value ← string object "thread_id" 3 10
  ensure (isHexText value &&
      (fromStrRadix 16 (2 ^ 32) ((utf8 value).drop 2)).any fun value => value != 0)
    (invalid "thread_id" "must be a canonical lowercase 32-bit hexadecimal value")

/-- The same, unless it is missing. -/
def optionalThreadId (object : Object) : Checked Unit :=
  whenPresent object "thread_id" (validateThreadId object)

/-- The value of a field, when there is one, is a boolean. -/
def optionalBoolean (object : Object) (field : String) : Checked Unit :=
  ensure ((object.lookup field).all fun value => value.asBool.isSome)
    (invalid field "must be a boolean")

/-- The kinds of events. -/
def eventTypes : List String :=
  ["debug_initialized", "process_created", "system_breakpoint", "breakpoint", "exception",
    "paused", "stepped", "resumed", "attached", "detached", "stopping", "process_exited",
    "debug_stopped", "thread_created", "thread_exited", "dll_loaded", "dll_unloaded",
    "debug_string", "rip"]

/-- The loop over the event types, with the names seen so far. -/
def validateEventTypes (seen : List String) : List Json → Checked Unit
  | [] => .ok ()
  | value :: rest => do
      let name ← okOr (value.asStr.filter eventTypes.contains)
        (invalid "types" "contains an unknown event type")
      ensure (!seen.contains name) (invalid "types" "must not contain duplicates")
      validateEventTypes (name :: seen) rest

/-- The kinds of events to look for. -/
def optionalTypes (object : Object) : Checked Unit :=
  match object.lookup "types" with
  | none => .ok ()
  | some types => do
      let values ← okOr (types.asArray.filter fun values =>
          !values.isEmpty && values.length ≤ 19)
        (invalid "types" "must contain 1 to 19 event types")
      validateEventTypes [] values

/-- A register name in a list of names. -/
def isRegisterName (value : Json) : Bool :=
  value.asStr.any fun name => !(utf8 name).isEmpty && (utf8 name).length ≤ 32

/-- The names are collected into a set and the sizes compared. -/
def uniqueStrings (values : List Json) : Bool :=
  (values.filterMap Json.asStr).dedup.length == values.length

/-- The registers that a snapshot shows. -/
def optionalSnapshotRegisters (object : Object) : Checked Unit :=
  match object.lookup "registers" with
  | none => .ok ()
  | some registers => do
      let registers ← okOr (registers.asArray.filter fun values =>
          1 ≤ values.length && values.length ≤ 16)
        (invalid "registers" "must contain 1 to 16 register names")
      ensure (registers.all isRegisterName)
        (invalid "registers" "contains an invalid register name")
      ensure (uniqueStrings registers) (invalid "registers" "register names must be unique")

/-- The registers to read. -/
def optionalRegisterNames (object : Object) : Checked Unit :=
  match object.lookup "names" with
  | none => .ok ()
  | some names => do
      let names ← okOr names.asArray (invalid "names" "must be an array")
      ensure (names.length ≤ 64 && names.all isRegisterName)
        (invalid "names" "contains too many or invalid register names")
      ensure (uniqueStrings names) (invalid "names" "register names must be unique")

/-- The registers that may be written. -/
def fullWidthRegisters : List String :=
  ["rax", "rbx", "rcx", "rdx", "rsi", "rdi", "rbp", "rsp", "rip", "r8", "r9", "r10", "r11",
    "r12", "r13", "r14", "r15", "eax", "ebx", "ecx", "edx", "esi", "edi", "ebp", "esp", "eip",
    "eflags"]

/-- The loop over the register overrides, with the names seen so far. -/
def validateOverrides (seen : List String) : List Json → Checked Unit
  | [] => .ok ()
  | value :: rest => do
      let override ← okOr value.asObject
        (invalid "register_overrides" "must contain only register override objects")
      exactKeys override ["name", "value"] []
      let name ← string override "name" 2 6
      ensure (fullWidthRegisters.contains name)
        (invalid "register_overrides" "contains an unsupported full-width register")
      ensure (!seen.contains name)
        (invalid "register_overrides" "register names must be unique")
      let text ← string override "value" 3 18
      ensure (isHexText text)
        (invalid "register_overrides" "values must be canonical lowercase hexadecimal")
      validateOverrides (name :: seen) rest

/-- The registers to write before the debuggee continues. -/
def optionalOverrides (object : Object) : Checked Unit :=
  match object.lookup "register_overrides" with
  | none => .ok ()
  | some overrides => do
      let overrides ← okOr (overrides.asArray.filter fun values =>
          1 ≤ values.length && values.length ≤ 4)
        (invalid "register_overrides" "must contain 1 to 4 register overrides")
      validateOverrides [] overrides

/-- The loop over the launch arguments; it returns their total length. -/
def validateLaunchArguments (total : Nat) : List Json → Checked Nat
  | [] => .ok total
  | argument :: rest => do
      let value ← okOr argument.asStr (invalid "arguments" "must contain only strings")
      ensure ((utf8 value).length ≤ 256 && !hasControl value)
        (invalid "arguments" "contains an oversized or control-character value")
      validateLaunchArguments (total + (utf8 value).length) rest

/-- The arguments of a launch. -/
def optionalLaunchArguments (object : Object) : Checked Unit :=
  match object.lookup "arguments" with
  | none => .ok ()
  | some arguments => do
      let arguments ← okOr (arguments.asArray.filter fun values => values.length ≤ 32)
        (invalid "arguments" "must contain at most 32 strings")
      let total ← validateLaunchArguments 0 arguments
      ensure (total ≤ 512) (invalid "arguments" "exceeds the 512-byte aggregate bound")

/-- The loop over the expressions; it returns their total length. -/
def validateExpressions (total : Nat) : List Json → Checked Nat
  | [] => .ok total
  | expression :: rest => do
      let value ← okOr (expression.asStr.filter fun value =>
          !(utf8 value).isEmpty && (utf8 value).length ≤ 1024)
        (invalid "expressions" "contains an invalid expression")
      ensure (!hasControl value) (invalid "expressions" "must not contain control characters")
      validateExpressions (total + (utf8 value).length) rest

/-- The expressions to evaluate. -/
def validateExpressionBatch (object : Object) : Checked Unit := do
  let expressions ← okOr (((object.lookup "expressions").bind Json.asArray).filter fun values =>
      !values.isEmpty && values.length ≤ 32)
    (invalid "expressions" "must contain 1 to 32 expressions")
  let total ← validateExpressions 0 expressions
  ensure (total ≤ 8192) (invalid "expressions" "exceeds the 8192-byte aggregate bound")

/-- The registers that a predicate may look at. -/
def portableRegisters : List String :=
  ["cax", "cbx", "ccx", "cdx", "csi", "cdi", "cbp", "csp", "cip"]

/-- A predicate of a condition. -/
def validatePredicate (value : Json) : Checked Unit := do
  let predicate ← okOr value.asObject
    (invalid "predicates" "must contain only predicate objects")
  let source ← string predicate "source" 8 10
  if source = "register" then do
    exactKeys predicate ["source", "register", "operator", "value"] []
    oneOf predicate "register" portableRegisters
    oneOf predicate "operator" ["eq", "ne", "lt", "le", "gt", "ge"]
    validateBoundedHexField predicate "value" 16
  else if source = "thread_id" then do
    exactKeys predicate ["source", "operator", "value"] []
    oneOf predicate "operator" ["eq", "ne"]
    validateBoundedHexField predicate "value" 8
  else if source = "hit_count" then do
    exactKeys predicate ["source", "operator", "value"] []
    oneOf predicate "operator" ["eq", "ne", "lt", "le", "gt", "ge", "multiple_of"]
    integer predicate "value" 1 4294967295
  else .error (invalid "source" "is not an accepted enum value")

/-- All of them. -/
def validatePredicates : List Json → Checked Unit
  | [] => .ok ()
  | value :: rest => do
      validatePredicate value
      validatePredicates rest

/-- A condition. -/
def validateConditionalSpec (object : Object) : Checked Unit := do
  let condition ← okOr ((object.lookup "condition").bind Json.asObject)
    (invalid "condition" "must be a bounded condition object")
  exactKeys condition ["mode", "predicates"] []
  oneOf condition "mode" ["all", "any"]
  let predicates ← okOr (((condition.lookup "predicates").bind Json.asArray).filter fun values =>
      1 ≤ values.length && values.length ≤ 4)
    (invalid "predicates" "must contain 1 to 4 predicates")
  validatePredicates predicates

/-- The fields of a hardware breakpoint. -/
def validateHardware (object : Object) : Checked Unit := do
  validateAddressRef object "address"
  oneOf object "access" ["execute", "write", "read_write"]
  oneOfInteger object "size" [1, 2, 4, 8]

/-- The fields of a memory breakpoint. -/
def validateMemoryBreakpoint (object : Object) : Checked Unit := do
  validateAddressRef object "address"
  oneOf object "access" ["access", "read", "write", "execute"]
  integer object "size" 1 65536

/-- The fields that select an exception breakpoint. -/
def validateExceptionSelector (object : Object) : Checked Unit := do
  validateExceptionCode object
  oneOf object "chance" ["first", "second", "both"]

/-- The breakpoint that is to be enabled or disabled. -/
def validateBreakpointSelector (parseUuid : String → Option Uuid) (arguments : Object) :
    Checked Unit := do
  let selector ← okOr ((arguments.lookup "selector").bind Json.asObject)
    (invalid "selector" "must be a typed breakpoint selector object")
  let kind ← okOr ((selector.lookup "kind").bind Json.asStr)
    (invalid "selector" "must contain a supported kind")
  if kind = "software" then do
    exactKeys selector ["kind", "address"] []
    validateAddressRef selector "address"
  else if kind = "hardware" then do
    exactKeys selector ["kind", "address", "access", "size"] []
    validateHardware selector
  else if kind = "memory" then do
    exactKeys selector ["kind", "address", "access", "size"] []
    validateMemoryBreakpoint selector
  else if kind = "conditional" then do
    exactKeys selector ["kind", "address", "managed_id"] []
    validateAddressRef selector "address"
    validateUuidField parseUuid selector "managed_id"
  else if kind = "exception" then do
    exactKeys selector ["kind", "code", "chance", "managed_id"] []
    validateExceptionSelector selector
    validateUuidField parseUuid selector "managed_id"
  else .error (invalid "selector" "must contain a supported kind")

/-- A symbol by its address or by its name. -/
def validateSymbolResolution (object : Object) : Checked Unit :=
  let byName := containsKey object "module" || containsKey object "name"
  let byAddress := containsKey object "address"
  if byName = byAddress then
    .error (invalid "arguments" "must contain exactly one of module/name or address")
  else if byAddress then do
    exactKeys object ["address"] []
    validateAddressRef object "address"
  else do
    exactKeys object ["module", "name"] []
    validateModuleName object "module"
    let name ← string object "name" 1 256
    ensure (!hasControl name) (invalid "name" "must not contain control characters")

/-- Where to search. -/
def validateScope (object : Object) : Checked Unit := do
  let scope ← okOr ((object.lookup "scope").bind Json.asObject)
    (invalid "scope" "must be a module or bounded range object")
  if containsKey scope "module" then do
    exactKeys scope ["module"] []
    validateModuleName scope "module"
  else do
    exactKeys scope ["start", "length"] []
    validateAddressRef scope "start"
    integer scope "length" 1 (16 * 1024 * 1024)

/-- What to search for. -/
def validatePattern (object : Object) : Checked Unit := do
  let pattern ← string object "pattern_hex" 2 128
  ensure (isByteHex pattern)
    (invalid "pattern_hex" "must contain 1 to 64 lowercase hexadecimal bytes")
  let mask ← string object "mask" 1 64
  ensure ((utf8 mask).length == (utf8 pattern).length / 2 &&
      (utf8 mask).all (fun byte => byte == 0x78 || byte == 0x3f) &&
      !(utf8 mask).all fun byte => byte == 0x3f)
    (invalid "mask" "must contain one x or ? per byte and at least one x")

/-- The unit of a presentation format in bytes. -/
def formatWidth (format : Option String) : Nat :=
  if format = some "word" ∨ format = some "wstr" then 2
  else if format = some "dword" then 4
  else if format = some "qword" then 8
  else 1

/-- How memory is shown. -/
def validateMemoryView (object : Object) : Checked Unit := do
  whenPresent object "format"
    (oneOf object "format" ["bytes", "word", "dword", "qword", "str", "wstr"])
  let format := (object.lookup "format").bind Json.asStr
  whenPresent object "byte_order" do
    ensure (format == some "word" || format == some "dword" || format == some "qword")
      (invalid "byte_order" "requires a numeric format")
    oneOf object "byte_order" ["little", "big"]
  ensure (((object.lookup "length").bind Json.asU64).any fun length =>
      length.toNat % formatWidth format == 0)
    (invalid "length" "must be a multiple of the format width in bytes")

/-- A text field, when there is one, is one of the accepted values. -/
def optionalOneOf (object : Object) (field : String) (accepted : List String)
    (message : String) : Checked Unit :=
  ensure ((object.lookup field).all fun value => value.asStr.any accepted.contains)
    (invalid field message)

/-- The calling conventions. -/
def conventions : List String :=
  ["auto", "windows_x64", "cdecl", "stdcall", "fastcall", "thiscall"]

/-- The generation of a configuration. -/
def validateConfigGeneration (object : Object) : Checked Unit := do
  let generation ← string object "expected_config_generation" 71 71
  ensure ((utf8 generation).take 7 == utf8 "sha256:" &&
      ((utf8 generation).drop 7).all fun byte =>
        isDigit 16 byte && !(0x41 ≤ byte && byte ≤ 0x5a))
    (invalid "expected_config_generation"
      "must be sha256 followed by 64 lowercase hexadecimal characters")

section Tools

variable (parseUuid : String → Option Uuid)

/-- A request about profiles. -/
def validateProfile (object : Object) : Checked Unit := do
  let action ← string object "action" 3 3
  if action = "get" then
    exactKeys object ["action"] []
  else if action = "set" then do
    exactKeys object
      ["action", "profile", "expected_config_generation", "operation_id", "instance_id"] []
    let _ ← string object "profile" 1 128
    validateConfigGeneration object
    validateOperationId parseUuid object
    validateInstanceId parseUuid object
  else .error (invalid "action" "must be get or set")

/-- What is to be launched. -/
def validateLaunchTargets (object : Object) : Checked Unit := do
  validateOperationId parseUuid object
  validateInstanceId parseUuid object
  validatePath object "path"
  whenPresent object "working_directory" (validatePath object "working_directory")

/-- A register and its value. -/
def validateRegisterWrite (object : Object) : Checked Unit := do
  let name ← string object "name" 2 6
  ensure (fullWidthRegisters.contains name)
    (invalid "name" "must be a supported full-width register")
  let value ← string object "value" 3 18
  ensure (isHexText value) (invalid "value" "must be canonical lowercase hexadecimal")

/-- The bytes of a patch, before and after. -/
def validatePatchPair (object : Object) : Checked Unit := do
  validateByteHex object "expected_patched_bytes_hex"
  validateByteHex object "expected_original_bytes_hex"
  let patched ← okOr ((object.lookup "expected_patched_bytes_hex").bind Json.asStr)
    (invalid "expected_patched_bytes_hex" "has an invalid string value")
  let original ← okOr ((object.lookup "expected_original_bytes_hex").bind Json.asStr)
    (invalid "expected_original_bytes_hex" "has an invalid string value")
  ensure ((utf8 patched).length == (utf8 original).length && patched != original)
    (invalid "expected_original_bytes_hex"
      "must have equal length and differ from patched bytes")

/-- The bytes to write. -/
def validateData (object : Object) : Checked Unit := do
  let data ← string object "data_hex" 2 8192
  ensure (isByteHex data)
    (invalid "data_hex" "must contain 1 to 4096 lowercase hexadecimal bytes")

/-- An expression. -/
def validateExpression (object : Object) : Checked Unit := do
  let expression ← string object "expression" 1 1024
  ensure (!hasControl expression) (invalid "expression" "must not contain control characters")

/-- Text around a match is only for a query. -/
def validateContext (object : Object) : Checked Unit :=
  ensure (!(containsKey object "context_bytes" && !containsKey object "query"))
    (invalid "context_bytes" "requires query")

/-- The validator of one tool. -/
def validateTool (object : Object) : Tool → Checked Unit
  | .eventsList => do
      exactKeys object [] ["cursor", "types", "limit"]
      discoveryPage object
      optionalTypes object
  | .eventsWait => do
      exactKeys object [] ["types", "timeout_ms"]
      optionalInteger object "timeout_ms" 1 9000
      optionalTypes object
  | .logsRead => do
      exactKeys object [] ["cursor", "limit", "max_bytes"]
      discoveryPage object
      optionalInteger object "limit" 1 100
      optionalInteger object "max_bytes" 1024 262144
  | .debuggerSnapshot => do
      exactKeys object [] ["registers", "disassembly_count", "thread_id"]
      optionalThreadId object
      optionalSnapshotRegisters object
      optionalInteger object "disassembly_count" 0 64
  | .debuggerWaitForPause => do
      exactKeys object ["after_generation"] ["timeout_ms"]
      integer object "after_generation" 0 9007199254740991
      optionalInteger object "timeout_ms" 1 9000
  | .debuggerRunToAddress => do
      exactKeys object ["operation_id", "instance_id", "address"] ["timeout_ms"]
      validateOperationId parseUuid object
      validateInstanceId parseUuid object
      validateAddressRef object "address"
      optionalInteger object "timeout_ms" 100 20000
  | .debuggerPause | .debuggerResume | .debuggerStepOut | .debuggerStop | .debuggeeDetach =>
      operation parseUuid object []
  | .debuggerStepInto | .debuggerStepOver => do
      exactKeys object ["operation_id", "instance_id"] ["thread_id"]
      validateOperationId parseUuid object
      validateInstanceId parseUuid object
      optionalThreadId object
  | .debuggerContinueException => do
      exactKeys object ["operation_id", "instance_id", "disposition"] ["register_overrides"]
      validateOperationId parseUuid object
      validateInstanceId parseUuid object
      oneOf object "disposition" ["handled", "not_handled"]
      optionalOverrides object
  | .debuggeeLaunch => do
      ensure (containsKey object "operation_id") (invalid "operation_id" "must be a UUID")
      ensure (containsKey object "instance_id") (invalid "instance_id" "must be a UUID")
      exactKeys object ["operation_id", "instance_id", "path"] ["working_directory", "arguments"]
      validateLaunchTargets parseUuid object
      optionalLaunchArguments object
  | .debuggeeLaunchDll => do
      exactKeys object ["operation_id", "instance_id", "path"] ["working_directory"]
      validateLaunchTargets parseUuid object
  | .debuggeeAttach => do
      operation parseUuid object ["process_id"]
      integer object "process_id" 1 4294967295
  | .traceStart => do
      operation parseUuid object ["mode", "max_steps", "timeout_ms"]
      oneOf object "mode" ["into", "over"]
      integer object "max_steps" 1 4096
      integer object "timeout_ms" 100 30000
  | .traceStatus => do
      exactKeys object ["trace_id"] []
      validateUuidField parseUuid object "trace_id"
  | .traceCancel => do
      operation parseUuid object ["trace_id"]
      validateUuidField parseUuid object "trace_id"
  | .traceResults => do
      exactKeys object ["trace_id"] ["limit", "cursor"]
      validateUuidField parseUuid object "trace_id"
      discoveryPage object
  | .scyllahideProfile => validateProfile parseUuid object
  | .registersRead => do
      exactKeys object [] ["names", "thread_id"]
      optionalThreadId object
      optionalRegisterNames object
  | .registersWrite => do
      exactKeys object ["operation_id", "instance_id", "name", "value"] ["thread_id"]
      validateOperationId parseUuid object
      validateInstanceId parseUuid object
      optionalThreadId object
      validateRegisterWrite object
  | .addressResolve | .functionsAt => do
      exactKeys object ["address"] []
      validateAddressRef object "address"
  | .memoryRead => do
      exactKeys object ["address", "length"] ["format", "byte_order"]
      validateAddressRef object "address"
      integer object "length" 1 65536
      validateMemoryView object
  | .memoryDump => do
      exactKeys object ["operation_id", "instance_id", "address", "length", "path"] ["overwrite"]
      validateOperationId parseUuid object
      validateInstanceId parseUuid object
      validateAddressRef object "address"
      integer object "length" 1 67108864
      validatePath object "path"
      optionalBoolean object "overwrite"
  | .memorySearch => do
      exactKeys object ["scope", "pattern_hex", "mask"] ["limit", "cursor"]
      validateScope object
      validatePattern object
      discoveryPage object
  | .memoryWrite => do
      operation parseUuid object ["address", "data_hex"]
      validateAddressRef object "address"
      validateData object
  | .memoryMap => do
      exactKeys object []
        ["module", "committed_only", "executable_only", "compact", "limit", "cursor"]
      whenPresent object "module" (validateModuleName object "module")
      optionalBoolean object "committed_only"
      optionalBoolean object "executable_only"
      optionalBoolean object "compact"
      discoveryPage object
  | .modulesList | .threadsList | .breakpointsList => page object
  | .callstackRead => do
      exactKeys object [] ["thread_id", "limit"]
      optionalThreadId object
      optionalInteger object "limit" 1 50
  | .patchesList => do
      exactKeys object [] ["module", "limit", "cursor"]
      whenPresent object "module" (validateModuleName object "module")
      discoveryPage object
  | .symbolsResolve => validateSymbolResolution object
  | .analysisFunction | .breakpointsSet | .breakpointsRemove => do
      operation parseUuid object ["address"]
      validateAddressRef object "address"
  | .breakpointsHardwareSet | .breakpointsHardwareRemove => do
      operation parseUuid object ["address", "access", "size"]
      validateHardware object
  | .breakpointsMemorySet | .breakpointsMemoryRemove => do
      operation parseUuid object ["address", "access", "size"]
      validateMemoryBreakpoint object
  | .breakpointsExceptionSet => do
      operation parseUuid object ["code", "chance"]
      validateExceptionSelector object
  | .breakpointsExceptionRemove => do
      operation parseUuid object ["code", "chance", "managed_id"]
      validateExceptionSelector object
      validateUuidField parseUuid object "managed_id"
  | .breakpointsConditionalSet => do
      operation parseUuid object ["address", "condition"]
      validateAddressRef object "address"
      validateConditionalSpec object
  | .breakpointsConditionalRemove => do
      operation parseUuid object ["address", "managed_id"]
      validateAddressRef object "address"
      validateUuidField parseUuid object "managed_id"
  | .breakpointsEnable | .breakpointsDisable => do
      operation parseUuid object ["selector"]
      validateBreakpointSelector parseUuid object
  | .assemblyPreview => do
      exactKeys object ["address", "instruction"] []
      validateAddressRef object "address"
      validateInstruction object
  | .assemblyPatch => do
      operation parseUuid object ["address", "instruction", "expected_bytes_hex", "fill_nop"]
      validateAddressRef object "address"
      validateInstruction object
      validateByteHex object "expected_bytes_hex"
      ensure ((object.lookup "fill_nop").any fun value => value.asBool.isSome)
        (invalid "fill_nop" "must be a boolean")
  | .patchesRestore => do
      operation parseUuid object
        ["address", "expected_patched_bytes_hex", "expected_original_bytes_hex"]
      validateAddressRef object "address"
      validatePatchPair object
  | .disassemblyRead => do
      exactKeys object ["address"] ["count"]
      validateAddressRef object "address"
      optionalInteger object "count" 1 256
  | .symbolsSearch | .functionsList => do
      exactKeys object ["module"] ["query", "limit", "cursor"]
      validateModuleName object "module"
      optionalQuery object
      discoveryPage object
  | .importsList | .exportsList | .sectionsList => do
      exactKeys object ["module"] ["query", "limit", "cursor"]
      validateModuleName object "module"
      optionalQueryWithLimit object 128
      discoveryPage object
  | .stringsSearch => do
      exactKeys object ["module"]
        ["query", "min_length", "encoding", "context_bytes", "limit", "cursor"]
      validateModuleName object "module"
      optionalQuery object
      optionalInteger object "min_length" 4 256
      optionalInteger object "context_bytes" 0 128
      validateContext object
      optionalOneOf object "encoding" ["ascii_utf8", "utf16le", "both"]
        "must be ascii_utf8, utf16le, or both"
      discoveryPage object
  | .referencesTo => do
      exactKeys object ["address"] ["limit", "cursor"]
      validateAddressRef object "address"
      discoveryPage object
  | .expressionEvaluate => do
      exactKeys object ["expression"] []
      validateExpression object
  | .expressionsEvaluateBatch => do
      exactKeys object ["expressions"] []
      validateExpressionBatch object
  | .debuggerState | .processPeb | .logsStatus => exactKeys object [] []
  | .contextArguments => do
      exactKeys object [] ["count", "calling_convention", "thread_id"]
      optionalInteger object "count" 1 16
      optionalOneOf object "calling_convention" conventions "contains an unsupported convention"
      optionalThreadId object

/-- The arguments of a tool. -/
def validateArguments (name : String) (arguments : Json) : Checked Unit := do
  let object ← okOr arguments.asObject (invalid "arguments" "must be an object")
  match Tool.ofName name with
  | some tool => validateTool parseUuid object tool
  | none => .error (invalid "name" "unknown tool")

end Tools

end X64dbgMcp.Tools
