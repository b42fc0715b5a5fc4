import X64dbgMcp.Plugin.Policy
import X64dbgMcp.Runtime.EventLog
import X64dbgMcp.Tools.Catalog

/-!
# Requests as the plugin reads them

`ParseRequest` checks an envelope of five fields and then the payload of each
method by hand: how many fields there are, their types and their bounds.  A null
pointer of the JSON library is a missing value.  Texts are kept as texts; their
lengths are those of their bytes.  The JSON reader is a parameter.
-/

namespace X64dbgMcp.Plugin

open Text Tools
open X64dbgMcp.Runtime (EventKind)

/-- The fields of a request. -/
abbrev Payload := List (String × Json)

/-- How an address is given. -/
inductive AddressReferenceKind where
  | absolute
  | moduleRva
  deriving DecidableEq

/-- An address as a request gives it. -/
structure AddressReference where
  kind : AddressReferenceKind := .absolute
  absolute : Nat := 0
  module : String := ""
  rva : Nat := 0
  pointerWidthValid : Bool := true
  deriving DecidableEq

/-- A register and what to write to it. -/
structure RegisterAssignment where
  name : String
  value : Nat
  deriving DecidableEq

/-- A request that was read, with its defaults. -/
structure Request where
  requestId : String
  method : String
  deadlineUnixMs : Nat
  mutation : Bool
  expression : String := ""
  path : String := ""
  workingDirectory : String := ""
  launchArguments : List String := []
  targetProcessId : Nat := 0
  address : AddressReference := {}
  length : Nat := 0
  registerNames : List String := []
  pageLimit : Nat := 100
  cursorGeneration : Option Nat := none
  cursorIndex : Nat := 0
  instructionCount : Nat := 32
  writeBytes : List UInt8 := []
  afterGeneration : Nat := 0
  waitTimeoutMs : Nat := 5000
  module : String := ""
  query : String := ""
  stringEncoding : String := "both"
  minStringLength : Nat := 4
  stringContextBytes : Nat := 64
  cursorFingerprint : Option Nat := none
  discoveryCursorInvalid : Bool := false
  committedOnly : Bool := false
  executableOnly : Bool := false
  compact : Bool := false
  registerName : String := ""
  registerWriteValue : Nat := 0
  breakpointKind : String := ""
  breakpointAccess : String := ""
  breakpointSize : Nat := 0
  instruction : String := ""
  expectedBytes : List UInt8 := []
  expectedOriginalBytes : List UInt8 := []
  fillNop : Bool := false
  addressProvided : Bool := false
  targetThreadId : Option Nat := none
  symbolName : String := ""
  cursorSnapshotFingerprint : Option Nat := none
  eventCursor : String := ""
  eventTypes : List EventKind := []
  operationId : String := ""
  runToTimeoutMs : Nat := 9000
  memorySearchModuleScope : Bool := false
  memoryPattern : MemoryPattern := {}
  exceptionCode : Nat := 0
  exceptionChance : String := ""
  managedBreakpointId : String := ""
  conditionalSpec : ConditionalSpec := {}
  conditionalExpression : String := ""
  conditionalInvalid : Bool := false
  traceId : String := ""
  traceMode : String := ""
  traceMaxSteps : Nat := 0
  traceTimeoutMs : Nat := 0
  traceCursorInvalid : Bool := false
  expressions : List String := []
  callingConvention : String := "auto"
  argumentCount : Nat := 8
  scyllaAction : String := ""
  scyllaProfile : String := ""
  expectedConfigGeneration : String := ""
  exceptionDisposition : String := ""
  exceptionRegisterOverrides : List RegisterAssignment := []
  overwrite : Bool := false

/-- The method may change something. -/
def isMutation (method : String) : Bool :=
  (Tool.ofName method).any fun
    | .debuggerPause | .debuggerResume | .debuggerContinueException | .debuggerStepInto
    | .debuggerStepOver | .debuggerStepOut | .debuggerRunToAddress | .registersWrite
    | .debuggerStop | .memoryWrite | .memoryDump | .breakpointsSet | .breakpointsRemove
    | .breakpointsHardwareSet | .breakpointsHardwareRemove | .breakpointsMemorySet
    | .breakpointsMemoryRemove | .breakpointsExceptionSet | .breakpointsExceptionRemove
    | .breakpointsConditionalSet | .breakpointsConditionalRemove | .breakpointsEnable
    | .breakpointsDisable | .assemblyPatch | .patchesRestore | .debuggeeLaunch
    | .debuggeeLaunchDll | .debuggeeAttach | .debuggeeDetach | .analysisFunction | .traceStart
    | .traceCancel => true
    | _ => false

/-- The method lists page by page. -/
def isPageMethod (method : String) : Bool :=
  (Tool.ofName method).any fun
    | .modulesList | .threadsList | .breakpointsList => true
    | _ => false

section Fields

/-- A string value. -/
def textOf (value : Option Json) : Option String :=
  value.bind Json.asStr

/-- An integer value. -/
def integerOf : Option Json → Option Int
  | some (.number (.posInt value)) => some value.toNat
  | some (.number (.negInt value)) => some value.toInt
  | _ => none

/-- A whole number in these bounds. -/
def integerIn (value : Option Json) (low high : Nat) : Option Nat :=
  match integerOf value with
  | some number => if (low : Int) ≤ number ∧ number ≤ high then some number.toNat else none
  | none => none

/-- An integer, or what stands for a missing one. -/
def integerOr (value : Option Json) (low high default : Nat) : Option Nat :=
  if value.isNone then some default else integerIn value low high

/-- A text with a length in these bounds. -/
def textIn (value : Option Json) (low high : Nat) : Option String := do
  let text ← textOf value
  require (low ≤ (utf8 text).length ∧ (utf8 text).length ≤ high)
  pure text

/-- A check that a missing value passes. -/
def unlessMissing {α : Type} (value : Option Json) (default : α) (read : Option α) : Option α :=
  if value.isNone then some default else read

/-- What a field adds to the number of fields that is expected. -/
def counted (value : Option Json) : Nat :=
  value.isSome.toNat

/-- No byte is a control character. -/
def isPlain (text : String) : Bool :=
  (utf8 text).all fun byte => !(byte < 0x20 || byte == 0x7f)

/-- A hexadecimal text with nothing but its digits. -/
def isCanonicalHex (value : Option Json) : Bool :=
  (textOf value).any fun text =>
    (utf8 text).take 2 == [0x30, 0x78] && 3 ≤ (utf8 text).length && (utf8 text).length ≤ 34 &&
      ((utf8 text).drop 2).all isLowerHex

/-- Canonical hexadecimal of at most `maxBytes` characters, below a limit. -/
def parseCanonicalHexBelow (maxBytes limit : Nat) (value : Option Json) : Option Nat := do
  let text ← textOf value
  require (isCanonicalHex value ∧ (utf8 text).length ≤ maxBytes)
  fromCharsAll 16 limit ((utf8 text).drop 2)

/-- Read such a text as an address of the debuggee. -/
def parseCanonicalHex (build : Build) (value : Option Json) : Option Nat :=
  parseCanonicalHexBelow (build.pointerBytes * 2 + 2) build.limit value

/-- Read such a text as a number of 64 bits. -/
def parseCanonicalHex64 (value : Option Json) : Option Nat :=
  parseCanonicalHexBelow 18 (2 ^ 64) value

/-- The 32-bit identifier of a thread. -/
def parseThreadId (value : Option Json) : Option (Option Nat) :=
  unlessMissing value none do
    let thread ← parseCanonicalHex64 value
    require (thread ≠ 0 ∧ thread ≤ 0xffffffff)
    pure (some thread)

/-- A name that a module may have. -/
def isBoundedModuleName (value : Option Json) : Bool :=
  (textOf value).any fun text =>
    (utf8 text).length != 0 && (utf8 text).length ≤ 260 &&
      (utf8 text).all fun byte =>
        !(byte < 0x20 || byte == 0x7f || byte == 0x2f || byte == 0x5c)

/-- Read the name of a module. -/
def parseModuleName (value : Option Json) : Option String := do
  require (isBoundedModuleName value)
  textOf value

/-- Read a plain address, which may be too wide. -/
def parseAbsolute (build : Build) (value : Option Json) : AddressReference :=
  match parseCanonicalHex build value with
  | some absolute => { absolute := absolute }
  | none => { pointerWidthValid := false }

/-- Read an address, plain or in a module. -/
def parseAddressReference (build : Build) (value : Option Json) : Option AddressReference :=
  if isCanonicalHex value then some (parseAbsolute build value)
  else do
    let reference ← value.bind Json.asObject
    if reference.length = 1 then do
      require (isCanonicalHex (reference.lookup "absolute"))
      pure (parseAbsolute build (reference.lookup "absolute"))
    else do
      require (reference.length = 2)
      let module ← parseModuleName (reference.lookup "module")
      require (isCanonicalHex (reference.lookup "rva"))
      let rva := parseCanonicalHex build (reference.lookup "rva")
      pure { kind := .moduleRva
             module := module
             rva := rva.getD 0
             pointerWidthValid := rva.isSome }

/-- A text that a path may be. -/
def isBoundedPathString (value : Option Json) : Bool :=
  (textOf value).any fun text =>
    3 ≤ (utf8 text).length && (utf8 text).length ≤ 32767 && isPlain text

/-- Read a path. -/
def parsePath (value : Option Json) : Option String := do
  require (isBoundedPathString value)
  textOf value

/-- A kind of event as a request names it. -/
def eventKindName : EventKind → String
  | .debugInitialized => "debug_initialized"
  | .processCreated => "process_created"
  | .systemBreakpoint => "system_breakpoint"
  | .breakpoint => "breakpoint"
  | .exception => "exception"
  | .paused => "paused"
  | .stepped => "stepped"
  | .resumed => "resumed"
  | .attached => "attached"
  | .detached => "detached"
  | .stopping => "stopping"
  | .processExited => "process_exited"
  | .debugStopped => "debug_stopped"
  | .threadCreated => "thread_created"
  | .threadExited => "thread_exited"
  | .dllLoaded => "dll_loaded"
  | .dllUnloaded => "dll_unloaded"
  | .debugString => "debug_string"
  | .rip => "rip"

/-- Read a kind of event. -/
def parseEventKind (value : String) : Option EventKind :=
  [.debugInitialized, .processCreated, .systemBreakpoint, .breakpoint, .exception, .paused,
    .stepped, .resumed, .attached, .detached, .stopping, .processExited, .debugStopped,
    .threadCreated, .threadExited, .dllLoaded, .dllUnloaded, .debugString,
    EventKind.rip].find? fun kind => eventKindName kind == value

/-- The loop over the event types, with the kinds read so far. -/
def parseEventTypes (known : List EventKind) : List Json → Option (List EventKind)
  | [] => some known
  | value :: rest => do
      let text ← value.asStr
      let kind ← parseEventKind text
      require (kind ∉ known)
      parseEventTypes (known ++ [kind]) rest

/-- Read the kinds of events to look for. -/
def parseTypes (value : Option Json) : Option (List EventKind) :=
  unlessMissing value [] do
    let types ← value.bind Json.asArray
    require (1 ≤ types.length ∧ types.length ≤ 19)
    parseEventTypes [] types

/-- The loop over register names, with the names read so far. -/
def parseRegisterNames (known : List String) : List Json → Option (List String)
  | [] => some known
  | value :: rest => do
      let name ← textIn (some value) 1 32
      require (name ∉ known)
      parseRegisterNames (known ++ [name]) rest

/-- Read the names of registers. -/
def parseNames (value : Option Json) (low high : Nat) : Option (List String) :=
  unlessMissing value [] do
    let names ← value.bind Json.asArray
    require (low ≤ names.length ∧ names.length ≤ high)
    parseRegisterNames [] names

/-- The loop over launch arguments, with their total length. -/
def parseLaunchArguments (totalBytes : Nat) : List Json → Option (List String)
  | [] => some []
  | value :: rest => do
      let argument ← value.asStr
      require (validLaunchArgumentText argument ∧
        (utf8 argument).length ≤ maxLaunchArgumentTotalBytes - totalBytes)
      let arguments ← parseLaunchArguments (totalBytes + (utf8 argument).length) rest
      pure (argument :: arguments)

/-- The loop over expressions, with their total length. -/
def parseExpressions (totalBytes : Nat) : List Json → Option (List String)
  | [] => some []
  | value :: rest => do
      let expression ← textIn (some value) 1 1024
      require (isPlain expression ∧ (utf8 expression).length ≤ 8192 - totalBytes)
      let expressions ← parseExpressions (totalBytes + (utf8 expression).length) rest
      pure (expression :: expressions)

/-- The loop over register overrides, with the assignments read so far. -/
def parseOverrides (known : List RegisterAssignment) :
    List Json → Option (List RegisterAssignment)
  | [] => some known
  | value :: rest => do
      let override ← value.asObject
      require (override.length = 2)
      let name ← textIn (override.lookup "name") 2 6
      let number ← parseCanonicalHex64 (override.lookup "value")
      require (∀ assignment ∈ known, assignment.name ≠ name)
      parseOverrides (known ++ [⟨name, number⟩]) rest

/-- Read a predicate. -/
def parsePredicate (value : Json) : Option ConditionalPredicate := do
  let predicate ← value.asObject
  let source ← textOf (predicate.lookup "source")
  let operator ← textOf (predicate.lookup "operator")
  let operation ← parseConditionalOperator operator
  if source = "register" then do
    require (predicate.length = 4)
    let register ← textOf (predicate.lookup "register")
    let number ← parseCanonicalHex64 (predicate.lookup "value")
    pure { source := .registerValue, operation := operation, registerName := register,
           value := number }
  else if source = "thread_id" then do
    require (predicate.length = 3)
    let number ← parseCanonicalHex64 (predicate.lookup "value")
    pure { source := .threadId, operation := operation, value := number }
  else if source = "hit_count" then do
    require (predicate.length = 3)
    let number ← integerIn (predicate.lookup "value") 1 0xffffffff
    pure { source := .hitCount, operation := operation, value := number }
  else none

/-- Read all predicates. -/
def parsePredicates : List Json → Option (List ConditionalPredicate)
  | [] => some []
  | value :: rest => do
      let predicate ← parsePredicate value
      let predicates ← parsePredicates rest
      pure (predicate :: predicates)

/-- Read how predicates are joined. -/
def parseConditionalMode (value : String) : Option ConditionalMode :=
  if value = "all" then some .all else if value = "any" then some .any else none

/-- Read a condition. -/
def parseCondition (value : Option Json) : Option ConditionalSpec := do
  let condition ← value.bind Json.asObject
  require (condition.length = 2)
  let modeText ← textOf (condition.lookup "mode")
  let values ← (condition.lookup "predicates").bind Json.asArray
  require (1 ≤ values.length ∧ values.length ≤ 4)
  let mode ← parseConditionalMode modeText
  let predicates ← parsePredicates values
  pure { mode := mode, predicates := predicates }

/-- A managed identifier of a family of breakpoints. -/
def parseManagedId (family : String) (value : Option Json) : Option String := do
  let managed ← textOf value
  require (managedBreakpointName family managed ≠ "")
  pure managed

/-- Read the code of an exception. -/
def parseExceptionCode (value : Option Json) : Option Nat := do
  let code ← parseCanonicalHex64 value
  require (code ≤ 0xffffffff)
  pure code

/-- Read the chance of an exception. -/
def parseChance (value : Option Json) : Option String := do
  let chance ← textOf value
  require (parseExceptionChance chance).isSome
  pure chance

/-- One of the listed texts. -/
def parseOneOf (value : Option Json) (accepted : List String) : Option String := do
  let text ← textOf value
  require (text ∈ accepted)
  pure text

/-- Read a UUID as a text. -/
def parseUuidText (value : Option Json) : Option String := do
  let text ← textOf value
  require (isUuid (utf8 text))
  pure text

/-- A boolean value. -/
def booleanOf (value : Option Json) : Option Bool :=
  value.bind Json.asBool

end Fields

section Methods

variable (build : Build) (payload : Payload) (request : Request)

/-- The operation identifier in the payload is a string. -/
def hasOperationId : Bool :=
  (textOf (payload.lookup "operation_id")).isSome

/-- `scyllahide.profile` -/
def parseScyllahideProfile : Option Request := do
  let action ← textOf (payload.lookup "action")
  if action = "get" then do
    require (payload.length = 1)
    pure { request with scyllaAction := action }
  else if action = "set" then do
    require (payload.length = 4 ∧ hasOperationId payload)
    let profile ← textIn (payload.lookup "profile") 1 128
    let generation ← textIn (payload.lookup "expected_config_generation") 71 71
    require ((utf8 generation).take 7 = utf8 "sha256:" ∧
      ((utf8 generation).drop 7).all isLowerHex)
    pure { request with scyllaAction := action, scyllaProfile := profile,
                        expectedConfigGeneration := generation }
  else none

/-- A method without fields. -/
def parseNoFields : Option Request := do
  require (payload.length = 0)
  pure request

/-- `events.list` -/
def parseEventsList : Option Request := do
  let cursor := payload.lookup "cursor"
  let types := payload.lookup "types"
  let limit := payload.lookup "limit"
  require (payload.length = counted cursor + counted types + counted limit)
  let eventCursor ← unlessMissing cursor "" (textIn cursor 1 512)
  let eventTypes ← parseTypes types
  let pageLimit ← integerOr limit 1 256 request.pageLimit
  pure { request with eventCursor := eventCursor, eventTypes := eventTypes,
                      pageLimit := pageLimit }

/-- `events.wait` -/
def parseEventsWait : Option Request := do
  let types := payload.lookup "types"
  let timeout := payload.lookup "timeout_ms"
  require (payload.length = counted timeout + counted types)
  let eventTypes ← parseTypes types
  let waitTimeoutMs ← integerOr timeout 1 9000 request.waitTimeoutMs
  pure { request with eventTypes := eventTypes, waitTimeoutMs := waitTimeoutMs }

/-- `debugger.snapshot` -/
def parseSnapshot : Option Request := do
  let registers := payload.lookup "registers"
  let count := payload.lookup "disassembly_count"
  let thread := payload.lookup "thread_id"
  require (payload.length = counted registers + counted count + counted thread)
  let registerNames ← parseNames registers 1 16
  let instructionCount ← integerOr count 0 64 8
  let targetThreadId ← parseThreadId thread
  pure { request with registerNames := registerNames, instructionCount := instructionCount,
                      targetThreadId := targetThreadId }

/-- `debugger.wait_for_pause` -/
def parseWaitForPause : Option Request := do
  let timeout := payload.lookup "timeout_ms"
  require (payload.length = if timeout.isNone then 1 else 2)
  let afterGeneration ← integerIn (payload.lookup "after_generation") 0 9007199254740991
  let waitTimeoutMs ← integerOr timeout 1 9000 request.waitTimeoutMs
  pure { request with afterGeneration := afterGeneration, waitTimeoutMs := waitTimeoutMs }

/-- `debuggee.launch` -/
def parseLaunch : Option Request := do
  let directory := payload.lookup "working_directory"
  let arguments := payload.lookup "arguments"
  require (payload.length = 2 + counted directory + counted arguments)
  require (hasOperationId payload)
  let path ← parsePath (payload.lookup "path")
  let workingDirectory ← unlessMissing directory "" (parsePath directory)
  let launchArguments ← unlessMissing arguments [] do
    let values ← arguments.bind Json.asArray
    require (values.length ≤ maxLaunchArguments)
    parseLaunchArguments 0 values
  pure { request with path := path, workingDirectory := workingDirectory,
                      launchArguments := launchArguments }

/-- `debuggee.launch_dll` -/
def parseLaunchDll : Option Request := do
  let directory := payload.lookup "working_directory"
  require (payload.length = 2 + counted directory)
  require (hasOperationId payload)
  let path ← parsePath (payload.lookup "path")
  let workingDirectory ← unlessMissing directory "" (parsePath directory)
  pure { request with path := path, workingDirectory := workingDirectory }

/-- `debuggee.attach` -/
def parseAttach : Option Request := do
  require (payload.length = 2 ∧ hasOperationId payload)
  let process ← integerIn (payload.lookup "process_id") 1 4294967295
  pure { request with targetProcessId := process }

/-- `debuggee.detach` -/
def parseDetach : Option Request := do
  require (payload.length = 1 ∧ hasOperationId payload)
  pure request

/-- `trace.start` -/
def parseTraceStart : Option Request := do
  require (payload.length = 4 ∧ hasOperationId payload)
  let maxSteps ← integerIn (payload.lookup "max_steps") 1 4096
  let timeout ← integerIn (payload.lookup "timeout_ms") 100 30000
  let mode ← parseOneOf (payload.lookup "mode") ["into", "over"]
  pure { request with traceMode := mode, traceMaxSteps := maxSteps, traceTimeoutMs := timeout }

/-- `trace.status` -/
def parseTraceStatus : Option Request := do
  require (payload.length = 1)
  let id ← parseUuidText (payload.lookup "trace_id")
  pure { request with traceId := id }

/-- `trace.cancel` -/
def parseTraceCancel : Option Request := do
  require (payload.length = 2 ∧ hasOperationId payload)
  let id ← parseUuidText (payload.lookup "trace_id")
  pure { request with traceId := id }

/-- A trace cursor is only marked invalid, never refused. -/
def withTraceCursor (cursor : Option Json) : Option Request :=
  unlessMissing cursor request do
    let text ← textOf cursor
    let parsed := parseTraceCursor build (utf8 text)
    if !parsed.accepted ∨ parsed.traceId ≠ utf8 request.traceId then
      pure { request with traceCursorInvalid := true, cursorIndex := parsed.index }
    else
      pure { request with cursorSnapshotFingerprint := some parsed.fingerprint,
                          cursorIndex := parsed.index }

/-- `trace.results` -/
def parseTraceResults : Option Request := do
  let limit := payload.lookup "limit"
  let cursor := payload.lookup "cursor"
  require (payload.length = 1 + counted limit + counted cursor)
  let id ← parseUuidText (payload.lookup "trace_id")
  let pageLimit ← integerOr limit 1 256 request.pageLimit
  withTraceCursor build { request with traceId := id, pageLimit := pageLimit } cursor

/-- `expression.evaluate` -/
def parseExpression : Option Request := do
  require (payload.length = 1)
  let expression ← textIn (payload.lookup "expression") 1 1024
  require (isPlain expression)
  pure { request with expression := expression }

/-- `expressions.evaluate_batch` -/
def parseExpressionBatch : Option Request := do
  let values ← (payload.lookup "expressions").bind Json.asArray
  require (payload.length = 1 ∧ 1 ≤ values.length ∧ values.length ≤ 32)
  let expressions ← parseExpressions 0 values
  pure { request with expressions := expressions }

/-- `context.arguments` -/
def parseContextArguments : Option Request := do
  let count := payload.lookup "count"
  let convention := payload.lookup "calling_convention"
  let thread := payload.lookup "thread_id"
  require (payload.length = counted count + counted convention + counted thread)
  let argumentCount ← integerOr count 1 16 request.argumentCount
  let callingConvention ← unlessMissing convention request.callingConvention
    (parseOneOf convention ["auto", "windows_x64", "cdecl", "stdcall", "fastcall", "thiscall"])
  let targetThreadId ← parseThreadId thread
  pure { request with argumentCount := argumentCount, callingConvention := callingConvention,
                      targetThreadId := targetThreadId }

/-- A method that asks about one address. -/
def parseAddressQuery : Option Request := do
  require (payload.length = 1)
  let address ← parseAddressReference build (payload.lookup "address")
  pure { request with address := address, addressProvided := true }

/-- `symbols.resolve` -/
def parseSymbolResolution : Option Request := do
  let address := payload.lookup "address"
  let module := payload.lookup "module"
  let name := payload.lookup "name"
  if address.isSome then do
    require (payload.length = 1 ∧ module.isNone ∧ name.isNone)
    let reference ← parseAddressReference build address
    pure { request with address := reference, addressProvided := true }
  else do
    require (payload.length = 2)
    let moduleFilter ← parseModuleName module
    let symbolName ← textIn name 1 256
    require (isPlain symbolName)
    pure { request with module := moduleFilter, symbolName := symbolName }

/-- `memory.dump` -/
def parseMemoryDump : Option Request := do
  let replace := payload.lookup "overwrite"
  require (payload.length = if replace.isSome then 5 else 4)
  let address ← parseAddressReference build (payload.lookup "address")
  let length ← integerIn (payload.lookup "length") 1 67108864
  let path ← textIn (payload.lookup "path") 3 8192
  let overwrite ← unlessMissing replace false (booleanOf replace)
  pure { request with address := address, length := length, path := path,
                      overwrite := overwrite }

/-- `memory.read` -/
def parseMemoryRead : Option Request := do
  require (payload.length = 2)
  let address ← parseAddressReference build (payload.lookup "address")
  let length ← integerIn (payload.lookup "length") 1 65536
  pure { request with address := address, length := length }

/-- `registers.read` -/
def parseRegistersRead : Option Request := do
  let names := payload.lookup "names"
  let thread := payload.lookup "thread_id"
  require (payload.length = counted names + counted thread)
  let registerNames ← parseNames names 0 64
  let targetThreadId ← parseThreadId thread
  pure { request with registerNames := registerNames, targetThreadId := targetThreadId }

/-- `registers.write` -/
def parseRegistersWrite : Option Request := do
  let thread := payload.lookup "thread_id"
  require (payload.length = if thread.isNone then 3 else 4)
  require (hasOperationId payload)
  let name ← textIn (payload.lookup "name") 2 6
  let value ← parseCanonicalHex64 (payload.lookup "value")
  let targetThreadId ← parseThreadId thread
  pure { request with registerName := name, registerWriteValue := value,
                      targetThreadId := targetThreadId }

/-- A discovery cursor is only marked invalid, never refused. -/
def withDiscoveryCursor (expected : Nat) (cursor : Option Json) : Option Request :=
  unlessMissing cursor { request with cursorFingerprint := some expected } do
    let text ← textOf cursor
    let parsed := parseDiscoveryCursor build (utf8 text)
    if parsed.accepted then
      pure { request with cursorFingerprint := some expected,
                          cursorGeneration := some parsed.generation,
                          discoveryCursorInvalid := parsed.fingerprint ≠ expected,
                          cursorIndex := parsed.index }
    else
      pure { request with cursorFingerprint := some expected, discoveryCursorInvalid := true,
                          cursorIndex := parsed.index }

/-- `memory.map` -/
def parseMemoryMap : Option Request := do
  let module := payload.lookup "module"
  let committed := payload.lookup "committed_only"
  let executable := payload.lookup "executable_only"
  let compactValue := payload.lookup "compact"
  let limit := payload.lookup "limit"
  let cursor := payload.lookup "cursor"
  require (payload.length = counted module + counted committed + counted executable +
    counted compactValue + counted limit + counted cursor)
  let moduleFilter ← unlessMissing module "" (parseModuleName module)
  let committedOnly ← unlessMissing committed false (booleanOf committed)
  let executableOnly ← unlessMissing executable false (booleanOf executable)
  let compact ← unlessMissing compactValue false (booleanOf compactValue)
  let pageLimit ← integerOr limit 1 256 request.pageLimit
  let expected := discoveryFingerprint (utf8 request.method) (utf8 moduleFilter)
    (utf8 (if committedOnly then "1" else "0")) (utf8 (if executableOnly then "1" else "0"))
    (if compact then 1 else 0) 0
  withDiscoveryCursor build
    { request with module := moduleFilter, committedOnly := committedOnly,
                   executableOnly := executableOnly, compact := compact,
                   pageLimit := pageLimit }
    expected.toNat cursor

/-- The scope of a search: a module, or a range that starts at an address. -/
def parseScope (value : Option Json) : Option Request := do
  let scope ← value.bind Json.asObject
  let module := scope.lookup "module"
  if module.isSome then do
    require (scope.length = 1)
    let moduleFilter ← parseModuleName module
    pure { request with memorySearchModuleScope := true, module := moduleFilter }
  else do
    require (scope.length = 2)
    let start ← parseAddressReference build (scope.lookup "start")
    let length ← integerIn (scope.lookup "length") 1 (16 * 1024 * 1024)
    pure { request with address := start, length := length }

/-- What a search is for, as its cursor binds it. -/
def scopeKey : List UInt8 :=
  if request.memorySearchModuleScope then utf8 "module:" ++ utf8 request.module
  else if request.address.kind = .absolute then
    utf8 "absolute:" ++ decimal request.address.absolute ++ utf8 ":" ++ decimal request.length
  else
    utf8 "module_rva:" ++ utf8 request.address.module ++ utf8 ":" ++ decimal request.address.rva ++
      utf8 ":" ++ decimal request.length

/-- `memory.search` -/
def parseMemorySearch : Option Request := do
  let limit := payload.lookup "limit"
  let cursor := payload.lookup "cursor"
  require (payload.length = 3 + counted limit + counted cursor)
  let patternText ← textOf (payload.lookup "pattern_hex")
  let maskText ← textOf (payload.lookup "mask")
  let ranged ← parseScope build request (payload.lookup "scope")
  let pattern ← parseMemoryPattern patternText maskText
  let pageLimit ← integerOr limit 1 256 request.pageLimit
  let expected := discoveryFingerprint (utf8 request.method) (scopeKey ranged)
    (utf8 patternText) (utf8 maskText) pageLimit 0
  withDiscoveryCursor build { ranged with memoryPattern := pattern, pageLimit := pageLimit }
    expected.toNat cursor

/-- `callstack.read` -/
def parseCallstack : Option Request := do
  let thread := payload.lookup "thread_id"
  let limit := payload.lookup "limit"
  require (payload.length = counted thread + counted limit)
  let targetThreadId ← parseThreadId thread
  let pageLimit ← integerOr limit 1 50 32
  pure { request with targetThreadId := targetThreadId, pageLimit := pageLimit }

/-- A patch cursor is bounded, and otherwise only marked invalid. -/
def withPatchCursor (expected : Nat) (cursor : Option Json) : Option Request :=
  unlessMissing cursor { request with cursorFingerprint := some expected } do
    let text ← textIn cursor 1 512
    let parsed := parsePatchCursor build (utf8 text)
    if parsed.accepted then
      pure { request with cursorFingerprint := some expected,
                          cursorGeneration := some parsed.generation,
                          cursorSnapshotFingerprint := some parsed.snapshotFingerprint,
                          discoveryCursorInvalid := parsed.fingerprint ≠ expected,
                          cursorIndex := parsed.index }
    else
      pure { request with cursorFingerprint := some expected, discoveryCursorInvalid := true,
                          cursorIndex := parsed.index }

/-- `patches.list` -/
def parsePatchesList : Option Request := do
  let module := payload.lookup "module"
  let limit := payload.lookup "limit"
  let cursor := payload.lookup "cursor"
  require (payload.length = counted module + counted limit + counted cursor)
  let moduleFilter ← unlessMissing module "" (parseModuleName module)
  let pageLimit ← integerOr limit 1 256 request.pageLimit
  let expected := discoveryFingerprint (utf8 request.method) (utf8 moduleFilter) [] [] 0 0
  withPatchCursor build { request with module := moduleFilter, pageLimit := pageLimit }
    expected.toNat cursor

/-- The discovery methods; they differ in what they search and in the fields that
only a string search has. -/
def parseDiscovery (references strings : Bool) (maxQueryBytes : Nat) : Option Request := do
  let module := payload.lookup "module"
  let queryValue := payload.lookup "query"
  let encoding := payload.lookup "encoding"
  let minimum := payload.lookup "min_length"
  let context := payload.lookup "context_bytes"
  let limit := payload.lookup "limit"
  let cursor := payload.lookup "cursor"
  let address := payload.lookup "address"
  require (payload.length = 1 + counted queryValue + counted encoding + counted minimum +
    counted context + counted limit + counted cursor)
  let target ← if references then do
      let reference ← parseAddressReference build address
      pure { request with address := reference }
    else do
      let moduleFilter ← parseModuleName module
      pure { request with module := moduleFilter }
  require ((references → module.isNone ∧ queryValue.isNone) ∧ (!references → address.isNone) ∧
    (!strings → encoding.isNone ∧ minimum.isNone ∧ context.isNone) ∧
    (context.isSome → queryValue.isSome))
  let query ← unlessMissing queryValue "" do
    let text ← textIn queryValue 1 maxQueryBytes
    require (isPlain text)
    pure text
  let stringEncoding ← unlessMissing encoding request.stringEncoding
    (parseOneOf encoding ["ascii_utf8", "utf16le", "both"])
  let minStringLength ← integerOr minimum 4 256 request.minStringLength
  let stringContextBytes ← integerOr context 0 128 request.stringContextBytes
  let pageLimit ← integerOr limit 1 256 request.pageLimit
  let expected := discoveryFingerprint (utf8 request.method) (utf8 target.module) (utf8 query)
    (utf8 stringEncoding) minStringLength (if query = "" then 0 else stringContextBytes)
  withDiscoveryCursor build
    { target with query := query, stringEncoding := stringEncoding,
                  minStringLength := minStringLength, stringContextBytes := stringContextBytes,
                  pageLimit := pageLimit }
    expected.toNat cursor

/-- A page method refuses a cursor that it cannot read. -/
def parsePage : Option Request := do
  let limit := payload.lookup "limit"
  let cursor := payload.lookup "cursor"
  require (payload.length = counted limit + counted cursor)
  let pageLimit ← integerOr limit 1 256 request.pageLimit
  unlessMissing cursor { request with pageLimit := pageLimit } do
    let text ← textIn cursor 1 64
    let parsed := parseCursor build (utf8 text)
    require parsed.accepted
    pure { request with pageLimit := pageLimit, cursorGeneration := some parsed.generation,
                        cursorIndex := parsed.index }

/-- `disassembly.read` -/
def parseDisassembly : Option Request := do
  let count := payload.lookup "count"
  require (payload.length = if count.isNone then 1 else 2)
  let address ← parseAddressReference build (payload.lookup "address")
  let instructionCount ← integerOr count 1 256 request.instructionCount
  pure { request with address := address, instructionCount := instructionCount }

/-- The methods that assemble an instruction. -/
def parseAssembly (patch : Bool) : Option Request := do
  require (payload.length = if patch then 5 else 2)
  let address ← parseAddressReference build (payload.lookup "address")
  let instruction ← textOf (payload.lookup "instruction")
  require (safeInstruction instruction)
  if patch then do
    require (hasOperationId payload)
    let expected ← textOf (payload.lookup "expected_bytes_hex")
    let fillNop ← booleanOf (payload.lookup "fill_nop")
    let expectedBytes ← parsePatchBytes expected
    pure { request with address := address, instruction := instruction,
                        expectedBytes := expectedBytes, fillNop := fillNop }
  else pure { request with address := address, instruction := instruction }

/-- `patches.restore` -/
def parsePatchesRestore : Option Request := do
  require (payload.length = 4 ∧ hasOperationId payload)
  let address ← parseAddressReference build (payload.lookup "address")
  let patchedText ← textOf (payload.lookup "expected_patched_bytes_hex")
  let originalText ← textOf (payload.lookup "expected_original_bytes_hex")
  let patched ← parsePatchBytes patchedText
  let original ← parsePatchBytes originalText
  require (patched.length = original.length ∧ patched ≠ original)
  pure { request with address := address, expectedBytes := patched,
                      expectedOriginalBytes := original }

/-- `debugger.run_to_address` -/
def parseRunToAddress : Option Request := do
  let timeout := payload.lookup "timeout_ms"
  require (payload.length = if timeout.isNone then 2 else 3)
  require (hasOperationId payload)
  let address ← parseAddressReference build (payload.lookup "address")
  let runToTimeoutMs ← integerOr timeout 100 20000 request.runToTimeoutMs
  pure { request with address := address, runToTimeoutMs := runToTimeoutMs }

/-- `debugger.continue_exception` -/
def parseContinueException : Option Request := do
  let overrides := payload.lookup "register_overrides"
  require (payload.length = if overrides.isNone then 2 else 3)
  require (hasOperationId payload)
  let disposition ← parseOneOf (payload.lookup "disposition") ["handled", "not_handled"]
  let assignments ← unlessMissing overrides [] do
    let values ← overrides.bind Json.asArray
    require (1 ≤ values.length ∧ values.length ≤ 4)
    parseOverrides [] values
  pure { request with exceptionDisposition := disposition,
                      exceptionRegisterOverrides := assignments }

/-- Run-state methods; only the two steps take a thread. -/
def parseRunState (supportsThread : Bool) : Option Request := do
  let thread := payload.lookup "thread_id"
  require (payload.length = if supportsThread ∧ thread.isSome then 2 else 1)
  require (hasOperationId payload)
  require (thread.isSome → supportsThread)
  let targetThreadId ← parseThreadId thread
  pure { request with targetThreadId := targetThreadId }

/-- The access and size of a hardware or memory breakpoint. -/
def parseWatch (fields : Payload) : Option Request := do
  let address ← parseAddressReference build (fields.lookup "address")
  let access ← textIn (fields.lookup "access") 4 10
  let size ← integerIn (fields.lookup "size") 1 65536
  pure { request with address := address, breakpointAccess := access, breakpointSize := size }

/-- `breakpoints.enable` and `breakpoints.disable` -/
def parseToggle : Option Request := do
  let selector ← (payload.lookup "selector").bind Json.asObject
  let kind ← textOf (selector.lookup "kind")
  require (payload.length = 2 ∧ hasOperationId payload)
  let selected := { request with breakpointKind := kind }
  if kind = "software" then do
    require (selector.length = 2)
    let address ← parseAddressReference build (selector.lookup "address")
    pure { selected with address := address }
  else if kind = "hardware" then do
    require (selector.length = 4)
    let watched ← parseWatch build selected selector
    require ((parseHardwareAccess watched.breakpointAccess).isSome ∧ watched.breakpointSize ≤ 8)
    pure watched
  else if kind = "memory" then do
    require (selector.length = 4)
    let watched ← parseWatch build selected selector
    require (parseMemoryAccess watched.breakpointAccess).isSome
    pure watched
  else if kind = "conditional" then do
    require (selector.length = 3)
    let address ← parseAddressReference build (selector.lookup "address")
    let managed ← parseManagedId "conditional" (selector.lookup "managed_id")
    pure { selected with address := address, managedBreakpointId := managed }
  else if kind = "exception" then do
    require (selector.length = 4)
    let code ← parseExceptionCode (selector.lookup "code")
    let chance ← parseChance (selector.lookup "chance")
    let managed ← parseManagedId "exception" (selector.lookup "managed_id")
    pure { selected with exceptionCode := code, exceptionChance := chance,
                         managedBreakpointId := managed }
  else none

/-- The methods for hardware and memory breakpoints. -/
def parseWatchpoint : Option Request := do
  require (payload.length = 4 ∧ hasOperationId payload)
  parseWatch build request payload

/-- The methods for software breakpoints, and `analysis.function`. -/
def parseBreakpoint : Option Request := do
  require (payload.length = 2 ∧ hasOperationId payload)
  let address ← parseAddressReference build (payload.lookup "address")
  pure { request with address := address }

/-- The methods for exception breakpoints. -/
def parseExceptionBreakpoint (removing : Bool) : Option Request := do
  require (payload.length = (if removing then 4 else 3) ∧ hasOperationId payload)
  let code ← parseExceptionCode (payload.lookup "code")
  require (!removing → (payload.lookup "managed_id").isNone)
  let chance ← parseChance (payload.lookup "chance")
  let managed ← if removing then parseManagedId "exception" (payload.lookup "managed_id")
    else some request.operationId
  pure { request with exceptionCode := code, exceptionChance := chance,
                      managedBreakpointId := managed }

/-- The methods for conditional breakpoints. -/
def parseConditionalBreakpoint (removing : Bool) : Option Request := do
  require (payload.length = 3 ∧ hasOperationId payload)
  let address ← parseAddressReference build (payload.lookup "address")
  require (!removing → (payload.lookup "managed_id").isNone)
  if removing then do
    let managed ← parseManagedId "conditional" (payload.lookup "managed_id")
    pure { request with address := address, managedBreakpointId := managed }
  else do
    let condition ← parseCondition (payload.lookup "condition")
    let compiled := compileConditionalExpression build condition
    pure { request with address := address, conditionalSpec := condition,
                        conditionalExpression := compiled.getD "",
                        conditionalInvalid := compiled.isNone,
                        managedBreakpointId := request.operationId }

/-- `memory.write` -/
def parseMemoryWrite : Option Request := do
  require (payload.length = 3 ∧ hasOperationId payload)
  let address ← parseAddressReference build (payload.lookup "address")
  let data ← textIn (payload.lookup "data_hex") 2 8192
  require ((utf8 data).length % 2 = 0)
  let bytes ← parseHexPairs false (utf8 data)
  pure { request with address := address, writeBytes := bytes }

/-- The payload of a method; those that stay in the sidecar have no payload checks. -/
def parseTool : Tool → Option Request
  | .scyllahideProfile => parseScyllahideProfile payload request
  | .debuggerState | .processPeb => parseNoFields payload request
  | .eventsList => parseEventsList payload request
  | .eventsWait => parseEventsWait payload request
  | .debuggerSnapshot => parseSnapshot payload request
  | .debuggerWaitForPause => parseWaitForPause payload request
  | .debuggeeLaunch => parseLaunch payload request
  | .debuggeeLaunchDll => parseLaunchDll payload request
  | .debuggeeAttach => parseAttach payload request
  | .debuggeeDetach => parseDetach payload request
  | .traceStart => parseTraceStart payload request
  | .traceStatus => parseTraceStatus payload request
  | .traceCancel => parseTraceCancel payload request
  | .traceResults => parseTraceResults build payload request
  | .expressionEvaluate => parseExpression payload request
  | .expressionsEvaluateBatch => parseExpressionBatch payload request
  | .contextArguments => parseContextArguments payload request
  | .addressResolve | .functionsAt => parseAddressQuery build payload request
  | .symbolsResolve => parseSymbolResolution build payload request
  | .analysisFunction | .breakpointsSet | .breakpointsRemove =>
      parseBreakpoint build payload request
  | .memoryDump => parseMemoryDump build payload request
  | .memoryRead => parseMemoryRead build payload request
  | .registersRead => parseRegistersRead payload request
  | .registersWrite => parseRegistersWrite payload request
  | .memoryMap => parseMemoryMap build payload request
  | .memorySearch => parseMemorySearch build payload request
  | .callstackRead => parseCallstack payload request
  | .patchesList => parsePatchesList build payload request
  | .symbolsSearch | .functionsList =>
      parseDiscovery build payload request false false 256
  | .stringsSearch => parseDiscovery build payload request false true 256
  | .referencesTo => parseDiscovery build payload request true false 256
  | .importsList | .exportsList | .sectionsList =>
      parseDiscovery build payload request false false 128
  | .modulesList | .threadsList | .breakpointsList =>
      parsePage build payload request
  | .disassemblyRead => parseDisassembly build payload request
  | .assemblyPreview => parseAssembly build payload request false
  | .assemblyPatch => parseAssembly build payload request true
  | .patchesRestore => parsePatchesRestore build payload request
  | .debuggerRunToAddress => parseRunToAddress build payload request
  | .debuggerContinueException => parseContinueException payload request
  | .debuggerPause | .debuggerResume | .debuggerStepOut | .debuggerStop =>
      parseRunState payload request false
  | .debuggerStepInto | .debuggerStepOver => parseRunState payload request true
  | .breakpointsEnable | .breakpointsDisable => parseToggle build payload request
  | .breakpointsHardwareSet | .breakpointsHardwareRemove
  | .breakpointsMemorySet | .breakpointsMemoryRemove =>
      parseWatchpoint build payload request
  | .breakpointsExceptionSet => parseExceptionBreakpoint payload request false
  | .breakpointsExceptionRemove => parseExceptionBreakpoint payload request true
  | .breakpointsConditionalSet => parseConditionalBreakpoint build payload request false
  | .breakpointsConditionalRemove => parseConditionalBreakpoint build payload request true
  | .memoryWrite => parseMemoryWrite build payload request
  | .logsStatus | .logsRead => some request

/-- A method that is not known has no payload checks either. -/
def parsePayload : Option Request :=
  match Tool.ofName request.method with
  | some tool => parseTool build payload request tool
  | none => some request

end Methods

/-- The operation identifier of the envelope: null or a string. -/
def operationIdOf : Option Json → Option (Option String)
  | some .null => some none
  | some (.string value) => some (some value)
  | _ => none

/-- Whether a request mutates; only the profile method depends on its payload. -/
def mutates (method : String) (payload : Payload) : Bool :=
  if method = "scyllahide.profile" then
    (textOf (payload.lookup "action")).any fun action => action == "set"
  else isMutation method

/-- Read a request of the sidecar. -/
def parseRequest (build : Build) (loadb : List UInt8 → Option Json) (bytes : List UInt8) :
    Option Request := do
  let root ← loadb bytes
  let fields ← root.asObject
  require (fields.length = 5)
  let requestId ← textOf (fields.lookup "request_id")
  let deadline ← integerOf (fields.lookup "deadline_unix_ms")
  let operationId ← operationIdOf (fields.lookup "operation_id")
  let method ← textOf (fields.lookup "method")
  let payload ← (fields.lookup "payload").bind Json.asObject
  require (isUuid (utf8 requestId) ∧ (utf8 method).length ≠ 0 ∧ (utf8 method).length ≤ 64 ∧
    0 < deadline)
  require (operationId.all fun operation => isUuid (utf8 operation))
  require (mutates method payload = operationId.isSome)
  let request ← parsePayload build payload
    { requestId := requestId, method := method, deadlineUnixMs := deadline.toNat,
      mutation := mutates method payload, operationId := operationId.getD "" }
  require (mutates method payload →
    textOf (payload.lookup "operation_id") = some (operationId.getD ""))
  pure request

end X64dbgMcp.Plugin
