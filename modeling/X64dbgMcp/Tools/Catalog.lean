import X64dbgMcp.Text.Json

/-!
# The tool catalogue

The tools of the backend with their names and the hint by which a call is
treated as a mutation.
-/

namespace X64dbgMcp.Tools

open Text

/-- The tools of the sidecar. -/
inductive Tool where
  | debuggerState
  | eventsList
  | eventsWait
  | logsStatus
  | logsRead
  | debuggerSnapshot
  | debuggerWaitForPause
  | debuggerPause
  | debuggerResume
  | debuggerContinueException
  | debuggerStepInto
  | debuggerStepOver
  | debuggerStepOut
  | debuggerRunToAddress
  | debuggerStop
  | traceStart
  | traceStatus
  | traceCancel
  | traceResults
  | scyllahideProfile
  | debuggeeLaunch
  | debuggeeLaunchDll
  | debuggeeAttach
  | debuggeeDetach
  | registersRead
  | registersWrite
  | addressResolve
  | analysisFunction
  | memoryRead
  | memoryDump
  | memorySearch
  | memoryWrite
  | memoryMap
  | modulesList
  | threadsList
  | breakpointsList
  | callstackRead
  | patchesList
  | breakpointsSet
  | breakpointsRemove
  | breakpointsHardwareSet
  | breakpointsHardwareRemove
  | breakpointsMemorySet
  | breakpointsMemoryRemove
  | breakpointsExceptionSet
  | breakpointsExceptionRemove
  | breakpointsConditionalSet
  | breakpointsConditionalRemove
  | breakpointsEnable
  | breakpointsDisable
  | assemblyPreview
  | assemblyPatch
  | patchesRestore
  | disassemblyRead
  | expressionEvaluate
  | expressionsEvaluateBatch
  | processPeb
  | contextArguments
  | symbolsSearch
  | symbolsResolve
  | functionsList
  | functionsAt
  | importsList
  | exportsList
  | sectionsList
  | stringsSearch
  | referencesTo
  deriving DecidableEq

namespace Tool

/-- The name of a tool. -/
def name : Tool → String
  | .debuggerState => "debugger.state"
  | .eventsList => "events.list"
  | .eventsWait => "events.wait"
  | .logsStatus => "logs.status"
  | .logsRead => "logs.read"
  | .debuggerSnapshot => "debugger.snapshot"
  | .debuggerWaitForPause => "debugger.wait_for_pause"
  | .debuggerPause => "debugger.pause"
  | .debuggerResume => "debugger.resume"
  | .debuggerContinueException => "debugger.continue_exception"
  | .debuggerStepInto => "debugger.step_into"
  | .debuggerStepOver => "debugger.step_over"
  | .debuggerStepOut => "debugger.step_out"
  | .debuggerRunToAddress => "debugger.run_to_address"
  | .debuggerStop => "debugger.stop"
  | .traceStart => "trace.start"
  | .traceStatus => "trace.status"
  | .traceCancel => "trace.cancel"
  | .traceResults => "trace.results"
  | .scyllahideProfile => "scyllahide.profile"
  | .debuggeeLaunch => "debuggee.launch"
  | .debuggeeLaunchDll => "debuggee.launch_dll"
  | .debuggeeAttach => "debuggee.attach"
  | .debuggeeDetach => "debuggee.detach"
  | .registersRead => "registers.read"
  | .registersWrite => "registers.write"
  | .addressResolve => "address.resolve"
  | .analysisFunction => "analysis.function"
  | .memoryRead => "memory.read"
  | .memoryDump => "memory.dump"
  | .memorySearch => "memory.search"
  | .memoryWrite => "memory.write"
  | .memoryMap => "memory.map"
  | .modulesList => "modules.list"
  | .threadsList => "threads.list"
  | .breakpointsList => "breakpoints.list"
  | .callstackRead => "callstack.read"
  | .patchesList => "patches.list"
  | .breakpointsSet => "breakpoints.set"
  | .breakpointsRemove => "breakpoints.remove"
  | .breakpointsHardwareSet => "breakpoints.hardware.set"
  | .breakpointsHardwareRemove => "breakpoints.hardware.remove"
  | .breakpointsMemorySet => "breakpoints.memory.set"
  | .breakpointsMemoryRemove => "breakpoints.memory.remove"
  | .breakpointsExceptionSet => "breakpoints.exception.set"
  | .breakpointsExceptionRemove => "breakpoints.exception.remove"
  | .breakpointsConditionalSet => "breakpoints.conditional.set"
  | .breakpointsConditionalRemove => "breakpoints.conditional.remove"
  | .breakpointsEnable => "breakpoints.enable"
  | .breakpointsDisable => "breakpoints.disable"
  | .assemblyPreview => "assembly.preview"
  | .assemblyPatch => "assembly.patch"
  | .patchesRestore => "patches.restore"
  | .disassemblyRead => "disassembly.read"
  | .expressionEvaluate => "expression.evaluate"
  | .expressionsEvaluateBatch => "expressions.evaluate_batch"
  | .processPeb => "process.peb"
  | .contextArguments => "context.arguments"
  | .symbolsSearch => "symbols.search"
  | .symbolsResolve => "symbols.resolve"
  | .functionsList => "functions.list"
  | .functionsAt => "functions.at"
  | .importsList => "imports.list"
  | .exportsList => "exports.list"
  | .sectionsList => "sections.list"
  | .stringsSearch => "strings.search"
  | .referencesTo => "references.to"

/-- The catalogue, in its order. -/
def catalog : List Tool :=
  [.debuggerState, .eventsList, .eventsWait, .logsStatus, .logsRead, .debuggerSnapshot,
    .debuggerWaitForPause, .debuggerPause, .debuggerResume, .debuggerContinueException,
    .debuggerStepInto, .debuggerStepOver, .debuggerStepOut, .debuggerRunToAddress, .debuggerStop,
    .traceStart, .traceStatus, .traceCancel, .traceResults, .scyllahideProfile, .debuggeeLaunch,
    .debuggeeLaunchDll, .debuggeeAttach, .debuggeeDetach, .registersRead, .registersWrite,
    .addressResolve, .analysisFunction, .memoryRead, .memoryDump, .memorySearch, .memoryWrite,
    .memoryMap, .modulesList, .threadsList, .breakpointsList, .callstackRead, .patchesList,
    .breakpointsSet, .breakpointsRemove, .breakpointsHardwareSet, .breakpointsHardwareRemove,
    .breakpointsMemorySet, .breakpointsMemoryRemove, .breakpointsExceptionSet,
    .breakpointsExceptionRemove, .breakpointsConditionalSet, .breakpointsConditionalRemove,
    .breakpointsEnable, .breakpointsDisable, .assemblyPreview, .assemblyPatch, .patchesRestore,
    .disassemblyRead, .expressionEvaluate, .expressionsEvaluateBatch, .processPeb,
    .contextArguments, .symbolsSearch, .symbolsResolve, .functionsList, .functionsAt,
    .importsList, .exportsList, .sectionsList, .stringsSearch, .referencesTo]

/-- `readOnlyHint` of the tool's annotations. -/
def readOnlyHint : Tool → Bool
  | .debuggerState | .eventsList | .eventsWait | .logsStatus | .logsRead | .debuggerSnapshot
  | .debuggerWaitForPause | .traceStatus | .traceResults | .registersRead | .addressResolve
  | .memoryRead | .memorySearch | .memoryMap | .modulesList | .threadsList | .breakpointsList
  | .callstackRead | .patchesList | .assemblyPreview | .disassemblyRead | .expressionEvaluate
  | .expressionsEvaluateBatch | .processPeb | .contextArguments | .symbolsSearch
  | .symbolsResolve | .functionsList | .functionsAt | .importsList | .exportsList
  | .sectionsList | .stringsSearch | .referencesTo => true
  | _ => false

/-- The tool of a name. -/
def ofName (name : String) : Option Tool :=
  catalog.find? fun tool => tool.name == name

end Tool

/-- A known tool that does not only read. -/
def isMutation (name : String) : Bool :=
  (Tool.ofName name).any fun tool => !tool.readOnlyHint

/-- Only the profile tool is a mutation or not by its arguments. -/
def isMutationCall (name : String) (arguments : Json) : Bool :=
  if name = "scyllahide.profile" then
    match (arguments.get "action").bind Json.asStr with
    | some action => action == "set"
    | none => false
  else isMutation name

end X64dbgMcp.Tools
