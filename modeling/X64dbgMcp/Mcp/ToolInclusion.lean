import X64dbgMcp.Ipc.Frame
import X64dbgMcp.Mcp.CallTool
import X64dbgMcp.Plugin.InclusionMutations

/-!
# What the sidecar validates, the plugin parses

The plugin drops the pipe at a request that it does not parse.  Every call that the
sidecar has validated is written within one frame; it is parsed unless a text of it
contains U+0000, or unless it pages through modules, threads or breakpoints with a cursor
that the plugin has not made.
-/

namespace X64dbgMcp.Mcp

open Text Tools Ipc Collection Plugin
open Transition (bind_eq_ok)

/-! ## Tools and their names -/

theorem ofName_name (tool : Tool) : Tool.ofName tool.name = some tool := by
  cases tool <;> decide

theorem name_of_ofName {name : String} {tool : Tool} (named : Tool.ofName name = some tool) :
    name = tool.name := by
  have found := List.find?_some (p := fun tool : Tool => tool.name == name) named
  exact (beq_iff_eq.mp found).symm

theorem length_name (tool : Tool) :
    (utf8 tool.name).length ≠ 0 ∧ (utf8 tool.name).length ≤ 64 ∧
      tool.name.toList.contains '\x00' = false := by
  cases tool <;> decide

theorem isPageMethod_name (tool : Tool) :
    isPageMethod tool.name =
      decide (tool = .modulesList ∨ tool = .threadsList ∨ tool = .breakpointsList) := by
  rw [isPageMethod, ofName_name]
  cases tool <;> rfl

theorem name_eq_profile_iff (tool : Tool) :
    tool.name = "scyllahide.profile" ↔ tool = .scyllahideProfile := by
  cases tool <;> decide

theorem isMutation_name {tool : Tool} (other : tool ≠ .scyllahideProfile) :
    Plugin.isMutation tool.name = Tools.isMutation tool.name := by
  rw [Plugin.isMutation, Tools.isMutation, ofName_name]
  cases tool with
  | scyllahideProfile => exact absurd rfl other
  | _ => rfl

/-- The two sides agree about what mutates. -/
theorem mutates_eq {payload object : Object} (tool : Tool)
    (action : payload.lookup "action" = object.lookup "action") :
    mutates tool.name payload = isMutationCall tool.name (.object object) := by
  have get : (Json.object object).get "action" = object.lookup "action" := rfl
  rw [mutates, isMutationCall, get, action, textOf]
  split_ifs with profile
  · cases (object.lookup "action").bind Json.asStr <;> rfl
  · exact isMutation_name ((name_eq_profile_iff tool).not.mp profile)

theorem readOnly_of_reads {tool : Tool} {object : Object} (other : tool ≠ .scyllahideProfile)
    (reads : isMutationCall tool.name (.object object) = false) : tool.readOnlyHint = true := by
  rw [isMutationCall, if_neg ((name_eq_profile_iff tool).not.mpr other), Tools.isMutation,
    ofName_name] at reads
  simpa using reads

theorem not_readOnly_of_mutates {tool : Tool} {object : Object} (other : tool ≠ .scyllahideProfile)
    (mutating : isMutationCall tool.name (.object object) = true) : tool.readOnlyHint = false := by
  rw [isMutationCall, if_neg ((name_eq_profile_iff tool).not.mpr other), Tools.isMutation,
    ofName_name] at mutating
  simpa using mutating

/-! ## The parsers of the tools -/

/-- The paging methods read the cursors that the plugin has made, and no others. -/
def CursorReadable (build : Build) (name : String) (arguments : Json) : Prop :=
  isPageMethod name = true → ∀ text, arguments.get "cursor" = some (.string text) →
    (parseCursor build (utf8 text)).accepted = true

variable {floatText : UInt64 → List UInt8} {parseUuid : String → Option Uuid} {object : Object}
  {tool : Tool}

/-- A method without pages does not care for its cursor. -/
theorem parses_of_exists {build : Build} {parsed : Option Request}
    (single : ¬ (tool = .modulesList ∨ tool = .threadsList ∨ tool = .breakpointsList))
    (parses : Portable floatText object ∧ ∃ request, parsed = some request) :
    Portable floatText object ∧
      (parsed.isSome = true ↔ CursorReadable build tool.name (.object object)) := by
  rcases parses with ⟨portable, request, rfl⟩
  refine ⟨portable, fun _ paged => ?_, fun _ => rfl⟩
  rw [isPageMethod_name, decide_eq_true_eq] at paged
  exact absurd paged single

/-- The action of a validated call of the profile tool. -/
theorem action_of_valid (valid : validateTool parseUuid object .scyllahideProfile = .ok ()) :
    object.lookup "action" = some (.string "get") ∨
      object.lookup "action" = some (.string "set") := by
  simp only [validateTool, validateProfile, bind_eq_ok, string_eq_ok] at valid
  obtain ⟨action, ⟨found, _⟩, checked⟩ := valid
  split_ifs at checked with reading writing
  · exact .inl (reading ▸ found)
  · exact .inr (writing ▸ found)

/-- What reaches the plugin of the arguments of a read. -/
def nativeObject (tool : Tool) (object : Object) : Object :=
  if tool = .memoryRead then without (without object "format") "byte_order" else object

theorem read_parses (build : Build) (request : Request)
    (distinct : (Json.object object).distinct = true)
    (reads : isMutationCall tool.name (.object object) = false)
    (status : tool ≠ .logsStatus) (logs : tool ≠ .logsRead)
    (valid : validateTool parseUuid object tool = .ok ()) :
    Portable floatText object ∧
      ((parseTool build (nativeObject tool object) request tool).isSome = true ↔
        CursorReadable build tool.name (.object object)) := by
  obtain ⟨keys, below⟩ := distinct_object distinct
  by_cases profile : tool = .scyllahideProfile
  · subst profile
    apply parses_of_exists (by decide)
    apply profileGet_parses request keys _ valid
    rcases action_of_valid valid with reading | writing
    · exact reading
    · have mutating : isMutationCall Tool.scyllahideProfile.name (.object object) = true := by
        have get : (Json.object object).get "action" = object.lookup "action" := rfl
        rw [isMutationCall, if_pos ((name_eq_profile_iff _).mpr rfl), get, writing]
        rfl
      rw [mutating] at reads
      cases reads
  have readOnly := readOnly_of_reads profile reads
  cases tool
  case debuggerState | processPeb =>
    exact parses_of_exists (by decide) (noFields_parses request (exactKeys_eq_ok.mp valid))
  case eventsList =>
    exact parses_of_exists (by decide) (eventsList_parses request keys valid)
  case eventsWait =>
    exact parses_of_exists (by decide) (eventsWait_parses request keys valid)
  case debuggerSnapshot =>
    exact parses_of_exists (by decide) (snapshot_parses request keys valid)
  case debuggerWaitForPause =>
    exact parses_of_exists (by decide) (waitForPause_parses request keys valid)
  case traceStatus =>
    exact parses_of_exists (by decide) (traceStatus_parses request keys valid)
  case traceResults =>
    exact parses_of_exists (by decide) (traceResults_parses build request keys valid)
  case registersRead =>
    exact parses_of_exists (by decide) (registersRead_parses request keys valid)
  case addressResolve | functionsAt =>
    exact parses_of_exists (by decide)
      (addressQuery_parses build request keys (by simp) valid)
  case memoryRead =>
    exact parses_of_exists (by decide) (memoryRead_parses build request keys valid)
  case memorySearch =>
    exact parses_of_exists (by decide) (memorySearch_parses build request keys below valid)
  case memoryMap =>
    exact parses_of_exists (by decide) (memoryMap_parses build request keys valid)
  case callstackRead =>
    exact parses_of_exists (by decide) (callstack_parses request keys valid)
  case patchesList =>
    exact parses_of_exists (by decide) (patchesList_parses build request keys valid)
  case assemblyPreview =>
    exact parses_of_exists (by decide) (assemblyPreview_parses build request keys valid)
  case disassemblyRead =>
    exact parses_of_exists (by decide) (disassembly_parses build request keys valid)
  case expressionEvaluate =>
    exact parses_of_exists (by decide) (expression_parses request keys valid)
  case expressionsEvaluateBatch =>
    exact parses_of_exists (by decide) (expressionBatch_parses request keys valid)
  case contextArguments =>
    exact parses_of_exists (by decide) (contextArguments_parses request keys valid)
  case symbolsResolve =>
    exact parses_of_exists (by decide) (symbolsResolve_parses build request keys valid)
  case stringsSearch =>
    exact parses_of_exists (by decide) (stringsSearch_parses build request keys valid)
  case referencesTo =>
    exact parses_of_exists (by decide) (referencesTo_parses build request keys valid)
  case symbolsSearch | functionsList =>
    simp only [validateTool, bind_eq_ok, exactKeys_eq_ok, optionalQuery] at valid
    obtain ⟨_, exact, _, named, _, queried, paged⟩ := valid
    exact parses_of_exists (by decide)
      (moduleSearch_parses build request (by decide) keys exact named queried paged)
  case importsList | exportsList | sectionsList =>
    simp only [validateTool, bind_eq_ok, exactKeys_eq_ok] at valid
    obtain ⟨_, exact, _, named, _, queried, paged⟩ := valid
    exact parses_of_exists (by decide)
      (moduleSearch_parses build request (by decide) keys exact named queried paged)
  case modulesList | threadsList | breakpointsList =>
    obtain ⟨portable, readable⟩ := page_parses build request keys (by simp) valid
    refine ⟨portable, readable.trans ?_⟩
    exact ⟨fun accepted _ => accepted, fun accepted => accepted (isPageMethod_name _)⟩
  case logsStatus => exact absurd rfl status
  case logsRead => exact absurd rfl logs
  all_goals cases readOnly

theorem mutation_parses (build : Build) (request : Request)
    (distinct : (Json.object object).distinct = true)
    (mutating : isMutationCall tool.name (.object object) = true)
    (valid : validateTool parseUuid object tool = .ok ()) :
    Mutation floatText parseUuid object fun payload => parseTool build payload request tool := by
  obtain ⟨keys, below⟩ := distinct_object distinct
  by_cases profile : tool = .scyllahideProfile
  · subst profile
    apply profileSet_parses request keys _ valid
    rcases action_of_valid valid with reading | writing
    · have get : (Json.object object).get "action" = object.lookup "action" := rfl
      rw [isMutationCall, if_pos ((name_eq_profile_iff _).mpr rfl), get, reading] at mutating
      exact absurd mutating (by decide)
    · exact writing
  have mutates := not_readOnly_of_mutates profile mutating
  cases tool
  case debuggerPause | debuggerResume | debuggerStepOut | debuggerStop =>
    exact runState_parses request keys valid
  case debuggeeDetach => exact detach_parses request keys valid
  case debuggerStepInto | debuggerStepOver => exact step_parses request keys valid
  case debuggerContinueException => exact continueException_parses request keys below valid
  case debuggerRunToAddress => exact runToAddress_parses build request keys valid
  case traceStart => exact traceStart_parses request keys valid
  case traceCancel => exact traceCancel_parses request keys valid
  case debuggeeLaunch => exact launch_parses request keys valid
  case debuggeeLaunchDll => exact launchDll_parses request keys valid
  case debuggeeAttach => exact attach_parses request keys valid
  case registersWrite => exact registersWrite_parses request keys valid
  case memoryDump => exact memoryDump_parses build request keys valid
  case memoryWrite => exact memoryWrite_parses build request keys valid
  case analysisFunction | breakpointsSet | breakpointsRemove =>
    exact breakpoint_parses build request keys valid
  case breakpointsHardwareSet | breakpointsHardwareRemove =>
    exact hardware_parses build request keys valid
  case breakpointsMemorySet | breakpointsMemoryRemove =>
    exact memoryBreakpoint_parses build request keys valid
  case breakpointsExceptionSet => exact exceptionSet_parses request keys valid
  case breakpointsExceptionRemove => exact exceptionRemove_parses request keys valid
  case breakpointsConditionalSet => exact conditionalSet_parses build request keys below valid
  case breakpointsConditionalRemove => exact conditionalRemove_parses build request keys valid
  case breakpointsEnable | breakpointsDisable => exact toggle_parses build request keys below valid
  case assemblyPatch => exact assemblyPatch_parses build request keys valid
  case patchesRestore => exact patchesRestore_parses build request keys valid
  case scyllahideProfile => exact absurd rfl profile
  all_goals cases mutates

/-- A validated mutation names the instance that it is meant for. -/
theorem instanceId_of_valid (mutating : isMutationCall tool.name (.object object) = true)
    (valid : validateTool parseUuid object tool = .ok ()) :
    HasUuid parseUuid object "instance_id" := by
  by_cases profile : tool = .scyllahideProfile
  · subst profile
    simp only [validateTool, validateProfile, bind_eq_ok, string_eq_ok] at valid
    obtain ⟨action, ⟨found, _⟩, checked⟩ := valid
    split_ifs at checked with reading writing
    · have get : (Json.object object).get "action" = some (.string action) := found
      rw [isMutationCall, if_pos ((name_eq_profile_iff _).mpr rfl), get, reading] at mutating
      exact absurd mutating (by decide)
    · simp only [bind_eq_ok] at checked
      obtain ⟨_, _, _, _, _, _, _, _, instanceIs⟩ := checked
      exact validateUuidField_eq_ok instanceIs
  have mutates := not_readOnly_of_mutates profile mutating
  cases tool
  case debuggerPause | debuggerResume | debuggerStepOut | debuggerStop | debuggeeDetach =>
    exact (operation_eq_ok valid).2.2
  case debuggeeAttach | traceStart | traceCancel | memoryWrite | analysisFunction
      | breakpointsSet | breakpointsRemove | breakpointsHardwareSet | breakpointsHardwareRemove
      | breakpointsMemorySet | breakpointsMemoryRemove | breakpointsExceptionSet
      | breakpointsExceptionRemove | breakpointsConditionalSet | breakpointsConditionalRemove
      | breakpointsEnable | breakpointsDisable | assemblyPatch | patchesRestore =>
    obtain ⟨_, operated, _⟩ := bind_eq_ok.mp valid
    exact (operation_eq_ok operated).2.2
  case debuggerStepInto | debuggerStepOver | debuggerContinueException | debuggerRunToAddress
      | registersWrite | memoryDump =>
    simp only [validateTool, bind_eq_ok] at valid
    obtain ⟨_, _, _, _, _, instanceIs, _⟩ := valid
    exact validateUuidField_eq_ok instanceIs
  case debuggeeLaunch =>
    simp only [validateTool, bind_eq_ok] at valid
    obtain ⟨_, _, _, _, _, _, _, targets, _⟩ := valid
    exact (launchTargets_eq_ok targets).2.1
  case debuggeeLaunchDll =>
    simp only [validateTool, bind_eq_ok] at valid
    obtain ⟨_, _, targets⟩ := valid
    exact (launchTargets_eq_ok targets).2.1
  case scyllahideProfile => exact absurd rfl profile
  all_goals cases mutates

/-- No mutation pages. -/
theorem cursorReadable_of_mutation (build : Build)
    (mutating : isMutationCall tool.name (.object object) = true) :
    CursorReadable build tool.name (.object object) := by
  intro paged
  rw [isPageMethod_name, decide_eq_true_eq] at paged
  have other : tool ≠ .scyllahideProfile := by
    rintro rfl
    exact absurd paged (by decide)
  have mutates := not_readOnly_of_mutates other mutating
  rcases paged with rfl | rfl | rfl <;> cases mutates

end X64dbgMcp.Mcp
