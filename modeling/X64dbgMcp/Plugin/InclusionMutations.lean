import X64dbgMcp.Plugin.InclusionReads

/-!
# Validated mutations are parsed

A mutation carries its operation and the backend it is meant for.  The second is
dropped before the request is written, and the plugin's parser counts the fields
that are left.
-/

namespace X64dbgMcp.Plugin

open Text Tools Ipc Collection
open Transition (bind_eq_ok)

variable {floatText : UInt64 → List UInt8} {object : Object} {parseUuid : String → Option Uuid}

/-- A validated mutation is small, names its operation, and is parsed without the
backend's identifier. -/
structure Mutation (floatText : UInt64 → List UInt8) (parseUuid : String → Option Uuid)
    (object : Object) (parse : Payload → Option Request) : Prop where
  portable : Portable floatText object
  operationId : HasUuid parseUuid object "operation_id"
  parses : ∃ parsed, parse (without object "instance_id") = some parsed

section Payload

variable {fields optional : List String}

theorem payload_exact (exact : Exact object ("operation_id" :: "instance_id" :: fields) optional)
    (foreign : "instance_id" ∉ fields) :
    Exact (without object "instance_id") ("operation_id" :: fields) optional := by
  apply exact.without
  · intro name member
    rcases List.mem_cons.mp member with rfl | member
    · exact ⟨by decide, List.mem_cons_self⟩
    · exact ⟨fun same => foreign (same ▸ member), by simp [member]⟩
  · intro name different member
    simpa [different] using member

theorem length_payload (keys : (object.map Prod.fst).Nodup)
    (exact : Exact object ("operation_id" :: "instance_id" :: fields) [])
    (names : ("operation_id" :: "instance_id" :: fields).Nodup) :
    (without object "instance_id").length = fields.length + 1 := by
  simp only [List.nodup_cons, List.mem_cons, not_or] at names
  have left := payload_exact exact names.2.1
  exact length_of_exact left (distinct_without keys _) (List.nodup_cons.mpr ⟨names.1.2, names.2.2⟩)

theorem length_payload_one {name : String} (keys : (object.map Prod.fst).Nodup)
    (exact : Exact object ("operation_id" :: "instance_id" :: fields) [name])
    (names : ("operation_id" :: "instance_id" :: (fields ++ [name])).Nodup) :
    (without object "instance_id").length =
      if ((without object "instance_id").lookup name).isNone then fields.length + 1
      else fields.length + 2 := by
  rw [List.nodup_cons, List.nodup_cons, List.mem_cons, not_or, List.mem_append, not_or] at names
  obtain ⟨⟨_, free⟩, foreign, distinct⟩ := names
  rw [List.mem_append, not_or] at foreign
  have left := payload_exact exact foreign.1
  exact length_of_exact_one left (distinct_without keys _)
    (List.nodup_cons.mpr ⟨by simpa using free, distinct⟩)

theorem portable_of_operation (keys : (object.map Prod.fst).Nodup)
    (exact : Exact object ("operation_id" :: "instance_id" :: fields) optional)
    (operation : HasUuid parseUuid object "operation_id")
    (instanceId : HasUuid parseUuid object "instance_id")
    (names : ("operation_id" :: "instance_id" :: (fields ++ optional)).Nodup)
    (few : (fields ++ optional).length ≤ 6)
    (short : ∀ name ∈ fields ++ optional, (utf8 name).length ≤ 64)
    (compact : ∀ name ∈ fields ++ optional, Compact floatText object name) :
    Portable floatText object := by
  apply portable_of_exact exact keys
  · exact names
  · exact Nat.add_le_add_right few 2
  · simp only [List.cons_append, List.forall_mem_cons]
    exact ⟨by decide, by decide, short⟩
  · simp only [List.cons_append, List.forall_mem_cons]
    exact ⟨compact_hasUuid operation, compact_hasUuid instanceId, compact⟩

theorem hasOperationId_of_hasUuid (has : HasUuid parseUuid object "operation_id") :
    hasOperationId (without object "instance_id") = true := by
  obtain ⟨id, found, _⟩ := has
  rw [hasOperationId, lookup_without_of_ne (by decide), found]
  rfl

end Payload

section Watchpoints

/-- The size of the payload of a hardware or memory breakpoint. -/
theorem watchpoint_parses (build : Build) (request : Request) {accepted : List String}
    (keys : (object.map Prod.fst).Nodup)
    (exact : Exact object ["operation_id", "instance_id", "address", "access", "size"] [])
    (operationId : HasUuid parseUuid object "operation_id")
    (bounds : ∀ text ∈ accepted, 4 ≤ (utf8 text).length ∧ (utf8 text).length ≤ 10)
    (address : ∃ value, object.lookup "address" = some value ∧ IsAddress value)
    (access : HasOneOf object "access" accepted) (size : HasInteger object "size" 1 65536) :
    ∃ parsed, parseWatchpoint build (without object "instance_id") request = some parsed := by
  have length := length_payload keys exact (by decide)
  have identified := hasOperationId_of_hasUuid operationId
  obtain ⟨watched, reads, _⟩ := parseWatch_of_fields build bounds address access size request
  refine ⟨watched, ?_⟩
  rw [parseWatch] at reads
  simpa [parseWatchpoint, require, length, identified, parseWatch, lookup_without_of_ne] using reads

end Watchpoints

section Selector

variable {selector : Object}

/-- The fields of a selector, each within the room of an address. -/
theorem within_selector {required : List String}
    (exact : Exact selector required []) (keys : (selector.map Prod.fst).Nodup)
    (names : required.Nodup) (few : required.length ≤ 4)
    (short : ∀ name ∈ required, (utf8 name).length ≤ 16)
    (within : ∀ name ∈ required, ∀ value, selector.lookup name = some value →
      Json.Within floatText 4096 value) :
    Json.Within floatText fieldBytes (.object selector) := by
  refine within_of_exact 16 4096 exact keys names short within ?_
  calc
    required.length * (6 * 16 + 4096 + 4) + 2 ≤ 4 * (6 * 16 + 4096 + 4) + 2 :=
      Nat.add_le_add_right (Nat.mul_le_mul_right _ few) 2
    _ ≤ fieldBytes := by decide

theorem within_found {field : String} {value : Json} (bound : Nat)
    (found : selector.lookup field = some value) (within : Json.Within floatText bound value)
    (room : bound ≤ 4096) :
    ∀ other, selector.lookup field = some other → Json.Within floatText 4096 other := by
  intro other held
  rw [found, Option.some.injEq] at held
  exact held ▸ within.mono room

/-- A short text of a selector. -/
theorem within_shortText {field text : String} (found : selector.lookup field = some (.string text))
    (short : (utf8 text).length ≤ 64) :
    ∀ other, selector.lookup field = some other → Json.Within floatText 4096 other := by
  have within : Json.Within floatText 390 (.string text) := .string (by omega)
  exact within_found 390 found within (by decide)

end Selector

section Mutations

variable (build : Build) (request : Request)

/-- The run-state methods without a thread. -/
theorem runState_parses (keys : (object.map Prod.fst).Nodup)
    (valid : operation parseUuid object [] = .ok ()) :
    Mutation floatText parseUuid object fun payload => parseRunState payload request false := by
  obtain ⟨exact, operationId, instanceId⟩ := operation_eq_ok valid
  refine ⟨portable_of_operation keys exact operationId instanceId (by decide) (by decide) (by decide)
    (by simp), operationId, ?_⟩
  have size := length_payload keys exact (by decide)
  have identified := hasOperationId_of_hasUuid operationId
  have thread := exact.lookup_eq_none (by decide : "thread_id" ∉ ["operation_id", "instance_id"] ++ [])
  simp [parseRunState, require, size, identified, lookup_without_of_ne, thread, parseThreadId,
    unlessMissing]

theorem detach_parses (keys : (object.map Prod.fst).Nodup)
    (valid : operation parseUuid object [] = .ok ()) :
    Mutation floatText parseUuid object fun payload => parseDetach payload request := by
  obtain ⟨exact, operationId, instanceId⟩ := operation_eq_ok valid
  refine ⟨portable_of_operation keys exact operationId instanceId (by decide) (by decide) (by decide)
    (by simp), operationId, ?_⟩
  have size := length_payload keys exact (by decide)
  have identified := hasOperationId_of_hasUuid operationId
  simp [parseDetach, require, size, identified]

/-- The two steps. -/
theorem step_parses (keys : (object.map Prod.fst).Nodup)
    (valid : validateTool parseUuid object .debuggerStepInto = .ok ()) :
    Mutation floatText parseUuid object fun payload => parseRunState payload request true := by
  simp only [validateTool, bind_eq_ok, exactKeys_eq_ok] at valid
  obtain ⟨_, exact, _, operationIs, _, instanceIs, threadIs⟩ := valid
  have operationId := validateUuidField_eq_ok operationIs
  have instanceId := validateUuidField_eq_ok instanceIs
  have thread := optionalThreadId_eq_ok threadIs
  constructor
  · apply portable_of_operation keys exact operationId instanceId (by decide) (by decide) (by decide)
    simp only [List.nil_append, List.forall_mem_cons]
    exact ⟨compact_optionalThread thread, by simp⟩
  · exact operationId
  · have size := length_payload_one keys exact (by decide)
    have identified := hasOperationId_of_hasUuid operationId
    obtain ⟨targetThread, readsThread⟩ := parseThreadId_of_optional thread
    rw [lookup_without_of_ne (by decide)] at size
    cases found : object.lookup "thread_id" with
    | none =>
        rw [found] at size readsThread
        simp [parseRunState, require, size, identified, lookup_without_of_ne, found, readsThread]
    | some value =>
        rw [found] at size readsThread
        simp [parseRunState, require, size, identified, lookup_without_of_ne, found, readsThread]

theorem continueException_parses (keys : (object.map Prod.fst).Nodup)
    (below : ∀ field ∈ object, field.2.distinct = true)
    (valid : validateTool parseUuid object .debuggerContinueException = .ok ()) :
    Mutation floatText parseUuid object fun payload => parseContinueException payload request := by
  simp only [validateTool, bind_eq_ok, exactKeys_eq_ok] at valid
  obtain ⟨_, exact, _, operationIs, _, instanceIs, _, listed, overridden⟩ := valid
  have operationId := validateUuidField_eq_ok operationIs
  have instanceId := validateUuidField_eq_ok instanceIs
  have disposition := oneOf_eq_ok listed
  obtain ⟨⟨assignments, readsOverrides⟩, compactOverrides⟩ :=
    optionalOverrides_crosses floatText below overridden
  constructor
  · apply portable_of_operation keys exact operationId instanceId (by decide) (by decide) (by decide)
    simp only [List.cons_append, List.nil_append, List.forall_mem_cons]
    exact ⟨compact_hasOneOf disposition, compactOverrides, by simp⟩
  · exact operationId
  · have size := length_payload_one keys exact (by decide)
    have identified := hasOperationId_of_hasUuid operationId
    obtain ⟨text, found, mem, _⟩ := disposition
    obtain ⟨accepted, readsDisposition⟩ := parseOneOf_of_mem ⟨text, found, mem⟩
    have counts : (without object "instance_id").length =
        if (object.lookup "register_overrides").isNone then 2 else 3 := by
      rwa [lookup_without_of_ne (by decide)] at size
    rw [parseContinueException, lookup_without_of_ne (by decide), lookup_without_of_ne (by decide),
      counts, identified, readsDisposition, readsOverrides]
    simp [require]

/-- Launching an executable or a library. -/
theorem launchTargets_eq_ok {result : Unit}
    (valid : validateLaunchTargets parseUuid object = .ok result) :
    HasUuid parseUuid object "operation_id" ∧ HasUuid parseUuid object "instance_id" ∧
      HasPlain object "path" 3 8192 ∧
      ((object.lookup "working_directory").isSome = true →
        HasPlain object "working_directory" 3 8192) := by
  simp only [validateLaunchTargets, bind_eq_ok, whenPresent_eq_ok] at valid
  obtain ⟨_, operationIs, _, instanceIs, _, pathIs, directoryIs⟩ := valid
  exact ⟨validateUuidField_eq_ok operationIs, validateUuidField_eq_ok instanceIs,
    validatePath_eq_ok pathIs, fun present => validatePath_eq_ok (directoryIs present)⟩

theorem launch_parses (keys : (object.map Prod.fst).Nodup)
    (valid : validateTool parseUuid object .debuggeeLaunch = .ok ()) :
    Mutation floatText parseUuid object fun payload => parseLaunch payload request := by
  simp only [validateTool, bind_eq_ok, exactKeys_eq_ok] at valid
  obtain ⟨_, _, _, _, _, exact, _, targets, argued⟩ := valid
  obtain ⟨operationId, instanceId, path, directory⟩ := launchTargets_eq_ok targets
  obtain ⟨⟨launchArguments, readsArguments⟩, compactArguments⟩ :=
    optionalLaunchArguments_crosses floatText argued
  constructor
  · apply portable_of_operation keys exact operationId instanceId (by decide) (by decide) (by decide)
    simp only [List.cons_append, List.nil_append, List.forall_mem_cons]
    exact ⟨compact_hasPlain path (by decide),
      .of_optional fun present => compact_hasPlain (directory present) (by decide),
      compactArguments, by simp⟩
  · exact operationId
  · have left := payload_exact exact (by decide)
    have size := left.length_eq (distinct_without keys _) (by decide)
    have identified := hasOperationId_of_hasUuid operationId
    obtain ⟨pathText, readsPath⟩ := parsePath_of_hasPlain path
    obtain ⟨directoryText, readsDirectory⟩ := unlessMissing_of "" fun present =>
      parsePath_of_hasPlain (directory present)
    simp only [List.map_cons, List.map_nil, List.sum_cons, List.sum_nil, List.length_cons,
      List.length_nil, lookup_without_of_ne (by decide : "working_directory" ≠ "instance_id"),
      lookup_without_of_ne (by decide : "arguments" ≠ "instance_id")] at size
    have counts : (without object "instance_id").length =
        2 + counted (object.lookup "working_directory") + counted (object.lookup "arguments") := by
      simp only [counted]
      omega
    rw [parseLaunch, lookup_without_of_ne (by decide), lookup_without_of_ne (by decide),
      lookup_without_of_ne (by decide), counts, identified, readsPath, readsDirectory,
      readsArguments]
    simp [require]

theorem launchDll_parses (keys : (object.map Prod.fst).Nodup)
    (valid : validateTool parseUuid object .debuggeeLaunchDll = .ok ()) :
    Mutation floatText parseUuid object fun payload => parseLaunchDll payload request := by
  simp only [validateTool, bind_eq_ok, exactKeys_eq_ok] at valid
  obtain ⟨_, exact, targets⟩ := valid
  obtain ⟨operationId, instanceId, path, directory⟩ := launchTargets_eq_ok targets
  constructor
  · apply portable_of_operation keys exact operationId instanceId (by decide) (by decide) (by decide)
    simp only [List.cons_append, List.nil_append, List.forall_mem_cons]
    exact ⟨compact_hasPlain path (by decide),
      .of_optional fun present => compact_hasPlain (directory present) (by decide), by simp⟩
  · exact operationId
  · have left := payload_exact exact (by decide)
    have size := left.length_eq (distinct_without keys _) (by decide)
    have identified := hasOperationId_of_hasUuid operationId
    obtain ⟨pathText, readsPath⟩ := parsePath_of_hasPlain path
    obtain ⟨directoryText, readsDirectory⟩ := unlessMissing_of "" fun present =>
      parsePath_of_hasPlain (directory present)
    simp only [List.map_cons, List.map_nil, List.sum_cons, List.sum_nil, List.length_cons,
      List.length_nil, lookup_without_of_ne (by decide : "working_directory" ≠ "instance_id")] at size
    have counts : (without object "instance_id").length =
        2 + counted (object.lookup "working_directory") := by
      simp only [counted]
      omega
    rw [parseLaunchDll, lookup_without_of_ne (by decide), lookup_without_of_ne (by decide),
      counts, identified, readsPath, readsDirectory]
    simp [require]

theorem attach_parses (keys : (object.map Prod.fst).Nodup)
    (valid : validateTool parseUuid object .debuggeeAttach = .ok ()) :
    Mutation floatText parseUuid object fun payload => parseAttach payload request := by
  simp only [validateTool, bind_eq_ok, integer_eq_ok] at valid
  obtain ⟨_, operated, process⟩ := valid
  obtain ⟨exact, operationId, instanceId⟩ := operation_eq_ok operated
  constructor
  · apply portable_of_operation keys exact operationId instanceId (by decide) (by decide) (by decide)
    simp only [List.cons_append, List.nil_append, List.forall_mem_cons]
    exact ⟨compact_hasInteger process (by decide), by simp⟩
  · exact operationId
  · have size := length_payload keys exact (by decide)
    have identified := hasOperationId_of_hasUuid operationId
    obtain ⟨processId, reads⟩ := integerIn_of_hasInteger process
    simp [parseAttach, require, size, identified, lookup_without_of_ne, reads]

theorem traceStart_parses (keys : (object.map Prod.fst).Nodup)
    (valid : validateTool parseUuid object .traceStart = .ok ()) :
    Mutation floatText parseUuid object fun payload => parseTraceStart payload request := by
  simp only [validateTool, bind_eq_ok, integer_eq_ok] at valid
  obtain ⟨_, operated, _, listed, _, maxSteps, timeout⟩ := valid
  obtain ⟨exact, operationId, instanceId⟩ := operation_eq_ok operated
  have mode := oneOf_eq_ok listed
  constructor
  · apply portable_of_operation keys exact operationId instanceId (by decide) (by decide) (by decide)
    simp only [List.cons_append, List.nil_append, List.forall_mem_cons]
    exact ⟨compact_hasOneOf mode, compact_hasInteger maxSteps (by decide),
      compact_hasInteger timeout (by decide), by simp⟩
  · exact operationId
  · have size := length_payload keys exact (by decide)
    have identified := hasOperationId_of_hasUuid operationId
    obtain ⟨text, found, member, _⟩ := mode
    obtain ⟨traceMode, readsMode⟩ := parseOneOf_of_mem ⟨text, found, member⟩
    obtain ⟨traceMaxSteps, readsSteps⟩ := integerIn_of_hasInteger maxSteps
    obtain ⟨traceTimeoutMs, readsTimeout⟩ := integerIn_of_hasInteger timeout
    simp [parseTraceStart, require, size, identified, lookup_without_of_ne, readsMode, readsSteps,
      readsTimeout]

theorem traceCancel_parses (keys : (object.map Prod.fst).Nodup)
    (valid : validateTool parseUuid object .traceCancel = .ok ()) :
    Mutation floatText parseUuid object fun payload => parseTraceCancel payload request := by
  simp only [validateTool, bind_eq_ok] at valid
  obtain ⟨_, operated, trace⟩ := valid
  obtain ⟨exact, operationId, instanceId⟩ := operation_eq_ok operated
  have id := validateUuidField_eq_ok trace
  constructor
  · apply portable_of_operation keys exact operationId instanceId (by decide) (by decide) (by decide)
    simp only [List.cons_append, List.nil_append, List.forall_mem_cons]
    exact ⟨compact_hasUuid id, by simp⟩
  · exact operationId
  · have size := length_payload keys exact (by decide)
    have identified := hasOperationId_of_hasUuid operationId
    obtain ⟨traceId, reads⟩ := parseUuidText_of_hasUuid id
    simp [parseTraceCancel, require, size, identified, lookup_without_of_ne, reads]

theorem registersWrite_parses (keys : (object.map Prod.fst).Nodup)
    (valid : validateTool parseUuid object .registersWrite = .ok ()) :
    Mutation floatText parseUuid object fun payload => parseRegistersWrite payload request := by
  simp only [validateTool, bind_eq_ok, exactKeys_eq_ok] at valid
  obtain ⟨_, exact, _, operationIs, _, instanceIs, _, threadIs, written⟩ := valid
  have operationId := validateUuidField_eq_ok operationIs
  have instanceId := validateUuidField_eq_ok instanceIs
  have thread := optionalThreadId_eq_ok threadIs
  obtain ⟨name, text, found, hex⟩ := validateRegisterWrite_eq_ok written
  constructor
  · apply portable_of_operation keys exact operationId instanceId (by decide) (by decide) (by decide)
    simp only [List.cons_append, List.nil_append, List.forall_mem_cons]
    exact ⟨compact_hasText name (by decide), compact_text found (by have := hex.2.2; omega),
      compact_optionalThread thread, by simp⟩
  · exact operationId
  · have size : (without object "instance_id").length =
        if ((without object "instance_id").lookup "thread_id").isNone then 3 else 4 :=
      length_payload_one keys exact (by decide)
    have identified := hasOperationId_of_hasUuid operationId
    obtain ⟨targetThread, readsThread⟩ := parseThreadId_of_optional thread
    obtain ⟨registerName, readsName⟩ := textIn_of_hasText name
    simp [parseRegistersWrite, require, size, identified, lookup_without_of_ne, readsThread,
      readsName, found, parseCanonicalHex64_of_isHex hex]

theorem memoryDump_parses (keys : (object.map Prod.fst).Nodup)
    (valid : validateTool parseUuid object .memoryDump = .ok ()) :
    Mutation floatText parseUuid object fun payload => parseMemoryDump build payload request := by
  simp only [validateTool, bind_eq_ok, exactKeys_eq_ok, integer_eq_ok] at valid
  obtain ⟨_, exact, _, operationIs, _, instanceIs, _, addressed, _, length, _, pathIs, flagged⟩ :=
    valid
  have operationId := validateUuidField_eq_ok operationIs
  have instanceId := validateUuidField_eq_ok instanceIs
  have address := validateAddressRef_eq_ok addressed
  have path := validatePath_eq_ok pathIs
  have overwrite := optionalBoolean_eq_ok flagged
  constructor
  · apply portable_of_operation keys exact operationId instanceId (by decide) (by decide) (by decide)
    simp only [List.cons_append, List.nil_append, List.forall_mem_cons]
    exact ⟨compact_address address, compact_hasInteger length (by decide),
      compact_hasPlain path (by decide), compact_optionalBoolean overwrite, by simp⟩
  · exact operationId
  · have size := length_payload_one keys exact (by decide)
    have counts : (without object "instance_id").length =
        if ((without object "instance_id").lookup "overwrite").isSome then 5 else 4 := by
      rw [size]
      cases (without object "instance_id").lookup "overwrite" <;> rfl
    obtain ⟨reference, readsAddress⟩ := parseAddressReference_of_field build address
    obtain ⟨count, readsLength⟩ := integerIn_of_hasInteger length
    obtain ⟨pathText, readsPath, _⟩ := textIn_of_hasPlain path
    obtain ⟨flag, readsFlag⟩ := booleanOf_of_optional false overwrite
    simp [parseMemoryDump, require, counts, lookup_without_of_ne, readsAddress, readsLength,
      readsPath, readsFlag]

theorem memoryWrite_parses (keys : (object.map Prod.fst).Nodup)
    (valid : validateTool parseUuid object .memoryWrite = .ok ()) :
    Mutation floatText parseUuid object fun payload => parseMemoryWrite build payload request := by
  simp only [validateTool, bind_eq_ok] at valid
  obtain ⟨_, operated, _, addressed, written⟩ := valid
  obtain ⟨exact, operationId, instanceId⟩ := operation_eq_ok operated
  have address := validateAddressRef_eq_ok addressed
  obtain ⟨text, data⟩ := validateData_eq_ok written
  constructor
  · apply portable_of_operation keys exact operationId instanceId (by decide) (by decide) (by decide)
    simp only [List.cons_append, List.nil_append, List.forall_mem_cons]
    exact ⟨compact_address address, compact_hasByteHex data (by decide), by simp⟩
  · exact operationId
  · have size := length_payload keys exact (by decide)
    have identified := hasOperationId_of_hasUuid operationId
    obtain ⟨reference, readsAddress⟩ := parseAddressReference_of_field build address
    obtain ⟨found, low, high, even, hex⟩ := data
    obtain ⟨bytes, readsBytes, _⟩ := parseHexPairs_of_lowerHex false even hex
    have readsText : textIn (object.lookup "data_hex") 2 8192 = some text := by
      simp [textIn, textOf, found, Json.asStr, require, low, high]
    simp [parseMemoryWrite, require, size, identified, lookup_without_of_ne, readsAddress, readsText,
      even, readsBytes]

theorem runToAddress_parses (keys : (object.map Prod.fst).Nodup)
    (valid : validateTool parseUuid object .debuggerRunToAddress = .ok ()) :
    Mutation floatText parseUuid object fun payload => parseRunToAddress build payload request := by
  simp only [validateTool, bind_eq_ok, exactKeys_eq_ok, optionalInteger_eq_ok] at valid
  obtain ⟨_, exact, _, operationIs, _, instanceIs, _, addressed, timeout⟩ := valid
  have operationId := validateUuidField_eq_ok operationIs
  have instanceId := validateUuidField_eq_ok instanceIs
  have address := validateAddressRef_eq_ok addressed
  constructor
  · apply portable_of_operation keys exact operationId instanceId (by decide) (by decide) (by decide)
    simp only [List.cons_append, List.nil_append, List.forall_mem_cons]
    exact ⟨compact_address address, compact_optionalInteger timeout (by decide), by simp⟩
  · exact operationId
  · have size : (without object "instance_id").length =
        if ((without object "instance_id").lookup "timeout_ms").isNone then 2 else 3 :=
      length_payload_one keys exact (by decide)
    have identified := hasOperationId_of_hasUuid operationId
    obtain ⟨reference, readsAddress⟩ := parseAddressReference_of_field build address
    obtain ⟨runToTimeoutMs, readsTimeout⟩ := integerOr_of_optional request.runToTimeoutMs timeout
    simp [parseRunToAddress, require, size, identified, lookup_without_of_ne, readsAddress,
      readsTimeout]

/-- Software breakpoints and the analysis of a function. -/
theorem breakpoint_parses (keys : (object.map Prod.fst).Nodup)
    (valid : validateTool parseUuid object .breakpointsSet = .ok ()) :
    Mutation floatText parseUuid object fun payload => parseBreakpoint build payload request := by
  simp only [validateTool, bind_eq_ok] at valid
  obtain ⟨_, operated, addressed⟩ := valid
  obtain ⟨exact, operationId, instanceId⟩ := operation_eq_ok operated
  have address := validateAddressRef_eq_ok addressed
  constructor
  · apply portable_of_operation keys exact operationId instanceId (by decide) (by decide) (by decide)
    simp only [List.cons_append, List.nil_append, List.forall_mem_cons]
    exact ⟨compact_address address, by simp⟩
  · exact operationId
  · have size := length_payload keys exact (by decide)
    have identified := hasOperationId_of_hasUuid operationId
    obtain ⟨reference, readsAddress⟩ := parseAddressReference_of_field build address
    simp [parseBreakpoint, require, size, identified, lookup_without_of_ne, readsAddress]

/-- Hardware breakpoints. -/
theorem hardware_parses (keys : (object.map Prod.fst).Nodup)
    (valid : validateTool parseUuid object .breakpointsHardwareSet = .ok ()) :
    Mutation floatText parseUuid object fun payload => parseWatchpoint build payload request := by
  simp only [validateTool, bind_eq_ok, validateHardware, oneOfInteger_eq_ok] at valid
  obtain ⟨_, operated, _, addressed, _, listed, sized⟩ := valid
  obtain ⟨exact, operationId, instanceId⟩ := operation_eq_ok operated
  have address := validateAddressRef_eq_ok addressed
  have access := oneOf_eq_ok listed
  have size := (hasInteger_of_oneOf sized).1
  constructor
  · apply portable_of_operation keys exact operationId instanceId (by decide) (by decide) (by decide)
    simp only [List.cons_append, List.nil_append, List.forall_mem_cons]
    exact ⟨compact_address address, compact_hasOneOf access, compact_hasInteger size (by decide),
      by simp⟩
  · exact operationId
  · exact watchpoint_parses build request keys exact operationId (by decide) address access size

/-- Memory breakpoints. -/
theorem memoryBreakpoint_parses (keys : (object.map Prod.fst).Nodup)
    (valid : validateTool parseUuid object .breakpointsMemorySet = .ok ()) :
    Mutation floatText parseUuid object fun payload => parseWatchpoint build payload request := by
  simp only [validateTool, bind_eq_ok, validateMemoryBreakpoint, integer_eq_ok] at valid
  obtain ⟨_, operated, _, addressed, _, listed, size⟩ := valid
  obtain ⟨exact, operationId, instanceId⟩ := operation_eq_ok operated
  have address := validateAddressRef_eq_ok addressed
  have access := oneOf_eq_ok listed
  constructor
  · apply portable_of_operation keys exact operationId instanceId (by decide) (by decide) (by decide)
    simp only [List.cons_append, List.nil_append, List.forall_mem_cons]
    exact ⟨compact_address address, compact_hasOneOf access, compact_hasInteger size (by decide),
      by simp⟩
  · exact operationId
  · exact watchpoint_parses build request keys exact operationId (by decide) address access size

theorem exceptionSelector_eq_ok {fields : Object} {result : Unit}
    (valid : validateExceptionSelector fields = .ok result) :
    HasHex fields "code" 10 (2 ^ 32) ∧ HasOneOf fields "chance" ["first", "second", "both"] := by
  simp only [validateExceptionSelector, bind_eq_ok] at valid
  obtain ⟨_, coded, listed⟩ := valid
  exact ⟨validateExceptionCode_eq_ok coded, oneOf_eq_ok listed⟩

theorem exceptionSet_parses (keys : (object.map Prod.fst).Nodup)
    (valid : validateTool parseUuid object .breakpointsExceptionSet = .ok ()) :
    Mutation floatText parseUuid object fun payload =>
      parseExceptionBreakpoint payload request false := by
  simp only [validateTool, bind_eq_ok] at valid
  obtain ⟨_, operated, selected⟩ := valid
  obtain ⟨exact, operationId, instanceId⟩ := operation_eq_ok operated
  obtain ⟨code, chance⟩ := exceptionSelector_eq_ok selected
  constructor
  · apply portable_of_operation keys exact operationId instanceId (by decide) (by decide) (by decide)
    simp only [List.cons_append, List.nil_append, List.forall_mem_cons]
    exact ⟨compact_hasHex code, compact_hasOneOf chance, by simp⟩
  · exact operationId
  · have size := length_payload keys exact (by decide)
    have identified := hasOperationId_of_hasUuid operationId
    have managed := exact.lookup_eq_none
      (by decide : "managed_id" ∉ ["operation_id", "instance_id", "code", "chance"] ++ [])
    obtain ⟨number, readsCode⟩ := parseExceptionCode_of_hasHex code
    obtain ⟨text, readsChance⟩ := parseChance_of_hasOneOf chance
    simp [parseExceptionBreakpoint, require, size, identified, lookup_without_of_ne, managed,
      readsCode, readsChance]

theorem exceptionRemove_parses (keys : (object.map Prod.fst).Nodup)
    (valid : validateTool parseUuid object .breakpointsExceptionRemove = .ok ()) :
    Mutation floatText parseUuid object fun payload =>
      parseExceptionBreakpoint payload request true := by
  simp only [validateTool, bind_eq_ok] at valid
  obtain ⟨_, operated, _, selected, managedIs⟩ := valid
  obtain ⟨exact, operationId, instanceId⟩ := operation_eq_ok operated
  obtain ⟨code, chance⟩ := exceptionSelector_eq_ok selected
  have managed := validateUuidField_eq_ok managedIs
  constructor
  · apply portable_of_operation keys exact operationId instanceId (by decide) (by decide) (by decide)
    simp only [List.cons_append, List.nil_append, List.forall_mem_cons]
    exact ⟨compact_hasHex code, compact_hasOneOf chance, compact_hasUuid managed, by simp⟩
  · exact operationId
  · have size := length_payload keys exact (by decide)
    have identified := hasOperationId_of_hasUuid operationId
    obtain ⟨number, readsCode⟩ := parseExceptionCode_of_hasHex code
    obtain ⟨text, readsChance⟩ := parseChance_of_hasOneOf chance
    obtain ⟨name, readsManaged⟩ := parseManagedId_of_hasUuid (.inl rfl) managed
    simp [parseExceptionBreakpoint, require, size, identified, lookup_without_of_ne, readsManaged,
      readsCode, readsChance]

theorem conditionalSet_parses (keys : (object.map Prod.fst).Nodup)
    (below : ∀ field ∈ object, field.2.distinct = true)
    (valid : validateTool parseUuid object .breakpointsConditionalSet = .ok ()) :
    Mutation floatText parseUuid object fun payload =>
      parseConditionalBreakpoint build payload request false := by
  simp only [validateTool, bind_eq_ok] at valid
  obtain ⟨_, operated, _, addressed, conditioned⟩ := valid
  obtain ⟨exact, operationId, instanceId⟩ := operation_eq_ok operated
  have address := validateAddressRef_eq_ok addressed
  obtain ⟨⟨condition, readsCondition⟩, compactCondition⟩ :=
    parseCondition_of_valid floatText below conditioned
  constructor
  · apply portable_of_operation keys exact operationId instanceId (by decide) (by decide) (by decide)
    simp only [List.cons_append, List.nil_append, List.forall_mem_cons]
    exact ⟨compact_address address, compactCondition, by simp⟩
  · exact operationId
  · have size := length_payload keys exact (by decide)
    have identified := hasOperationId_of_hasUuid operationId
    have managed := exact.lookup_eq_none
      (by decide : "managed_id" ∉ ["operation_id", "instance_id", "address", "condition"] ++ [])
    obtain ⟨reference, readsAddress⟩ := parseAddressReference_of_field build address
    simp [parseConditionalBreakpoint, require, size, identified, lookup_without_of_ne, managed,
      readsAddress, readsCondition]

theorem conditionalRemove_parses (keys : (object.map Prod.fst).Nodup)
    (valid : validateTool parseUuid object .breakpointsConditionalRemove = .ok ()) :
    Mutation floatText parseUuid object fun payload =>
      parseConditionalBreakpoint build payload request true := by
  simp only [validateTool, bind_eq_ok] at valid
  obtain ⟨_, operated, _, addressed, managedIs⟩ := valid
  obtain ⟨exact, operationId, instanceId⟩ := operation_eq_ok operated
  have address := validateAddressRef_eq_ok addressed
  have managed := validateUuidField_eq_ok managedIs
  constructor
  · apply portable_of_operation keys exact operationId instanceId (by decide) (by decide) (by decide)
    simp only [List.cons_append, List.nil_append, List.forall_mem_cons]
    exact ⟨compact_address address, compact_hasUuid managed, by simp⟩
  · exact operationId
  · have size := length_payload keys exact (by decide)
    have identified := hasOperationId_of_hasUuid operationId
    obtain ⟨reference, readsAddress⟩ := parseAddressReference_of_field build address
    obtain ⟨name, readsManaged⟩ := parseManagedId_of_hasUuid (.inr rfl) managed
    simp [parseConditionalBreakpoint, require, size, identified, lookup_without_of_ne, readsManaged,
      readsAddress]

theorem assemblyPatch_parses (keys : (object.map Prod.fst).Nodup)
    (valid : validateTool parseUuid object .assemblyPatch = .ok ()) :
    Mutation floatText parseUuid object fun payload => parseAssembly build payload request true := by
  simp only [validateTool, bind_eq_ok, ensure_eq_ok, Option.any_eq_true, Option.isSome_iff_exists,
    asBool_eq_some] at valid
  obtain ⟨_, operated, _, addressed, _, instructed, _, expectedIs, _, fillFound, flag, rfl⟩ := valid
  obtain ⟨exact, operationId, instanceId⟩ := operation_eq_ok operated
  have address := validateAddressRef_eq_ok addressed
  obtain ⟨text, found, low, high, printable⟩ := validateInstruction_eq_ok instructed
  obtain ⟨bytes, expected⟩ := validateByteHex_eq_ok expectedIs
  constructor
  · apply portable_of_operation keys exact operationId instanceId (by decide) (by decide) (by decide)
    simp only [List.cons_append, List.nil_append, List.forall_mem_cons]
    exact ⟨compact_address address, compact_text found (by omega),
      compact_hasByteHex expected (by decide), compact_boolean fillFound, by simp⟩
  · exact operationId
  · have size := length_payload keys exact (by decide)
    have identified := hasOperationId_of_hasUuid operationId
    obtain ⟨reference, readsAddress⟩ := parseAddressReference_of_field build address
    obtain ⟨parsed, readsBytes, _⟩ := parsePatchBytes_of_hasByteHex expected
    simp [parseAssembly, require, size, identified, lookup_without_of_ne, readsAddress, textOf, found,
      Json.asStr, safeInstruction_of_printable low high printable, expected.1, booleanOf, fillFound,
      Json.asBool, readsBytes]

theorem patchesRestore_parses (keys : (object.map Prod.fst).Nodup)
    (valid : validateTool parseUuid object .patchesRestore = .ok ()) :
    Mutation floatText parseUuid object fun payload => parsePatchesRestore build payload request := by
  simp only [validateTool, bind_eq_ok] at valid
  obtain ⟨_, operated, _, addressed, paired⟩ := valid
  obtain ⟨exact, operationId, instanceId⟩ := operation_eq_ok operated
  have address := validateAddressRef_eq_ok addressed
  obtain ⟨patched, original, patchedIs, originalIs, same, different⟩ := validatePatchPair_eq_ok paired
  constructor
  · apply portable_of_operation keys exact operationId instanceId (by decide) (by decide) (by decide)
    simp only [List.cons_append, List.nil_append, List.forall_mem_cons]
    exact ⟨compact_address address, compact_hasByteHex patchedIs (by decide),
      compact_hasByteHex originalIs (by decide), by simp⟩
  · exact operationId
  · have size := length_payload keys exact (by decide)
    have identified := hasOperationId_of_hasUuid operationId
    obtain ⟨reference, readsAddress⟩ := parseAddressReference_of_field build address
    obtain ⟨patchedBytes, readsPatched, patchedSize⟩ := parsePatchBytes_of_hasByteHex patchedIs
    obtain ⟨originalBytes, readsOriginal, originalSize⟩ := parsePatchBytes_of_hasByteHex originalIs
    have sameSize : patchedBytes.length = originalBytes.length := by
      rw [patchedSize, originalSize, same]
    -- different texts stand for different bytes
    have apart : patchedBytes ≠ originalBytes := by
      rintro rfl
      exact different
        (parsePatchBytes_inj patchedIs.2.2.2.2 originalIs.2.2.2.2 readsPatched readsOriginal)
    simp [parsePatchesRestore, require, size, identified, lookup_without_of_ne, readsAddress, textOf,
      patchedIs.1, originalIs.1, Json.asStr, readsPatched, readsOriginal, sameSize, apart]

/-- The five kinds of selector. -/
theorem selector_parses {payload selector : Object} {kind : String}
    (kindFound : selector.lookup "kind" = some (.string kind))
    (keys : (selector.map Prod.fst).Nodup) (found : payload.lookup "selector" = some (.object selector))
    (size : payload.length = 2) (identified : hasOperationId payload = true)
    (valid : (if kind = "software" then do
        exactKeys selector ["kind", "address"] []
        validateAddressRef selector "address"
      else if kind = "hardware" then do
        exactKeys selector ["kind", "address", "access", "size"] []
        validateHardware selector
      else if kind = "memory" then do
        exactKeys selector ["kind", "address", "access", "size"] []
        validateMemoryBreakpoint selector
      else if kind = "conditional" then do
        exactKeys selector ["kind", "address", "managed_id"] []
        validateAddressRef selector "address"
        validateUuidField parseUuid selector "managed_id"
      else if kind = "exception" then do
        exactKeys selector ["kind", "code", "chance", "managed_id"] []
        validateExceptionSelector selector
        validateUuidField parseUuid selector "managed_id"
      else .error (invalid "selector" "must contain a supported kind") : Checked Unit) = .ok ()) :
    (∃ parsed, parseToggle build payload request = some parsed) ∧
      Json.Within floatText fieldBytes (.object selector) := by
  split_ifs at valid with software hardware memory conditional exception
  · subst software
    simp only [bind_eq_ok, exactKeys_eq_ok] at valid
    obtain ⟨_, exact, addressed⟩ := valid
    have count := length_of_exact exact keys (by decide)
    have address := validateAddressRef_eq_ok addressed
    obtain ⟨reference, readsAddress⟩ := parseAddressReference_of_field build address
    obtain ⟨value, addressFound, isAddress⟩ := address
    constructor
    · simp [parseToggle, require, found, Json.asObject, kindFound, textOf, Json.asStr, size,
        identified, count, readsAddress]
    · apply within_selector exact keys (by decide) (by decide) (by decide)
      simp only [List.forall_mem_cons]
      exact ⟨within_shortText kindFound (by decide),
        within_found 4096 addressFound (within_isAddress isAddress) (by decide), by simp⟩
  · subst hardware
    simp only [bind_eq_ok, exactKeys_eq_ok, validateHardware, oneOfInteger_eq_ok] at valid
    obtain ⟨_, exact, _, addressed, _, listed, sized⟩ := valid
    have count := length_of_exact exact keys (by decide)
    have address := validateAddressRef_eq_ok addressed
    have access := oneOf_eq_ok listed
    obtain ⟨hasSize, eight⟩ := hasInteger_of_oneOf sized
    obtain ⟨watched, reads, accessed, readsSize⟩ :=
      parseWatch_of_fields build (by decide) address access hasSize
        { request with breakpointKind := "hardware" }
    have small := eight _ readsSize
    have known : (parseHardwareAccess watched.breakpointAccess).isSome = true := by
      simp only [List.mem_cons, List.not_mem_nil, or_false] at accessed
      rcases accessed with same | same | same <;> rw [same] <;> rfl
    obtain ⟨value, addressFound, isAddress⟩ := address
    obtain ⟨text, accessFound, _, short⟩ := access
    obtain ⟨number, sizeFound, _, large⟩ := hasSize
    constructor
    · simp [parseToggle, require, found, Json.asObject, kindFound, textOf, Json.asStr, size,
        identified, count, reads, small, known]
    · apply within_selector exact keys (by decide) (by decide) (by decide)
      simp only [List.forall_mem_cons]
      exact ⟨within_shortText kindFound (by decide),
        within_found 4096 addressFound (within_isAddress isAddress) (by decide),
        within_shortText accessFound (by omega),
        within_found 20 sizeFound (.integer (by omega) (by decide)) (by decide), by simp⟩
  · subst memory
    simp only [bind_eq_ok, exactKeys_eq_ok, validateMemoryBreakpoint, integer_eq_ok] at valid
    obtain ⟨_, exact, _, addressed, _, listed, hasSize⟩ := valid
    have count := length_of_exact exact keys (by decide)
    have address := validateAddressRef_eq_ok addressed
    have access := oneOf_eq_ok listed
    obtain ⟨watched, reads, accessed, _⟩ :=
      parseWatch_of_fields build (by decide) address access hasSize
        { request with breakpointKind := "memory" }
    have known : (parseMemoryAccess watched.breakpointAccess).isSome = true := by
      simp only [List.mem_cons, List.not_mem_nil, or_false] at accessed
      rcases accessed with same | same | same | same <;> rw [same] <;> rfl
    obtain ⟨value, addressFound, isAddress⟩ := address
    obtain ⟨text, accessFound, _, short⟩ := access
    obtain ⟨number, sizeFound, _, large⟩ := hasSize
    constructor
    · simp [parseToggle, require, found, Json.asObject, kindFound, textOf, Json.asStr, size,
        identified, count, reads, known]
    · apply within_selector exact keys (by decide) (by decide) (by decide)
      simp only [List.forall_mem_cons]
      exact ⟨within_shortText kindFound (by decide),
        within_found 4096 addressFound (within_isAddress isAddress) (by decide),
        within_shortText accessFound (by omega),
        within_found 20 sizeFound (.integer (by omega) (by decide)) (by decide), by simp⟩
  · subst conditional
    simp only [bind_eq_ok, exactKeys_eq_ok] at valid
    obtain ⟨_, exact, _, addressed, managedIs⟩ := valid
    have count := length_of_exact exact keys (by decide)
    have address := validateAddressRef_eq_ok addressed
    have managed := validateUuidField_eq_ok managedIs
    obtain ⟨reference, readsAddress⟩ := parseAddressReference_of_field build address
    obtain ⟨name, readsManaged⟩ := parseManagedId_of_hasUuid (.inr rfl) managed
    obtain ⟨value, addressFound, isAddress⟩ := address
    obtain ⟨id, idFound, _⟩ := managed
    constructor
    · simp [parseToggle, require, found, Json.asObject, kindFound, textOf, Json.asStr, size,
        identified, count, readsAddress, readsManaged]
    · apply within_selector exact keys (by decide) (by decide) (by decide)
      simp only [List.forall_mem_cons]
      exact ⟨within_shortText kindFound (by decide),
        within_found 4096 addressFound (within_isAddress isAddress) (by decide),
        within_shortText idFound (by rw [length_text]; decide), by simp⟩
  · subst exception
    simp only [bind_eq_ok, exactKeys_eq_ok] at valid
    obtain ⟨_, exact, _, selected, managedIs⟩ := valid
    have count := length_of_exact exact keys (by decide)
    obtain ⟨code, chance⟩ := exceptionSelector_eq_ok selected
    have managed := validateUuidField_eq_ok managedIs
    obtain ⟨number, readsCode⟩ := parseExceptionCode_of_hasHex code
    obtain ⟨text, readsChance⟩ := parseChance_of_hasOneOf chance
    obtain ⟨name, readsManaged⟩ := parseManagedId_of_hasUuid (.inl rfl) managed
    obtain ⟨codeText, codeFound, _, codeShort, _⟩ := code
    obtain ⟨chanceText, chanceFound, _, chanceShort⟩ := chance
    obtain ⟨id, idFound, _⟩ := managed
    constructor
    · simp [parseToggle, require, found, Json.asObject, kindFound, textOf, Json.asStr, size,
        identified, count, readsCode, readsChance, readsManaged]
    · apply within_selector exact keys (by decide) (by decide) (by decide)
      simp only [List.forall_mem_cons]
      exact ⟨within_shortText kindFound (by decide), within_shortText codeFound (by omega),
        within_shortText chanceFound (by omega),
        within_shortText idFound (by rw [length_text]; decide), by simp⟩

/-- Enabling and disabling a breakpoint. -/
theorem toggle_parses (keys : (object.map Prod.fst).Nodup)
    (below : ∀ field ∈ object, field.2.distinct = true)
    (valid : validateTool parseUuid object .breakpointsEnable = .ok ()) :
    Mutation floatText parseUuid object fun payload => parseToggle build payload request := by
  simp only [validateTool] at valid
  obtain ⟨_, operated, valid⟩ := bind_eq_ok.mp valid
  rw [validateBreakpointSelector, bind_eq_ok] at valid
  obtain ⟨selector, selected, valid⟩ := valid
  obtain ⟨kind, kinded, valid⟩ := bind_eq_ok.mp valid
  rw [okOr_eq_ok, Option.bind_eq_some_iff] at selected kinded
  obtain ⟨_, found, isObject⟩ := selected
  obtain ⟨_, kindFound, isText⟩ := kinded
  rw [asObject_eq_some] at isObject
  rw [asStr_eq_some] at isText
  subst isObject isText
  obtain ⟨exact, operationId, instanceId⟩ := operation_eq_ok operated
  have size := length_payload keys exact (by decide)
  have identified := hasOperationId_of_hasUuid operationId
  have kept : (without object "instance_id").lookup "selector" = some (.object selector) := by
    rw [lookup_without_of_ne (by decide), found]
  obtain ⟨parses, within⟩ := selector_parses build request kindFound
    (distinct_object (distinct_lookup below found)).1 kept size identified valid
  refine ⟨portable_of_operation keys exact operationId instanceId (by decide) (by decide) (by decide)
    ?_, operationId, parses⟩
  simp only [List.cons_append, List.nil_append, List.forall_mem_cons]
  exact ⟨.of_found found within, by simp⟩

/-- Reading the profile. -/
theorem profileGet_parses (keys : (object.map Prod.fst).Nodup)
    (reading : object.lookup "action" = some (.string "get"))
    (valid : validateTool parseUuid object .scyllahideProfile = .ok ()) :
    Portable floatText object ∧ ∃ parsed, parseScyllahideProfile object request = some parsed := by
  simp only [validateTool, validateProfile, bind_eq_ok, string_eq_ok, reading, Option.some.injEq,
    Json.string.injEq] at valid
  obtain ⟨_, ⟨rfl, _⟩, valid⟩ := valid
  rw [if_pos rfl, exactKeys_eq_ok] at valid
  constructor
  · apply portable_of_exact valid keys (by decide) (by decide) (by decide)
    simp only [List.cons_append, List.nil_append, List.forall_mem_cons]
    exact ⟨compact_text reading (by decide), by simp⟩
  · have size := length_of_exact valid keys (by decide)
    simp [parseScyllahideProfile, require, textOf, reading, Json.asStr, size]

/-- Changing the profile. -/
theorem profileSet_parses (keys : (object.map Prod.fst).Nodup)
    (writing : object.lookup "action" = some (.string "set"))
    (valid : validateTool parseUuid object .scyllahideProfile = .ok ()) :
    Mutation floatText parseUuid object fun payload => parseScyllahideProfile payload request := by
  simp only [validateTool, validateProfile, bind_eq_ok, string_eq_ok, writing, Option.some.injEq,
    Json.string.injEq] at valid
  obtain ⟨_, ⟨rfl, _⟩, valid⟩ := valid
  rw [if_neg (by decide), if_pos rfl] at valid
  simp only [bind_eq_ok, exactKeys_eq_ok, string_eq_ok] at valid
  obtain ⟨_, listed, profile, ⟨profileFound, low, high⟩, _, generated, _, operationIs, instanceIs⟩ :=
    valid
  have operationId := validateUuidField_eq_ok operationIs
  have instanceId := validateUuidField_eq_ok instanceIs
  obtain ⟨generation, generationFound, count, mark, digits⟩ :=
    validateConfigGeneration_eq_ok generated
  -- the sidecar lists the identifiers last
  have exact : Exact object
      ["operation_id", "instance_id", "action", "profile", "expected_config_generation"] [] := by
    constructor
    · intro name member
      apply listed.present
      simp only [List.mem_cons, List.not_mem_nil, or_false] at member ⊢
      tauto
    · intro field member
      have known := listed.known field member
      simp only [List.mem_cons, List.not_mem_nil, or_false] at known ⊢
      tauto
  constructor
  · apply portable_of_operation keys exact operationId instanceId (by decide) (by decide) (by decide)
    simp only [List.cons_append, List.nil_append, List.forall_mem_cons]
    exact ⟨compact_text writing (by decide), compact_text profileFound (by omega),
      compact_text generationFound (by omega), by simp⟩
  · exact operationId
  · have size := length_payload keys exact (by decide)
    have identified := hasOperationId_of_hasUuid operationId
    simp [parseScyllahideProfile, require, lookup_without_of_ne, textOf, textIn, writing, profileFound,
      generationFound, Json.asStr, size, identified, low, high, count, mark,
      if_pos digits]

end Mutations

end X64dbgMcp.Plugin
