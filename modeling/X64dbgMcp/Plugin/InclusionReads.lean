import X64dbgMcp.Plugin.CrossingLists

/-!
# Validated reads are parsed

For every tool that is not a mutation: arguments that pass the sidecar's validator
are small, and the plugin's parser of the same method takes them.
-/

namespace X64dbgMcp.Plugin

open Text Tools Ipc Collection
open Json (Within)
open Transition (bind_eq_ok)

/-- An object of few small fields with short keys. -/
structure Portable (floatText : UInt64 → List UInt8) (object : Object) : Prop where
  few : object.length ≤ 8
  keys : ∀ field ∈ object, (utf8 field.1).length ≤ 64
  within : ∀ field ∈ object, Within floatText fieldBytes field.2

variable {floatText : UInt64 → List UInt8} {object : Object} {parseUuid : String → Option Uuid}

theorem portable_of_exact {required optional : List String}
    (exact : Exact object required optional) (distinct : (object.map Prod.fst).Nodup)
    (names : (required ++ optional).Nodup) (few : (required ++ optional).length ≤ 8)
    (short : ∀ name ∈ required ++ optional, (utf8 name).length ≤ 64)
    (compact : ∀ name ∈ required ++ optional, Compact floatText object name) :
    Portable floatText object where
  few := by
    have counted : (optional.map fun key => (object.lookup key).isSome.toNat).sum ≤
        optional.length := by
      have bound := List.sum_le_card_nsmul
        (optional.map fun key => (object.lookup key).isSome.toNat) 1
        (by simp only [List.forall_mem_map]; exact fun key _ => Bool.toNat_le _)
      simpa using bound
    have size := exact.length_eq distinct names
    rw [List.length_append] at few
    omega
  keys field member := short field.1 (List.mem_append.mpr (exact.known field member))
  within := exact.forall_mem distinct compact

section Reads

variable (build : Build) (request : Request)

-- here the equations of the validator are made, before every proof below asks for them
attribute [local simp] validateTool in
theorem eventsList_parses (keys : (object.map Prod.fst).Nodup)
    (valid : validateTool parseUuid object .eventsList = .ok ()) :
    Portable floatText object ∧ ∃ parsed, parseEventsList object request = some parsed := by
  simp only [validateTool, bind_eq_ok, exactKeys_eq_ok] at valid
  obtain ⟨_, exact, _, paged, types⟩ := valid
  obtain ⟨limit, cursor⟩ := discoveryPage_eq_ok paged
  obtain ⟨⟨kinds, parsesTypes⟩, compactTypes⟩ := parseTypes_of_valid floatText types
  constructor
  · apply portable_of_exact exact keys (by decide) (by decide) (by decide)
    simp only [List.nil_append, List.forall_mem_cons]
    exact ⟨.of_optional fun present => compact_hasText (cursor present) (by decide), compactTypes,
      .of_optional fun present => compact_hasInteger (limit present) (by decide), by simp⟩
  · have size := exact.length_eq keys (by decide)
    obtain ⟨pageLimit, readsLimit⟩ := integerOr_of_optional request.pageLimit limit
    obtain ⟨eventCursor, readsCursor⟩ := unlessMissing_of "" fun present =>
      textIn_of_hasText (cursor present)
    simp [parseEventsList, require, size, counted, Nat.add_assoc, readsCursor, parsesTypes,
      readsLimit]

theorem eventsWait_parses (keys : (object.map Prod.fst).Nodup)
    (valid : validateTool parseUuid object .eventsWait = .ok ()) :
    Portable floatText object ∧ ∃ parsed, parseEventsWait object request = some parsed := by
  simp only [validateTool, bind_eq_ok, exactKeys_eq_ok, optionalInteger_eq_ok] at valid
  obtain ⟨_, exact, _, timeout, types⟩ := valid
  obtain ⟨⟨kinds, parsesTypes⟩, compactTypes⟩ := parseTypes_of_valid floatText types
  constructor
  · apply portable_of_exact exact keys (by decide) (by decide) (by decide)
    simp only [List.nil_append, List.forall_mem_cons]
    exact ⟨compactTypes, compact_optionalInteger timeout (by decide), by simp⟩
  · have size := exact.length_eq keys (by decide)
    obtain ⟨waitTimeoutMs, readsTimeout⟩ := integerOr_of_optional request.waitTimeoutMs timeout
    simp [parseEventsWait, require, size, counted, Nat.add_comm, parsesTypes, readsTimeout]

theorem snapshot_parses (keys : (object.map Prod.fst).Nodup)
    (valid : validateTool parseUuid object .debuggerSnapshot = .ok ()) :
    Portable floatText object ∧ ∃ parsed, parseSnapshot object request = some parsed := by
  simp only [validateTool, bind_eq_ok, exactKeys_eq_ok, optionalInteger_eq_ok] at valid
  obtain ⟨_, exact, _, threadIs, _, registers, count⟩ := valid
  have thread := optionalThreadId_eq_ok threadIs
  obtain ⟨⟨names, parsesNames⟩, compactNames⟩ := parseNames_of_registers floatText registers
  constructor
  · apply portable_of_exact exact keys (by decide) (by decide) (by decide)
    simp only [List.nil_append, List.forall_mem_cons]
    exact ⟨compactNames, compact_optionalInteger count (by decide), compact_optionalThread thread,
      by simp⟩
  · have size := exact.length_eq keys (by decide)
    obtain ⟨instructionCount, readsCount⟩ := integerOr_of_optional 8 count
    obtain ⟨targetThread, readsThread⟩ := parseThreadId_of_optional thread
    simp [parseSnapshot, require, size, counted, Nat.add_assoc, parsesNames, readsCount, readsThread]

theorem waitForPause_parses (keys : (object.map Prod.fst).Nodup)
    (valid : validateTool parseUuid object .debuggerWaitForPause = .ok ()) :
    Portable floatText object ∧ ∃ parsed, parseWaitForPause object request = some parsed := by
  simp only [validateTool, bind_eq_ok, exactKeys_eq_ok, integer_eq_ok,
    optionalInteger_eq_ok] at valid
  obtain ⟨_, exact, _, after, timeout⟩ := valid
  constructor
  · apply portable_of_exact exact keys (by decide) (by decide) (by decide)
    simp only [List.cons_append, List.nil_append, List.forall_mem_cons]
    exact ⟨compact_hasInteger after (by decide), compact_optionalInteger timeout (by decide),
      by simp⟩
  · have size : object.length = if (object.lookup "timeout_ms").isNone then 1 else 2 :=
      length_of_exact_one exact keys (by decide)
    obtain ⟨afterGeneration, readsAfter⟩ := integerIn_of_hasInteger after
    obtain ⟨waitTimeoutMs, readsTimeout⟩ := integerOr_of_optional request.waitTimeoutMs timeout
    simp [parseWaitForPause, require, size, readsAfter, readsTimeout]

theorem traceStatus_parses (keys : (object.map Prod.fst).Nodup)
    (valid : validateTool parseUuid object .traceStatus = .ok ()) :
    Portable floatText object ∧ ∃ parsed, parseTraceStatus object request = some parsed := by
  simp only [validateTool, bind_eq_ok, exactKeys_eq_ok] at valid
  obtain ⟨_, exact, trace⟩ := valid
  have id := validateUuidField_eq_ok trace
  constructor
  · apply portable_of_exact exact keys (by decide) (by decide) (by decide)
    simp only [List.cons_append, List.nil_append, List.forall_mem_cons]
    exact ⟨compact_hasUuid id, by simp⟩
  · have size := length_of_exact exact keys (by decide)
    obtain ⟨traceId, reads⟩ := parseUuidText_of_hasUuid id
    simp [parseTraceStatus, require, size, reads]

theorem withTraceCursor_of_hasText
    (cursor : (object.lookup "cursor").isSome = true → HasText object "cursor" 1 512) :
    ∃ parsed, withTraceCursor build request (object.lookup "cursor") = some parsed := by
  apply unlessMissing_of
  intro present
  obtain ⟨text, found, _⟩ := cursor present
  simp only [found, textOf, Option.bind_some, Json.asStr, Option.bind_eq_bind]
  split_ifs <;> exact ⟨_, rfl⟩

theorem traceResults_parses (keys : (object.map Prod.fst).Nodup)
    (valid : validateTool parseUuid object .traceResults = .ok ()) :
    Portable floatText object ∧ ∃ parsed, parseTraceResults build object request = some parsed := by
  simp only [validateTool, bind_eq_ok, exactKeys_eq_ok] at valid
  obtain ⟨_, exact, _, trace, paged⟩ := valid
  have id := validateUuidField_eq_ok trace
  obtain ⟨limit, cursor⟩ := discoveryPage_eq_ok paged
  constructor
  · apply portable_of_exact exact keys (by decide) (by decide) (by decide)
    simp only [List.cons_append, List.nil_append, List.forall_mem_cons]
    exact ⟨compact_hasUuid id, compact_optionalInteger limit (by decide),
      compact_optionalText cursor (by decide), by simp⟩
  · have size := exact.length_eq keys (by decide)
    obtain ⟨traceId, reads⟩ := parseUuidText_of_hasUuid id
    obtain ⟨pageLimit, readsLimit⟩ := integerOr_of_optional request.pageLimit limit
    obtain ⟨parsed, done⟩ := withTraceCursor_of_hasText build
      { request with traceId := traceId, pageLimit := pageLimit } cursor
    simp [parseTraceResults, require, size, counted, Nat.add_assoc, reads, readsLimit, done]

theorem registersRead_parses (keys : (object.map Prod.fst).Nodup)
    (valid : validateTool parseUuid object .registersRead = .ok ()) :
    Portable floatText object ∧ ∃ parsed, parseRegistersRead object request = some parsed := by
  simp only [validateTool, bind_eq_ok, exactKeys_eq_ok] at valid
  obtain ⟨_, exact, _, threadIs, names⟩ := valid
  have thread := optionalThreadId_eq_ok threadIs
  obtain ⟨⟨registerNames, parsesNames⟩, compactNames⟩ := parseNames_of_names floatText names
  constructor
  · apply portable_of_exact exact keys (by decide) (by decide) (by decide)
    simp only [List.nil_append, List.forall_mem_cons]
    exact ⟨compactNames, compact_optionalThread thread, by simp⟩
  · have size := exact.length_eq keys (by decide)
    obtain ⟨targetThread, readsThread⟩ := parseThreadId_of_optional thread
    simp [parseRegistersRead, require, size, counted, parsesNames, readsThread]

theorem addressQuery_parses {tool : Tool} (keys : (object.map Prod.fst).Nodup)
    (query : tool = .addressResolve ∨ tool = .functionsAt)
    (valid : validateTool parseUuid object tool = .ok ()) :
    Portable floatText object ∧ ∃ parsed, parseAddressQuery build object request = some parsed := by
  have checked : Exact object ["address"] [] ∧ validateAddressRef object "address" = .ok () := by
    rcases query with rfl | rfl <;>
      simpa only [validateTool, bind_eq_ok, exactKeys_eq_ok, exists_const] using valid
  obtain ⟨exact, addressed⟩ := checked
  have address := validateAddressRef_eq_ok addressed
  constructor
  · apply portable_of_exact exact keys (by decide) (by decide) (by decide)
    simp only [List.cons_append, List.nil_append, List.forall_mem_cons]
    exact ⟨compact_address address, by simp⟩
  · have size := length_of_exact exact keys (by decide)
    obtain ⟨reference, reads⟩ := parseAddressReference_of_field build address
    simp [parseAddressQuery, require, size, reads]

theorem memoryRead_parses (keys : (object.map Prod.fst).Nodup)
    (valid : validateTool parseUuid object .memoryRead = .ok ()) :
    Portable floatText object ∧
      ∃ parsed, parseMemoryRead build (without (without object "format") "byte_order") request =
        some parsed := by
  simp only [validateTool, bind_eq_ok, exactKeys_eq_ok, integer_eq_ok] at valid
  obtain ⟨_, exact, _, addressed, _, length, view⟩ := valid
  have address := validateAddressRef_eq_ok addressed
  simp only [validateMemoryView, bind_eq_ok, whenPresent_eq_ok] at view
  obtain ⟨_, format, _, order, _⟩ := view
  constructor
  · apply portable_of_exact exact keys (by decide) (by decide) (by decide)
    simp only [List.cons_append, List.nil_append, List.forall_mem_cons]
    refine ⟨compact_address address, compact_hasInteger length (by decide),
      .of_optional fun present => compact_hasOneOf (oneOf_eq_ok (format present)),
      .of_optional fun present => ?_, by simp⟩
    obtain ⟨_, _, listed⟩ := order present
    exact compact_hasOneOf (oneOf_eq_ok listed)
  · have size := exact.length_eq keys (by decide)
    have first := length_without keys "format"
    have second := length_without (distinct_without keys "format") "byte_order"
    rw [lookup_without_of_ne (by decide)] at second
    have count : (without (without object "format") "byte_order").length = 2 := by
      simp only [List.map_cons, List.map_nil, List.sum_cons, List.sum_nil, List.length_cons,
        List.length_nil] at size
      omega
    obtain ⟨reference, readsAddress⟩ := parseAddressReference_of_field build address
    obtain ⟨number, readsLength⟩ := integerIn_of_hasInteger length
    rw [parseMemoryRead, count, lookup_without_of_ne (by decide), lookup_without_of_ne (by decide),
      lookup_without_of_ne (by decide), lookup_without_of_ne (by decide), readsAddress, readsLength]
    exact ⟨_, rfl⟩

theorem withDiscoveryCursor_of_hasText (expected : Nat)
    (cursor : (object.lookup "cursor").isSome = true → HasText object "cursor" 1 512) :
    ∃ parsed, withDiscoveryCursor build request expected (object.lookup "cursor") =
      some parsed := by
  apply unlessMissing_of
  intro present
  obtain ⟨text, found, _⟩ := cursor present
  simp only [found, textOf, Option.bind_some, Json.asStr, Option.bind_eq_bind]
  split_ifs <;> exact ⟨_, rfl⟩

theorem memorySearch_parses (keys : (object.map Prod.fst).Nodup)
    (below : ∀ field ∈ object, field.2.distinct = true)
    (valid : validateTool parseUuid object .memorySearch = .ok ()) :
    Portable floatText object ∧ ∃ parsed, parseMemorySearch build object request = some parsed := by
  simp only [validateTool, bind_eq_ok, exactKeys_eq_ok] at valid
  obtain ⟨_, exact, _, scopeIs, _, patterned, paged⟩ := valid
  obtain ⟨parsesScope, compactScope⟩ := parseScope_of_valid floatText build below scopeIs
  obtain ⟨pattern, mask, patternHex, maskFound, maskSize, maskShort, maskBytes, maskExact⟩ :=
    validatePattern_eq_ok patterned
  obtain ⟨limit, cursor⟩ := discoveryPage_eq_ok paged
  constructor
  · apply portable_of_exact exact keys (by decide) (by decide) (by decide)
    simp only [List.cons_append, List.nil_append, List.forall_mem_cons]
    exact ⟨compactScope, compact_hasByteHex patternHex (by decide),
      compact_text maskFound (by omega), compact_optionalInteger limit (by decide),
      compact_optionalText cursor (by decide), by simp⟩
  · have size := exact.length_eq keys (by decide)
    obtain ⟨patternFound, low, high, even, hex⟩ := patternHex
    obtain ⟨bytes, readsBytes, _⟩ := parseHexPairs_of_lowerHex true even hex
    obtain ⟨ranged, readsScope⟩ := parsesScope request
    obtain ⟨pageLimit, readsLimit⟩ := integerOr_of_optional request.pageLimit limit
    have shape : (utf8 pattern).length ≠ 0 ∧ (utf8 pattern).length ≤ 128 ∧
        (utf8 pattern).length % 2 = 0 ∧ (utf8 mask).length = (utf8 pattern).length / 2 ∧
        (utf8 mask).length ≠ 0 ∧ (utf8 mask).length ≤ 64 ∧ (utf8 mask).contains 0x78 ∧
        (utf8 mask).all fun byte => byte == 0x78 || byte == 0x3f := by
      refine ⟨by omega, high, even, maskSize, by omega, maskShort, by simpa using maskExact, ?_⟩
      simpa [List.all_eq_true] using maskBytes
    have readsPattern : ∃ parsed, parseMemoryPattern pattern mask = some parsed := by
      rw [parseMemoryPattern, require, if_pos shape, readsBytes]
      exact ⟨_, rfl⟩
    obtain ⟨parsedPattern, readsPattern⟩ := readsPattern
    have readsCursor := fun expected => withDiscoveryCursor_of_hasText build
      { ranged with memoryPattern := parsedPattern, pageLimit := pageLimit } expected cursor
    simp [parseMemorySearch, require, size, counted, Nat.add_assoc, textOf, patternFound, maskFound,
      Json.asStr, readsScope, readsPattern, readsLimit, readsCursor]

theorem memoryMap_parses (keys : (object.map Prod.fst).Nodup)
    (valid : validateTool parseUuid object .memoryMap = .ok ()) :
    Portable floatText object ∧ ∃ parsed, parseMemoryMap build object request = some parsed := by
  simp only [validateTool, bind_eq_ok, exactKeys_eq_ok, whenPresent_eq_ok] at valid
  obtain ⟨_, exact, _, named, _, committedIs, _, executableIs, _, compactIs, paged⟩ := valid
  have module := fun present => validateModuleName_eq_ok (named present)
  have committed := optionalBoolean_eq_ok committedIs
  have executable := optionalBoolean_eq_ok executableIs
  have compact := optionalBoolean_eq_ok compactIs
  obtain ⟨limit, cursor⟩ := discoveryPage_eq_ok paged
  constructor
  · apply portable_of_exact exact keys (by decide) (by decide) (by decide)
    simp only [List.nil_append, List.forall_mem_cons]
    exact ⟨compact_optionalModule module, compact_optionalBoolean committed,
      compact_optionalBoolean executable, compact_optionalBoolean compact,
      compact_optionalInteger limit (by decide), compact_optionalText cursor (by decide), by simp⟩
  · have size := exact.length_eq keys (by decide)
    obtain ⟨moduleFilter, readsModule⟩ := parseModuleName_of_optional module
    obtain ⟨committedOnly, readsCommitted⟩ := booleanOf_of_optional false committed
    obtain ⟨executableOnly, readsExecutable⟩ := booleanOf_of_optional false executable
    obtain ⟨compactOnly, readsCompact⟩ := booleanOf_of_optional false compact
    obtain ⟨pageLimit, readsLimit⟩ := integerOr_of_optional request.pageLimit limit
    have readsCursor := fun expected => withDiscoveryCursor_of_hasText build
      { request with module := moduleFilter, committedOnly := committedOnly,
                     executableOnly := executableOnly, compact := compactOnly,
                     pageLimit := pageLimit } expected cursor
    simp [parseMemoryMap, require, size, counted, Nat.add_assoc, readsModule, readsCommitted,
      readsExecutable, readsCompact, readsLimit, readsCursor]

theorem parseCursor_length {cursor : List UInt8} (accepted : (parseCursor build cursor).accepted = true) :
    1 ≤ cursor.length ∧ cursor.length ≤ 64 := by
  unfold parseCursor at accepted
  split_ifs at accepted with refused
  rw [not_or, not_not, Nat.not_lt] at refused
  refine ⟨?_, refused.2⟩
  by_contra empty
  have nothing : cursor = [] := List.eq_nil_of_length_eq_zero (by omega)
  rw [nothing] at refused
  exact absurd refused.1 (by decide)

/-- A page method takes exactly the cursors that it can read. -/
theorem page_parses {tool : Tool} (keys : (object.map Prod.fst).Nodup)
    (paging : tool = .modulesList ∨ tool = .threadsList ∨ tool = .breakpointsList)
    (valid : validateTool parseUuid object tool = .ok ()) :
    Portable floatText object ∧
      ((parsePage build object request).isSome = true ↔
        ∀ text, object.lookup "cursor" = some (.string text) →
          (parseCursor build (utf8 text)).accepted = true) := by
  have checked : page object = .ok () := by
    rcases paging with rfl | rfl | rfl <;> exact valid
  simp only [page, bind_eq_ok, exactKeys_eq_ok, optionalInteger_eq_ok] at checked
  obtain ⟨_, exact, _, limit, cursorIs⟩ := checked
  have cursor := optionalCursor_eq_ok cursorIs
  constructor
  · apply portable_of_exact exact keys (by decide) (by decide) (by decide)
    simp only [List.nil_append, List.forall_mem_cons]
    exact ⟨compact_optionalInteger limit (by decide), compact_optionalText cursor (by decide),
      by simp⟩
  · have size := exact.length_eq keys (by decide)
    obtain ⟨pageLimit, readsLimit⟩ := integerOr_of_optional request.pageLimit limit
    cases found : object.lookup "cursor" with
    | none => simp [parsePage, require, size, counted, readsLimit, found, unlessMissing]
    | some value =>
        obtain ⟨text, held, low, high⟩ := cursor (by rw [found]; rfl)
        rw [found, Option.some.injEq] at held
        subst held
        simp only [Option.some.injEq, Json.string.injEq, forall_eq']
        by_cases readable : (parseCursor build (utf8 text)).accepted = true
        · have short := (parseCursor_length build readable).2
          simp [parsePage, require, size, counted, readsLimit, found, unlessMissing, textIn, textOf,
            Json.asStr, low, short, readable]
        · by_cases short : (utf8 text).length ≤ 64 <;>
            simp [parsePage, require, size, counted, readsLimit, found, unlessMissing, textIn,
              textOf, Json.asStr, low, short, readable]

theorem callstack_parses (keys : (object.map Prod.fst).Nodup)
    (valid : validateTool parseUuid object .callstackRead = .ok ()) :
    Portable floatText object ∧ ∃ parsed, parseCallstack object request = some parsed := by
  simp only [validateTool, bind_eq_ok, exactKeys_eq_ok, optionalInteger_eq_ok] at valid
  obtain ⟨_, exact, _, threadIs, limit⟩ := valid
  have thread := optionalThreadId_eq_ok threadIs
  constructor
  · apply portable_of_exact exact keys (by decide) (by decide) (by decide)
    simp only [List.nil_append, List.forall_mem_cons]
    exact ⟨compact_optionalThread thread, compact_optionalInteger limit (by decide), by simp⟩
  · have size := exact.length_eq keys (by decide)
    obtain ⟨targetThread, readsThread⟩ := parseThreadId_of_optional thread
    obtain ⟨pageLimit, readsLimit⟩ := integerOr_of_optional 32 limit
    simp [parseCallstack, require, size, counted, readsThread, readsLimit]

theorem withPatchCursor_of_hasText (expected : Nat)
    (cursor : (object.lookup "cursor").isSome = true → HasText object "cursor" 1 512) :
    ∃ parsed, withPatchCursor build request expected (object.lookup "cursor") = some parsed := by
  apply unlessMissing_of
  intro present
  obtain ⟨text, reads⟩ := textIn_of_hasText (cursor present)
  simp only [reads, Option.bind_eq_bind, Option.bind_some]
  split_ifs <;> exact ⟨_, rfl⟩

theorem patchesList_parses (keys : (object.map Prod.fst).Nodup)
    (valid : validateTool parseUuid object .patchesList = .ok ()) :
    Portable floatText object ∧ ∃ parsed, parsePatchesList build object request = some parsed := by
  simp only [validateTool, bind_eq_ok, exactKeys_eq_ok, whenPresent_eq_ok] at valid
  obtain ⟨_, exact, _, named, paged⟩ := valid
  have module := fun present => validateModuleName_eq_ok (named present)
  obtain ⟨limit, cursor⟩ := discoveryPage_eq_ok paged
  constructor
  · apply portable_of_exact exact keys (by decide) (by decide) (by decide)
    simp only [List.nil_append, List.forall_mem_cons]
    exact ⟨compact_optionalModule module, compact_optionalInteger limit (by decide),
      compact_optionalText cursor (by decide), by simp⟩
  · have size := exact.length_eq keys (by decide)
    obtain ⟨moduleFilter, readsModule⟩ := parseModuleName_of_optional module
    obtain ⟨pageLimit, readsLimit⟩ := integerOr_of_optional request.pageLimit limit
    have readsCursor := fun expected => withPatchCursor_of_hasText build
      { request with module := moduleFilter, pageLimit := pageLimit } expected cursor
    simp [parsePatchesList, require, size, counted, Nat.add_assoc, readsModule, readsLimit,
      readsCursor]

theorem symbolsResolve_parses (keys : (object.map Prod.fst).Nodup)
    (valid : validateTool parseUuid object .symbolsResolve = .ok ()) :
    Portable floatText object ∧
      ∃ parsed, parseSymbolResolution build object request = some parsed := by
  simp only [validateTool, validateSymbolResolution] at valid
  split_ifs at valid with both byAddress
  · simp only [bind_eq_ok, exactKeys_eq_ok] at valid
    obtain ⟨_, exact, addressed⟩ := valid
    have address := validateAddressRef_eq_ok addressed
    constructor
    · apply portable_of_exact exact keys (by decide) (by decide) (by decide)
      simp only [List.cons_append, List.nil_append, List.forall_mem_cons]
      exact ⟨compact_address address, by simp⟩
    · have size := length_of_exact exact keys (by decide)
      have module := exact.lookup_eq_none (by decide : "module" ∉ ["address"] ++ [])
      have name := exact.lookup_eq_none (by decide : "name" ∉ ["address"] ++ [])
      obtain ⟨reference, reads⟩ := parseAddressReference_of_field build address
      have present : (object.lookup "address").isSome = true := byAddress
      simp [parseSymbolResolution, present, require, size, module, name, reads]
  · simp only [bind_eq_ok, exactKeys_eq_ok, string_eq_ok, ensure_eq_ok,
      Bool.not_eq_true'] at valid
    obtain ⟨_, exact, _, named, text, ⟨found, low, high⟩, plain⟩ := valid
    obtain ⟨value, moduleFound, isName⟩ := validateModuleName_eq_ok named
    constructor
    · apply portable_of_exact exact keys (by decide) (by decide) (by decide)
      simp only [List.cons_append, List.nil_append, List.forall_mem_cons]
      exact ⟨compact_module moduleFound isName, compact_text found (by omega), by simp⟩
    · have size := length_of_exact exact keys (by decide)
      have address := exact.lookup_eq_none (by decide : "address" ∉ ["module", "name"] ++ [])
      obtain ⟨moduleFilter, reads⟩ := parseModuleName_of_field moduleFound isName
      simp [parseSymbolResolution, address, require, size, reads, textIn, textOf, found, Json.asStr,
        low, high, isPlain_of_hasControl plain]

theorem safeInstruction_of_printable {text : String} (low : 1 ≤ (utf8 text).length)
    (high : (utf8 text).length ≤ 128)
    (printable : ∀ byte ∈ utf8 text, 0x20 ≤ byte ∧ byte ≤ 0x7e ∧ byte ≠ 0x3b) :
    safeInstruction text = true := by
  have some_byte : (utf8 text).isEmpty = false := by
    rw [List.isEmpty_eq_false_iff]
    exact List.length_pos_iff.mp low
  simp only [safeInstruction, some_byte, Bool.not_false, Bool.true_and, Bool.and_eq_true,
    decide_eq_true_eq, List.all_eq_true]
  refine ⟨high, fun byte member => ?_⟩
  obtain ⟨visible, ascii, noSeparator⟩ := printable byte member
  simpa [UInt8.le_iff_toNat_le] using ⟨⟨visible, ascii⟩, noSeparator⟩

theorem assemblyPreview_parses (keys : (object.map Prod.fst).Nodup)
    (valid : validateTool parseUuid object .assemblyPreview = .ok ()) :
    Portable floatText object ∧
      ∃ parsed, parseAssembly build object request false = some parsed := by
  simp only [validateTool, bind_eq_ok, exactKeys_eq_ok] at valid
  obtain ⟨_, exact, _, addressed, instructed⟩ := valid
  have address := validateAddressRef_eq_ok addressed
  obtain ⟨text, found, low, high, printable⟩ := validateInstruction_eq_ok instructed
  constructor
  · apply portable_of_exact exact keys (by decide) (by decide) (by decide)
    simp only [List.cons_append, List.nil_append, List.forall_mem_cons]
    exact ⟨compact_address address, compact_text found (by omega), by simp⟩
  · have size := length_of_exact exact keys (by decide)
    obtain ⟨reference, reads⟩ := parseAddressReference_of_field build address
    simp [parseAssembly, require, size, reads, textOf, found, Json.asStr,
      safeInstruction_of_printable low high printable]

theorem disassembly_parses (keys : (object.map Prod.fst).Nodup)
    (valid : validateTool parseUuid object .disassemblyRead = .ok ()) :
    Portable floatText object ∧ ∃ parsed, parseDisassembly build object request = some parsed := by
  simp only [validateTool, bind_eq_ok, exactKeys_eq_ok, optionalInteger_eq_ok] at valid
  obtain ⟨_, exact, _, addressed, count⟩ := valid
  have address := validateAddressRef_eq_ok addressed
  constructor
  · apply portable_of_exact exact keys (by decide) (by decide) (by decide)
    simp only [List.cons_append, List.nil_append, List.forall_mem_cons]
    exact ⟨compact_address address, compact_optionalInteger count (by decide), by simp⟩
  · have size : object.length = if (object.lookup "count").isNone then 1 else 2 :=
      length_of_exact_one exact keys (by decide)
    obtain ⟨reference, reads⟩ := parseAddressReference_of_field build address
    obtain ⟨instructionCount, readsCount⟩ := integerOr_of_optional request.instructionCount count
    simp [parseDisassembly, require, size, reads, readsCount]

theorem compact_listed {field : String} {accepted : List String}
    (has : ∃ text, object.lookup field = some (.string text) ∧ text ∈ accepted)
    (short : ∀ text ∈ accepted, (utf8 text).length ≤ 8192) : Compact floatText object field := by
  obtain ⟨text, found, listed⟩ := has
  exact compact_text found (short text listed)

/-- The discovery methods read their fields one by one. -/
theorem discovery_parses {references strings : Bool} {maxBytes : Nat}
    (size : object.length = 1 + counted (object.lookup "query") +
      counted (object.lookup "encoding") + counted (object.lookup "min_length") +
      counted (object.lookup "context_bytes") + counted (object.lookup "limit") +
      counted (object.lookup "cursor"))
    (address : references = true →
      ∃ reference, parseAddressReference build (object.lookup "address") = some reference)
    (module : references = false → ∃ name, parseModuleName (object.lookup "module") = some name)
    (allowed : (references → (object.lookup "module").isNone ∧ (object.lookup "query").isNone) ∧
      (!references → (object.lookup "address").isNone) ∧
      (!strings → (object.lookup "encoding").isNone ∧ (object.lookup "min_length").isNone ∧
        (object.lookup "context_bytes").isNone) ∧
      ((object.lookup "context_bytes").isSome → (object.lookup "query").isSome))
    (query : (object.lookup "query").isSome = true → HasPlain object "query" 1 maxBytes)
    (encoding : (object.lookup "encoding").isSome = true →
      ∃ text, object.lookup "encoding" = some (.string text) ∧
        text ∈ ["ascii_utf8", "utf16le", "both"])
    (minimum : (object.lookup "min_length").isSome = true → HasInteger object "min_length" 4 256)
    (context : (object.lookup "context_bytes").isSome = true →
      HasInteger object "context_bytes" 0 128)
    (limit : (object.lookup "limit").isSome = true → HasInteger object "limit" 1 256)
    (cursor : (object.lookup "cursor").isSome = true → HasText object "cursor" 1 512) :
    ∃ parsed, parseDiscovery build object request references strings maxBytes = some parsed := by
  obtain ⟨queryText, readsQuery⟩ := parseQuery_of_optional query
  obtain ⟨stringEncoding, readsEncoding⟩ := unlessMissing_of request.stringEncoding fun present =>
    parseOneOf_of_mem (encoding present)
  obtain ⟨minStringLength, readsMinimum⟩ := integerOr_of_optional request.minStringLength minimum
  obtain ⟨stringContextBytes, readsContext⟩ :=
    integerOr_of_optional request.stringContextBytes context
  obtain ⟨pageLimit, readsLimit⟩ := integerOr_of_optional request.pageLimit limit
  have counts : ∀ claim : Prop, ∀ [Decidable claim], claim → require claim = some () := by
    intro claim _ holds
    rw [require, if_pos holds]
  cases references with
  | false =>
      obtain ⟨moduleFilter, readsModule⟩ := module rfl
      rw [parseDiscovery, counts _ size, readsModule, counts _ allowed, readsQuery, readsEncoding,
        readsMinimum, readsContext, readsLimit]
      exact withDiscoveryCursor_of_hasText build _ _ cursor
  | true =>
      obtain ⟨reference, readsAddress⟩ := address rfl
      rw [parseDiscovery, counts _ size, readsAddress, counts _ allowed, readsQuery, readsEncoding,
        readsMinimum, readsContext, readsLimit]
      exact withDiscoveryCursor_of_hasText build _ _ cursor

/-- The searches of a module by an optional query. -/
theorem moduleSearch_parses {maxBytes : Nat} (short : maxBytes ≤ 8192)
    (keys : (object.map Prod.fst).Nodup)
    (exact : Exact object ["module"] ["query", "limit", "cursor"])
    (named : validateModuleName object "module" = .ok ())
    (queried : optionalQueryWithLimit object maxBytes = .ok ())
    (paged : discoveryPage object = .ok ()) :
    Portable floatText object ∧
      ∃ parsed, parseDiscovery build object request false false maxBytes = some parsed := by
  obtain ⟨value, moduleFound, isName⟩ := validateModuleName_eq_ok named
  have query := optionalQueryWithLimit_eq_ok queried
  obtain ⟨limit, cursor⟩ := discoveryPage_eq_ok paged
  constructor
  · apply portable_of_exact exact keys (by decide) (by decide) (by decide)
    simp only [List.cons_append, List.nil_append, List.forall_mem_cons]
    exact ⟨compact_module moduleFound isName,
      .of_optional fun present => compact_hasPlain (query present) short,
      compact_optionalInteger limit (by decide), compact_optionalText cursor (by decide), by simp⟩
  · have size := exact.length_eq keys (by decide)
    have absent : ∀ name ∉ ["module"] ++ ["query", "limit", "cursor"], object.lookup name = none :=
      fun name foreign => exact.lookup_eq_none foreign
    have encoding := absent "encoding" (by decide)
    have minimum := absent "min_length" (by decide)
    have context := absent "context_bytes" (by decide)
    have address := absent "address" (by decide)
    obtain ⟨moduleFilter, readsModule⟩ := parseModuleName_of_field moduleFound isName
    refine discovery_parses build request ?_ (by simp) (fun _ => ⟨moduleFilter, readsModule⟩) ?_ query
      (by simp [encoding]) (by simp [minimum]) (by simp [context]) limit cursor
    · simp [size, counted, encoding, minimum, context, Nat.add_assoc]
    · simp [encoding, minimum, context, address]

theorem stringsSearch_parses (keys : (object.map Prod.fst).Nodup)
    (valid : validateTool parseUuid object .stringsSearch = .ok ()) :
    Portable floatText object ∧
      ∃ parsed, parseDiscovery build object request false true 256 = some parsed := by
  simp only [validateTool, bind_eq_ok, exactKeys_eq_ok, optionalInteger_eq_ok, optionalQuery,
    validateContext, ensure_eq_ok, Bool.not_eq_true', Bool.and_eq_false_iff, containsKey,
    Bool.not_eq_false'] at valid
  obtain ⟨_, exact, _, named, _, queried, _, minimum, _, context, _, allowed, _, encoded, paged⟩ :=
    valid
  obtain ⟨value, moduleFound, isName⟩ := validateModuleName_eq_ok named
  have query := optionalQueryWithLimit_eq_ok queried
  have encoding := optionalOneOf_eq_ok encoded
  obtain ⟨limit, cursor⟩ := discoveryPage_eq_ok paged
  constructor
  · apply portable_of_exact exact keys (by decide) (by decide) (by decide)
    simp only [List.cons_append, List.nil_append, List.forall_mem_cons]
    exact ⟨compact_module moduleFound isName,
      .of_optional fun present => compact_hasPlain (query present) (by decide),
      compact_optionalInteger minimum (by decide),
      .of_optional fun present => compact_listed (encoding present) (by decide),
      compact_optionalInteger context (by decide),
      compact_optionalInteger limit (by decide), compact_optionalText cursor (by decide), by simp⟩
  · have size := exact.length_eq keys (by decide)
    have address := exact.lookup_eq_none (by decide : "address" ∉ ["module"] ++
      ["query", "min_length", "encoding", "context_bytes", "limit", "cursor"])
    obtain ⟨moduleFilter, readsModule⟩ := parseModuleName_of_field moduleFound isName
    refine discovery_parses build request ?_ (by simp) (fun _ => ⟨moduleFilter, readsModule⟩) ?_ query
      encoding minimum context limit cursor
    · simp only [List.map_cons, List.map_nil, List.sum_cons, List.sum_nil, List.length_cons,
        List.length_nil] at size
      simp only [counted]
      omega
    · refine ⟨by simp, by simp [address], by simp, ?_⟩
      intro contextual
      rcases allowed with absent | present
      · rw [absent] at contextual
        contradiction
      · exact present

theorem referencesTo_parses (keys : (object.map Prod.fst).Nodup)
    (valid : validateTool parseUuid object .referencesTo = .ok ()) :
    Portable floatText object ∧
      ∃ parsed, parseDiscovery build object request true false 256 = some parsed := by
  simp only [validateTool, bind_eq_ok, exactKeys_eq_ok] at valid
  obtain ⟨_, exact, _, addressed, paged⟩ := valid
  have address := validateAddressRef_eq_ok addressed
  obtain ⟨limit, cursor⟩ := discoveryPage_eq_ok paged
  constructor
  · apply portable_of_exact exact keys (by decide) (by decide) (by decide)
    simp only [List.cons_append, List.nil_append, List.forall_mem_cons]
    exact ⟨compact_address address, compact_optionalInteger limit (by decide),
      compact_optionalText cursor (by decide), by simp⟩
  · have size := exact.length_eq keys (by decide)
    have absent : ∀ name ∉ ["address"] ++ ["limit", "cursor"], object.lookup name = none :=
      fun name foreign => exact.lookup_eq_none foreign
    have module := absent "module" (by decide)
    have query := absent "query" (by decide)
    have encoding := absent "encoding" (by decide)
    have minimum := absent "min_length" (by decide)
    have context := absent "context_bytes" (by decide)
    refine discovery_parses build request ?_
      (fun _ => parseAddressReference_of_field build address) (by simp) ?_ (by simp [query])
      (by simp [encoding]) (by simp [minimum]) (by simp [context]) limit cursor
    · simp [size, counted, query, encoding, minimum, context, Nat.add_assoc]
    · simp [module, query, encoding, minimum, context]

theorem expression_parses (keys : (object.map Prod.fst).Nodup)
    (valid : validateTool parseUuid object .expressionEvaluate = .ok ()) :
    Portable floatText object ∧ ∃ parsed, parseExpression object request = some parsed := by
  simp only [validateTool, bind_eq_ok, exactKeys_eq_ok] at valid
  obtain ⟨_, exact, checked⟩ := valid
  have expression := validateExpression_eq_ok checked
  constructor
  · apply portable_of_exact exact keys (by decide) (by decide) (by decide)
    simp only [List.cons_append, List.nil_append, List.forall_mem_cons]
    exact ⟨compact_hasPlain expression (by decide), by simp⟩
  · have size := length_of_exact exact keys (by decide)
    obtain ⟨text, reads, plain⟩ := textIn_of_hasPlain expression
    simp [parseExpression, require, size, reads, plain]

theorem expressionBatch_parses (keys : (object.map Prod.fst).Nodup)
    (valid : validateTool parseUuid object .expressionsEvaluateBatch = .ok ()) :
    Portable floatText object ∧ ∃ parsed, parseExpressionBatch object request = some parsed := by
  simp only [validateTool, bind_eq_ok, exactKeys_eq_ok] at valid
  obtain ⟨_, exact, checked⟩ := valid
  obtain ⟨⟨values, expressions, found, low, high, parses⟩, compact⟩ :=
    validateExpressionBatch_crosses floatText checked
  constructor
  · apply portable_of_exact exact keys (by decide) (by decide) (by decide)
    simp only [List.cons_append, List.nil_append, List.forall_mem_cons]
    exact ⟨compact, by simp⟩
  · have size := length_of_exact exact keys (by decide)
    simp [parseExpressionBatch, require, size, found, low, high, parses]

theorem noFields_parses (exact : Exact object [] []) :
    Portable floatText object ∧ ∃ parsed, parseNoFields object request = some parsed := by
  have nothing : object = [] := by
    cases object with
    | nil => rfl
    | cons field rest => simpa using exact.known field List.mem_cons_self
  subst nothing
  exact ⟨⟨by simp, by simp, by simp⟩, request, rfl⟩

theorem contextArguments_parses (keys : (object.map Prod.fst).Nodup)
    (valid : validateTool parseUuid object .contextArguments = .ok ()) :
    Portable floatText object ∧ ∃ parsed, parseContextArguments object request = some parsed := by
  simp only [validateTool, bind_eq_ok, exactKeys_eq_ok, optionalInteger_eq_ok] at valid
  obtain ⟨_, exact, _, count, _, listed, threadIs⟩ := valid
  have thread := optionalThreadId_eq_ok threadIs
  have convention := optionalOneOf_eq_ok listed
  constructor
  · apply portable_of_exact exact keys (by decide) (by decide) (by decide)
    simp only [List.nil_append, List.forall_mem_cons]
    exact ⟨compact_optionalInteger count (by decide),
      .of_optional fun present => compact_listed (convention present) (by decide),
      compact_optionalThread thread, by simp⟩
  · have size := exact.length_eq keys (by decide)
    obtain ⟨argumentCount, readsCount⟩ := integerOr_of_optional request.argumentCount count
    obtain ⟨callingConvention, readsConvention⟩ :=
      unlessMissing_of request.callingConvention fun present =>
        parseOneOf_of_mem (convention present)
    rw [conventions] at readsConvention
    obtain ⟨targetThread, readsThread⟩ := parseThreadId_of_optional thread
    simp [parseContextArguments, require, size, counted, Nat.add_assoc, readsCount, readsConvention,
      readsThread]

end Reads

end X64dbgMcp.Plugin
