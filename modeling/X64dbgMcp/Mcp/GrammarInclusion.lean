import X64dbgMcp.Ipc.Frame
import X64dbgMcp.Mcp.ToolInclusion

/-!
# Validated calls across the pipe

The request of a validated call fits one frame.  The plugin's JSON reader gives it back
when it is free of U+0000, and then the envelope passes, so that the parser of the method
decides.
-/

namespace X64dbgMcp.Mcp

open Text Tools Ipc Collection Plugin
open Json (Within)
open Transition (bind_eq_ok)

variable {floatText : UInt64 → List UInt8} {parseUuid : String → Option Uuid} {object : Object}
  {tool : Tool}

/-! ## Texts without U+0000 -/

theorem nulFree_object {fields : Object} :
    (Json.object fields).nulFree = true ↔
      (∀ field ∈ fields, field.1.toList.contains '\x00' = false) ∧
        ∀ field ∈ fields, field.2.nulFree = true := by
  rw [Json.nulFree, Json.every_object, List.all_map, List.all_eq_true]
  simp

/-- A field that is free of U+0000 may go. -/
theorem nulFree_without {key : String} (keys : (object.map Prod.fst).Nodup)
    (named : key.toList.contains '\x00' = false)
    (valued : ∀ value, object.lookup key = some value → value.nulFree = true) :
    (Json.object (without object key)).nulFree = true ↔ (Json.object object).nulFree = true := by
  have kept : ∀ field, field ∈ without object key ↔ field ∈ object ∧ field.1 ≠ key := by
    intro field
    rw [without, List.mem_filter, decide_eq_true_eq]
  rw [nulFree_object, nulFree_object]
  constructor
  · rintro ⟨names, values⟩
    constructor
    · intro field member
      by_cases same : field.1 = key
      · rw [same, named]
      · exact names field ((kept field).mpr ⟨member, same⟩)
    · intro field member
      by_cases same : field.1 = key
      · have found := lookup_of_mem keys (show (field.1, field.2) ∈ object from member)
        exact valued field.2 (same ▸ found)
      · exact values field ((kept field).mpr ⟨member, same⟩)
  · rintro ⟨names, values⟩
    exact ⟨fun field member => names field ((kept field).mp member).1,
      fun field member => values field ((kept field).mp member).1⟩

theorem nulFree_uuid (id : Uuid) : (Json.string id.text).nulFree = true := by
  have canonical := isUuid_text id
  have plain : ∀ bytes index, isUuidFrom index bytes = true → (0 : UInt8) ∉ bytes := by
    intro bytes
    induction bytes with
    | nil => simp
    | cons byte rest ih =>
        intro index passes
        rw [isUuidFrom, Bool.and_eq_true] at passes
        rw [List.mem_cons, not_or]
        refine ⟨?_, ih _ passes.2⟩
        rintro rfl
        split_ifs at passes
        · exact absurd passes.1 (by decide)
        · exact absurd passes.1 (by decide)
  rw [isUuid, Bool.and_eq_true] at canonical
  simp only [Json.nulFree, Json.every, Bool.not_eq_true', List.contains_eq_mem,
    decide_eq_false_iff_not]
  intro nul
  apply plain _ _ canonical.2
  exact List.mem_flatMap.mpr ⟨_, nul, by decide⟩

/-! ## Depth -/

mutual

theorem depth_le_of_limits {depth : Nat} :
    ∀ value : Json, withinJsonLimits depth value = true → depth + value.depth ≤ 33
  | .null, within => by
      rw [withinJsonLimits, decide_eq_true_eq] at within
      exact Nat.succ_le_succ within
  | .bool _, within => by
      rw [withinJsonLimits, decide_eq_true_eq] at within
      exact Nat.succ_le_succ within
  | .number _, within => by
      rw [withinJsonLimits, decide_eq_true_eq] at within
      exact Nat.succ_le_succ within
  | .string _, within => by
      rw [withinJsonLimits, Bool.and_eq_true, decide_eq_true_eq] at within
      exact Nat.succ_le_succ within.1
  | .array items, within => by
      simp only [withinJsonLimits, Bool.and_eq_true, decide_eq_true_eq] at within
      have below := depthItems_le_of_limits items (Nat.succ_le_succ within.1.1) within.2
      rw [Json.depth]
      omega
  | .object fields, within => by
      simp only [withinJsonLimits, Bool.and_eq_true, decide_eq_true_eq] at within
      have below := depthFields_le_of_limits fields (Nat.succ_le_succ within.1.1) within.2
      rw [Json.depth]
      omega

theorem depthItems_le_of_limits {depth : Nat} :
    ∀ items : List Json, depth ≤ 33 → itemsWithinJsonLimits depth items = true →
      depth + Json.depthItems items ≤ 33
  | [], low, _ => by simpa [Json.depthItems] using low
  | item :: rest, low, within => by
      rw [itemsWithinJsonLimits, Bool.and_eq_true] at within
      have here := depth_le_of_limits item within.1
      have below := depthItems_le_of_limits rest low within.2
      rw [Json.depthItems]
      omega

theorem depthFields_le_of_limits {depth : Nat} :
    ∀ fields : Object, depth ≤ 33 → fieldsWithinJsonLimits depth fields = true →
      depth + Json.depthFields fields ≤ 33
  | [], low, _ => by simpa [Json.depthFields] using low
  | (_, value) :: rest, low, within => by
      simp only [fieldsWithinJsonLimits, Bool.and_eq_true] at within
      have here := depth_le_of_limits value within.1.2
      have below := depthFields_le_of_limits rest low within.2
      rw [Json.depthFields]
      omega

end

/-! ## The envelope -/

/-- The depth at which the plugin's JSON reader gives up. -/
def jsonParserMaxDepth : Nat := 2048

/-- The plugin's JSON reader gives a written value back, unless a text of it contains
U+0000. -/
def ReadsBack (loadb : List UInt8 → Option Json) (floatText : UInt64 → List UInt8)
    (value : Json) : Prop :=
  value.distinct = true → value.fits = true → value.depth ≤ jsonParserMaxDepth →
    loadb (Json.write floatText value) = if value.nulFree then some value else none

/-- The bytes of a request. -/
def requestBytes (floatText : UInt64 → List UInt8) (request : IpcRequest) : List UInt8 :=
  Json.write floatText (requestJson request)

/-- A request that the pipe takes and the plugin parses. -/
def Crosses (build : Build) (loadb : List UInt8 → Option Json) (floatText : UInt64 → List UInt8)
    (request : IpcRequest) : Prop :=
  (∃ frame, encodeFrame (some (requestBytes floatText request)) = .ok frame) ∧
    (parseRequest build loadb (requestBytes floatText request)).isSome = true

theorem portable_without (portable : Portable floatText object) (key : String) :
    Portable floatText (without object key) where
  few := (List.length_filter_le _ _).trans portable.few
  keys field member := portable.keys field (List.mem_filter.mp member).1
  within field member := portable.within field (List.mem_filter.mp member).1

theorem within_of_portable (portable : Portable floatText object) :
    Within floatText 600000 (.object object) := by
  apply Within.object 64 fieldBytes portable.keys portable.within
  have room := Nat.mul_le_mul_right (6 * 64 + fieldBytes + 4) portable.few
  calc
    object.length * (6 * 64 + fieldBytes + 4) + 2 ≤ 8 * (6 * 64 + fieldBytes + 4) + 2 :=
      Nat.add_le_add_right room 2
    _ ≤ 600000 := by decide

section Envelope

variable {request : IpcRequest}

/-- The fields that a request is written with. -/
def requestFields (request : IpcRequest) : Object :=
  [("request_id", .string request.requestId.text),
    ("deadline_unix_ms", .number (.posInt request.deadlineUnixMs)),
    ("operation_id",
      match request.operationId with
      | none => .null
      | some operation => .string operation.text),
    ("method", .string request.method),
    ("payload", request.payload)]

theorem requestJson_eq (request : IpcRequest) :
    requestJson request = .object (requestFields request) :=
  rfl

theorem length_requestBytes (payload : Within floatText 600000 request.payload)
    (method : (utf8 request.method).length ≤ 64) :
    (requestBytes floatText request).length ≤ maxFrameBytes := by
  have written := Json.length_writeFields_le floatText true (requestFields request)
  have id : (Json.write floatText (.string request.requestId.text)).length ≤ 218 := by
    have bound := length_writeString_le request.requestId.text
    rwa [length_text] at bound
  have deadline : (Json.write floatText (.number (.posInt request.deadlineUnixMs))).length ≤ 20 :=
    length_decimal_le request.deadlineUnixMs.toNat_lt
  have operation : (Json.write floatText
      (match request.operationId with
      | none => .null
      | some operation => .string operation.text)).length ≤ 218 := by
    cases request.operationId with
    | none =>
        change (utf8 "null").length ≤ 218
        decide
    | some operation =>
        have bound := length_writeString_le operation.text
        rwa [length_text] at bound
  have name : (Json.write floatText (.string request.method)).length ≤ 386 := by
    have bound := length_writeString_le request.method
    exact bound.trans (by omega)
  have keys : (utf8 "request_id").length = 10 ∧ (utf8 "deadline_unix_ms").length = 16 ∧
      (utf8 "operation_id").length = 12 ∧ (utf8 "method").length = 6 ∧
      (utf8 "payload").length = 7 := by decide
  obtain ⟨idKey, deadlineKey, operationKey, methodKey, payloadKey⟩ := keys
  have short := payload.short
  have total : ((requestFields request).map fun field =>
      6 * (utf8 field.1).length + (Json.write floatText field.2).length + 4).sum ≤ 601200 := by
    simp only [requestFields, List.map_cons, List.map_nil, List.sum_cons, List.sum_nil, idKey,
      deadlineKey, operationKey, methodKey, payloadKey]
    omega
  rw [requestBytes, requestJson_eq, Json.write]
  simp only [List.length_append, List.length_singleton]
  change _ ≤ 1048576
  omega

theorem distinct_requestJson (payload : request.payload.distinct = true) :
    (requestJson request).distinct = true := by
  rw [requestJson_eq, Json.distinct, Json.every_object]
  constructor
  · rw [decide_eq_true_eq]
    change ["request_id", "deadline_unix_ms", "operation_id", "method", "payload"].Nodup
    decide
  · simp only [requestFields, List.forall_mem_cons]
    refine ⟨rfl, rfl, ?_, rfl, payload, by simp⟩
    cases request.operationId <;> rfl

theorem fits_requestJson (clock : request.deadlineUnixMs.toNat < 2 ^ 63)
    (payload : request.payload.fits = true) : (requestJson request).fits = true := by
  rw [requestJson_eq, Json.fits, Json.every_object]
  constructor
  · rfl
  · simp only [requestFields, List.forall_mem_cons]
    refine ⟨rfl, ?_, ?_, rfl, payload, by simp⟩
    · simpa [Json.every] using clock
    · cases request.operationId <;> rfl

theorem depth_requestJson {bound : Nat} (payload : request.payload.depth ≤ bound)
    (positive : 1 ≤ bound) : (requestJson request).depth ≤ bound + 1 := by
  rw [requestJson_eq, Json.depth]
  apply Nat.succ_le_succ
  rw [Json.depthFields_le]
  simp only [requestFields, List.forall_mem_cons]
  refine ⟨positive, positive, ?_, positive, payload, by simp⟩
  cases request.operationId <;> exact positive

/-- The envelope of a request is free of U+0000. -/
theorem nulFree_requestJson (method : request.method.toList.contains '\x00' = false) :
    (requestJson request).nulFree = request.payload.nulFree := by
  rw [Bool.eq_iff_iff, requestJson_eq, nulFree_object]
  have operation : (match request.operationId with
      | none => Json.null
      | some operation => .string operation.text).nulFree = true := by
    cases request.operationId with
    | none => rfl
    | some operation => exact nulFree_uuid operation
  have name : (Json.string request.method).nulFree = true := by
    rw [Json.nulFree, Json.every, method]
    rfl
  simp only [requestFields, List.forall_mem_cons]
  constructor
  · rintro ⟨_, _, _, _, _, payload, _⟩
    exact payload
  · intro payload
    exact ⟨by decide, nulFree_uuid _, rfl, operation, name, payload, by simp⟩

/-- Behind a sound envelope the parser of the method decides. -/
theorem parseRequest_of_loaded {build : Build} {loadb : List UInt8 → Option Json}
    {bytes : List UInt8} {payload : Object} (loads : loadb bytes = some (requestJson request))
    (method : request.method = tool.name) (held : request.payload = .object payload)
    (clock : 0 < request.deadlineUnixMs.toNat)
    (mutation : mutates tool.name payload = request.operationId.isSome)
    (named : ∀ operation, request.operationId = some operation →
      payload.lookup "operation_id" = some (.string operation.text)) :
    ∃ start, (parseRequest build loadb bytes).isSome =
      (parseTool build payload start tool).isSome := by
  obtain ⟨nonempty, short, _⟩ := length_name tool
  have canonical := isUuid_text request.requestId
  have operationOf : operationIdOf (some (match request.operationId with
      | none => Json.null
      | some operation => .string operation.text)) =
        some (request.operationId.map Uuid.text) := by
    cases request.operationId <;> rfl
  refine ⟨{ requestId := request.requestId.text, method := tool.name,
            deadlineUnixMs := request.deadlineUnixMs.toNat, mutation := mutates tool.name payload,
            operationId := (request.operationId.map Uuid.text).getD "" }, ?_⟩
  have idFound : (requestFields request).lookup "request_id" =
      some (.string request.requestId.text) := rfl
  have deadlineFound : (requestFields request).lookup "deadline_unix_ms" =
      some (.number (.posInt request.deadlineUnixMs)) := rfl
  have operationFound : (requestFields request).lookup "operation_id" =
      some (match request.operationId with
        | none => Json.null
        | some operation => .string operation.text) := rfl
  have methodFound : (requestFields request).lookup "method" = some (.string tool.name) :=
    congrArg (fun name => some (Json.string name)) method
  have payloadFound : (requestFields request).lookup "payload" = some (.object payload) :=
    congrArg some held
  have identified : ∀ operation ∈ request.operationId.map Uuid.text,
      isUuid (utf8 operation) = true := by
    intro operation member
    obtain ⟨id, _, rfl⟩ := Option.map_eq_some_iff.mp member
    exact isUuid_text id
  have told : request.operationId.isSome = true →
      (payload.lookup "operation_id").bind Json.asStr =
        some ((request.operationId.map Uuid.text).getD "") := by
    intro mutating
    rw [Option.isSome_iff_exists] at mutating
    obtain ⟨operation, holds⟩ := mutating
    rw [named operation holds, holds]
    rfl
  have five : (requestFields request).length = 5 := rfl
  have positive : (0 : Int) < request.deadlineUnixMs.toNat := by exact_mod_cast clock
  have known : (request.operationId.map Uuid.text).all
      (fun operation => isUuid (utf8 operation)) = true := by
    rw [Option.all_eq_true]
    exact identified
  simp only [parseRequest, loads, requestJson_eq, Json.asObject, Option.bind_eq_bind,
    Option.bind_some, idFound, deadlineFound, operationFound, methodFound, payloadFound, textOf,
    Json.asStr, integerOf, operationOf, five, require, if_true, canonical, nonempty, short, positive,
    known, mutation, Option.isSome_map, ne_eq, not_false_eq_true, and_self, Int.toNat_natCast]
  simp only [if_pos told, parsePayload, ofName_name, Option.bind_some, Option.bind_fun_some,
    Option.pure_def]

theorem encodeFrame_requestBytes (payload : Within floatText 600000 request.payload)
    (method : (utf8 request.method).length ≤ 64) :
    ∃ frame, encodeFrame (some (requestBytes floatText request)) = .ok frame := by
  have short := length_requestBytes payload method
  have filled : (requestBytes floatText request).isEmpty = false := by
    rw [requestBytes, requestJson_eq, Json.write]
    rfl
  rw [encodeFrame, filled, if_neg Bool.false_ne_true, if_neg (Nat.not_lt.mpr short)]
  exact ⟨_, rfl⟩

/-- A request crosses when it is free of U+0000 and the parser of its method takes it. -/
theorem crosses_iff {build : Build} {loadb : List UInt8 → Option Json} {payload : Object}
    {accepted : Prop} (method : request.method = tool.name)
    (held : request.payload = .object payload) (portable : Portable floatText payload)
    (distinct : (Json.object payload).distinct = true) (depth : (Json.object payload).depth ≤ 33)
    (clock : 0 < request.deadlineUnixMs.toNat ∧ request.deadlineUnixMs.toNat < 2 ^ 63)
    (mutation : mutates tool.name payload = request.operationId.isSome)
    (named : ∀ operation, request.operationId = some operation →
      payload.lookup "operation_id" = some (.string operation.text))
    (reads : ReadsBack loadb floatText (requestJson request))
    (parses : ∀ start, (parseTool build payload start tool).isSome = true ↔ accepted) :
    Crosses build loadb floatText request ↔
      (Json.object payload).nulFree = true ∧ accepted := by
  obtain ⟨_, short, plain⟩ := length_name tool
  have within := held ▸ within_of_portable portable
  have framed := encodeFrame_requestBytes within (method ▸ short)
  have free : (requestJson request).nulFree = (Json.object payload).nulFree := by
    rw [nulFree_requestJson (method ▸ plain), held]
  have loads := reads (distinct_requestJson (held ▸ distinct))
    (fits_requestJson clock.2 within.integers)
    ((depth_requestJson (held ▸ depth) (by decide)).trans (by decide))
  rw [Crosses, and_iff_right framed]
  cases nul : (Json.object payload).nulFree with
  | false =>
      rw [free, nul, if_neg Bool.false_ne_true] at loads
      simp [parseRequest, requestBytes, loads]
  | true =>
      rw [free, nul, if_pos rfl] at loads
      have loaded : ∃ start, (parseRequest build loadb (requestBytes floatText request)).isSome =
          (parseTool build payload start tool).isSome :=
        parseRequest_of_loaded loads method held clock.1 mutation named
      obtain ⟨start, same⟩ := loaded
      rw [same, parses start]
      simp

end Envelope

/-! ## Validated calls -/

theorem distinct_without_object (distinct : (Json.object object).distinct = true) (key : String) :
    (Json.object (without object key)).distinct = true := by
  obtain ⟨keys, below⟩ := distinct_object distinct
  rw [Json.distinct, Json.every_object, decide_eq_true_eq]
  exact ⟨distinct_without keys key, fun field member => below field (List.mem_filter.mp member).1⟩

theorem depth_without (object : Object) (key : String) :
    (Json.object (without object key)).depth ≤ (Json.object object).depth := by
  rw [Json.depth, Json.depth]
  apply Nat.succ_le_succ
  rw [Json.depthFields_le]
  intro field member
  exact Json.depthFields_le.mp le_rfl field (List.mem_filter.mp member).1

theorem nulFree_of_hasOneOf {field : String} {accepted : List String}
    (has : HasOneOf object field accepted)
    (plain : ∀ text ∈ accepted, (Json.string text).nulFree = true) :
    ∀ value, object.lookup field = some value → value.nulFree = true := by
  intro value found
  obtain ⟨text, held, listed, _⟩ := has
  rw [found, Option.some.injEq] at held
  rw [held]
  exact plain text listed

/-- The presentation options of a validated memory read are free of U+0000. -/
theorem nulFree_nativeObject (keys : (object.map Prod.fst).Nodup)
    (valid : validateTool parseUuid object tool = .ok ()) :
    (Json.object (nativeObject tool object)).nulFree = true ↔
      (Json.object object).nulFree = true := by
  by_cases memory : tool = .memoryRead
  · subst memory
    simp only [validateTool, bind_eq_ok, validateMemoryView, whenPresent_eq_ok] at valid
    obtain ⟨_, _, _, _, _, _, _, format, _, order, _⟩ := valid
    rw [nativeObject, if_pos rfl,
      nulFree_without (distinct_without keys "format") (by decide), nulFree_without keys (by decide)]
    · intro value found
      have formatted := oneOf_eq_ok (format (by rw [found]; rfl))
      exact nulFree_of_hasOneOf formatted (by decide) value found
    · intro value found
      rw [lookup_without_of_ne (by decide)] at found
      obtain ⟨_, _, listed⟩ := order (by rw [found]; rfl)
      exact nulFree_of_hasOneOf (oneOf_eq_ok listed) (by decide) value found
  · rw [nativeObject, if_neg memory]

section Calls

variable {build : Build} {loadb : List UInt8 → Option Json} {instanceId requestId : Uuid}
  {log : Bool} {deadlineUnixMs : UInt64} {dispatched : Json}

/-- A validated mutation. -/
theorem mutation_crosses_iff (distinct : (Json.object object).distinct = true)
    (depth : (Json.object object).depth ≤ 33)
    (mutating : isMutationCall tool.name (.object object) = true)
    (valid : validateTool parseUuid object tool = .ok ())
    (clock : 0 < deadlineUnixMs.toNat ∧ deadlineUnixMs.toNat < 2 ^ 63)
    (reads : ∀ request,
      ipcRequest parseUuid tool.name (.object (without object "instance_id")) requestId
        deadlineUnixMs = some request → ReadsBack loadb floatText (requestJson request)) :
    ∃ request,
      ipcRequest parseUuid tool.name (.object (without object "instance_id")) requestId
        deadlineUnixMs = some request ∧
      (Crosses build loadb floatText request ↔
        (Json.object object).nulFree = true ∧ CursorReadable build tool.name (.object object)) := by
  obtain ⟨keys, _⟩ := distinct_object distinct
  have parses : ∀ start, Mutation floatText parseUuid object fun payload =>
      parseTool build payload start tool := fun start =>
    mutation_parses build start distinct mutating valid
  obtain ⟨portable, ⟨operation, found, parsed⟩, _⟩ :=
    parses { requestId := "", method := "", deadlineUnixMs := 0, mutation := true }
  obtain ⟨instance_, instanceFound, _⟩ := instanceId_of_valid mutating valid
  have operationFound : (without object "instance_id").lookup "operation_id" =
      some (.string operation.text) := by
    rw [lookup_without_of_ne (by decide), found]
  have sameAction : (without object "instance_id").lookup "action" = object.lookup "action" :=
    lookup_without_of_ne (by decide)
  have mutation : mutates tool.name (without object "instance_id") = true :=
    (mutates_eq tool sameAction).trans mutating
  have stillMutating : isMutationCall tool.name (.object (without object "instance_id")) = true :=
    (mutates_eq tool rfl).symm.trans mutation
  have sameNul : (Json.object (without object "instance_id")).nulFree = true ↔
      (Json.object object).nulFree = true := by
    apply nulFree_without keys (by decide)
    intro value held
    rw [instanceFound, Option.some.injEq] at held
    exact held ▸ nulFree_uuid instance_
  have built : ∃ request,
      ipcRequest parseUuid tool.name (.object (without object "instance_id")) requestId
        deadlineUnixMs = some request ∧ request.method = tool.name ∧
      request.payload = .object (without object "instance_id") ∧
      request.deadlineUnixMs = deadlineUnixMs ∧ request.operationId = some operation := by
    have get : (Json.object (without object "instance_id")).get "operation_id" =
        some (.string operation.text) := operationFound
    rw [ipcRequest, if_pos stillMutating, get]
    simp only [Option.bind_some, Json.asStr, parsed]
    exact ⟨_, rfl, rfl, rfl, rfl, rfl⟩
  obtain ⟨request, isBuilt, method, payload, deadline, named⟩ := built
  refine ⟨request, isBuilt, ?_⟩
  have crosses : Crosses build loadb floatText request ↔
      (Json.object (without object "instance_id")).nulFree = true ∧ True := by
    apply crosses_iff method payload (portable_without portable "instance_id")
      (distinct_without_object distinct "instance_id")
      ((depth_without object "instance_id").trans depth) (deadline ▸ clock) (by rw [mutation, named]; rfl)
      _ (reads request isBuilt)
    · intro start
      obtain ⟨_, _, parsedRequest, passes⟩ := parses start
      simp [passes]
    · intro other holds
      cases named.symm.trans holds
      exact operationFound
  rw [crosses, sameNul, and_true]
  exact (and_iff_left (cursorReadable_of_mutation build mutating)).symm

/-- A validated read that reaches the plugin. -/
theorem read_crosses_iff (distinct : (Json.object object).distinct = true)
    (depth : (Json.object object).depth ≤ 33)
    (reading : isMutationCall tool.name (.object object) = false)
    (status : tool ≠ .logsStatus) (logs : tool ≠ .logsRead)
    (valid : validateTool parseUuid object tool = .ok ())
    (clock : 0 < deadlineUnixMs.toNat ∧ deadlineUnixMs.toNat < 2 ^ 63)
    (reads : ∀ request,
      ipcRequest parseUuid tool.name (.object (nativeObject tool object)) requestId
        deadlineUnixMs = some request → ReadsBack loadb floatText (requestJson request)) :
    ∃ request,
      ipcRequest parseUuid tool.name (.object (nativeObject tool object)) requestId
        deadlineUnixMs = some request ∧
      (Crosses build loadb floatText request ↔
        (Json.object object).nulFree = true ∧ CursorReadable build tool.name (.object object)) := by
  obtain ⟨keys, _⟩ := distinct_object distinct
  have parses : ∀ start, Portable floatText object ∧
      ((parseTool build (nativeObject tool object) start tool).isSome = true ↔
        CursorReadable build tool.name (.object object)) := fun start =>
    read_parses build start distinct reading status logs valid
  obtain ⟨portable, _⟩ :=
    parses { requestId := "", method := "", deadlineUnixMs := 0, mutation := false }
  have native : Portable floatText (nativeObject tool object) ∧
      (Json.object (nativeObject tool object)).distinct = true ∧
      (Json.object (nativeObject tool object)).depth ≤ 33 ∧
      (nativeObject tool object).lookup "action" = object.lookup "action" := by
    rw [nativeObject]
    split_ifs
    · exact ⟨portable_without (portable_without portable _) _,
        distinct_without_object (distinct_without_object distinct _) _,
        (depth_without _ _).trans ((depth_without _ _).trans depth),
        (lookup_without_of_ne (by decide)).trans (lookup_without_of_ne (by decide))⟩
    · exact ⟨portable, distinct, depth, rfl⟩
  obtain ⟨nativePortable, nativeDistinct, nativeDepth, sameAction⟩ := native
  have mutation : mutates tool.name (nativeObject tool object) = false :=
    (mutates_eq tool sameAction).trans reading
  have stillReading : isMutationCall tool.name (.object (nativeObject tool object)) = false :=
    (mutates_eq tool rfl).symm.trans mutation
  have built : ∃ request,
      ipcRequest parseUuid tool.name (.object (nativeObject tool object)) requestId
        deadlineUnixMs = some request ∧ request.method = tool.name ∧
      request.payload = .object (nativeObject tool object) ∧
      request.deadlineUnixMs = deadlineUnixMs ∧ request.operationId = none := by
    rw [ipcRequest, stillReading, if_neg Bool.false_ne_true]
    exact ⟨_, rfl, rfl, rfl, rfl, rfl⟩
  obtain ⟨request, isBuilt, method, payload, deadline, named⟩ := built
  refine ⟨request, isBuilt, ?_⟩
  have crosses : Crosses build loadb floatText request ↔
      (Json.object (nativeObject tool object)).nulFree = true ∧
        CursorReadable build tool.name (.object object) := by
    apply crosses_iff method payload nativePortable nativeDistinct nativeDepth (deadline ▸ clock)
      (by rw [mutation, named]; rfl) _ (reads request isBuilt) fun start => (parses start).2
    intro operation holds
    cases named.symm.trans holds
  rw [crosses, nulFree_nativeObject keys valid]

/-- What is dispatched of a validated call. -/
theorem dispatched_eq
    (dispatches : dispatchedArguments parseUuid instanceId log tool.name (.object object) =
      some dispatched) :
    tool ≠ .logsStatus ∧ tool ≠ .logsRead ∧
      dispatched =
        if isMutationCall tool.name (.object object) then .object (without object "instance_id")
        else .object (nativeObject tool object) := by
  have memoryName : tool.name = "memory.read" ↔ tool = .memoryRead := by
    cases tool <;> decide +kernel
  have kept : ¬ (tool.name = "logs.read" ∨ tool.name = "logs.status") := by
    intro logged
    simp [dispatchedArguments, logged] at dispatches
  have native : nativeArguments (.object object) =
      .object (without (without object "format") "byte_order") := rfl
  have passed : ¬ (tool.name = "events.wait" ∧ log = true) := by
    intro awaited
    simp [dispatchedArguments, awaited] at dispatches
  refine ⟨fun status => kept (.inr (status ▸ rfl)), fun logs => kept (.inl (logs ▸ rfl)), ?_⟩
  rw [dispatchedArguments, if_neg passed, if_neg kept] at dispatches
  by_cases mutating : isMutationCall tool.name (.object object) = true
  · have notMemory : tool.name ≠ "memory.read" := by
      intro memory
      rw [memory] at mutating
      exact absurd mutating Bool.false_ne_true
    rw [if_pos mutating] at dispatches ⊢
    simp only [if_neg notMemory] at dispatches
    split at dispatches
    · cases dispatches
    · split_ifs at dispatches
      exact (Option.some.inj dispatches).symm
  · rw [if_neg mutating] at dispatches ⊢
    rw [nativeObject]
    by_cases memory : tool = .memoryRead
    · rw [if_pos (memoryName.mpr memory), native] at dispatches
      rw [if_pos memory]
      exact (Option.some.inj dispatches).symm
    · rw [if_neg (memoryName.not.mpr memory)] at dispatches
      rw [if_neg memory]
      exact (Option.some.inj dispatches).symm

/-- A validated call crosses the pipe exactly when its texts are free of U+0000 and its
cursor, where the method pages, is one that the plugin reads. -/
theorem validated_crosses_iff {name : String} {arguments : Json} {level : Nat}
    (distinct : arguments.distinct = true) (limits : withinJsonLimits level arguments = true)
    (valid : validateArguments parseUuid name arguments = .ok ())
    (dispatches : dispatchedArguments parseUuid instanceId log name arguments = some dispatched)
    (clock : 0 < deadlineUnixMs.toNat ∧ deadlineUnixMs.toNat < 2 ^ 63)
    (reads : ∀ request,
      ipcRequest parseUuid name dispatched requestId deadlineUnixMs = some request →
        ReadsBack loadb floatText (requestJson request)) :
    ∃ request,
      ipcRequest parseUuid name dispatched requestId deadlineUnixMs = some request ∧
      (Crosses build loadb floatText request ↔
        arguments.nulFree = true ∧ CursorReadable build name arguments) := by
  obtain ⟨object, isObject, checked⟩ := bind_eq_ok.mp valid
  obtain ⟨rfl⟩ := asObject_eq_some.mp (okOr_eq_ok.mp isObject)
  cases named : Tool.ofName name with
  | none =>
      rw [named] at checked
      cases checked
  | some tool =>
      rw [named] at checked
      obtain rfl := name_of_ofName named
      have depth : (Json.object object).depth ≤ 33 :=
        (Nat.le_add_left _ _).trans (depth_le_of_limits _ limits)
      obtain ⟨status, logs, rfl⟩ := dispatched_eq dispatches
      by_cases mutating : isMutationCall tool.name (.object object) = true
      · rw [if_pos mutating] at reads ⊢
        exact mutation_crosses_iff distinct depth mutating checked clock reads
      · rw [if_neg mutating] at reads ⊢
        exact read_crosses_iff distinct depth (Bool.not_eq_true _ ▸ mutating) status logs checked
          clock reads

end Calls

/-! ## Two calls -/

/-- The build for 64 bits. -/
def plainBuild : Build where
  pointerBytes := 8
  maxConditionalExprSize := 256

/-- The identifier parser, at the one identifier of the calls below. -/
def parseOneUuid (text : String) : Option Uuid :=
  if text = Uuid.text 1 then some 1 else none

/-- The arguments of a pause. -/
def pauseArguments : Json :=
  .object [("operation_id", .string (Uuid.text 1)), ("instance_id", .string (Uuid.text 1))]

/-- The same as they are sent. -/
def pauseDispatched : Json :=
  .object [("operation_id", .string (Uuid.text 1))]

/-- The request of the pause. -/
def pauseRequest : IpcRequest where
  requestId := 1
  deadlineUnixMs := 1
  operationId := some 1
  method := "debugger.pause"
  payload := pauseDispatched

/-- The JSON reader, on the bytes of one request. -/
def loadOnly (request : IpcRequest) (bytes : List UInt8) : Option Json :=
  if bytes = requestBytes (fun _ => []) request then some (requestJson request) else none

theorem readsBack_loadOnly {request : IpcRequest} (free : (requestJson request).nulFree = true) :
    ReadsBack (loadOnly request) (fun _ => []) (requestJson request) := by
  intro _ _ _
  rw [if_pos free]
  exact if_pos rfl

theorem validated_crosses_pause :
    ∃ request, ipcRequest parseOneUuid "debugger.pause" pauseDispatched 1 1 = some request ∧
      (Crosses plainBuild (loadOnly pauseRequest) (fun _ => []) request ↔
        pauseArguments.nulFree = true ∧
          CursorReadable plainBuild "debugger.pause" pauseArguments) := by
  have built : ipcRequest parseOneUuid "debugger.pause" pauseDispatched 1 1 = some pauseRequest :=
    rfl
  have limits : withinJsonLimits 2 pauseArguments = true := by decide +kernel
  have dispatches : dispatchedArguments parseOneUuid 1 true "debugger.pause" pauseArguments =
      some pauseDispatched :=
    rfl
  apply validated_crosses_iff (by decide +kernel) limits (by decide +kernel) dispatches (by decide)
  intro request isBuilt
  cases built.symm.trans isBuilt
  exact readsBack_loadOnly (by decide +kernel)

/-- A page of the modules behind a cursor that the plugin has not made. -/
def modulesArguments : Json :=
  .object [("cursor", .string "next")]

/-- A request for the modules. -/
def modulesRequest : IpcRequest where
  requestId := 1
  deadlineUnixMs := 1
  operationId := none
  method := "modules.list"
  payload := modulesArguments

/-- The sidecar takes any cursor of 1 to 512 bytes; the plugin drops the pipe at this. -/
theorem modules_cursor_not_parsed :
    modulesArguments.distinct = true ∧ withinJsonLimits 2 modulesArguments = true ∧
      validateArguments parseOneUuid "modules.list" modulesArguments = .ok () ∧
      dispatchedArguments parseOneUuid 1 true "modules.list" modulesArguments =
        some modulesArguments ∧
      ipcRequest parseOneUuid "modules.list" modulesArguments 1 1 = some modulesRequest ∧
      ReadsBack (loadOnly modulesRequest) (fun _ => []) (requestJson modulesRequest) ∧
      ¬ Crosses plainBuild (loadOnly modulesRequest) (fun _ => []) modulesRequest := by
  refine ⟨by decide +kernel, by decide +kernel, by decide +kernel, rfl, rfl,
    readsBack_loadOnly (by decide +kernel), ?_⟩
  rintro ⟨_, parses⟩
  have refused : (parseRequest plainBuild (loadOnly modulesRequest)
      (requestBytes (fun _ => []) modulesRequest)).isSome = false := by
    decide +kernel
  rw [refused] at parses
  cases parses

end X64dbgMcp.Mcp
