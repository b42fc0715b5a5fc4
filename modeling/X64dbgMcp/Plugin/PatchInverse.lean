import X64dbgMcp.Plugin.Patching
import X64dbgMcp.Text.HexBytes

/-!
# Restoring undoes a patch

The checks of both handlers line up: what `assembly.patch` has confirmed is what
`patches.restore` asks for, and the records give back exactly the bytes that were
expected.
-/

namespace X64dbgMcp.Plugin

open Text Transition

variable {backend : Backend}

/-! ## Spans -/

theorem mapM_range_eq_some {α : Type} {read : Nat → Option α} {size : Nat} {values : List α} :
    (List.range size).mapM read = some values ↔
      values.length = size ∧ ∀ index < size, read index = values[index]? := by
  induction size generalizing values with
  | zero =>
      simp only [List.range_zero, List.mapM_nil, Option.pure_def, Option.some.injEq]
      constructor
      · rintro rfl
        exact ⟨rfl, nofun⟩
      · rintro ⟨empty, -⟩
        exact (List.length_eq_zero_iff.mp empty).symm
  | succ size ih =>
      simp only [List.range_succ, List.mapM_append, List.mapM_cons, List.mapM_nil,
        Option.bind_eq_bind, Option.bind_eq_some_iff, Option.pure_def, Option.some.injEq]
      constructor
      · rintro ⟨front, readsFront, _, ⟨last, readsLast, _, rfl, rfl⟩, rfl⟩
        obtain ⟨length, each⟩ := ih.mp readsFront
        refine ⟨by simp [length], ?_⟩
        intro index below
        rcases Nat.lt_succ_iff_lt_or_eq.mp below with earlier | rfl
        · rw [each index earlier, List.getElem?_append_left (by omega)]
        · rw [readsLast, List.getElem?_append_right (by omega), length, Nat.sub_self]
          rfl
      · rintro ⟨length, each⟩
        have shape := List.eq_nil_or_concat values
        rcases shape with rfl | ⟨front, last, rfl⟩
        · cases length
        · rw [List.concat_eq_append, List.length_append, List.length_singleton,
            Nat.add_right_cancel_iff] at length
          rw [List.concat_eq_append] at each ⊢
          refine ⟨front, ih.mpr ⟨length, ?_⟩, [last], ⟨last, ?_, [], rfl, rfl⟩, rfl⟩
          · intro index below
            rw [each index (by omega), List.getElem?_append_left (by omega)]
          · rw [each size (by omega), List.getElem?_append_right (by omega), length, Nat.sub_self]
            rfl

/-- The offset of an address in a span leads to the address. -/
theorem add_offset (address target : Duint backend) :
    address + BitVec.ofNat _ (target - address).toNat = target := by
  rw [BitVec.ofNat_toNat, BitVec.setWidth_eq, BitVec.add_comm, BitVec.sub_add_cancel]

/-- An address in a span has the offset that leads to it. -/
theorem offset_add {size : Nat} (few : size ≤ 16) {index : Nat} (below : index < size)
    (address : Duint backend) :
    (address + BitVec.ofNat _ index - address).toNat = index := by
  have small : index < 2 ^ backend.sizeBits := Backend.lt_two_pow (by omega) backend
  rw [BitVec.add_comm, BitVec.add_sub_cancel, BitVec.toNat_ofNat, Nat.mod_eq_of_lt small]

theorem toNat_spanEnd_sub {size : Nat} (positive : 1 ≤ size) (few : size ≤ 16)
    (address : Duint backend) : (spanEnd address size - address).toNat + 1 = size := by
  rw [spanEnd, offset_add few (by omega)]
  omega

theorem inSpan_spanEnd {size : Nat} (positive : 1 ≤ size) (few : size ≤ 16)
    (address target : Duint backend) :
    PatchWorld.inSpan address (spanEnd address size) target = true ↔
      (target - address).toNat < size := by
  have ends := toNat_spanEnd_sub positive few address
  rw [PatchWorld.inSpan, decide_eq_true_eq]
  omega

namespace PatchWorld

variable {world : PatchWorld backend} {address : Duint backend} {size : Nat}

theorem read_eq_some {bytes : List UInt8} (reads : world.read address size = some bytes)
    {target : Duint backend} (inside : (target - address).toNat < size) :
    world.memory target = bytes[(target - address).toNat]? := by
  obtain ⟨-, each⟩ := mapM_range_eq_some.mp reads
  rw [← each _ inside, add_offset]

/-- No record in a range. -/
theorem patches_eq_none (positive : 1 ≤ size) (few : size ≤ 16)
    (free : world.patchInRange address (spanEnd address size) = false) {target : Duint backend}
    (inside : (target - address).toNat < size) : world.patches target = none := by
  rw [patchInRange, toNat_spanEnd_sub positive few, List.any_eq_false] at free
  have absent := free _ (List.mem_range.mpr inside)
  rw [add_offset] at absent
  exact Option.not_isSome_iff_eq_none.mp absent

/-- The records of a patch over bytes without records undo it. -/
theorem patchRestoreRange_memPatch {expected final : List UInt8} (positive : 1 ≤ size)
    (few : size ≤ 16) (length : final.length = size)
    (reads : world.read address size = some expected)
    (free : world.patchInRange address (spanEnd address size) = false) :
    (world.memPatch address final).patchRestoreRange address (spanEnd address size) = world := by
  have expectedLength : expected.length = size := (mapM_range_eq_some.mp reads).1
  apply PatchWorld.ext
  · funext target
    by_cases inside : (target - address).toNat < size
    · have old := read_eq_some reads inside
      have unpatched := patches_eq_none positive few free inside
      have byte := List.getElem?_eq_getElem (length ▸ inside)
      rw [List.getElem?_eq_getElem (expectedLength ▸ inside)] at old
      have spanned := (inSpan_spanEnd positive few address target).mpr inside
      simp only [patchRestoreRange, memPatch, spanned, if_true, byte, old]
      split_ifs with changed
      · rfl
      · rw [unpatched]
        rw [not_not] at changed
        rw [changed]
    · have beyond : final[(target - address).toNat]? = none :=
        List.getElem?_eq_none (by omega)
      have outside : ¬ inSpan address (spanEnd address size) target = true :=
        fun isInside => inside ((inSpan_spanEnd positive few address target).mp isInside)
      simp only [patchRestoreRange, memPatch, if_neg outside, beyond]
  · funext target
    by_cases inside : (target - address).toNat < size
    · simp only [patchRestoreRange, (inSpan_spanEnd positive few address target).mpr inside,
        if_true, patches_eq_none positive few free inside]
    · have beyond : final[(target - address).toNat]? = none :=
        List.getElem?_eq_none (by omega)
      have outside : ¬ inSpan address (spanEnd address size) target = true :=
        fun isInside => inside ((inSpan_spanEnd positive few address target).mp isInside)
      simp only [patchRestoreRange, memPatch, if_neg outside, beyond]

end PatchWorld

/-! ## Hexadecimal bytes -/

theorem lowerDigit_spec {value : Nat} (small : value < 16) :
    ∃ byte, String.utf8EncodeChar (lowerDigit value) = [byte] ∧ isLowerHex byte = true ∧
      digitValue byte = some value := by
  interval_cases value <;> exact ⟨_, rfl, by decide, by decide⟩

theorem parseHexPairs_hex (byte : UInt8) (rest : List UInt8) :
    parseHexPairs true (([lowerDigit (byte.toNat / 16), lowerDigit (byte.toNat % 16)]).flatMap
        String.utf8EncodeChar ++ rest) = (parseHexPairs true rest).map (byte :: ·) := by
  have bounded := byte.toNat_lt
  obtain ⟨high, highIs, highHex, highReads⟩ := @lowerDigit_spec (byte.toNat / 16) (by omega)
  obtain ⟨low, lowIs, lowHex, lowReads⟩ := @lowerDigit_spec (byte.toNat % 16) (by omega)
  have number : fromCharsAll 16 (2 ^ 32) [high, low] = some byte.toNat := by
    have digits : ∀ digit ∈ [high, low], isLowerHex digit = true := by
      rintro digit (_ | ⟨_, _ | ⟨_, none⟩⟩)
      · exact highHex
      · exact lowHex
      · cases none
    rw [fromCharsAll_of_lowerHex (List.cons_ne_nil _ _) digits
      (show 16 ^ 2 ≤ 2 ^ 32 by decide)]
    simp only [ofDigits, List.foldl_cons, List.foldl_nil, highReads, lowReads, Option.getD_some]
    congr 1
    omega
  have small : byte.toNat ≤ 0xff := by omega
  simp only [List.flatMap_cons, List.flatMap_nil, List.append_nil, highIs, lowIs,
    List.cons_append, List.nil_append, parseHexPairs, number]
  cases parsed : parseHexPairs true rest <;>
    simp [require, highHex, lowHex, small, UInt8.ofNat_toNat]

theorem utf8_hex (bytes : List UInt8) :
    utf8 (hex bytes) = bytes.flatMap fun byte =>
      ([lowerDigit (byte.toNat / 16), lowerDigit (byte.toNat % 16)]).flatMap
        String.utf8EncodeChar := by
  rw [utf8, hex, String.toList_ofList, List.flatMap_assoc]

theorem parseHexPairs_utf8_hex (bytes : List UInt8) :
    parseHexPairs true (utf8 (hex bytes)) = some bytes := by
  rw [utf8_hex]
  induction bytes with
  | nil => rfl
  | cons byte rest ih => rw [List.flatMap_cons, parseHexPairs_hex, ih, Option.map_some]

theorem length_utf8_hex (bytes : List UInt8) : (utf8 (hex bytes)).length = 2 * bytes.length := by
  rw [utf8_hex]
  induction bytes with
  | nil => rfl
  | cons byte rest ih =>
      have bounded := byte.toNat_lt
      obtain ⟨high, highIs, -⟩ := @lowerDigit_spec (byte.toNat / 16) (by omega)
      obtain ⟨low, lowIs, -⟩ := @lowerDigit_spec (byte.toNat % 16) (by omega)
      rw [List.flatMap_cons, List.length_append, ih]
      simp only [List.flatMap_cons, List.flatMap_nil, List.append_nil, highIs, lowIs,
        List.length_append, List.length_cons, List.length_nil]
      omega

/-- The bytes that a handler shows are read again by the next request. -/
theorem parsePatchBytes_hex {bytes : List UInt8} (positive : 1 ≤ bytes.length)
    (few : bytes.length ≤ 16) : parsePatchBytes (hex bytes) = some bytes := by
  have length := length_utf8_hex bytes
  have accepted : (utf8 (hex bytes)).length ≠ 0 ∧ (utf8 (hex bytes)).length ≤ 32 ∧
      (utf8 (hex bytes)).length % 2 = 0 := by omega
  simp only [parsePatchBytes, require, if_pos accepted]
  exact parseHexPairs_utf8_hex bytes

/-! ## Checks -/

theorem answerUnless_eq_ok {condition : Bool} {response : ErrorResponse} {result : Unit} :
    answerUnless condition response = .ok result ↔ condition = true := by
  cases condition <;> simp [answerUnless]

theorem ends_answerUnless {condition : Bool} {response : ErrorResponse}
    (unknown : response.unknown = true) :
    Ends (fun _ => condition = true) (fun response => response.unknown = true)
      (answerUnless condition response) := by
  cases condition with
  | true => exact rfl
  | false => exact unknown

variable {world : PatchWorld backend} {calls : PatchCalls backend} {request : Request}

theorem patchRangeValid_bounds {address : Duint backend} {size : Nat}
    (valid : patchRangeValid address size = true) : 1 ≤ size ∧ size ≤ 16 := by
  simp only [patchRangeValid, Bool.and_eq_true, decide_eq_true_eq] at valid
  exact valid.1

theorem readSpan_eq_ok {address : Duint backend} {size : Nat} {current : List UInt8} :
    readSpan calls world address size = .ok current ↔
      patchRangeValid address size = true ∧ calls.snapshotCurrent 1 = true ∧
        world.read address size = some current := by
  simp only [readSpan, bind_eq_ok, answerUnless_eq_ok]
  constructor
  · rintro ⟨_, valid, _, isCurrent, reads⟩
    split at reads
    · cases reads
    · rename_i bytes found
      cases reads
      exact ⟨valid, isCurrent, found⟩
  · rintro ⟨valid, isCurrent, reads⟩
    refine ⟨(), valid, (), isCurrent, ?_⟩
    rw [reads]

/-- The records pass or fail whatever the answers are. -/
theorem checkRecords_ok {mismatch unexpected otherMismatch otherUnexpected : ErrorResponse}
    {changed total : Nat} {address : Duint backend} {pairs : List (UInt8 × UInt8)}
    (checked : checkRecords world mismatch unexpected changed address pairs = .ok total) :
    checkRecords world otherMismatch otherUnexpected changed address pairs = .ok total := by
  induction pairs generalizing changed address with
  | nil => exact checked
  | cons pair rest ih =>
      obtain ⟨original, patched⟩ := pair
      simp only [checkRecords] at checked ⊢
      split_ifs at checked ⊢
      · exact ih checked
      · exact ih checked

theorem ends_checkRecords {mismatch unexpected : ErrorResponse} {changed : Nat}
    {address : Duint backend} {pairs : List (UInt8 × UInt8)}
    (mismatchUnknown : mismatch.unknown = true) (unexpectedUnknown : unexpected.unknown = true) :
    Ends (fun _ => True) (fun response => response.unknown = true)
      (checkRecords world mismatch unexpected changed address pairs) := by
  induction pairs generalizing changed address with
  | nil => trivial
  | cons pair rest ih =>
      obtain ⟨original, patched⟩ := pair
      simp only [checkRecords]
      split_ifs
      · exact ih
      · exact mismatchUnknown
      · exact unexpectedUnknown
      · exact ih

/-- Every error behind `MemPatch` says that the outcome is unknown. -/
theorem ends_confirmPatch (prepared : PreparedPatch backend) :
    Ends (fun _ => True) (fun response => response.unknown = true)
      (confirmPatch calls request prepared world) := by
  refine (ends_answerUnless rfl).bind fun _ _ => ?_
  refine (ends_checkRecords rfl rfl).bind fun _ _ => ?_
  exact (ends_answerUnless rfl).bind fun _ _ => trivial

/-- Every error behind `PatchRestoreRange` says that the outcome is unknown. -/
theorem ends_confirmRestore (address : Duint backend) (generation : Nat) :
    Ends (fun _ => True) (fun response => response.unknown = true)
      (confirmRestore calls request address generation world) :=
  (ends_answerUnless rfl).bind fun _ _ => trivial

/-- An error of `assembly.patch` without an unknown outcome has changed nothing. -/
theorem patch_error {response : ErrorResponse} {after : PatchWorld backend}
    (failed : patch calls request world = (.error response, after))
    (known : response.unknown = false) : after = world := by
  unfold patch at failed
  split at failed
  · exact (congrArg Prod.snd failed).symm
  · rename_i prepared _
    split_ifs at failed
    · have ends := @ends_confirmPatch backend (world.memPatch prepared.address prepared.finalBytes)
        calls request prepared
      rw [(Prod.mk.inj failed).1] at ends
      exact absurd (known.symm.trans ends) Bool.false_ne_true
    · exact (congrArg Prod.snd failed).symm

/-- An error of `patches.restore` without an unknown outcome has changed nothing. -/
theorem restore_error {response : ErrorResponse} {after : PatchWorld backend}
    (failed : restore calls request world = (.error response, after))
    (known : response.unknown = false) : after = world := by
  unfold restore at failed
  split at failed
  · exact (congrArg Prod.snd failed).symm
  · rename_i address generation _
    have ends := @ends_confirmRestore backend (if calls.restores then
        world.patchRestoreRange address (spanEnd address request.expectedBytes.length)
      else world) calls request address generation
    rw [(Prod.mk.inj failed).1] at ends
    exact absurd (known.symm.trans ends) Bool.false_ne_true

/-! ## A patch that went through -/

theorem preparePatchBytes_length {assembled expected final : List UInt8} {fillNop : Bool}
    (prepared : preparePatchBytes assembled expected fillNop = some final) :
    final.length = expected.length := by
  unfold preparePatchBytes at prepared
  split_ifs at prepared with refused short
  cases prepared
  simp only [Bool.or_eq_true, decide_eq_true_eq, not_or, Nat.not_lt] at refused
  rw [List.length_append, List.length_replicate]
  omega

/-- What `assembly.patch` knows when it calls `MemPatch`. -/
structure Prepared (request : Request) (world : PatchWorld backend)
    (prepared : PreparedPatch backend) : Prop where
  valid : patchRangeValid prepared.address request.expectedBytes.length = true
  reads : world.read prepared.address request.expectedBytes.length = some request.expectedBytes
  free : world.patchInRange prepared.address
    (spanEnd prepared.address request.expectedBytes.length) = false
  length : prepared.finalBytes.length = request.expectedBytes.length
  changes : prepared.finalBytes ≠ request.expectedBytes

theorem prepared_of_preparePatch {prepared : PreparedPatch backend}
    (prepares : preparePatch calls request world = .ok prepared) :
    Prepared request world prepared := by
  simp only [preparePatch, bind_eq_ok, answerUnless_eq_ok, readSpan_eq_ok] at prepares
  obtain ⟨⟨address, generation⟩, -, _, -, instruction, -, current, ⟨valid, -, reads⟩, _, free, _,
    same, finishes⟩ := prepares
  rw [beq_iff_eq] at same
  subst same
  split at finishes
  · cases finishes
  · rename_i final prepared
    simp only [bind_eq_ok, answerUnless_eq_ok] at finishes
    obtain ⟨_, changes, finishes⟩ := finishes
    cases finishes
    exact ⟨valid, reads, by simpa using free, preparePatchBytes_length prepared,
      by simpa using changes⟩

/-- What `assembly.patch` has confirmed, and how it answers. -/
structure Confirmed (request : Request) (prepared : PreparedPatch backend)
    (world : PatchWorld backend) (result : PatchResult backend) : Prop where
  reads : world.read prepared.address request.expectedBytes.length = some prepared.finalBytes
  records : ∀ mismatch unexpected, ∃ total, checkRecords world mismatch unexpected 0
    prepared.address (request.expectedBytes.zip prepared.finalBytes) = .ok total
  address : result.address = prepared.address
  original : result.originalBytesHex = hex request.expectedBytes
  patched : result.patchedBytesHex = hex prepared.finalBytes

theorem confirmed_of_confirmPatch {prepared : PreparedPatch backend} {result : PatchResult backend}
    (confirms : confirmPatch calls request prepared world = .ok result) :
    Confirmed request prepared world result := by
  simp only [confirmPatch, bind_eq_ok, answerUnless_eq_ok, beq_iff_eq] at confirms
  obtain ⟨_, reads, total, checked, _, -, answers⟩ := confirms
  cases answers
  exact ⟨reads, fun _ _ => ⟨total, checkRecords_ok checked⟩, rfl, rfl, rfl⟩

theorem patch_eq_ok {result : PatchResult backend} {after : PatchWorld backend}
    (patched : patch calls request world = (.ok result, after)) :
    ∃ prepared, Prepared request world prepared ∧
      after = world.memPatch prepared.address prepared.finalBytes ∧
      Confirmed request prepared after result := by
  unfold patch at patched
  split at patched
  · cases (Prod.mk.inj patched).1
  · rename_i prepared prepares
    split_ifs at patched
    · obtain ⟨confirms, rfl⟩ := Prod.mk.inj patched
      exact ⟨prepared, prepared_of_preparePatch prepares, rfl, confirmed_of_confirmPatch confirms⟩
    · cases (Prod.mk.inj patched).1

/-! ## The restore behind it -/

/-- The debugger is still paused, offers what a restore needs, and finds an address. -/
structure StillPaused (calls : PatchCalls backend) (reference : AddressReference)
    (address : Duint backend) : Prop where
  snapshot : calls.snapshot.isSome = true
  debugging : calls.isDebugging = true
  resolves : calls.resolveAddress reference = .ok address
  current : ∀ times, calls.snapshotCurrent times = true
  functions : (calls.functions.any fun functions =>
    functions.patchInRange && functions.patchGetEx && functions.patchRestoreRange) = true
  restores : calls.restores = true

theorem StillPaused.resolveLocation {reference : AddressReference} {address : Duint backend}
    (paused : StillPaused calls reference address) :
    ∃ generation, resolveLocation calls reference = .ok (address, generation) := by
  obtain ⟨generation, taken⟩ := Option.isSome_iff_exists.mp paused.snapshot
  refine ⟨generation, ?_⟩
  simp only [Plugin.resolveLocation, taken, paused.debugging, paused.resolves, paused.current]
  rfl

/-- The request that `patches.restore` makes of a patch. -/
def restorePayload (operationId : String) (address : Json) (result : PatchResult backend) :
    Payload :=
  [("operation_id", .string operationId), ("address", address),
    ("expected_patched_bytes_hex", .string result.patchedBytesHex),
    ("expected_original_bytes_hex", .string result.originalBytesHex)]

theorem parsePatchesRestore_restorePayload {result : PatchResult backend} {build : Build}
    {addressValue : Json} {reference : AddressReference}
    (reads : parseAddressReference build (some addressValue) = some reference)
    {patched original : List UInt8}
    (readsPatched : parsePatchBytes result.patchedBytesHex = some patched)
    (readsOriginal : parsePatchBytes result.originalBytesHex = some original)
    (length : patched.length = original.length) (changes : patched ≠ original)
    (operationId : String) (base : Request) :
    ∃ restoring,
      parsePatchesRestore build (restorePayload operationId addressValue result) base =
          some restoring ∧
        restoring.address = reference ∧ restoring.expectedBytes = patched ∧
        restoring.expectedOriginalBytes = original := by
  have address : (restorePayload operationId addressValue result).lookup "address" =
    some addressValue := rfl
  have patchedField : (restorePayload operationId addressValue result).lookup
    "expected_patched_bytes_hex" = some (.string result.patchedBytesHex) := rfl
  have originalField : (restorePayload operationId addressValue result).lookup
    "expected_original_bytes_hex" = some (.string result.originalBytesHex) := rfl
  have envelope : (restorePayload operationId addressValue result).length = 4 ∧
    hasOperationId (restorePayload operationId addressValue result) = true := ⟨rfl, rfl⟩
  refine ⟨{ base with
    address := reference
    expectedBytes := patched
    expectedOriginalBytes := original }, ?_, rfl, rfl, rfl⟩
  simp [parsePatchesRestore, envelope, address, patchedField, originalField, reads, textOf,
    Json.asStr, readsPatched, readsOriginal, length, changes, require]

/-- What `patches.restore` checks in front of `PatchRestoreRange` has been confirmed. -/
theorem prepareRestore_confirmed {request restoring : Request} {prepared : PreparedPatch backend}
    {result : PatchResult backend} (facts : Prepared request world prepared)
    {after : PatchWorld backend} (confirmed : Confirmed request prepared after result)
    (paused : StillPaused calls restoring.address prepared.address)
    (bytes : restoring.expectedBytes = prepared.finalBytes)
    (originals : restoring.expectedOriginalBytes = request.expectedBytes) :
    ∃ generation, prepareRestore calls restoring after = .ok (prepared.address, generation) := by
  obtain ⟨generation, located⟩ := paused.resolveLocation
  obtain ⟨total, records⟩ := confirmed.records
    ⟨"CONFLICT", "patch metadata does not match expected bytes", false, false⟩
    ⟨"CONFLICT", "patch span contains unexpected metadata", false, false⟩
  refine ⟨generation, ?_⟩
  have span : readSpan calls after prepared.address restoring.expectedBytes.length =
      .ok prepared.finalBytes := by
    rw [bytes, facts.length]
    exact readSpan_eq_ok.mpr ⟨facts.valid, paused.current 1, confirmed.reads⟩
  rw [prepareRestore, bind_eq_ok]
  refine ⟨(prepared.address, generation), located, ?_⟩
  simp only [bind_eq_ok, answerUnless_eq_ok]
  refine ⟨(), paused.functions, prepared.finalBytes, span, (), by rw [bytes, beq_self_eq_true],
    total, ?_, rfl⟩
  rw [bytes, originals]
  exact records

/-- What a patch has confirmed can be restored. -/
theorem restore_confirmed {request restoring : Request} {prepared : PreparedPatch backend}
    {result : PatchResult backend} (facts : Prepared request world prepared)
    (confirmed : Confirmed request prepared
      (world.memPatch prepared.address prepared.finalBytes) result)
    (paused : StillPaused calls restoring.address prepared.address)
    (bytes : restoring.expectedBytes = prepared.finalBytes)
    (originals : restoring.expectedOriginalBytes = request.expectedBytes) :
    ∃ restored, restore calls restoring (world.memPatch prepared.address prepared.finalBytes) =
      (.ok restored, world) := by
  obtain ⟨positive, few⟩ := patchRangeValid_bounds facts.valid
  obtain ⟨generation, prepares⟩ := prepareRestore_confirmed facts confirmed paused bytes originals
  have undone := PatchWorld.patchRestoreRange_memPatch positive few facts.length facts.reads
    facts.free
  have size : restoring.expectedBytes.length = request.expectedBytes.length := by
    rw [bytes, facts.length]
  have confirms : ∃ restored,
      confirmRestore calls restoring prepared.address generation world = .ok restored := by
    simp only [confirmRestore, size, originals, facts.reads, facts.free, paused.current,
      answerUnless, beq_self_eq_true, Bool.not_false, Bool.and_true, if_true]
    exact ⟨_, rfl⟩
  obtain ⟨restored, confirms⟩ := confirms
  refine ⟨restored, ?_⟩
  rw [restore, prepares]
  simp only [paused.restores, if_true, size, undone, confirms]

/-- Restoring what a patch has returned goes through and leaves the world of before. -/
theorem restore_patch {again : PatchCalls backend} {result : PatchResult backend}
    {after : PatchWorld backend} (patched : patch calls request world = (.ok result, after))
    {reference : AddressReference} (paused : StillPaused again reference result.address)
    {build : Build} {addressValue : Json}
    (reads : parseAddressReference build (some addressValue) = some reference)
    (operationId : String) (base : Request) :
    ∃ restoring restored,
      parsePatchesRestore build (restorePayload operationId addressValue result) base =
          some restoring ∧
        restore again restoring after = (.ok restored, world) := by
  obtain ⟨prepared, facts, rfl, confirmed⟩ := patch_eq_ok patched
  obtain ⟨positive, few⟩ := patchRangeValid_bounds facts.valid
  have length := facts.length
  have readsPatched : parsePatchBytes result.patchedBytesHex = some prepared.finalBytes := by
    rw [confirmed.patched]
    exact parsePatchBytes_hex (by omega) (by omega)
  have readsOriginal : parsePatchBytes result.originalBytesHex = some request.expectedBytes := by
    rw [confirmed.original]
    exact parsePatchBytes_hex positive few
  obtain ⟨restoring, accepted, sameAddress, bytes, originals⟩ :=
    parsePatchesRestore_restorePayload reads readsPatched readsOriginal length facts.changes
      operationId base
  rw [← sameAddress, confirmed.address] at paused
  obtain ⟨restored, restores⟩ := restore_confirmed facts confirmed paused bytes originals
  exact ⟨restoring, restored, accepted, restores⟩

/-- A patch and the restore behind it are inverse, and an error of either handler changes
nothing unless it says that the outcome is unknown. -/
theorem patch_and_restore (world : PatchWorld backend) (calls : PatchCalls backend)
    (request : Request) :
    (∀ result after, patch calls request world = (.ok result, after) →
      ∀ (again : PatchCalls backend) (build : Build) (addressValue : Json)
        (reference : AddressReference) (operationId : String) (base : Request),
        parseAddressReference build (some addressValue) = some reference →
        StillPaused again reference result.address →
        ∃ restoring restored,
          parsePatchesRestore build (restorePayload operationId addressValue result) base =
              some restoring ∧
            restore again restoring after = (.ok restored, world)) ∧
      (∀ response after, patch calls request world = (.error response, after) →
        response.unknown = false → after = world) ∧
      ∀ response after, restore calls request world = (.error response, after) →
        response.unknown = false → after = world := by
  refine ⟨?_, fun _ _ => patch_error, fun _ _ => restore_error⟩
  intro result after patched again build addressValue reference operationId base reads paused
  exact restore_patch patched paused reads operationId base

/-- A debugger that finds every address, assembles a breakpoint and refuses nothing. -/
def obligingCalls : PatchCalls .x64 where
  snapshot := some 1
  isDebugging := true
  resolveAddress reference := .ok (BitVec.ofNat 64 reference.absolute)
  snapshotCurrent _ := true
  functions := some ⟨true, true, true, true, true⟩
  assemble _ _ := ⟨true, Vector.replicate 16 0xcc, 1, ""⟩
  patches := true
  restores := true

/-- Memory full of one byte. -/
def plainWorld : PatchWorld .x64 where
  memory _ := some 0x90
  patches _ := none

/-- A breakpoint over two bytes, of which the second stays as it is. -/
def paddedPatch : Request where
  requestId := ""
  method := "assembly.patch"
  deadlineUnixMs := 0
  mutation := true
  address := { absolute := 0x1000 }
  instruction := "int3"
  expectedBytes := [0x90, 0x90]
  fillNop := true

theorem patch_and_restore_padded :
    ∃ result after restoring restored,
      patch obligingCalls paddedPatch plainWorld = (.ok result, after) ∧
        result.changedBytes = 1 ∧
        parsePatchesRestore ⟨8, 256⟩ (restorePayload "1" (.string "0x1000") result) paddedPatch =
          some restoring ∧
        restore obligingCalls restoring after = (.ok restored, plainWorld) := by
  have paused : StillPaused obligingCalls { absolute := 0x1000 } 0x1000#64 :=
    ⟨rfl, rfl, rfl, fun _ => rfl, rfl, rfl⟩
  obtain ⟨restoring, restored, accepted, restores⟩ :=
    (patch_and_restore plainWorld obligingCalls paddedPatch).1 _ _ rfl obligingCalls ⟨8, 256⟩
      (.string "0x1000") { absolute := 0x1000 } "1" paddedPatch rfl paused
  exact ⟨_, _, restoring, restored, rfl, rfl, accepted, restores⟩

end X64dbgMcp.Plugin
