import X64dbgMcp.Collection.Fields
import X64dbgMcp.Tools.Validate
import X64dbgMcp.Transition.EarlyExit

/-!
# What a passed check says

One inversion lemma for every check of the validators: which values its field can
have when the check passes.
-/

namespace X64dbgMcp.Tools

open Text Ipc Collection
open Transition (bind_eq_ok)

theorem okOr_eq_ok {α : Type} {value : Option α} {error : ValidationError} {result : α} :
    okOr value error = .ok result ↔ value = some result := by
  cases value <;> simp [okOr]

theorem ensure_eq_ok {condition : Bool} {error : ValidationError} {result : Unit} :
    ensure condition error = .ok result ↔ condition = true := by
  cases condition <;> simp [ensure]

theorem asStr_eq_some {value : Json} {text : String} :
    value.asStr = some text ↔ value = .string text := by
  cases value <;> simp [Json.asStr]

theorem asObject_eq_some {value : Json} {fields : Object} :
    value.asObject = some fields ↔ value = .object fields := by
  cases value <;> simp [Json.asObject]

theorem asArray_eq_some {value : Json} {items : List Json} :
    value.asArray = some items ↔ value = .array items := by
  cases value <;> simp [Json.asArray]

theorem asBool_eq_some {value : Json} {flag : Bool} :
    value.asBool = some flag ↔ value = .bool flag := by
  cases value <;> simp [Json.asBool]

theorem asU64_eq_some {value : Json} {number : UInt64} :
    value.asU64 = some number ↔ value = .number (.posInt number) := by
  cases value with
  | number value => cases value <;> simp [Json.asU64]
  | _ => simp [Json.asU64]

/-- The text of a field. -/
theorem textField_eq_some {object : Object} {field text : String} :
    (object.lookup field).bind Json.asStr = some text ↔
      object.lookup field = some (.string text) := by
  simp [Option.bind_eq_some_iff, asStr_eq_some]

variable {object : Object} {field : String}

theorem exactKeys_eq_ok {required optional : List String} {result : Unit} :
    exactKeys object required optional = .ok result ↔ Exact object required optional := by
  simp only [exactKeys, bind_eq_ok, ensure_eq_ok, List.all_eq_true, Bool.or_eq_true,
    List.contains_iff_mem, containsKey]
  constructor
  · rintro ⟨_, present, known⟩
    exact ⟨present, known⟩
  · intro exact
    exact ⟨(), exact.present, exact.known⟩

theorem string_eq_ok {min max : Nat} {text : String} :
    string object field min max = .ok text ↔
      object.lookup field = some (.string text) ∧ min ≤ (utf8 text).length ∧
        (utf8 text).length ≤ max := by
  simp [string, okOr_eq_ok, Option.filter_eq_some_iff, textField_eq_some]

/-- A field whose value is an unsigned integer within bounds. -/
def HasInteger (object : Object) (field : String) (min max : Nat) : Prop :=
  ∃ number : UInt64, object.lookup field = some (.number (.posInt number)) ∧
    min ≤ number.toNat ∧ number.toNat ≤ max

theorem integer_eq_ok {min max : Nat} {result : Unit} :
    integer object field min max = .ok result ↔ HasInteger object field min max := by
  simp [integer, HasInteger, okOr_eq_ok, Option.filter_eq_some_iff, Option.bind_eq_some_iff,
    asU64_eq_some]

theorem optionalInteger_eq_ok {min max : Nat} {result : Unit} :
    optionalInteger object field min max = .ok result ↔
      ((object.lookup field).isSome = true → HasInteger object field min max) := by
  unfold optionalInteger
  cases found : object.lookup field with
  | none => simp
  | some value => simp [integer_eq_ok]

theorem oneOfInteger_eq_ok {accepted : List Nat} {result : Unit} :
    oneOfInteger object field accepted = .ok result ↔
      ∃ number : UInt64, object.lookup field = some (.number (.posInt number)) ∧
        number.toNat ∈ accepted := by
  simp [oneOfInteger, okOr_eq_ok, Option.filter_eq_some_iff, Option.bind_eq_some_iff,
    asU64_eq_some]

/-- A field whose value is one of the listed texts. -/
def HasOneOf (object : Object) (field : String) (accepted : List String) : Prop :=
  ∃ text, object.lookup field = some (.string text) ∧ text ∈ accepted ∧ (utf8 text).length ≤ 32

theorem oneOf_eq_ok {accepted : List String} {result : Unit}
    (passed : oneOf object field accepted = .ok result) : HasOneOf object field accepted := by
  simp only [oneOf, bind_eq_ok, string_eq_ok, ensure_eq_ok, List.contains_iff_mem] at passed
  obtain ⟨text, ⟨found, _, short⟩, listed⟩ := passed
  exact ⟨text, found, listed, short⟩

/-- Canonical hexadecimal of three to eighteen characters. -/
def IsHex (text : String) : Prop :=
  isHexText text = true ∧ 3 ≤ (utf8 text).length ∧ (utf8 text).length ≤ 18

theorem validateHex_eq_ok {text : String} {result : Unit} :
    validateHex text field = .ok result ↔ IsHex text := by
  simp only [validateHex, bind_eq_ok, ensure_eq_ok, IsHex, Bool.and_eq_true, decide_eq_true_eq]
  constructor
  · rintro ⟨_, bounds, hex⟩
    exact ⟨hex, bounds⟩
  · rintro ⟨hex, bounds⟩
    exact ⟨(), bounds, hex⟩

/-- A field whose value is the canonical text of an identifier. -/
def HasUuid (parseUuid : String → Option Uuid) (object : Object) (field : String) : Prop :=
  ∃ id : Uuid, object.lookup field = some (.string id.text) ∧ parseUuid id.text = some id

theorem validateUuidField_eq_ok {parseUuid : String → Option Uuid} {result : Unit}
    (passed : validateUuidField parseUuid object field = .ok result) :
    HasUuid parseUuid object field := by
  simp only [validateUuidField, bind_eq_ok, string_eq_ok, okOr_eq_ok, ensure_eq_ok,
    beq_iff_eq] at passed
  obtain ⟨text, ⟨found, _⟩, id, parsed, rfl⟩ := passed
  exact ⟨id, found, parsed⟩

theorem whenPresent_eq_ok {check : Checked Unit} {result : Unit} :
    whenPresent object field check = .ok result ↔
      ((object.lookup field).isSome = true → check = .ok ()) := by
  unfold whenPresent containsKey
  cases (object.lookup field).isSome <;> simp

theorem operation_eq_ok {parseUuid : String → Option Uuid} {fields : List String} {result : Unit}
    (passed : operation parseUuid object fields = .ok result) :
    Exact object ("operation_id" :: "instance_id" :: fields) [] ∧
      HasUuid parseUuid object "operation_id" ∧ HasUuid parseUuid object "instance_id" := by
  simp only [operation, bind_eq_ok, exactKeys_eq_ok, validateOperationId,
    validateInstanceId] at passed
  obtain ⟨_, _, _, _, _, exact, _, operationId, instanceId⟩ := passed
  exact ⟨exact, validateUuidField_eq_ok operationId, validateUuidField_eq_ok instanceId⟩

/-- A bounded text without control characters. -/
def HasPlain (object : Object) (field : String) (min max : Nat) : Prop :=
  ∃ text, object.lookup field = some (.string text) ∧ min ≤ (utf8 text).length ∧
    (utf8 text).length ≤ max ∧ hasControl text = false

theorem validatePath_eq_ok {result : Unit} (passed : validatePath object field = .ok result) :
    HasPlain object field 3 8192 := by
  simp only [validatePath, bind_eq_ok, string_eq_ok, ensure_eq_ok, Bool.not_eq_true'] at passed
  obtain ⟨text, ⟨found, low, high⟩, plain⟩ := passed
  exact ⟨text, found, low, high, plain⟩

theorem validateExpression_eq_ok {result : Unit} (passed : validateExpression object = .ok result) :
    HasPlain object "expression" 1 1024 := by
  simp only [validateExpression, bind_eq_ok, string_eq_ok, ensure_eq_ok,
    Bool.not_eq_true'] at passed
  obtain ⟨text, ⟨found, low, high⟩, plain⟩ := passed
  exact ⟨text, found, low, high, plain⟩

theorem optionalQueryWithLimit_eq_ok {maxBytes : Nat} {result : Unit}
    (passed : optionalQueryWithLimit object maxBytes = .ok result)
    (present : (object.lookup "query").isSome = true) : HasPlain object "query" 1 maxBytes := by
  obtain ⟨value, found⟩ := Option.isSome_iff_exists.mp present
  simp only [optionalQueryWithLimit, found, bind_eq_ok, okOr_eq_ok, Option.filter_eq_some_iff,
    asStr_eq_some, ensure_eq_ok, Bool.and_eq_true, Bool.not_eq_true', decide_eq_true_eq] at passed
  obtain ⟨text, ⟨rfl, some_byte, short⟩, plain⟩ := passed
  refine ⟨text, found, ?_, short, plain⟩
  rw [List.isEmpty_eq_false_iff] at some_byte
  exact List.length_pos_iff.mpr some_byte

/-- A bounded module name. -/
def IsModuleName (value : Json) : Prop :=
  ∃ text, value = .string text ∧ 1 ≤ (utf8 text).length ∧ (utf8 text).length ≤ 260 ∧
    hasControl text = false ∧ '/' ∉ text.toList ∧ '\\' ∉ text.toList

theorem validateModuleValue_eq_ok {value : Json} {result : Unit}
    (passed : validateModuleValue value field = .ok result) : IsModuleName value := by
  simp only [validateModuleValue, okOr_eq_ok, Option.map_eq_some_iff, Option.filter_eq_some_iff,
    asStr_eq_some, Bool.and_eq_true, Bool.not_eq_true', decide_eq_true_eq] at passed
  obtain ⟨text, ⟨rfl, ⟨⟨⟨some_byte, short⟩, plain⟩, slash⟩, backslash⟩, _⟩ := passed
  rw [List.isEmpty_eq_false_iff] at some_byte
  refine ⟨text, rfl, List.length_pos_iff.mpr some_byte, short, plain, ?_, ?_⟩
  · simpa using slash
  · simpa using backslash

theorem validateModuleName_eq_ok {result : Unit}
    (passed : validateModuleName object field = .ok result) :
    ∃ value, object.lookup field = some value ∧ IsModuleName value := by
  simp only [validateModuleName, bind_eq_ok, okOr_eq_ok] at passed
  obtain ⟨value, found, checked⟩ := passed
  exact ⟨value, found, validateModuleValue_eq_ok checked⟩

/-- The three forms of an address reference. -/
inductive IsAddress : Json → Prop where
  | text {text : String} (hex : IsHex text) : IsAddress (.string text)
  | absolute {reference : Object} {text : String} (single : reference.length = 1)
      (found : reference.lookup "absolute" = some (.string text)) (hex : IsHex text) :
      IsAddress (.object reference)
  | moduleRva {reference : Object} {name : Json} {text : String} (double : reference.length = 2)
      (module : reference.lookup "module" = some name) (bounded : IsModuleName name)
      (rva : reference.lookup "rva" = some (.string text)) (hex : IsHex text) :
      IsAddress (.object reference)

theorem validateAddressRef_eq_ok {result : Unit}
    (passed : validateAddressRef object field = .ok result) :
    ∃ value, object.lookup field = some value ∧ IsAddress value := by
  simp only [validateAddressRef, bind_eq_ok, okOr_eq_ok] at passed
  obtain ⟨value, found, passed⟩ := passed
  refine ⟨value, found, ?_⟩
  cases text : value.asStr with
  | some text =>
      rw [asStr_eq_some] at text
      subst text
      exact .text (validateHex_eq_ok.mp passed)
  | none =>
      simp only [text, bind_eq_ok, okOr_eq_ok, asObject_eq_some] at passed
      obtain ⟨reference, rfl, passed⟩ := passed
      split_ifs at passed with single double
      · simp only [bind_eq_ok, okOr_eq_ok, textField_eq_some, validateHex_eq_ok] at passed
        obtain ⟨absolute, held, hex⟩ := passed
        simp only [Bool.and_eq_true, decide_eq_true_eq] at single
        exact .absolute single.1 held hex
      · simp only [bind_eq_ok, okOr_eq_ok, textField_eq_some, validateHex_eq_ok] at passed
        obtain ⟨_, named, rva, held, hex⟩ := passed
        simp only [Bool.and_eq_true, decide_eq_true_eq, containsKey] at double
        obtain ⟨⟨size, present⟩, _⟩ := double
        obtain ⟨name, module⟩ := Option.isSome_iff_exists.mp present
        rw [module, Option.getD_some] at named
        exact .moduleRva size module (validateModuleValue_eq_ok named) held hex

/-- A field of canonical hexadecimal whose number is below a limit. -/
def HasHex (object : Object) (field : String) (maxBytes limit : Nat) : Prop :=
  ∃ text, object.lookup field = some (.string text) ∧ IsHex text ∧
    (utf8 text).length ≤ maxBytes ∧ ofDigits 16 ((utf8 text).drop 2) < limit

theorem isHexText_lowerHex {text : String} (hex : isHexText text = true) :
    ∀ byte ∈ (utf8 text).drop 2, isLowerHex byte = true := by
  rw [isHexText, Bool.and_eq_true, List.all_eq_true] at hex
  exact hex.2

theorem validateExceptionCode_eq_ok {result : Unit}
    (passed : validateExceptionCode object = .ok result) : HasHex object "code" 10 (2 ^ 32) := by
  simp only [validateExceptionCode, bind_eq_ok, string_eq_ok, validateHex_eq_ok, ensure_eq_ok,
    Option.isSome_iff_exists] at passed
  obtain ⟨text, ⟨found, _, short⟩, _, hex, number, reads⟩ := passed
  obtain ⟨rfl, small⟩ := fromStrRadix_of_lowerHex (isHexText_lowerHex hex.1) reads
  exact ⟨text, found, hex, short, small⟩

theorem validateBoundedHexField_eq_ok {digits : Nat} {result : Unit}
    (passed : validateBoundedHexField object field digits = .ok result) :
    HasHex object field (digits + 2) (2 ^ 64) := by
  simp only [validateBoundedHexField, bind_eq_ok, string_eq_ok, validateHex_eq_ok, ensure_eq_ok,
    Option.isSome_iff_exists] at passed
  obtain ⟨text, ⟨found, _, short⟩, _, hex, number, reads⟩ := passed
  obtain ⟨rfl, small⟩ := fromStrRadix_of_lowerHex (isHexText_lowerHex hex.1) reads
  exact ⟨text, found, hex, short, small⟩

/-- A 32-bit thread identifier that is not zero. -/
def HasThread (object : Object) : Prop :=
  ∃ text, object.lookup "thread_id" = some (.string text) ∧ IsHex text ∧
    ofDigits 16 ((utf8 text).drop 2) ≠ 0 ∧ ofDigits 16 ((utf8 text).drop 2) < 2 ^ 32

theorem optionalThreadId_eq_ok {result : Unit} (passed : optionalThreadId object = .ok result)
    (present : (object.lookup "thread_id").isSome = true) : HasThread object := by
  have checked := whenPresent_eq_ok.mp passed present
  simp only [validateThreadId, bind_eq_ok, string_eq_ok, ensure_eq_ok, Bool.and_eq_true,
    Option.any_eq_true, bne_iff_ne] at checked
  obtain ⟨text, ⟨found, low, high⟩, hex, number, reads, nonzero⟩ := checked
  obtain ⟨rfl, small⟩ := fromStrRadix_of_lowerHex (isHexText_lowerHex hex) reads
  exact ⟨text, found, ⟨hex, low, by omega⟩, nonzero, small⟩

/-- A text of bounded length. -/
def HasText (object : Object) (field : String) (min max : Nat) : Prop :=
  ∃ text, object.lookup field = some (.string text) ∧ min ≤ (utf8 text).length ∧
    (utf8 text).length ≤ max

theorem optionalCursor_eq_ok {result : Unit} (passed : optionalCursor object = .ok result)
    (present : (object.lookup "cursor").isSome = true) : HasText object "cursor" 1 512 := by
  have checked := whenPresent_eq_ok.mp passed present
  simp only [bind_eq_ok, string_eq_ok] at checked
  obtain ⟨text, bounds, _⟩ := checked
  exact ⟨text, bounds⟩

theorem discoveryPage_eq_ok {result : Unit} (passed : discoveryPage object = .ok result) :
    ((object.lookup "limit").isSome = true → HasInteger object "limit" 1 256) ∧
      ((object.lookup "cursor").isSome = true → HasText object "cursor" 1 512) := by
  simp only [discoveryPage, bind_eq_ok, optionalInteger_eq_ok] at passed
  obtain ⟨_, limit, cursor⟩ := passed
  exact ⟨limit, optionalCursor_eq_ok cursor⟩

theorem validateInstruction_eq_ok {result : Unit}
    (passed : validateInstruction object = .ok result) :
    ∃ text, object.lookup "instruction" = some (.string text) ∧ 1 ≤ (utf8 text).length ∧
      (utf8 text).length ≤ 128 ∧
      ∀ byte ∈ utf8 text, 0x20 ≤ byte ∧ byte ≤ 0x7e ∧ byte ≠ 0x3b := by
  simp only [validateInstruction, bind_eq_ok, string_eq_ok, ensure_eq_ok, List.all_eq_true,
    Bool.and_eq_true, decide_eq_true_eq, bne_iff_ne] at passed
  obtain ⟨text, ⟨found, low, high⟩, printable⟩ := passed
  exact ⟨text, found, low, high, fun byte member =>
    ⟨(printable byte member).1.1, (printable byte member).1.2, (printable byte member).2⟩⟩

/-- A field of whole bytes in canonical hexadecimal. -/
def HasByteHex (object : Object) (field : String) (min max : Nat) (text : String) : Prop :=
  object.lookup field = some (.string text) ∧ min ≤ (utf8 text).length ∧
    (utf8 text).length ≤ max ∧ (utf8 text).length % 2 = 0 ∧
    ∀ byte ∈ utf8 text, isLowerHex byte = true

theorem isByteHex_eq_true {text : String} :
    isByteHex text = true ↔
      (utf8 text).length % 2 = 0 ∧ ∀ byte ∈ utf8 text, isLowerHex byte = true := by
  simp [isByteHex]

theorem validateByteHex_eq_ok {result : Unit} (passed : validateByteHex object field = .ok result) :
    ∃ text, HasByteHex object field 2 32 text := by
  simp only [validateByteHex, bind_eq_ok, string_eq_ok, ensure_eq_ok, isByteHex_eq_true] at passed
  obtain ⟨text, ⟨found, low, high⟩, even, hex⟩ := passed
  exact ⟨text, found, low, high, even, hex⟩

theorem validateData_eq_ok {result : Unit} (passed : validateData object = .ok result) :
    ∃ text, HasByteHex object "data_hex" 2 8192 text := by
  simp only [validateData, bind_eq_ok, string_eq_ok, ensure_eq_ok, isByteHex_eq_true] at passed
  obtain ⟨text, ⟨found, low, high⟩, even, hex⟩ := passed
  exact ⟨text, found, low, high, even, hex⟩

theorem validatePatchPair_eq_ok {result : Unit} (passed : validatePatchPair object = .ok result) :
    ∃ patched original, HasByteHex object "expected_patched_bytes_hex" 2 32 patched ∧
      HasByteHex object "expected_original_bytes_hex" 2 32 original ∧
      (utf8 patched).length = (utf8 original).length ∧ patched ≠ original := by
  simp only [validatePatchPair, bind_eq_ok, okOr_eq_ok, textField_eq_some, ensure_eq_ok,
    Bool.and_eq_true, beq_iff_eq, bne_iff_ne] at passed
  obtain ⟨_, patchedHex, _, originalHex, patched, patchedFound, original, originalFound, same,
    different⟩ := passed
  obtain ⟨patchedText, patchedIs⟩ := validateByteHex_eq_ok patchedHex
  obtain ⟨originalText, originalIs⟩ := validateByteHex_eq_ok originalHex
  have patchedEq := patchedIs.1
  have originalEq := originalIs.1
  rw [patchedFound, Option.some.injEq, Json.string.injEq] at patchedEq
  rw [originalFound, Option.some.injEq, Json.string.injEq] at originalEq
  subst patchedEq originalEq
  exact ⟨patched, original, patchedIs, originalIs, same, different⟩

/-- A search pattern and its mask. -/
theorem validatePattern_eq_ok {result : Unit} (passed : validatePattern object = .ok result) :
    ∃ pattern mask, HasByteHex object "pattern_hex" 2 128 pattern ∧
      object.lookup "mask" = some (.string mask) ∧
      (utf8 mask).length = (utf8 pattern).length / 2 ∧ (utf8 mask).length ≤ 64 ∧
      (∀ byte ∈ utf8 mask, byte = 0x78 ∨ byte = 0x3f) ∧ 0x78 ∈ utf8 mask := by
  simp only [validatePattern, bind_eq_ok, string_eq_ok, ensure_eq_ok, isByteHex_eq_true,
    Bool.and_eq_true, beq_iff_eq, List.all_eq_true, Bool.or_eq_true, Bool.not_eq_true',
    List.all_eq_false] at passed
  obtain ⟨pattern, ⟨found, low, high⟩, _, ⟨even, hex⟩, mask, ⟨maskFound, _, maskHigh⟩,
    ⟨maskSize, maskBytes⟩, byte, member, notAny⟩ := passed
  have exactly : byte = 0x78 := (maskBytes byte member).resolve_right notAny
  exact ⟨pattern, mask, ⟨found, low, high, even, hex⟩, maskFound, maskSize, maskHigh, maskBytes,
    exactly ▸ member⟩

theorem validateRegisterWrite_eq_ok {result : Unit}
    (passed : validateRegisterWrite object = .ok result) :
    HasText object "name" 2 6 ∧
      ∃ text, object.lookup "value" = some (.string text) ∧ IsHex text := by
  simp only [validateRegisterWrite, bind_eq_ok, string_eq_ok, ensure_eq_ok] at passed
  obtain ⟨name, bounds, _, _, text, ⟨found, low, high⟩, hex⟩ := passed
  exact ⟨⟨name, bounds⟩, text, found, hex, low, high⟩

theorem optionalBoolean_eq_ok {result : Unit} (passed : optionalBoolean object field = .ok result)
    (present : (object.lookup field).isSome = true) :
    ∃ flag, object.lookup field = some (.bool flag) := by
  obtain ⟨value, found⟩ := Option.isSome_iff_exists.mp present
  simp only [optionalBoolean, ensure_eq_ok, found, Option.all_some, Option.isSome_iff_exists,
    asBool_eq_some] at passed
  obtain ⟨flag, rfl⟩ := passed
  exact ⟨flag, found⟩

theorem optionalOneOf_eq_ok {accepted : List String} {message : String} {result : Unit}
    (passed : optionalOneOf object field accepted message = .ok result)
    (present : (object.lookup field).isSome = true) :
    ∃ text, object.lookup field = some (.string text) ∧ text ∈ accepted := by
  obtain ⟨value, found⟩ := Option.isSome_iff_exists.mp present
  simp only [optionalOneOf, ensure_eq_ok, found, Option.all_some, Option.any_eq_true,
    asStr_eq_some, List.contains_iff_mem] at passed
  obtain ⟨text, rfl, listed⟩ := passed
  exact ⟨text, found, listed⟩

theorem validateConfigGeneration_eq_ok {result : Unit}
    (passed : validateConfigGeneration object = .ok result) :
    ∃ text, object.lookup "expected_config_generation" = some (.string text) ∧
      (utf8 text).length = 71 ∧ (utf8 text).take 7 = utf8 "sha256:" ∧
      ∀ byte ∈ (utf8 text).drop 7, isLowerHex byte = true := by
  simp only [validateConfigGeneration, bind_eq_ok, string_eq_ok, ensure_eq_ok, Bool.and_eq_true,
    beq_iff_eq, List.all_eq_true] at passed
  obtain ⟨text, ⟨found, low, high⟩, mark, digits⟩ := passed
  refine ⟨text, found, by omega, mark, fun byte member => ?_⟩
  obtain ⟨digit, lower⟩ := digits byte member
  simp only [isDigit, digitValue, UInt8.le_iff_toNat_le, Bool.not_eq_true',
    Bool.and_eq_false_iff, decide_eq_false_iff_not, isLowerHex_eq_true,
    UInt8.reduceToNat] at digit lower ⊢
  split_ifs at digit with decimal small large
  · exact .inl decimal
  · simp only [Option.any_some, decide_eq_true_eq] at digit
    omega
  · omega
  · simp at digit

end X64dbgMcp.Tools
