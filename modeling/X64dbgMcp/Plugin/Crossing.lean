import Mathlib.Tactic.IntervalCases
import X64dbgMcp.Plugin.Request
import X64dbgMcp.Tools.Validated

/-!
# Single fields across the pipe

What a validated field is for the plugin: its reader takes the value, and the value
is written in few bytes.
-/

namespace X64dbgMcp.Plugin

open Text Tools Ipc Collection
open Json (Within)

section Bytes

theorem utf8EncodeChar_digitChar {digit : Nat} (small : digit < 16) :
    ∃ byte, String.utf8EncodeChar (Nat.digitChar digit) = [byte] ∧ isLowerHex byte = true := by
  interval_cases digit <;> exact ⟨_, rfl, rfl⟩

/-- The canonical text of an identifier is what the plugin calls an identifier. -/
theorem isUuid_text (id : Uuid) : isUuid (utf8 id.text) = true := by
  have digit : ∀ shift, ∃ byte,
      String.utf8EncodeChar (Nat.digitChar ((id.toNat >>> shift) % 16)) = [byte] ∧
        isLowerHex byte = true := fun shift =>
    utf8EncodeChar_digitChar (Nat.mod_lt _ (by decide))
  choose byte encoded hex using digit
  have hyphen : String.utf8EncodeChar '-' = [0x2d] := rfl
  have last := encoded 0
  rw [Nat.shiftRight_zero] at last
  simp [Uuid.text, utf8, String.intercalate_cons_cons, List.range, List.range.loop, encoded, last,
    hyphen, isUuid, isUuidFrom, hex]

theorem length_text (id : Uuid) : (utf8 id.text).length = 36 := by
  have canonical := isUuid_text id
  rw [isUuid, Bool.and_eq_true, beq_iff_eq] at canonical
  exact canonical.1

/-- A text without control characters has no control bytes. -/
theorem isPlain_of_hasControl {text : String} (plain : hasControl text = false) :
    isPlain text = true := by
  rw [isPlain, List.all_eq_true]
  intro byte member
  obtain ⟨character, inText, encoded⟩ := List.mem_flatMap.mp member
  rw [hasControl, List.any_eq_false] at plain
  have visible := plain character inText
  by_contra control
  have small : 0x20 ≤ byte.toNat → byte.toNat = 0x7f := by
    simpa [UInt8.lt_iff_toNat_lt, ← UInt8.toNat_inj] using control
  have same := toNat_of_mem_utf8EncodeChar encoded (by
    rw [UInt8.lt_iff_toNat_lt]
    exact lt_of_le_of_lt (b := 0x7f) (by omega) (by decide))
  apply visible
  simp only [isControl, Bool.or_eq_true, Bool.and_eq_true, decide_eq_true_eq]
  omega

/-- A character that a text does not contain is not among its bytes. -/
theorem byte_notMem_utf8 {text : String} {character : Char} (ascii : character.toNat < 0x80)
    (absent : character ∉ text.toList) {byte : UInt8} (member : byte ∈ utf8 text) :
    byte.toNat ≠ character.toNat := by
  intro same
  obtain ⟨other, inText, encoded⟩ := List.mem_flatMap.mp member
  have value := toNat_of_mem_utf8EncodeChar encoded (by
    rw [UInt8.lt_iff_toNat_lt, same]
    exact ascii)
  have equal : other = character := Char.toNat_inj.mp (value.trans same)
  exact absent (equal ▸ inText)

end Bytes

section Readers

variable {value : Option Json} {text : String}

theorem isCanonicalHex_of_isHex (hex : IsHex text) :
    isCanonicalHex (some (.string text)) = true := by
  obtain ⟨digits, low, high⟩ := hex
  rw [isHexText, Bool.and_eq_true] at digits
  simp only [isCanonicalHex, textOf, Option.bind_some, Json.asStr, Option.any_some, Bool.and_eq_true,
    decide_eq_true_eq]
  exact ⟨⟨⟨digits.1, low⟩, by omega⟩, digits.2⟩

/-- The plugin reads the number that the digits stand for. -/
theorem parseCanonicalHex64_of_isHex (hex : IsHex text) :
    parseCanonicalHex64 (some (.string text)) = some (ofDigits 16 ((utf8 text).drop 2)) := by
  have canonical := isCanonicalHex_of_isHex hex
  obtain ⟨digits, low, high⟩ := hex
  rw [isHexText, Bool.and_eq_true, List.all_eq_true] at digits
  have size : ((utf8 text).drop 2).length = (utf8 text).length - 2 := List.length_drop
  have nonempty : (utf8 text).drop 2 ≠ [] := List.length_pos_iff.mp (by omega)
  have room : 16 ^ ((utf8 text).drop 2).length ≤ 2 ^ 64 := by
    calc
      16 ^ ((utf8 text).drop 2).length ≤ 16 ^ 16 := Nat.pow_le_pow_right (by decide) (by omega)
      _ = 2 ^ 64 := by norm_num
  have reads := fromCharsAll_of_lowerHex nonempty digits.2 room
  simpa [parseCanonicalHex64, parseCanonicalHexBelow, textOf, Json.asStr, canonical, high,
    require] using reads

theorem isBoundedModuleName_of_isModuleName {value : Json} (named : IsModuleName value) :
    isBoundedModuleName (some value) = true := by
  obtain ⟨text, rfl, low, high, plain, slash, backslash⟩ := named
  have visible := isPlain_of_hasControl plain
  rw [isPlain, List.all_eq_true] at visible
  simp only [isBoundedModuleName, textOf, Option.bind_some, Json.asStr, Option.any_some,
    Bool.and_eq_true, decide_eq_true_eq, bne_iff_ne, List.all_eq_true]
  refine ⟨⟨by omega, high⟩, ?_⟩
  intro byte member
  have notSlash := byte_notMem_utf8 (by decide) slash member
  have notBackslash := byte_notMem_utf8 (by decide) backslash member
  have shown := visible byte member
  simp only [Bool.not_eq_true', Bool.or_eq_false_iff, beq_eq_false_iff_ne, ne_eq,
    ← UInt8.toNat_inj] at shown ⊢
  exact ⟨⟨shown, notSlash⟩, notBackslash⟩

theorem parseModuleName_of_isModuleName {value : Json} (named : IsModuleName value) :
    ∃ name, parseModuleName (some value) = some name := by
  have bounded := isBoundedModuleName_of_isModuleName named
  obtain ⟨text, rfl, _⟩ := named
  exact ⟨text, by simp [parseModuleName, require, bounded, textOf, Json.asStr]⟩

theorem parseAddressReference_of_isAddress (build : Build) {value : Json}
    (address : IsAddress value) :
    ∃ reference, parseAddressReference build (some value) = some reference := by
  cases address with
  | text hex =>
      exact ⟨_, if_pos (isCanonicalHex_of_isHex hex)⟩
  | @absolute reference text single found hex =>
      have canonical := isCanonicalHex_of_isHex hex
      have object : isCanonicalHex (some (.object reference)) = false := rfl
      refine ⟨parseAbsolute build (reference.lookup "absolute"), ?_⟩
      simp [parseAddressReference, object, Json.asObject, single, found, canonical, require]
  | @moduleRva reference name text double module bounded rva hex =>
      have canonical := isCanonicalHex_of_isHex hex
      have object : isCanonicalHex (some (.object reference)) = false := rfl
      obtain ⟨moduleName, named⟩ := parseModuleName_of_isModuleName bounded
      simp [parseAddressReference, object, Json.asObject, double, module, named, rva, canonical,
        require]

end Readers

section HexPairs

/-- One pair of digits. -/
theorem fromCharsAll_pair {high low : UInt8} (highHex : isLowerHex high = true)
    (lowHex : isLowerHex low = true) :
    ∃ upper lower, digitValue high = some upper ∧ digitValue low = some lower ∧ upper < 16 ∧
      lower < 16 ∧ fromCharsAll 16 (2 ^ 32) [high, low] = some (upper * 16 + lower) := by
  have reads : fromCharsAll 16 (2 ^ 32) [high, low] = some (ofDigits 16 [high, low]) :=
    fromCharsAll_of_lowerHex (List.cons_ne_nil high [low]) (by simp [highHex, lowHex])
      (by norm_num)
  obtain ⟨upper, upperReads, upperSmall⟩ :=
    (Option.any_eq_true _ _).mp (isDigit_of_isLowerHex highHex)
  obtain ⟨lower, lowerReads, lowerSmall⟩ := (Option.any_eq_true _ _).mp (isDigit_of_isLowerHex lowHex)
  refine ⟨upper, lower, upperReads, lowerReads, by simpa using upperSmall,
    by simpa using lowerSmall, ?_⟩
  rw [reads]
  simp [ofDigits, upperReads, lowerReads]

theorem digitValue_inj {left right : UInt8} (leftHex : isLowerHex left = true)
    (rightHex : isLowerHex right = true) (same : digitValue left = digitValue right) :
    left = right := by
  rw [digitValue_of_isLowerHex leftHex, digitValue_of_isLowerHex rightHex,
    Option.some.injEq] at same
  rw [isLowerHex_eq_true] at leftHex rightHex
  apply UInt8.toNat_inj.mp
  split_ifs at same <;> omega

theorem parseHexPairs_of_lowerHex (strict : Bool) {bytes : List UInt8}
    (even : bytes.length % 2 = 0) (hex : ∀ byte ∈ bytes, isLowerHex byte = true) :
    ∃ parsed, parseHexPairs strict bytes = some parsed ∧ parsed.length = bytes.length / 2 := by
  induction bytes using parseHexPairs.induct with
  | case1 => exact ⟨[], rfl, rfl⟩
  | case2 byte => simp at even
  | case3 high low rest ih =>
      simp only [List.forall_mem_cons] at hex
      obtain ⟨highHex, lowHex, restHex⟩ := hex
      obtain ⟨parsed, parses, size⟩ := ih (by simp only [List.length_cons] at even; omega) restHex
      obtain ⟨upper, lower, _, _, upperSmall, lowerSmall, reads⟩ := fromCharsAll_pair highHex lowHex
      refine ⟨UInt8.ofNat (upper * 16 + lower) :: parsed, ?_, ?_⟩
      · have small : upper * 16 + lower ≤ 0xff := by omega
        simp only [parseHexPairs, reads, parses]
        simp [require, highHex, lowHex, small]
      · simp only [List.length_cons, size]
        omega

/-- Canonical digits can be read back from the bytes. -/
theorem parseHexPairs_inj {left right : List UInt8} {parsed : List UInt8}
    (leftHex : ∀ byte ∈ left, isLowerHex byte = true)
    (rightHex : ∀ byte ∈ right, isLowerHex byte = true)
    (leftParses : parseHexPairs true left = some parsed)
    (rightParses : parseHexPairs true right = some parsed) : left = right := by
  induction left using parseHexPairs.induct generalizing right parsed with
  | case1 =>
      simp only [parseHexPairs, Option.some.injEq] at leftParses
      subst leftParses
      cases right using parseHexPairs.induct with
      | case1 => rfl
      | case2 byte => simp [parseHexPairs] at rightParses
      | case3 high low rest => simp [parseHexPairs, Option.bind_eq_some_iff] at rightParses
  | case2 byte => simp [parseHexPairs] at leftParses
  | case3 high low rest ih =>
      cases right using parseHexPairs.induct with
      | case1 =>
          simp only [parseHexPairs, Option.some.injEq] at rightParses
          subst rightParses
          simp [parseHexPairs, Option.bind_eq_some_iff] at leftParses
      | case2 byte => simp [parseHexPairs] at rightParses
      | case3 high' low' rest' =>
          simp only [List.forall_mem_cons] at leftHex rightHex
          obtain ⟨upper, lower, highReads, lowReads, _, _, reads⟩ :=
            fromCharsAll_pair leftHex.1 leftHex.2.1
          obtain ⟨upper', lower', highReads', lowReads', _, _, reads'⟩ :=
            fromCharsAll_pair rightHex.1 rightHex.2.1
          simp only [parseHexPairs, reads, Option.bind_eq_bind, Option.bind_eq_some_iff,
            require_eq_some, Option.pure_def, Option.some.injEq] at leftParses
          simp only [parseHexPairs, reads', Option.bind_eq_bind, Option.bind_eq_some_iff,
            require_eq_some, Option.pure_def, Option.some.injEq] at rightParses
          obtain ⟨_, _, _, rfl, _, small, tail, tailParses, rfl⟩ := leftParses
          obtain ⟨_, _, _, rfl, _, small', tail', tailParses', same⟩ := rightParses
          rw [List.cons.injEq] at same
          obtain ⟨sameByte, rfl⟩ := same
          have value := congrArg UInt8.toNat sameByte
          rw [UInt8.toNat_ofNat', UInt8.toNat_ofNat'] at value
          have sameUpper : upper = upper' := by omega
          have sameLower : lower = lower' := by omega
          rw [digitValue_inj leftHex.1 rightHex.1 (by rw [highReads, highReads', sameUpper]),
            digitValue_inj leftHex.2.1 rightHex.2.1 (by rw [lowReads, lowReads', sameLower]),
            ih leftHex.2.2 rightHex.2.2 tailParses tailParses']

end HexPairs

section Crossing

variable {object : Object} {field : String} {parseUuid : String → Option Uuid}

theorem integerIn_of_hasInteger {low high : Nat} (has : HasInteger object field low high) :
    ∃ number, integerIn (object.lookup field) low high = some number := by
  obtain ⟨number, found, atLeast, atMost⟩ := has
  refine ⟨number.toNat, ?_⟩
  simp only [integerIn, found, integerOf]
  rw [if_pos ⟨by exact_mod_cast atLeast, by exact_mod_cast atMost⟩, Int.toNat_natCast]

/-- A reader that is only asked for a value that is there. -/
theorem unlessMissing_of {α : Type} {value : Option Json} (default : α) {read : Option α}
    (reads : value.isSome = true → ∃ result, read = some result) :
    ∃ result, unlessMissing value default read = some result := by
  cases value with
  | none => exact ⟨default, rfl⟩
  | some value =>
      obtain ⟨result, done⟩ := reads rfl
      exact ⟨result, by simp [unlessMissing, done]⟩

theorem integerOr_of_optional {low high : Nat} (default : Nat)
    (optional : (object.lookup field).isSome = true → HasInteger object field low high) :
    ∃ number, integerOr (object.lookup field) low high default = some number :=
  unlessMissing_of default fun present => integerIn_of_hasInteger (optional present)

theorem textIn_of_hasText {low high : Nat} (has : HasText object field low high) :
    ∃ text, textIn (object.lookup field) low high = some text := by
  obtain ⟨text, found, atLeast, atMost⟩ := has
  exact ⟨text, by simp [textIn, textOf, found, Json.asStr, require, atLeast, atMost]⟩

theorem parseOneOf_of_mem {accepted : List String}
    (has : ∃ text, object.lookup field = some (.string text) ∧ text ∈ accepted) :
    ∃ text, parseOneOf (object.lookup field) accepted = some text := by
  obtain ⟨text, found, listed⟩ := has
  exact ⟨text, by simp [parseOneOf, textOf, found, Json.asStr, require, listed]⟩

theorem parseUuidText_of_hasUuid (has : HasUuid parseUuid object field) :
    ∃ text, parseUuidText (object.lookup field) = some text := by
  obtain ⟨id, found, _⟩ := has
  exact ⟨id.text, by simp [parseUuidText, textOf, found, Json.asStr, require, isUuid_text]⟩

theorem parseManagedId_of_hasUuid {family : String}
    (known : family = "exception" ∨ family = "conditional")
    (has : HasUuid parseUuid object field) :
    ∃ text, parseManagedId family (object.lookup field) = some text := by
  obtain ⟨id, found, _⟩ := has
  have named : managedBreakpointName family id.text ≠ "" := by
    have refused : ¬ ((family ≠ "exception" ∧ family ≠ "conditional") ∨
        (!canonicalManagedId id.text) = true) := by
      rw [canonicalManagedId, isUuid_text]
      rcases known with rfl | rfl <;> simp
    rw [managedBreakpointName, if_neg refused]
    intro empty
    have bytes := congrArg String.toList empty
    simp at bytes
  exact ⟨id.text, by simp [parseManagedId, textOf, found, Json.asStr, require, named]⟩

theorem parsePath_of_hasPlain (has : HasPlain object field 3 8192) :
    ∃ path, parsePath (object.lookup field) = some path := by
  obtain ⟨text, found, low, high, plain⟩ := has
  have visible := isPlain_of_hasControl plain
  have short : (utf8 text).length ≤ 32767 := by omega
  exact ⟨text, by
    simp [parsePath, isBoundedPathString, textOf, found, Json.asStr, require, low, short, visible]⟩

theorem textIn_of_hasPlain {low high : Nat} (has : HasPlain object field low high) :
    ∃ text, textIn (object.lookup field) low high = some text ∧ isPlain text = true := by
  obtain ⟨text, found, atLeast, atMost, plain⟩ := has
  exact ⟨text, by simp [textIn, textOf, found, Json.asStr, require, atLeast, atMost],
    isPlain_of_hasControl plain⟩

theorem parseThreadId_of_optional
    (optional : (object.lookup "thread_id").isSome = true → HasThread object) :
    ∃ thread, parseThreadId (object.lookup "thread_id") = some thread := by
  apply unlessMissing_of
  intro present
  obtain ⟨text, found, hex, nonzero, small⟩ := optional present
  have reads := parseCanonicalHex64_of_isHex hex
  have bounded : ofDigits 16 ((utf8 text).drop 2) ≤ 0xffffffff := by omega
  exact ⟨_, by rw [found, reads]; simp [require, nonzero, bounded]; rfl⟩

theorem parseExceptionCode_of_hasHex {maxBytes : Nat} (has : HasHex object field maxBytes (2 ^ 32)) :
    ∃ code, parseExceptionCode (object.lookup field) = some code := by
  obtain ⟨text, found, hex, _, small⟩ := has
  have reads := parseCanonicalHex64_of_isHex hex
  have bounded : ofDigits 16 ((utf8 text).drop 2) ≤ 0xffffffff := by omega
  exact ⟨_, by rw [parseExceptionCode, found, reads]; simp [require, bounded]; rfl⟩

theorem parseCanonicalHex64_of_hasHex {maxBytes limit : Nat}
    (has : HasHex object field maxBytes limit) :
    ∃ number, parseCanonicalHex64 (object.lookup field) = some number := by
  obtain ⟨text, found, hex, _⟩ := has
  exact ⟨_, by rw [found, parseCanonicalHex64_of_isHex hex]⟩

theorem parseChance_of_hasOneOf (has : HasOneOf object field ["first", "second", "both"]) :
    ∃ chance, parseChance (object.lookup field) = some chance := by
  obtain ⟨text, found, listed, _⟩ := has
  have known : (parseExceptionChance text).isSome = true := by
    simp only [List.mem_cons, List.not_mem_nil, or_false] at listed
    rcases listed with rfl | rfl | rfl <;> rfl
  exact ⟨text, by simp [parseChance, textOf, found, Json.asStr, require, known]⟩

theorem parsePatchBytes_of_hasByteHex {text : String} (has : HasByteHex object field 2 32 text) :
    ∃ bytes, parsePatchBytes text = some bytes ∧ bytes.length = (utf8 text).length / 2 := by
  obtain ⟨_, low, high, even, hex⟩ := has
  obtain ⟨bytes, parses, size⟩ := parseHexPairs_of_lowerHex true even hex
  have nonempty : (utf8 text).length ≠ 0 := by omega
  exact ⟨bytes, by simp [parsePatchBytes, require, nonempty, high, even, parses], size⟩

theorem parsePatchBytes_inj {left right : String} {bytes : List UInt8}
    (leftHex : ∀ byte ∈ utf8 left, isLowerHex byte = true)
    (rightHex : ∀ byte ∈ utf8 right, isLowerHex byte = true)
    (leftParses : parsePatchBytes left = some bytes)
    (rightParses : parsePatchBytes right = some bytes) : left = right := by
  simp only [parsePatchBytes, Option.bind_eq_bind, Option.bind_eq_some_iff] at leftParses rightParses
  obtain ⟨_, _, leftPairs⟩ := leftParses
  obtain ⟨_, _, rightPairs⟩ := rightParses
  exact utf8_injective (parseHexPairs_inj leftHex rightHex leftPairs rightPairs)

theorem parseModuleName_of_field {value : Json} (found : object.lookup field = some value)
    (named : IsModuleName value) :
    ∃ name, parseModuleName (object.lookup field) = some name := by
  rw [found]
  exact parseModuleName_of_isModuleName named

theorem parseAddressReference_of_field (build : Build)
    (has : ∃ value, object.lookup field = some value ∧ IsAddress value) :
    ∃ reference, parseAddressReference build (object.lookup field) = some reference := by
  obtain ⟨value, found, address⟩ := has
  rw [found]
  exact parseAddressReference_of_isAddress build address

theorem booleanOf_of_optional (default : Bool)
    (optional : (object.lookup field).isSome = true →
      ∃ flag, object.lookup field = some (.bool flag)) :
    ∃ flag, unlessMissing (object.lookup field) default (booleanOf (object.lookup field)) =
      some flag := by
  apply unlessMissing_of
  intro present
  obtain ⟨flag, found⟩ := optional present
  exact ⟨flag, by rw [found]; rfl⟩

theorem parseModuleName_of_optional
    (optional : (object.lookup field).isSome = true →
      ∃ value, object.lookup field = some value ∧ IsModuleName value) :
    ∃ name, unlessMissing (object.lookup field) "" (parseModuleName (object.lookup field)) =
      some name := by
  apply unlessMissing_of
  intro present
  obtain ⟨value, found, named⟩ := optional present
  exact parseModuleName_of_field found named

theorem parseQuery_of_optional {maxBytes : Nat}
    (optional : (object.lookup field).isSome = true → HasPlain object field 1 maxBytes) :
    ∃ query, unlessMissing (object.lookup field) "" (do
        let text ← textIn (object.lookup field) 1 maxBytes
        require (isPlain text)
        pure text) = some query := by
  apply unlessMissing_of
  intro present
  obtain ⟨text, reads, plain⟩ := textIn_of_hasPlain (optional present)
  exact ⟨text, by rw [reads]; simp [require, plain]⟩

end Crossing

section Compact

variable {floatText : UInt64 → List UInt8} {object : Object} {field : String}
  {parseUuid : String → Option Uuid}

/-- The room of one validated field. -/
def fieldBytes : Nat := 65536

/-- The value of a field, when there is one, is written within its room. -/
def Compact (floatText : UInt64 → List UInt8) (object : Object) (field : String) : Prop :=
  ∀ value, object.lookup field = some value → Within floatText fieldBytes value

theorem Compact.of_found {value : Json} (found : object.lookup field = some value)
    (within : Within floatText fieldBytes value) : Compact floatText object field := by
  intro other held
  rw [found, Option.some.injEq] at held
  exact held ▸ within

theorem Compact.of_optional
    (optional : (object.lookup field).isSome = true → Compact floatText object field) :
    Compact floatText object field := by
  intro value found
  exact optional (by rw [found]; rfl) value found

theorem compact_text {text : String} (found : object.lookup field = some (.string text))
    (short : (utf8 text).length ≤ 8192) : Compact floatText object field :=
  .of_found found (.string (by unfold fieldBytes; omega))

theorem compact_hasText {low high : Nat} (has : HasText object field low high)
    (short : high ≤ 8192) : Compact floatText object field := by
  obtain ⟨text, found, _, atMost⟩ := has
  exact compact_text found (le_trans atMost short)

theorem compact_hasPlain {low high : Nat} (has : HasPlain object field low high)
    (short : high ≤ 8192) : Compact floatText object field := by
  obtain ⟨text, found, _, atMost, _⟩ := has
  exact compact_text found (le_trans atMost short)

theorem compact_hasOneOf {accepted : List String} (has : HasOneOf object field accepted) :
    Compact floatText object field := by
  obtain ⟨text, found, _, short⟩ := has
  exact compact_text found (by omega)

theorem compact_hasUuid (has : HasUuid parseUuid object field) :
    Compact floatText object field := by
  obtain ⟨id, found, _⟩ := has
  exact compact_text found (by rw [length_text]; decide)

theorem compact_hasHex {maxBytes limit : Nat} (has : HasHex object field maxBytes limit) :
    Compact floatText object field := by
  obtain ⟨text, found, hex, _⟩ := has
  exact compact_text found (by have := hex.2.2; omega)

theorem compact_hasThread (has : HasThread object) : Compact floatText object "thread_id" := by
  obtain ⟨text, found, hex, _⟩ := has
  exact compact_text found (by have := hex.2.2; omega)

theorem compact_hasByteHex {low high : Nat} {text : String}
    (has : HasByteHex object field low high text) (short : high ≤ 8192) :
    Compact floatText object field :=
  compact_text has.1 (le_trans has.2.2.1 short)

theorem compact_hasInteger {low high : Nat} (has : HasInteger object field low high)
    (small : high < 2 ^ 63) : Compact floatText object field := by
  obtain ⟨number, found, _, atMost⟩ := has
  exact .of_found found (.integer (lt_of_le_of_lt atMost small) (by decide))

theorem compact_optionalInteger {low high : Nat}
    (optional : (object.lookup field).isSome = true → HasInteger object field low high)
    (small : high < 2 ^ 63) : Compact floatText object field :=
  .of_optional fun present => compact_hasInteger (optional present) small

theorem compact_optionalText {low high : Nat}
    (optional : (object.lookup field).isSome = true → HasText object field low high)
    (short : high ≤ 8192) : Compact floatText object field :=
  .of_optional fun present => compact_hasText (optional present) short

theorem compact_optionalThread
    (optional : (object.lookup "thread_id").isSome = true → HasThread object) :
    Compact floatText object "thread_id" :=
  .of_optional fun present => compact_hasThread (optional present)

theorem compact_boolean {flag : Bool} (found : object.lookup field = some (.bool flag)) :
    Compact floatText object field :=
  .of_found found (.bool (by decide))

theorem within_isModuleName {value : Json} (named : IsModuleName value) :
    Within floatText 1562 value := by
  obtain ⟨text, rfl, _, short, _⟩ := named
  exact .string (by omega)

theorem within_isHex {text : String} (hex : IsHex text) : Within floatText 1562 (.string text) :=
  .string (by have := hex.2.2; omega)

/-- The two fields of an object that has two and holds two keys. -/
theorem eq_or_eq_of_double {reference : Object} {first second : String} {left right : Json}
    (different : first ≠ second) (double : reference.length = 2)
    (leftFound : reference.lookup first = some left)
    (rightFound : reference.lookup second = some right) :
    ∀ entry ∈ reference, entry = (first, left) ∨ entry = (second, right) := by
  obtain ⟨one, two, rfl⟩ := List.length_eq_two.mp double
  have leftMem := mem_of_lookup leftFound
  have rightMem := mem_of_lookup rightFound
  have apart : (first, left) ≠ (second, right) := fun same => different (Prod.mk.inj same).1
  simp only [List.mem_cons, List.not_mem_nil, or_false] at leftMem rightMem ⊢
  rintro entry (rfl | rfl)
  · rcases leftMem with same | same
    · exact .inl same.symm
    · rcases rightMem with other | other
      · exact .inr other.symm
      · exact absurd (same.trans other.symm) apart
  · rcases leftMem with same | same
    · rcases rightMem with other | other
      · exact absurd (same.trans other.symm) apart
      · exact .inr other.symm
    · exact .inl same.symm

theorem within_isAddress {value : Json} (address : IsAddress value) :
    Within floatText 4096 value := by
  cases address with
  | text hex => exact (within_isHex hex).mono (by decide)
  | @absolute reference text single found hex =>
      obtain ⟨entry, rfl⟩ := List.length_eq_one_iff.mp single
      have member := List.mem_singleton.mp (mem_of_lookup found)
      subst member
      refine Within.object 8 1562 ?_ ?_ (by simp)
      · simp [show (utf8 "absolute").length = 8 from rfl]
      · simpa using within_isHex hex
  | @moduleRva reference name text double module bounded rva hex =>
      have entries := eq_or_eq_of_double (by decide) double module rva
      refine Within.object 8 1562 ?_ ?_ (by rw [double]; decide)
      · intro entry member
        rcases entries entry member with rfl | rfl
        · exact (by decide : (utf8 "module").length ≤ 8)
        · exact (by decide : (utf8 "rva").length ≤ 8)
      · intro entry member
        rcases entries entry member with rfl | rfl
        · exact within_isModuleName bounded
        · exact within_isHex hex

theorem compact_module {value : Json} (found : object.lookup field = some value)
    (named : IsModuleName value) : Compact floatText object field :=
  .of_found found ((within_isModuleName named).mono (by decide))

theorem compact_optionalBoolean
    (optional : (object.lookup field).isSome = true →
      ∃ flag, object.lookup field = some (.bool flag)) : Compact floatText object field := by
  apply Compact.of_optional
  intro present
  obtain ⟨flag, found⟩ := optional present
  exact compact_boolean found

theorem compact_optionalModule
    (optional : (object.lookup field).isSome = true →
      ∃ value, object.lookup field = some value ∧ IsModuleName value) :
    Compact floatText object field := by
  apply Compact.of_optional
  intro present
  obtain ⟨value, found, named⟩ := optional present
  exact compact_module found named

theorem compact_address (has : ∃ value, object.lookup field = some value ∧ IsAddress value) :
    Compact floatText object field := by
  obtain ⟨value, found, address⟩ := has
  exact .of_found found ((within_isAddress address).mono (by decide))

end Compact

end X64dbgMcp.Plugin
