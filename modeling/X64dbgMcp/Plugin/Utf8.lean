import X64dbgMcp.Text.JsonLiteral
import X64dbgMcp.Text.Utf8Scan

/-!
# UTF-8 and JSON texts of the plugin

The bytes that the plugin shows come from the debugged process, so `JsonString` takes
any bytes.  A function that reads at an offset of a text is given the bytes from there.
-/

namespace X64dbgMcp.Plugin

open Text

/-- `\xef\xbf\xbd` -/
def replacement : List UInt8 :=
  [0xef, 0xbf, 0xbd]

/-- A byte that continues a character. -/
def isContinuation (byte : UInt8) : Bool :=
  byte &&& 0xc0 == 0x80

/-- A character of two bytes begins here. -/
def validTwo (first : UInt8) : List UInt8 → Bool
  | second :: _ => 0xc2 ≤ first && first ≤ 0xdf && isContinuation second
  | _ => false

/-- A character of three bytes begins here. -/
def validThree (first : UInt8) : List UInt8 → Bool
  | second :: third :: _ =>
      ((first == 0xe0 && 0xa0 ≤ second && second ≤ 0xbf) ||
        (0xe1 ≤ first && first ≤ 0xec && isContinuation second) ||
        (first == 0xed && 0x80 ≤ second && second ≤ 0x9f) ||
        (0xee ≤ first && first ≤ 0xef && isContinuation second)) &&
      isContinuation third
  | _ => false

/-- A character of four bytes begins here. -/
def validFour (first : UInt8) : List UInt8 → Bool
  | second :: third :: fourth :: _ =>
      ((first == 0xf0 && 0x90 ≤ second && second ≤ 0xbf) ||
        (0xf1 ≤ first && first ≤ 0xf3 && isContinuation second) ||
        (first == 0xf4 && 0x80 ≤ second && second ≤ 0x8f)) &&
      isContinuation third && isContinuation fourth
  | _ => false

/-- The length of the character at the front, or 0. -/
def validSequenceLength : List UInt8 → Nat
  | [] => 0
  | first :: rest =>
      if first ≤ 0x7f then 1
      else if validTwo first rest then 2
      else if validThree first rest then 3
      else if validFour first rest then 4
      else 0

/-- The hexadecimal digits. -/
def hexDigits : List UInt8 :=
  utf8 "0123456789abcdef"

/-- An ASCII byte in a string of JSON. -/
def asciiJsonEscape (byte : UInt8) : List UInt8 :=
  if byte = 0x22 then [0x5c, 0x22]
  else if byte = 0x5c then [0x5c, 0x5c]
  else if byte = 0x08 then [0x5c, 0x62]
  else if byte = 0x0c then [0x5c, 0x66]
  else if byte = 0x0a then [0x5c, 0x6e]
  else if byte = 0x0d then [0x5c, 0x72]
  else if byte = 0x09 then [0x5c, 0x74]
  else if byte < 0x20 then
    [0x5c, 0x75, 0x30, 0x30, hexDigits.getD (byte >>> 4).toNat 0,
      hexDigits.getD (byte &&& 0x0f).toNat 0]
  else [byte]

/-- The loop over the offsets; every turn takes a byte or more, so the length of the
text is enough fuel. -/
def jsonBody : Nat → List UInt8 → List UInt8
  | _, [] => []
  | 0, _ => []
  | fuel + 1, byte :: rest =>
      if byte ≤ 0x7f then asciiJsonEscape byte ++ jsonBody fuel rest
      else
        let sequenceLength := validSequenceLength (byte :: rest)
        if sequenceLength = 0 then replacement ++ jsonBody fuel rest
        else
          (byte :: rest).take sequenceLength ++
            jsonBody fuel ((byte :: rest).drop sequenceLength)

/-- A text as a string of JSON. -/
def jsonString (value : List UInt8) : List UInt8 :=
  [0x22] ++ jsonBody value.length value ++ [0x22]

/-- The bytes are characters one after another. -/
def isValidFrom : Nat → List UInt8 → Bool
  | _, [] => true
  | 0, _ => false
  | fuel + 1, value =>
      let length := validSequenceLength value
      length != 0 && isValidFrom fuel (value.drop length)

/-- The bytes are UTF-8. -/
def isValidUtf8 (value : List UInt8) : Bool :=
  isValidFrom value.length value

/-! ## One character -/

theorem isContinuation_iff (byte : UInt8) :
    isContinuation byte = true ↔ 0x80 ≤ byte.toNat ∧ byte.toNat ≤ 0xbf := by
  have every : ∀ value : Fin 256, isContinuation (UInt8.ofFin value) = true ↔
      0x80 ≤ value.val ∧ value.val ≤ 0xbf := by
    decide +kernel
  exact every byte.toFin

theorem textContinuation_iff (byte : UInt8) :
    Text.isContinuation byte = true ↔ 0x80 ≤ byte.toNat ∧ byte.toNat ≤ 0xbf := by
  simp [Text.isContinuation, UInt8.le_iff_toNat_le]

theorem isSecond_iff (first second : UInt8) :
    isSecond first second = true ↔ 0x80 ≤ second.toNat ∧ second.toNat ≤ 0xbf ∧
      (first.toNat = 0xe0 → 0xa0 ≤ second.toNat) ∧ (first.toNat = 0xed → second.toNat ≤ 0x9f) ∧
      (first.toNat = 0xf0 → 0x90 ≤ second.toNat) ∧
      (first.toNat = 0xf4 → second.toNat ≤ 0x8f) := by
  constructor
  · exact toNat_of_isSecond
  · rintro ⟨low, high, short, surrogate, overlong, last⟩
    have fits := isSecond_ofNat first.toNat_lt low high short surrogate overlong last
    rwa [UInt8.ofNat_toNat, UInt8.ofNat_toNat] at fits

theorem validTwo_iff (first second : UInt8) (rest : List UInt8) :
    validTwo first (second :: rest) = true ↔
      characterLength first = 2 ∧ isSecond first second = true := by
  simp only [validTwo, Bool.and_eq_true, decide_eq_true_eq, UInt8.le_iff_toNat_le, isContinuation_iff,
    isSecond_iff, UInt8.reduceToNat]
  rcases characterLength_spec first with
    ⟨ascii, count⟩ | ⟨low, high, count⟩ | ⟨low, high, count⟩ | ⟨low, high, count⟩ | ⟨other, count⟩ <;> omega

theorem validThree_iff (first second third : UInt8) (rest : List UInt8) :
    validThree first (second :: third :: rest) = true ↔
      characterLength first = 3 ∧ isSecond first second = true ∧
        Text.isContinuation third = true := by
  simp only [validThree, Bool.and_eq_true, Bool.or_eq_true, beq_iff_eq, decide_eq_true_eq,
    ← UInt8.toNat_inj, UInt8.le_iff_toNat_le, isContinuation_iff, textContinuation_iff,
    isSecond_iff, UInt8.reduceToNat]
  rcases characterLength_spec first with
    ⟨ascii, count⟩ | ⟨low, high, count⟩ | ⟨low, high, count⟩ | ⟨low, high, count⟩ |
      ⟨other, count⟩ <;> omega

theorem validFour_iff (first second third fourth : UInt8) (rest : List UInt8) :
    validFour first (second :: third :: fourth :: rest) = true ↔
      characterLength first = 4 ∧ isSecond first second = true ∧
        Text.isContinuation third = true ∧ Text.isContinuation fourth = true := by
  simp only [validFour, Bool.and_eq_true, Bool.or_eq_true, beq_iff_eq, decide_eq_true_eq,
    ← UInt8.toNat_inj, UInt8.le_iff_toNat_le, isContinuation_iff, textContinuation_iff,
    isSecond_iff, UInt8.reduceToNat]
  rcases characterLength_spec first with
    ⟨ascii, count⟩ | ⟨low, high, count⟩ | ⟨low, high, count⟩ | ⟨low, high, count⟩ |
      ⟨other, count⟩ <;> omega

theorem ascii_iff (first : UInt8) : first ≤ 0x7f ↔ characterLength first = 1 := by
  rw [UInt8.le_iff_toNat_le]
  rcases characterLength_spec first with
    ⟨ascii, count⟩ | ⟨low, high, count⟩ | ⟨low, high, count⟩ | ⟨low, high, count⟩ |
      ⟨other, count⟩ <;> simp [count] <;> omega

theorem characterLength_three {first : UInt8} (count : characterLength first = 3) :
    0xe0 ≤ first.toNat ∧ first.toNat ≤ 0xef := by
  rcases characterLength_spec first with
    ⟨-, other⟩ | ⟨-, -, other⟩ | ⟨low, high, -⟩ | ⟨-, -, other⟩ | ⟨-, other⟩ <;> omega

theorem characterLength_four {first : UInt8} (count : characterLength first = 4) :
    0xf0 ≤ first.toNat ∧ first.toNat ≤ 0xf4 := by
  rcases characterLength_spec first with
    ⟨-, other⟩ | ⟨-, -, other⟩ | ⟨-, -, other⟩ | ⟨low, high, -⟩ | ⟨-, other⟩ <;> omega

theorem validSequenceLength_encode (character : Char) (rest : List UInt8) :
    validSequenceLength (String.utf8EncodeChar character ++ rest) =
      (String.utf8EncodeChar character).length := by
  rcases encode_spec character with ⟨first, others, encoded, count, fits⟩
  rw [encoded]
  rcases others with _ | ⟨second, _ | ⟨third, _ | ⟨fourth, _ | ⟨fifth, others⟩⟩⟩⟩
  · simp [validSequenceLength, ascii_iff, count]
  · simp only [continues, List.all_nil, Bool.and_true] at fits
    simp [validSequenceLength, ascii_iff, validTwo_iff, count, fits]
  · simp only [continues, List.all_cons, List.all_nil, Bool.and_true, Bool.and_eq_true] at fits
    simp [validSequenceLength, ascii_iff, validTwo_iff, validThree_iff, count, fits]
  · simp only [continues, List.all_cons, List.all_nil, Bool.and_true, Bool.and_eq_true] at fits
    simp [validSequenceLength, ascii_iff, validTwo_iff, validThree_iff, validFour_iff, count, fits]
  · have most := length_encode_le character
    simp only [encoded, List.length_cons] at most
    omega

/-- Only a character has a length. -/
theorem exists_of_validSequenceLength {bytes : List UInt8}
    (valid : validSequenceLength bytes ≠ 0) :
    ∃ character rest, bytes = String.utf8EncodeChar character ++ rest := by
  rcases bytes with _ | ⟨first, rest⟩
  · exact absurd rfl valid
  simp only [validSequenceLength] at valid
  split_ifs at valid with one two three four
  · rw [UInt8.le_iff_toNat_le] at one
    exact ⟨_, rest, by rw [encode_one (Nat.lt_succ_of_le one)]; rfl⟩
  · rcases rest with _ | ⟨second, rest⟩
    · cases two
    · simp only [validTwo, Bool.and_eq_true, decide_eq_true_eq, UInt8.le_iff_toNat_le,
        isContinuation_iff, ← textContinuation_iff] at two
      exact ⟨_, rest, by rw [encode_two two.1.1 two.1.2 two.2]; rfl⟩
  · rcases rest with _ | ⟨second, _ | ⟨third, rest⟩⟩
    · cases three
    · cases three
    · rcases (validThree_iff first second third rest).mp three with ⟨count, fits, follows⟩
      rcases characterLength_three count with ⟨low, high⟩
      exact ⟨_, rest, by rw [encode_three low high fits follows]; rfl⟩
  · rcases rest with _ | ⟨second, _ | ⟨third, _ | ⟨fourth, rest⟩⟩⟩
    · cases four
    · cases four
    · cases four
    · rcases (validFour_iff first second third fourth rest).mp four with
        ⟨count, fits, follows, ends⟩
      rcases characterLength_four count with ⟨low, high⟩
      exact ⟨_, rest, by rw [encode_four low high fits follows ends]; rfl⟩
  · exact absurd rfl valid

/-- A byte that no character starts with is written as U+FFFD, and a character as it
is. -/
inductive Replaced : List UInt8 → List Char → Prop where
  | nil : Replaced [] []
  | character (character : Char) {rest : List UInt8} {decoded : List Char}
      (behind : Replaced rest decoded) :
      Replaced (String.utf8EncodeChar character ++ rest) (character :: decoded)
  | malformed {byte : UInt8} {rest : List UInt8} {decoded : List Char}
      (none : ∀ character, ¬ String.utf8EncodeChar character <+: byte :: rest)
      (behind : Replaced rest decoded) : Replaced (byte :: rest) ('\ufffd' :: decoded)

/-- No character is the beginning of another one. -/
theorem encode_append_inj {left right : Char} {first second : List UInt8}
    (same : String.utf8EncodeChar left ++ first = String.utf8EncodeChar right ++ second) :
    left = right ∧ first = second := by
  have lengths := congrArg validSequenceLength same
  rw [validSequenceLength_encode, validSequenceLength_encode] at lengths
  rcases List.append_inj same lengths with ⟨encoded, behind⟩
  refine ⟨?_, behind⟩
  have texts : utf8 (String.ofList [left]) = utf8 (String.ofList [right]) := by
    simp [utf8, encoded]
  simpa using utf8_injective texts

theorem Replaced.unique {bytes : List UInt8} {decoded other : List Char}
    (replaced : Replaced bytes decoded) (again : Replaced bytes other) : decoded = other := by
  induction replaced generalizing other with
  | nil =>
      generalize empty : ([] : List UInt8) = bytes at again
      cases again with
      | nil => rfl
      | character character behind =>
          have positive := length_encode_pos character
          rw [(List.append_eq_nil_iff.mp empty.symm).1] at positive
          cases positive
      | malformed none behind => cases empty
  | @character character rest decoded behind ih =>
      generalize same : String.utf8EncodeChar character ++ rest = bytes at again
      cases again with
      | nil =>
          have positive := length_encode_pos character
          rw [(List.append_eq_nil_iff.mp same).1] at positive
          cases positive
      | character other behind =>
          rcases encode_append_inj same with ⟨rfl, rfl⟩
          rw [ih behind]
      | malformed none behind => exact absurd ⟨rest, same⟩ (none character)
  | @malformed byte rest decoded none behind ih =>
      generalize same : byte :: rest = bytes at again
      cases again with
      | nil => cases same
      | @character other left decoded behind => exact absurd ⟨left, same.symm⟩ (none other)
      | malformed none behind =>
          cases same
          rw [ih behind]

theorem replaced_characters (characters : List Char) :
    Replaced (characters.flatMap String.utf8EncodeChar) characters := by
  induction characters with
  | nil => exact .nil
  | cons character rest ih => exact .character character ih

/-! ## JsonString -/

theorem encode_small {character : Char} (small : character.toNat ≤ 0x7f) :
    String.utf8EncodeChar character = [UInt8.ofNat character.toNat] := by
  unfold String.utf8EncodeChar
  exact if_pos small

/-- The character of a hexadecimal digit. -/
def hexChar (value : Nat) : Char :=
  "0123456789abcdef".toList.getD value '0'

theorem encode_hexChar {value : Nat} (small : value < 16) :
    String.utf8EncodeChar (hexChar value) = [hexDigits.getD value 0] := by
  have every : ∀ digit : Fin 16,
      String.utf8EncodeChar (hexChar digit) = [hexDigits.getD digit 0] := by
    decide
  exact every ⟨value, small⟩

theorem hexValue_hexChar {value : Nat} (small : value < 16) :
    hexValue (hexChar value) = some value := by
  have every : ∀ digit : Fin 16, hexValue (hexChar digit) = some digit.val := by
    decide
  exact every ⟨value, small⟩

theorem hexUnit_hexChar {high low : Nat} (highDigit : high < 16) (lowDigit : low < 16) :
    hexUnit '0' '0' (hexChar high) (hexChar low) = some (high * 16 + low) := by
  have zero : hexValue '0' = some 0 := rfl
  simp [hexUnit, zero, hexValue_hexChar highDigit, hexValue_hexChar lowDigit]

/-- The escape of an ASCII byte is a character between the quotes of a literal. -/
theorem asciiJsonEscape_spec {byte : UInt8} (ascii : byte ≤ 0x7f) :
    ∃ text : List Char, asciiJsonEscape byte = text.flatMap String.utf8EncodeChar ∧
      ∀ rest, readChars (text ++ rest) = (readChars rest).map (Char.ofNat byte.toNat :: ·) := by
  unfold asciiJsonEscape
  split_ifs with quote backslash backspace formFeed lineFeed carriageReturn tab control
  · exact ⟨['\\', '"'], rfl, fun rest => by subst quote; exact readChars_short rfl rest⟩
  · exact ⟨['\\', '\\'], rfl, fun rest => by subst backslash; exact readChars_short rfl rest⟩
  · exact ⟨['\\', 'b'], rfl, fun rest => by subst backspace; exact readChars_short rfl rest⟩
  · exact ⟨['\\', 'f'], rfl, fun rest => by subst formFeed; exact readChars_short rfl rest⟩
  · exact ⟨['\\', 'n'], rfl, fun rest => by subst lineFeed; exact readChars_short rfl rest⟩
  · exact ⟨['\\', 'r'], rfl, fun rest => by subst carriageReturn; exact readChars_short rfl rest⟩
  · exact ⟨['\\', 't'], rfl, fun rest => by subst tab; exact readChars_short rfl rest⟩
  · have high : (byte >>> 4).toNat = byte.toNat / 16 := by
      rw [UInt8.toNat_shiftRight]
      exact Nat.shiftRight_eq_div_pow _ 4
    have low : (byte &&& 0x0f).toNat = byte.toNat % 16 := by
      rw [UInt8.toNat_and]
      exact Nat.and_two_pow_sub_one_eq_mod _ 4
    have range : byte.toNat < 32 := control
    have highDigit : byte.toNat / 16 < 16 := by omega
    have lowDigit : byte.toNat % 16 < 16 := by omega
    refine ⟨'\\' :: 'u' :: '0' :: '0' :: hexChar (byte.toNat / 16) ::
      [hexChar (byte.toNat % 16)], ?_, ?_⟩
    · simp only [List.flatMap_cons, List.flatMap_nil, encode_hexChar highDigit,
        encode_hexChar lowDigit, high, low]
      rfl
    · intro rest
      have unit := hexUnit_hexChar highDigit lowDigit
      rw [Nat.div_add_mod' byte.toNat 16] at unit
      exact readChars_unicode unit (by omega) rest
  · have range : byte.toNat < 0x80 := Nat.lt_succ_of_le ascii
    have valid : byte.toNat.isValidChar := .inl (by omega)
    have value : (Char.ofNat byte.toNat).toNat = byte.toNat := toNat_ofNat valid
    refine ⟨[Char.ofNat byte.toNat], ?_, fun rest => readChars_unescaped ?_ ?_ ?_ rest⟩
    · rw [List.flatMap_cons, List.flatMap_nil, encode_one range]
      rfl
    · rw [value]
      exact Nat.le_of_not_lt control
    · intro same
      apply quote
      rw [same] at value
      exact UInt8.toNat_inj.mp value.symm
    · intro same
      apply backslash
      rw [same] at value
      exact UInt8.toNat_inj.mp value.symm

theorem length_asciiJsonEscape_le (byte : UInt8) : (asciiJsonEscape byte).length ≤ 6 := by
  unfold asciiJsonEscape
  split_ifs <;> simp

/-- The bytes between the quotes are text that stands for the given bytes, with U+FFFD
for what is not UTF-8. -/
theorem jsonBody_spec (value : List UInt8) (fuel : Nat) (enough : value.length ≤ fuel) :
    (jsonBody fuel value).length ≤ 6 * value.length ∧
      ∃ text decoded : List Char, jsonBody fuel value = text.flatMap String.utf8EncodeChar ∧
        readChars text = some decoded ∧ Replaced value decoded := by
  induction fuel generalizing value with
  | zero =>
      cases List.eq_nil_of_length_eq_zero (Nat.le_zero.mp enough)
      exact ⟨Nat.le_refl _, [], [], rfl, rfl, .nil⟩
  | succ fuel ih =>
      rcases value with _ | ⟨byte, rest⟩
      · exact ⟨Nat.le_refl _, [], [], rfl, rfl, .nil⟩
      rw [List.length_cons] at enough ⊢
      simp only [jsonBody]
      split_ifs with ascii none
      · rcases ih rest (Nat.le_of_succ_le_succ enough) with
          ⟨short, text, decoded, body, reads, replaced⟩
        rcases asciiJsonEscape_spec ascii with ⟨escape, escaped, readsEscape⟩
        have few := length_asciiJsonEscape_le byte
        refine ⟨?_, escape ++ text, Char.ofNat byte.toNat :: decoded, ?_, ?_, ?_⟩
        · rw [List.length_append]
          omega
        · rw [body, escaped, List.flatMap_append]
        · rw [readsEscape, reads]
          rfl
        · have single := encode_one (Nat.lt_succ_of_le (UInt8.le_iff_toNat_le.mp ascii))
          exact List.singleton_append ▸ single ▸ Replaced.character _ replaced
      · rcases ih rest (Nat.le_of_succ_le_succ enough) with
          ⟨short, text, decoded, body, reads, replaced⟩
        refine ⟨?_, '\ufffd' :: text, '\ufffd' :: decoded, ?_, ?_, ?_⟩
        · rw [List.length_append]
          simp only [replacement, List.length_cons, List.length_nil]
          omega
        · rw [body, List.flatMap_cons]
          rfl
        · rw [readChars_unescaped (by decide) (by decide) (by decide), reads]
          rfl
        · refine .malformed ?_ replaced
          rintro character ⟨left, same⟩
          rw [← same, validSequenceLength_encode] at none
          exact absurd none (Nat.ne_of_gt (length_encode_pos character))
      · rcases exists_of_validSequenceLength none with ⟨character, left, same⟩
        have positive := length_encode_pos character
        have lengths := congrArg List.length same
        rw [List.length_cons, List.length_append] at lengths
        rcases ih left (by omega) with ⟨short, text, decoded, body, reads, replaced⟩
        have large : 0x7f < character.toNat := by
          by_contra small
          rw [encode_small (Nat.le_of_not_lt small), List.singleton_append] at same
          cases same
          apply ascii
          rw [UInt8.le_iff_toNat_le, UInt8.toNat_ofNat', Nat.mod_eq_of_lt (by omega)]
          exact Nat.le_of_not_lt small
        rw [same, validSequenceLength_encode, List.take_left, List.drop_left]
        refine ⟨?_, character :: text, character :: decoded, ?_, ?_, .character character replaced⟩
        · rw [List.length_append]
          omega
        · rw [body, List.flatMap_cons]
        · have quote : character ≠ '"' := by
            rintro rfl
            cases Nat.not_lt.mpr (by decide) large
          have backslash : character ≠ '\\' := by
            rintro rfl
            cases Nat.not_lt.mpr (by decide) large
          rw [readChars_unescaped (by omega) quote backslash, reads]
          rfl

theorem isValidFrom_iff (value : List UInt8) (fuel : Nat) (enough : value.length ≤ fuel) :
    isValidFrom fuel value = true ↔ IsUtf8 value := by
  induction fuel generalizing value with
  | zero =>
      cases List.eq_nil_of_length_eq_zero (Nat.le_zero.mp enough)
      exact ⟨fun _ => .nil, fun _ => rfl⟩
  | succ fuel ih =>
      rcases value with _ | ⟨byte, rest⟩
      · exact ⟨fun _ => .nil, fun _ => rfl⟩
      simp only [isValidFrom, Bool.and_eq_true, bne_iff_ne]
      constructor
      · rintro ⟨valid, behind⟩
        rcases exists_of_validSequenceLength valid with ⟨character, left, same⟩
        have positive := length_encode_pos character
        have lengths := congrArg List.length same
        rw [List.length_append] at lengths
        rw [same, validSequenceLength_encode, List.drop_left, ih left (by omega)] at behind
        rw [same]
        exact IsUtf8.append ⟨[character], by simp⟩ behind
      · rintro ⟨characters, encoded⟩
        rcases characters with _ | ⟨character, others⟩
        · cases encoded
        have positive := length_encode_pos character
        have lengths := congrArg List.length encoded
        rw [List.flatMap_cons, List.length_append] at lengths
        rw [encoded, List.flatMap_cons, validSequenceLength_encode, List.drop_left,
          ih _ (by omega)]
        exact ⟨Nat.ne_of_gt positive, others, rfl⟩

/-- For any bytes: `JsonString` writes a JSON literal in UTF-8 of at most six bytes for
each and two quotes, whose value is the text with U+FFFD for every byte that no
character starts with, hence the text itself where it is UTF-8, and that is what
`IsValidUtf8` checks. -/
theorem jsonString_faithful (value : List UInt8) :
    (∃ text decoded : String, jsonString value = utf8 text ∧ readLiteral text = some decoded ∧
      (∀ characters, Replaced value characters ↔ characters = decoded.toList) ∧
      (IsUtf8 value → utf8 decoded = value)) ∧
    (jsonString value).length ≤ 6 * value.length + 2 ∧
    (isValidUtf8 value = true ↔ IsUtf8 value) := by
  rcases jsonBody_spec value value.length (Nat.le_refl _) with
    ⟨short, text, decoded, body, reads, replaced⟩
  refine ⟨⟨_, _, ?_, readLiteral_quoted reads, ?_, ?_⟩, ?_, ?_⟩
  · simp only [jsonString, body, utf8, String.toList_ofList, List.flatMap_append,
      List.flatMap_cons, List.flatMap_nil]
    rfl
  · intro characters
    rw [String.toList_ofList]
    constructor
    · exact fun again => again.unique replaced
    · rintro rfl
      exact replaced
  · rintro ⟨characters, rfl⟩
    rw [replaced.unique (replaced_characters characters), utf8, String.toList_ofList]
  · simp only [jsonString, List.length_append, List.length_singleton]
    omega
  · exact isValidFrom_iff value value.length (Nat.le_refl _)

end X64dbgMcp.Plugin
