import Mathlib.Algebra.Order.BigOperators.Group.List
import Mathlib.Data.List.Induction
import Mathlib.Data.List.TakeWhile
import Mathlib.Data.Nat.Cast.Basic
import Mathlib.Tactic.IntervalCases
import Mathlib.Tactic.Ring
import X64dbgMcp.Text.Utf8

/-!
# Numerals

Reading unsigned numerals the way the two standard libraries do, and writing
decimal ones.  A reader of a `w`-bit type gets the limit `2 ^ w`.
-/

namespace X64dbgMcp.Text

/-- The value of a digit; letters of either case count from ten. -/
def digitValue (byte : UInt8) : Option Nat :=
  if 0x30 ≤ byte ∧ byte ≤ 0x39 then some (byte.toNat - 0x30)
  else if 0x61 ≤ byte ∧ byte ≤ 0x7a then some (byte.toNat - 0x61 + 10)
  else if 0x41 ≤ byte ∧ byte ≤ 0x5a then some (byte.toNat - 0x41 + 10)
  else none

/-- A digit in this base. -/
def isDigit (base : Nat) (byte : UInt8) : Bool :=
  (digitValue byte).any fun value => value < base

/-- The number that digits stand for, most significant first. -/
def ofDigits (base : Nat) (digits : List UInt8) : Nat :=
  digits.foldl (fun value byte => value * base + (digitValue byte).getD 0) 0

/-- `std::from_chars` of an unsigned type: the value of the longest run of digits
and what follows it, unless there is no digit or the value does not fit. -/
def fromChars (base limit : Nat) (bytes : List UInt8) : Option (Nat × List UInt8) :=
  let digits := bytes.takeWhile (isDigit base)
  if digits.isEmpty then none
  else if limit ≤ ofDigits base digits then none
  else some (ofDigits base digits, bytes.dropWhile (isDigit base))

/-- A successful `std::from_chars` that ends at the end of its range. -/
def fromCharsAll (base limit : Nat) (bytes : List UInt8) : Option Nat :=
  match fromChars base limit bytes with
  | some (value, []) => some value
  | _ => none

/-- `from_str_radix` of an unsigned type. -/
def fromStrRadix (base limit : Nat) (bytes : List UInt8) : Option Nat :=
  let digits := if bytes.head? = some 0x2b then bytes.tail else bytes
  if digits.isEmpty then none
  else if digits.all (isDigit base) && ofDigits base digits < limit then some (ofDigits base digits)
  else none

/-- The decimal digits of a number. -/
def decimal (value : Nat) : List UInt8 :=
  utf8 value.repr

/-- The digits of canonical hexadecimal. -/
def isLowerHex (byte : UInt8) : Bool :=
  (0x30 ≤ byte && byte ≤ 0x39) || (0x61 ≤ byte && byte ≤ 0x66)

theorem isLowerHex_eq_true {byte : UInt8} :
    isLowerHex byte = true ↔
      0x30 ≤ byte.toNat ∧ byte.toNat ≤ 0x39 ∨ 0x61 ≤ byte.toNat ∧ byte.toNat ≤ 0x66 := by
  simp [isLowerHex, UInt8.le_iff_toNat_le]

/-- What a canonical hexadecimal digit counts. -/
theorem digitValue_of_isLowerHex {byte : UInt8} (hex : isLowerHex byte = true) :
    digitValue byte =
      some (if byte.toNat ≤ 0x39 then byte.toNat - 0x30 else byte.toNat - 0x61 + 10) := by
  rw [isLowerHex_eq_true] at hex
  simp only [digitValue, UInt8.le_iff_toNat_le, UInt8.reduceToNat]
  split_ifs <;> first | rfl | omega

theorem isDigit_of_isLowerHex {byte : UInt8} (hex : isLowerHex byte = true) :
    isDigit 16 byte = true := by
  rw [isDigit, digitValue_of_isLowerHex hex]
  rw [isLowerHex_eq_true] at hex
  simp only [Option.any_some, decide_eq_true_eq]
  split_ifs <;> omega

theorem ofDigits_append_singleton (base : Nat) (digits : List UInt8) (last : UInt8) :
    ofDigits base (digits ++ [last]) =
      ofDigits base digits * base + (digitValue last).getD 0 := by
  simp [ofDigits]

theorem ofDigits_lt {base : Nat} {digits : List UInt8}
    (valid : ∀ byte ∈ digits, isDigit base byte = true) :
    ofDigits base digits < base ^ digits.length := by
  induction digits using List.reverseRecOn with
  | nil => simp [ofDigits]
  | append_singleton digits last ih =>
      have before := ih fun byte member => valid byte (List.mem_append_left _ member)
      have digit : (digitValue last).getD 0 < base := by
        have isOne := valid last (by simp)
        rw [isDigit, Option.any_eq_true] at isOne
        obtain ⟨value, reads, small⟩ := isOne
        rw [reads]
        simpa using small
      rw [ofDigits_append_singleton, List.length_append, List.length_singleton, pow_succ]
      calc
        ofDigits base digits * base + (digitValue last).getD 0
            < ofDigits base digits * base + base := by omega
        _ = (ofDigits base digits + 1) * base := by ring
        _ ≤ base ^ digits.length * base := Nat.mul_le_mul_right base before

theorem fromCharsAll_of_digits {base limit : Nat} {digits : List UInt8} (some_digit : digits ≠ [])
    (valid : ∀ byte ∈ digits, isDigit base byte = true) (fits : ofDigits base digits < limit) :
    fromCharsAll base limit digits = some (ofDigits base digits) := by
  have all : digits.takeWhile (isDigit base) = digits := List.takeWhile_eq_self_iff.mpr valid
  have rest : digits.dropWhile (isDigit base) = [] := List.dropWhile_eq_nil_iff.mpr valid
  simp [fromCharsAll, fromChars, all, rest, some_digit, Nat.not_le.mpr fits]

/-- Canonical hexadecimal digits that fit the type are read. -/
theorem fromCharsAll_of_lowerHex {limit : Nat} {digits : List UInt8} (some_digit : digits ≠ [])
    (hex : ∀ byte ∈ digits, isLowerHex byte = true) (room : 16 ^ digits.length ≤ limit) :
    fromCharsAll 16 limit digits = some (ofDigits 16 digits) := by
  have valid : ∀ byte ∈ digits, isDigit 16 byte = true := fun byte member =>
    isDigit_of_isLowerHex (hex byte member)
  exact fromCharsAll_of_digits some_digit valid (lt_of_lt_of_le (ofDigits_lt valid) room)

/-- Both libraries read the same number from canonical hexadecimal digits. -/
theorem fromStrRadix_of_lowerHex {limit : Nat} {digits : List UInt8} {value : Nat}
    (hex : ∀ byte ∈ digits, isLowerHex byte = true)
    (reads : fromStrRadix 16 limit digits = some value) :
    value = ofDigits 16 digits ∧ value < limit := by
  have unsigned : digits.head? ≠ some 0x2b := by
    intro plus
    have member : (0x2b : UInt8) ∈ digits := List.mem_of_mem_head? plus
    exact absurd (hex _ member) (by decide)
  simp only [fromStrRadix, if_neg unsigned] at reads
  split_ifs at reads with empty fits
  simp only [Bool.and_eq_true, decide_eq_true_eq] at fits
  rw [Option.some.injEq] at reads
  exact ⟨reads.symm, reads ▸ fits.2⟩

/-- A 64-bit number has at most twenty decimal digits. -/
theorem length_decimal_le {value : Nat} (small : value < 2 ^ 64) : (decimal value).length ≤ 20 := by
  have digits : (Nat.toDigits 10 value).length ≤ 20 :=
    (Nat.length_toDigits_le_iff (by decide) (by decide)).mpr (by omega)
  have one : ∀ character ∈ Nat.toDigits 10 value,
      (String.utf8EncodeChar character).length ≤ 1 := by
    intro character member
    have digit := Nat.isDigit_of_mem_toDigits (by decide) (by decide) member
    simp only [Char.isDigit, Bool.and_eq_true, decide_eq_true_eq, UInt32.le_iff_toNat_le] at digit
    have ascii : character.val.toNat ≤ 127 := le_trans digit.2 (by decide)
    simp only [String.utf8EncodeChar, if_pos ascii, List.length_singleton, le_refl]
  rw [decimal, utf8, Nat.toList_repr, List.length_flatMap]
  have total := List.sum_le_card_nsmul
    ((Nat.toDigits 10 value).map fun character => (String.utf8EncodeChar character).length) 1
    (by simpa only [List.forall_mem_map] using one)
  simp only [List.length_map, nsmul_eq_mul, Nat.cast_id, mul_one] at total
  exact le_trans total digits

/-! ## Decimal numerals -/

/-- A decimal digit is one byte. -/
theorem utf8EncodeChar_of_isDigit {character : Char} (digit : character.isDigit = true) :
    ∃ byte, String.utf8EncodeChar character = [byte] ∧ isDigit 10 byte = true ∧
      digitValue byte = some (character.toNat - '0'.toNat) := by
  simp only [Char.isDigit, Bool.and_eq_true, decide_eq_true_eq, UInt32.le_iff_toNat_le] at digit
  rcases digit with ⟨low, high⟩
  have lowNat : 48 ≤ character.val.toNat := low
  have highNat : character.val.toNat ≤ 57 := high
  have ascii : character.val.toNat ≤ 127 := by omega
  have value : (UInt8.ofNat character.val.toNat).toNat = character.val.toNat :=
    Nat.mod_eq_of_lt (by omega)
  have reads : digitValue (UInt8.ofNat character.val.toNat) =
      some (character.toNat - '0'.toNat) := by
    rw [digitValue, if_pos]
    · rw [value]
      rfl
    · simp only [UInt8.le_iff_toNat_le, value]
      exact ⟨lowNat, highNat⟩
  refine ⟨UInt8.ofNat character.val.toNat, if_pos ascii, ?_, reads⟩
  rw [isDigit, reads, Option.any_some, decide_eq_true_eq]
  calc
    character.toNat - '0'.toNat ≤ 57 - 48 := Nat.sub_le_sub_right highNat 48
    _ < 10 := by decide

theorem ofDigits_utf8 {characters : List Char}
    (digits : ∀ character ∈ characters, character.isDigit = true) (init : Nat) :
    (characters.flatMap String.utf8EncodeChar).foldl
        (fun value byte => value * 10 + (digitValue byte).getD 0) init =
      Nat.ofDigitChars 10 characters init := by
  induction characters generalizing init with
  | nil => rfl
  | cons character rest ih =>
      rcases utf8EncodeChar_of_isDigit (digits character List.mem_cons_self) with
        ⟨byte, encoded, -, reads⟩
      rw [List.flatMap_cons, encoded, List.singleton_append, List.foldl_cons, reads,
        ih fun other member => digits other (List.mem_cons_of_mem _ member),
        Nat.ofDigitChars_cons, Option.getD_some, Nat.mul_comm]

theorem isDigit_of_mem_decimal {value : Nat} {byte : UInt8} (member : byte ∈ decimal value) :
    isDigit 10 byte = true := by
  rw [decimal, utf8, Nat.toList_repr] at member
  rcases List.mem_flatMap.mp member with ⟨character, digit, member⟩
  rcases utf8EncodeChar_of_isDigit (Nat.isDigit_of_mem_toDigits (by decide) (by decide) digit) with
    ⟨encoded, isByte, isTen, -⟩
  rw [isByte] at member
  rw [List.mem_singleton.mp member]
  exact isTen

theorem ofDigits_decimal (value : Nat) : ofDigits 10 (decimal value) = value := by
  rw [decimal, utf8, Nat.toList_repr, ofDigits, ofDigits_utf8]
  · exact Nat.ofDigitChars_ten_toDigits
  · intro character member
    exact Nat.isDigit_of_mem_toDigits (by decide) (by decide) member

theorem decimal_injective : Function.Injective decimal := by
  intro first second same
  rw [← ofDigits_decimal first, same, ofDigits_decimal]

theorem decimal_ne_nil (value : Nat) : decimal value ≠ [] := by
  intro empty
  have same : value.repr = "" := utf8_injective empty
  have digits : Nat.toDigits 10 value = [] := by rw [← Nat.toList_repr, same]; rfl
  exact Nat.toDigits_ne_nil digits

/-- Reading back a written number, unless the type is too small for it. -/
theorem fromCharsAll_decimal (limit value : Nat) :
    fromCharsAll 10 limit (decimal value) = if value < limit then some value else none := by
  have valid : ∀ byte ∈ decimal value, isDigit 10 byte = true :=
    fun byte member => isDigit_of_mem_decimal member
  by_cases fits : value < limit
  · have reads := @fromCharsAll_of_digits 10 limit _ (decimal_ne_nil value) valid
      (by rwa [ofDigits_decimal])
    rw [ofDigits_decimal] at reads
    rw [reads, if_pos fits]
  · have all : (decimal value).takeWhile (isDigit 10) = decimal value :=
      List.takeWhile_eq_self_iff.mpr valid
    have large : limit ≤ ofDigits 10 (decimal value) := by
      rw [ofDigits_decimal]
      exact Nat.le_of_not_lt fits
    simp [fromCharsAll, fromChars, all, decimal_ne_nil, large, fits]

/-- What is read whole consists of digits. -/
theorem isDigit_of_fromCharsAll {base limit value : Nat} {bytes : List UInt8}
    (reads : fromCharsAll base limit bytes = some value) :
    ∀ byte ∈ bytes, isDigit base byte = true := by
  simp only [fromCharsAll] at reads
  split at reads
  · rename_i number whole
    simp only [fromChars] at whole
    split_ifs at whole
    simp only [Option.some.injEq, Prod.mk.injEq] at whole
    exact List.dropWhile_eq_nil_iff.mp whole.2
  · cases reads

theorem number_of_fromCharsAll {base limit value : Nat} {bytes : List UInt8}
    (reads : fromCharsAll base limit bytes = some value) :
    bytes ≠ [] ∧ (∀ byte ∈ bytes, isDigit base byte = true) ∧ ofDigits base bytes = value ∧
      value < limit := by
  have digits := isDigit_of_fromCharsAll reads
  have all : bytes.takeWhile (isDigit base) = bytes := List.takeWhile_eq_self_iff.mpr digits
  simp only [fromCharsAll] at reads
  split at reads
  · rename_i number whole
    simp only [fromChars, all] at whole
    split_ifs at whole with empty large
    simp only [Option.some.injEq, Prod.mk.injEq] at whole
    cases reads
    exact ⟨by simpa using empty, digits, whole.1, by omega⟩
  · cases reads

/-! ## Hexadecimal numerals -/

/-- The lower-case hexadecimal digits of a number. -/
def hexadecimal (value : Nat) : List UInt8 :=
  utf8 (String.ofList (Nat.toDigits 16 value))

theorem hexadecimal_eq (value : Nat) :
    hexadecimal value = (Nat.toDigits 16 value).flatMap String.utf8EncodeChar := by
  rw [hexadecimal, utf8, String.toList_ofList]

theorem utf8EncodeChar_digitChar {value : Nat} (digit : value < 16) :
    ∃ byte, String.utf8EncodeChar value.digitChar = [byte] ∧ isLowerHex byte = true ∧
      digitValue byte = some value := by
  interval_cases value <;> exact ⟨_, rfl, by decide, by decide⟩

/-- The last digit of a written number, and those before it. -/
theorem hexadecimal_spec (value : Nat) :
    ∃ last, isLowerHex last = true ∧ digitValue last = some (value % 16) ∧
      hexadecimal value = (if value < 16 then [] else hexadecimal (value / 16)) ++ [last] := by
  rcases utf8EncodeChar_digitChar (Nat.mod_lt value (by decide : 16 > 0)) with
    ⟨last, encoded, lower, reads⟩
  refine ⟨last, lower, reads, ?_⟩
  by_cases small : value < 16
  · rw [Nat.mod_eq_of_lt small] at encoded
    rw [if_pos small, hexadecimal_eq, Nat.toDigits_of_lt_base small]
    simp [encoded]
  · rw [if_neg small, hexadecimal_eq, hexadecimal_eq,
      Nat.toDigits_of_base_le (by decide) (Nat.le_of_not_lt small)]
    simp [encoded]

theorem isLowerHex_of_mem_hexadecimal {value : Nat} {byte : UInt8}
    (member : byte ∈ hexadecimal value) : isLowerHex byte = true := by
  induction value using Nat.strong_induction_on with
  | _ value ih =>
      rcases hexadecimal_spec value with ⟨last, lower, -, written⟩
      rw [written, List.mem_append, List.mem_singleton] at member
      rcases member with front | rfl
      · split_ifs at front with small
        · exact absurd front List.not_mem_nil
        · exact ih (value / 16) (Nat.div_lt_self (by omega) (by decide)) front
      · exact lower

theorem ofDigits_hexadecimal (value : Nat) : ofDigits 16 (hexadecimal value) = value := by
  induction value using Nat.strong_induction_on with
  | _ value ih =>
      rcases hexadecimal_spec value with ⟨last, -, reads, written⟩
      rw [written, ofDigits_append_singleton, reads, Option.getD_some]
      split_ifs with small
      · rw [Nat.mod_eq_of_lt small]
        exact Nat.zero_add value
      · rw [ih (value / 16) (Nat.div_lt_self (by omega) (by decide))]
        omega

theorem hexadecimal_ne_nil (value : Nat) : hexadecimal value ≠ [] := by
  rcases hexadecimal_spec value with ⟨last, -, -, written⟩
  rw [written]
  simp

/-- Sixteen digits are enough for 64 bits. -/
theorem length_hexadecimal_le {value digits : Nat} (some_digit : 0 < digits)
    (fits : value < 16 ^ digits) : (hexadecimal value).length ≤ digits := by
  induction digits generalizing value with
  | zero => omega
  | succ digits ih =>
      rcases hexadecimal_spec value with ⟨last, -, -, written⟩
      rw [written, List.length_append, List.length_singleton]
      split_ifs with small
      · simp
      · have front : value / 16 < 16 ^ digits := by
          rw [Nat.div_lt_iff_lt_mul (by decide), ← pow_succ]
          exact fits
        have more : 0 < digits := by
          by_contra none
          rw [Nat.eq_zero_of_not_pos none] at fits
          omega
        exact Nat.succ_le_succ (ih more front)

/-! ## Separators -/

/-- A colon is no digit. -/
theorem colon_notMem_of_digits {bytes : List UInt8}
    (digits : ∀ byte ∈ bytes, isDigit 10 byte = true) : 0x3a ∉ bytes := by
  intro member
  cases digits _ member

theorem colon_notMem_decimal (value : Nat) : 0x3a ∉ decimal value :=
  colon_notMem_of_digits fun _ member => isDigit_of_mem_decimal member

theorem colon_notMem_hexadecimal (value : Nat) : 0x3a ∉ hexadecimal value := by
  intro member
  cases isLowerHex_of_mem_hexadecimal member

theorem append_cons_inj_of_free {α : Type} {separator : α} {first second : List α}
    {firstTail secondTail : List α} (firstFree : separator ∉ first)
    (secondFree : separator ∉ second)
    (same : first ++ separator :: firstTail = second ++ separator :: secondTail) :
    first = second ∧ firstTail = secondTail := by
  induction first generalizing second with
  | nil =>
      cases second with
      | nil => exact ⟨rfl, List.tail_eq_of_cons_eq same⟩
      | cons head rest =>
          rw [List.head_eq_of_cons_eq same] at secondFree
          exact absurd List.mem_cons_self secondFree
  | cons head rest ih =>
      cases second with
      | nil =>
          rw [← List.head_eq_of_cons_eq same] at firstFree
          exact absurd List.mem_cons_self firstFree
      | cons other others =>
          rcases ih (fun member => firstFree (List.mem_cons_of_mem _ member))
            (fun member => secondFree (List.mem_cons_of_mem _ member))
            (List.tail_eq_of_cons_eq same) with ⟨rfl, tails⟩
          exact ⟨by rw [List.head_eq_of_cons_eq same], tails⟩

/-- Texts that end in a separator and a numeral agree only in both halves. -/
theorem append_numeral_inj {separator : UInt8} {first second firstTail secondTail : List UInt8}
    (firstFree : separator ∉ firstTail) (secondFree : separator ∉ secondTail)
    (same : first ++ separator :: firstTail = second ++ separator :: secondTail) :
    first = second ∧ firstTail = secondTail := by
  have reversed : firstTail.reverse ++ separator :: first.reverse =
      secondTail.reverse ++ separator :: second.reverse := by
    simpa using congrArg List.reverse same
  rcases append_cons_inj_of_free (by simpa using firstFree) (by simpa using secondFree) reversed
    with ⟨tails, heads⟩
  exact ⟨List.reverse_injective heads, List.reverse_injective tails⟩

end X64dbgMcp.Text
