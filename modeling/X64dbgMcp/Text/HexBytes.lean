import X64dbgMcp.Text.Numeral

/-!
# Bytes as hexadecimal texts

Bytes are written one by one with blanks between them, or in groups as padded numbers.
Both texts are read back to the same bytes.
-/

namespace X64dbgMcp.Text

/-! ## Pairs of digits -/

/-- The value of a hexadecimal digit. -/
def hexNibble (byte : UInt8) : Option Nat :=
  (digitValue byte).filter fun value => value < 16

/-- `hex::decode` -/
def decodeHex : List UInt8 → Option (List UInt8)
  | [] => some []
  | [_] => none
  | high :: low :: rest => do
      let high ← hexNibble high
      let low ← hexNibble low
      let rest ← decodeHex rest
      some (UInt8.ofNat (16 * high + low) :: rest)

attribute [grind =] decodeHex

/-- A digit in upper case. -/
def upperDigit (value : Nat) : Char :=
  "0123456789ABCDEF".toList.getD value '0'

/-- Two digits for a byte. -/
def upperHex (byte : UInt8) : List Char :=
  [upperDigit (byte.toNat / 16), upperDigit (byte.toNat % 16)]

/-- The digits of the bytes with blanks between them. -/
def spaced (bytes : List UInt8) : String :=
  String.ofList ([' '].intercalate (bytes.map upperHex))

theorem upperDigit_spec {value : Nat} (small : value < 16) :
    ∃ byte, String.utf8EncodeChar (upperDigit value) = [byte] ∧ byte ≠ 0x20 ∧
      hexNibble byte = some value := by
  interval_cases value <;> exact ⟨_, rfl, by decide, by decide⟩

/-- The digits of a byte are two bytes that are read as the byte. -/
theorem upperHex_spec (byte : UInt8) :
    ∃ high low, (upperHex byte).flatMap String.utf8EncodeChar = [high, low] ∧ high ≠ 0x20 ∧
      low ≠ 0x20 ∧ hexNibble high = some (byte.toNat / 16) ∧
      hexNibble low = some (byte.toNat % 16) := by
  have bounded := byte.toNat_lt
  rcases @upperDigit_spec (byte.toNat / 16) (by omega) with ⟨high, highIs, highMark, highReads⟩
  rcases @upperDigit_spec (byte.toNat % 16) (by omega) with ⟨low, lowIs, lowMark, lowReads⟩
  refine ⟨high, low, ?_, highMark, lowMark, highReads, lowReads⟩
  rw [upperHex, List.flatMap_cons, List.flatMap_singleton, highIs, lowIs]
  rfl

theorem decodeHex_upperHex (byte : UInt8) (rest : List UInt8) :
    decodeHex (((upperHex byte).flatMap String.utf8EncodeChar).filter (· != 0x20) ++ rest) =
      (decodeHex rest).map (byte :: ·) := by
  rcases upperHex_spec byte with ⟨high, low, digits, highMark, lowMark, highReads, lowReads⟩
  have number : UInt8.ofNat (16 * (byte.toNat / 16) + byte.toNat % 16) = byte := by
    rw [Nat.div_add_mod, UInt8.ofNat_toNat]
  have kept : [high, low].filter (· != 0x20) = [high, low] := by
    simp [highMark, lowMark]
  rw [digits, kept]
  simp only [List.cons_append, List.nil_append, decodeHex, highReads, lowReads,
    Option.bind_eq_bind, Option.bind_some, number]
  cases decodeHex rest <;> rfl

/-- The blanks do not matter. -/
theorem filter_spaced (bytes : List UInt8) :
    (utf8 (spaced bytes)).filter (· != 0x20) =
      bytes.flatMap fun byte =>
        ((upperHex byte).flatMap String.utf8EncodeChar).filter (· != 0x20) := by
  rw [utf8, spaced, String.toList_ofList]
  induction bytes with
  | nil => rfl
  | cons byte rest ih =>
      cases rest with
      | nil => simp [List.intercalate]
      | cons next rest =>
          rw [List.map_cons, List.map_cons] at *
          rw [List.intercalate_cons_cons, List.flatMap_append, List.flatMap_append,
            List.filter_append, List.filter_append, ih]
          have blank : ([' '].flatMap String.utf8EncodeChar).filter (· != 0x20) = [] := by decide
          rw [blank, List.append_nil, List.flatMap_cons, List.flatMap_cons, List.flatMap_cons]

theorem decodeHex_spaced (bytes : List UInt8) :
    decodeHex ((utf8 (spaced bytes)).filter (· != 0x20)) = some bytes := by
  rw [filter_spaced]
  induction bytes with
  | nil => rfl
  | cons byte rest ih =>
      rw [List.flatMap_cons, decodeHex_upperHex, ih]
      rfl

/-! ## Numbers -/

/-- The number of some bytes, the first one highest. -/
def bigEndian (bytes : List UInt8) : UInt64 :=
  bytes.foldl (fun value byte => value <<< 8 ||| byte.toUInt64) 0

/-- `0x` and at least so many digits. -/
def paddedHex (digits : Nat) (value : UInt64) : String :=
  String.ofList ('0' :: 'x' ::
    (List.replicate (digits - (Nat.toDigits 16 value.toNat).length) '0' ++
      Nat.toDigits 16 value.toNat))

/-- The bytes of a number, the highest first. -/
def numberBytes : Nat → Nat → List UInt8
  | 0, _ => []
  | width + 1, value => UInt8.ofNat (value / 256 ^ width) :: numberBytes width value

attribute [grind =] numberBytes

/-- The number that the bytes write, the largest first. -/
def bytesNumber (bytes : List UInt8) : Nat :=
  bytes.foldl (fun value byte => value * 256 + byte.toNat) 0

theorem bytesNumber_concat (bytes : List UInt8) (last : UInt8) :
    bytesNumber (bytes ++ [last]) = bytesNumber bytes * 256 + last.toNat := by
  rw [bytesNumber, List.foldl_append]
  rfl

theorem bytesNumber_lt (bytes : List UInt8) : bytesNumber bytes < 256 ^ bytes.length := by
  induction bytes using List.reverseRecOn with
  | nil => decide
  | append_singleton bytes last ih =>
      have bounded := last.toNat_lt
      rw [bytesNumber_concat, List.length_append, List.length_singleton, Nat.pow_succ]
      omega

theorem bytesNumber_cons (byte : UInt8) (rest : List UInt8) :
    bytesNumber (byte :: rest) = byte.toNat * 256 ^ rest.length + bytesNumber rest := by
  induction rest using List.reverseRecOn with
  | nil => simp [bytesNumber]
  | append_singleton rest last ih =>
      rw [← List.cons_append, bytesNumber_concat, bytesNumber_concat, ih, List.length_append,
        List.length_singleton, Nat.pow_succ, Nat.add_mul, Nat.mul_assoc, Nat.add_assoc]

/-- Eight bytes fit into the number. -/
theorem toNat_bigEndian {bytes : List UInt8} (short : bytes.length ≤ 8) :
    (bigEndian bytes).toNat = bytesNumber bytes := by
  induction bytes using List.reverseRecOn with
  | nil => rfl
  | append_singleton bytes last ih =>
      rw [List.length_append, List.length_singleton] at short
      have fits : bytesNumber bytes < 256 ^ 7 :=
        Nat.lt_of_lt_of_le (bytesNumber_lt bytes)
          (Nat.pow_le_pow_right (by decide) (by omega))
      have small := last.toNat_lt
      have shifted : bytesNumber bytes <<< 8 ||| last.toNat =
          bytesNumber bytes * 256 + last.toNat := by
        rw [← Nat.shiftLeft_add_eq_or_of_lt (by exact small), Nat.shiftLeft_eq]
      have folded : bigEndian (bytes ++ [last]) =
          bigEndian bytes <<< 8 ||| last.toUInt64 := by
        rw [bigEndian, List.foldl_append]
        rfl
      have uncut : bytesNumber bytes <<< 8 < 2 ^ 64 := by
        rw [Nat.shiftLeft_eq]
        omega
      rw [bytesNumber_concat, folded, UInt64.toNat_or, UInt64.toNat_shiftLeft, ih (by omega),
        ← shifted, UInt8.toNat_toUInt64]
      change bytesNumber bytes <<< 8 % 2 ^ 64 ||| last.toNat = _
      rw [Nat.mod_eq_of_lt uncut]

theorem numberBytes_mod {width top : Nat} (below : width ≤ top) (value : Nat) :
    numberBytes width (value % 256 ^ top) = numberBytes width value := by
  induction width with
  | zero => rfl
  | succ width ih =>
      have split : 256 ^ top = 256 ^ width * 256 ^ (top - width) := by
        rw [← Nat.pow_add, Nat.add_sub_cancel' (by omega)]
      have divides : 256 ∣ 256 ^ (top - width) := dvd_pow_self 256 (by omega)
      have digit : UInt8.ofNat (value % 256 ^ top / 256 ^ width) =
          UInt8.ofNat (value / 256 ^ width) := by
        rw [← UInt8.toNat_inj, UInt8.toNat_ofNat', UInt8.toNat_ofNat', split,
          Nat.mod_mul_right_div_self]
        exact Nat.mod_mod_of_dvd _ divides
      rw [numberBytes, numberBytes, digit, ih (by omega)]

/-- The bytes of the number of some bytes are these bytes. -/
theorem numberBytes_bytesNumber (bytes : List UInt8) :
    numberBytes bytes.length (bytesNumber bytes) = bytes := by
  induction bytes with
  | nil => rfl
  | cons byte rest ih =>
      have small := bytesNumber_lt rest
      have positive : 0 < 256 ^ rest.length := Nat.pow_pos (by decide)
      have top : (byte.toNat * 256 ^ rest.length + bytesNumber rest) / 256 ^ rest.length =
          byte.toNat := by
        rw [Nat.add_comm, Nat.add_mul_div_right _ _ positive, Nat.div_eq_of_lt small, Nat.zero_add]
      have below : (byte.toNat * 256 ^ rest.length + bytesNumber rest) % 256 ^ rest.length =
          bytesNumber rest := by
        rw [Nat.add_comm, Nat.add_mul_mod_self_right, Nat.mod_eq_of_lt small]
      rw [bytesNumber_cons, List.length_cons, numberBytes, top, UInt8.ofNat_toNat,
        ← numberBytes_mod (Nat.le_refl _), below, ih]

theorem foldl_zeros (padding : Nat) :
    (List.replicate padding 0x30).foldl
      (fun value byte => value * 16 + (digitValue byte).getD 0) 0 = 0 := by
  induction padding with
  | zero => rfl
  | succ padding ih =>
      rw [List.replicate_succ, List.foldl_cons]
      exact ih

/-- A padded number is read back. -/
theorem fromStrRadix_paddedHex (digits : Nat) (value : UInt64) :
    fromStrRadix 16 (2 ^ 64) ((utf8 (paddedHex digits value)).drop 2) = some value.toNat := by
  have written : (utf8 (paddedHex digits value)).drop 2 =
      List.replicate (digits - (Nat.toDigits 16 value.toNat).length) 0x30 ++
        hexadecimal value.toNat := by
    have zeros (count : Nat) : (List.replicate count '0').flatMap String.utf8EncodeChar =
        List.replicate count 0x30 := by
      induction count with
      | zero => rfl
      | succ count ih =>
          rw [List.replicate_succ, List.flatMap_cons, ih]
          rfl
    rw [utf8, paddedHex, String.toList_ofList, List.flatMap_cons, List.flatMap_cons,
      List.flatMap_append, zeros, ← hexadecimal_eq]
    rfl
  rw [written]
  generalize digits - (Nat.toDigits 16 value.toNat).length = padding
  have lower : ∀ byte ∈ List.replicate padding 0x30 ++ hexadecimal value.toNat,
      isLowerHex byte = true := by
    intro byte member
    rcases List.mem_append.mp member with zero | digit
    · rw [List.eq_of_mem_replicate zero]
      rfl
    · exact isLowerHex_of_mem_hexadecimal digit
  have number : ofDigits 16 (List.replicate padding 0x30 ++ hexadecimal value.toNat) =
      value.toNat := by
    rw [ofDigits, List.foldl_append, foldl_zeros]
    exact ofDigits_hexadecimal value.toNat
  have nonempty : List.replicate padding 0x30 ++ hexadecimal value.toNat ≠ [] := by
    have some_digit := hexadecimal_ne_nil value.toNat
    simp [some_digit]
  have unsigned : (List.replicate padding 0x30 ++ hexadecimal value.toNat).head? ≠ some 0x2b := by
    intro sign
    have member := List.mem_of_head? sign
    cases lower _ member
  have digits : (List.replicate padding 0x30 ++ hexadecimal value.toNat).all (isDigit 16) = true :=
    List.all_eq_true.mpr fun byte member => isDigit_of_isLowerHex (lower byte member)
  have fits : value.toNat < 2 ^ 64 := value.toNat_lt
  simp only [fromStrRadix]
  rw [if_neg unsigned, if_neg (by simpa using nonempty), digits, number, Bool.true_and,
    decide_eq_true fits, if_pos rfl]

/-! ## Groups of bytes -/

/-- `chunks_exact`, with the number of chunks. -/
def chunksExact (width : Nat) : Nat → List UInt8 → List (List UInt8)
  | 0, _ => []
  | count + 1, bytes => bytes.take width :: chunksExact width count (bytes.drop width)

attribute [grind =] chunksExact

/-- The number of a group in one of the two orders. -/
def groupNumber (big : Bool) (group : List UInt8) : UInt64 :=
  if big then bigEndian group else bigEndian group.reverse

/-- The bytes that a value of a view stands for. -/
def valueBytes (big : Bool) (width : Nat) (text : String) : Option (List UInt8) :=
  (fromStrRadix 16 (2 ^ 64) ((utf8 text).drop 2)).map fun value =>
    if big then numberBytes width value else (numberBytes width value).reverse

theorem flatten_chunksExact {width count : Nat} {bytes : List UInt8}
    (whole : bytes.length = count * width) : (chunksExact width count bytes).flatten = bytes := by
  induction count generalizing bytes with
  | zero =>
      rw [Nat.zero_mul] at whole
      rw [List.eq_nil_of_length_eq_zero whole]
      rfl
  | succ count ih =>
      rw [Nat.succ_mul] at whole
      rw [chunksExact, List.flatten_cons, ih (by rw [List.length_drop]; omega),
        List.take_append_drop]

theorem length_of_mem_chunksExact {width count : Nat} {bytes group : List UInt8}
    (whole : bytes.length = count * width) (member : group ∈ chunksExact width count bytes) :
    group.length = width := by
  induction count generalizing bytes with
  | zero => cases member
  | succ count ih =>
      rw [Nat.succ_mul] at whole
      rw [chunksExact] at member
      rcases List.mem_cons.mp member with rfl | member
      · rw [List.length_take]
        omega
      · exact ih (by rw [List.length_drop]; omega) member

theorem length_chunksExact (width count : Nat) (bytes : List UInt8) :
    (chunksExact width count bytes).length = count := by
  induction count generalizing bytes with
  | zero => rfl
  | succ count ih => rw [chunksExact, List.length_cons, ih]

theorem getElem?_chunksExact {width count index : Nat} (below : index < count)
    (bytes : List UInt8) :
    (chunksExact width count bytes)[index]? = some ((bytes.drop (index * width)).take width) := by
  induction count generalizing index bytes with
  | zero => cases below
  | succ count ih =>
      rw [chunksExact]
      cases index with
      | zero => rw [List.getElem?_cons_zero, Nat.zero_mul, List.drop_zero]
      | succ index =>
          rw [List.getElem?_cons_succ, ih (by omega), List.drop_drop, Nat.succ_mul,
            Nat.add_comm width]

/-- The text of a group is read back to its bytes. -/
theorem valueBytes_paddedHex {big : Bool} {width : Nat} {group : List UInt8}
    (size : group.length = width) (short : width ≤ 8) :
    valueBytes big width (paddedHex (width * 2) (groupNumber big group)) = some group := by
  rw [valueBytes, fromStrRadix_paddedHex, Option.map_some, groupNumber]
  cases big with
  | true =>
      rw [if_pos rfl, if_pos rfl, toNat_bigEndian (by omega), ← size, numberBytes_bytesNumber]
  | false =>
      rw [if_neg Bool.false_ne_true, if_neg Bool.false_ne_true,
        toNat_bigEndian (by rw [List.length_reverse]; omega), ← size, ← group.length_reverse,
        numberBytes_bytesNumber, List.reverse_reverse]

/-- The texts of all groups together are read back to all bytes. -/
theorem mapM_valueBytes {big : Bool} {width count : Nat} {bytes : List UInt8}
    (whole : bytes.length = count * width) (short : width ≤ 8) :
    (((chunksExact width count bytes).map fun group =>
        paddedHex (width * 2) (groupNumber big group)).mapM (valueBytes big width)).map
      List.flatten = some bytes := by
  have each : ∀ group ∈ chunksExact width count bytes,
      valueBytes big width (paddedHex (width * 2) (groupNumber big group)) = some group :=
    fun group member => valueBytes_paddedHex (length_of_mem_chunksExact whole member) short
  have back (groups : List (List UInt8))
      (each : ∀ group ∈ groups,
        valueBytes big width (paddedHex (width * 2) (groupNumber big group)) = some group) :
      (groups.map fun group => paddedHex (width * 2) (groupNumber big group)).mapM
        (valueBytes big width) = some groups := by
    induction groups with
    | nil => rfl
    | cons group groups ih =>
        rw [List.map_cons, List.mapM_cons, each group List.mem_cons_self,
          ih fun other member => each other (List.mem_cons_of_mem _ member)]
        rfl
  rw [back _ each, Option.map_some, flatten_chunksExact whole]

end X64dbgMcp.Text
