import X64dbgMcp.Text.Utf8Scan

/-!
# Whole characters at the beginning of some bytes

A decoder that stops at the first unit it cannot read tells how much it has read.  For
UTF-8 and for UTF-16LE this is the longest beginning that consists of whole characters.
-/

namespace X64dbgMcp.Text

/-- The count of the longest beginning that encodes some characters. -/
structure LongestEncoded (encode : Char → List UInt8) (bytes : List UInt8) (count : Nat) :
    Prop where
  within : count ≤ bytes.length
  whole : ∃ characters : List Char, bytes.take count = characters.flatMap encode
  longest : ∀ more, more ≤ bytes.length →
    (∃ characters : List Char, bytes.take more = characters.flatMap encode) → more ≤ count

/-! ## UTF-8 -/

/-- A character that the scan accepts is there. -/
theorem exists_of_lead {bytes : List UInt8} {length : Nat} (leads : lead bytes = .character length) :
    ∃ character rest, bytes = String.utf8EncodeChar character ++ rest ∧
      (String.utf8EncodeChar character).length = length := by
  rcases bytes with _ | ⟨first, rest⟩
  · cases leads
  simp only [lead] at leads
  split_ifs at leads with malformed short
  cases leads
  have follows := (not_or.mp malformed).2
  rw [Bool.not_eq_false] at follows
  rcases characterLength_spec first with
    ⟨ascii, count⟩ | ⟨low, high, count⟩ | ⟨low, high, count⟩ | ⟨low, high, count⟩ | ⟨-, count⟩
  · have encoded := encode_one ascii
    exact ⟨_, rest, by rw [encoded]; rfl, by rw [encoded, count]; rfl⟩
  · rw [count] at follows short
    rcases rest with _ | ⟨second, rest⟩
    · simp at short
    have fits : isSecond first second = true := by simpa [continues] using follows
    have plain : isContinuation second = true := by
      have range := toNat_of_isSecond fits
      simpa [isContinuation, UInt8.le_iff_toNat_le] using ⟨range.1, range.2.1⟩
    have encoded := encode_two low high plain
    exact ⟨_, rest, by rw [encoded]; rfl, by rw [encoded, count]; rfl⟩
  · rw [count] at follows short
    rcases rest with _ | ⟨second, _ | ⟨third, rest⟩⟩
    · simp at short
    · simp at short
    have fits : isSecond first second = true ∧ isContinuation third = true := by
      simpa [continues] using follows
    have encoded := encode_three low high fits.1 fits.2
    exact ⟨_, rest, by rw [encoded]; rfl, by rw [encoded, count]; rfl⟩
  · rw [count] at follows short
    rcases rest with _ | ⟨second, _ | ⟨third, _ | ⟨fourth, rest⟩⟩⟩
    · simp at short
    · simp at short
    · simp at short
    have fits : isSecond first second = true ∧ isContinuation third = true ∧
        isContinuation fourth = true := by
      simpa [continues] using follows
    have encoded := encode_four low high fits.1 fits.2.1 fits.2.2
    exact ⟨_, rest, by rw [encoded]; rfl, by rw [encoded, count]; rfl⟩
  · exact absurd count (not_or.mp malformed).1

/-- Where the scan stops. -/
def Utf8Check.stop : Utf8Check → Option Nat
  | .valid => none
  | .unfinished position => some position
  | .invalid position => some position

theorem stop_scan_ge {fuel position at_ : Nat} {bytes : List UInt8}
    (stops : (scan fuel position bytes).stop = some at_) : position ≤ at_ := by
  induction fuel generalizing position bytes with
  | zero =>
      cases bytes with
      | nil => cases stops
      | cons first rest =>
          cases stops
          exact Nat.le_refl _
  | succ fuel ih =>
      cases bytes with
      | nil => cases stops
      | cons first rest =>
          rw [scan] at stops
          split at stops
          · have more := ih stops
            omega
          · cases stops
            exact Nat.le_refl _
          · cases stops
            exact Nat.le_refl _
          · simp

/-- What the scan has passed, and where it has stopped. -/
theorem scan_spec {fuel position : Nat} {bytes : List UInt8} (enough : bytes.length ≤ fuel) :
    ∃ characters : List Char, ∃ rest, bytes = characters.flatMap String.utf8EncodeChar ++ rest ∧
      ((scan fuel position bytes).stop = none ∧ rest = [] ∨
        (scan fuel position bytes).stop =
          some (position + (characters.flatMap String.utf8EncodeChar).length)) := by
  induction fuel generalizing position bytes with
  | zero =>
      have empty := List.eq_nil_of_length_eq_zero (Nat.le_zero.mp enough)
      subst empty
      exact ⟨[], [], rfl, .inl ⟨rfl, rfl⟩⟩
  | succ fuel ih =>
      by_cases empty : bytes = []
      · subst empty
        exact ⟨[], [], rfl, .inl ⟨rfl, rfl⟩⟩
      rcases leads : lead bytes with length | _ | _
      · rw [scan_of_character leads empty]
        rcases exists_of_lead leads with ⟨character, rest, rfl, rfl⟩
        have positive := length_encode_pos character
        rw [List.length_append] at enough
        rw [List.drop_left]
        rcases @ih (position + (String.utf8EncodeChar character).length) rest (by omega) with
          ⟨characters, left, rfl, ends⟩
        refine ⟨character :: characters, left, ?_, ?_⟩
        · rw [List.flatMap_cons, List.append_assoc]
        · rw [List.flatMap_cons, List.length_append, ← Nat.add_assoc]
          exact ends
      · rw [scan_of_unfinished leads empty]
        exact ⟨[], bytes, rfl, .inr rfl⟩
      · have stopped : scan (fuel + 1) position bytes = .invalid position := by
          cases bytes with
          | nil => exact absurd rfl empty
          | cons first rest => simp only [scan, leads]
        rw [stopped]
        exact ⟨[], bytes, rfl, .inr rfl⟩

/-- The scan accepts what consists of whole characters, and otherwise tells the longest
beginning that does. -/
theorem fromUtf8_spec (bytes : List UInt8) :
    ((fromUtf8 bytes).stop = none ∧ IsUtf8 bytes) ∨
      ∃ at_, (fromUtf8 bytes).stop = some at_ ∧
        LongestEncoded String.utf8EncodeChar bytes at_ := by
  rcases @scan_spec bytes.length 0 bytes (Nat.le_refl _) with
    ⟨characters, rest, split, ⟨valid, rfl⟩ | stops⟩
  · rw [List.append_nil] at split
    exact .inl ⟨valid, characters, split⟩
  · rw [Nat.zero_add] at stops
    refine .inr ⟨_, stops, ?_, ⟨characters, ?_⟩, ?_⟩
    · rw [split, List.length_append]
      exact Nat.le_add_right _ _
    · rw [split, List.take_left]
    · rintro more within ⟨others, taken⟩
      have whole : bytes = others.flatMap String.utf8EncodeChar ++ bytes.drop more := by
        rw [← taken, List.take_append_drop]
      rcases @scan_characters others (bytes.drop more) bytes.length 0
        (Nat.le_of_eq (by rw [← whole])) with ⟨left, -, scanned⟩
      rw [← whole] at scanned
      rw [scanned] at stops
      have passed := stop_scan_ge stops
      rw [← taken, List.length_take_of_le within] at passed
      omega

/-- The text of bytes that the check has passed. -/
theorem fromUTF8_utf8 (text : String) : String.fromUTF8? (utf8 text).toByteArray = some text := by
  have same : (utf8 text).toByteArray = text.toByteArray := String.utf8Encode_toList
  rw [same, String.fromUTF8?, dif_pos text.isValidUTF8]
  rfl

/-! ## UTF-16LE -/

/-- The units of a character. -/
def utf16Units (character : Char) : List Nat :=
  if character.toNat < 0x10000 then [character.toNat]
  else
    [0xd800 + (character.toNat - 0x10000) / 0x400, 0xdc00 + (character.toNat - 0x10000) % 0x400]

/-- The bytes of a unit, the low one first. -/
def leBytes (unit : Nat) : List UInt8 :=
  [UInt8.ofNat unit, UInt8.ofNat (unit / 256)]

/-- A character as it lies in memory. -/
def utf16Le (character : Char) : List UInt8 :=
  (utf16Units character).flatMap leBytes

/-- The units of pairs of bytes. -/
def leUnits : List UInt8 → List Nat
  | low :: high :: rest => (low.toNat + 256 * high.toNat) :: leUnits rest
  | _ => []

/-- The loop over `char::decode_utf16`, up to its first error. -/
def decodeUtf16 (offset : Nat) (text : List Char) : List Nat → Except Nat (List Char)
  | [] => .ok text
  | unit :: rest =>
      if unit < 0xd800 ∨ 0xdfff < unit then
        decodeUtf16 (offset + 2) (text ++ [Char.ofNat unit]) rest
      else if 0xdc00 ≤ unit then .error offset
      else
        match rest with
        | [] => .error offset
        | low :: rest =>
            if low < 0xdc00 ∨ 0xdfff < low then .error offset
            else
              decodeUtf16 (offset + 4)
                (text ++ [Char.ofNat (0x10000 + (unit - 0xd800) * 0x400 + (low - 0xdc00))]) rest

theorem toNat_char_ofNat {value : Nat} (valid : value.isValidChar) :
    (Char.ofNat value).toNat = value :=
  toNat_ofNat valid

/-- A unit that is no surrogate is a character. -/
theorem utf16Units_ofNat_one {unit : Nat} (small : unit < 0x10000)
    (plain : unit < 0xd800 ∨ 0xdfff < unit) : utf16Units (Char.ofNat unit) = [unit] := by
  have valid : unit.isValidChar := by
    unfold Nat.isValidChar
    omega
  rw [utf16Units, toNat_char_ofNat valid, if_pos small]

/-- Two surrogates in the right order are a character. -/
theorem utf16Units_ofNat_two {high low : Nat} (highRange : 0xd800 ≤ high ∧ high < 0xdc00)
    (lowRange : 0xdc00 ≤ low ∧ low ≤ 0xdfff) :
    utf16Units (Char.ofNat (0x10000 + (high - 0xd800) * 0x400 + (low - 0xdc00))) = [high, low] := by
  have valid : (0x10000 + (high - 0xd800) * 0x400 + (low - 0xdc00)).isValidChar := by
    unfold Nat.isValidChar
    omega
  rw [utf16Units, toNat_char_ofNat valid, if_neg (by omega)]
  simp only [List.cons.injEq, and_true]
  omega

/-- What the units of a character are. -/
theorem utf16Units_spec (character : Char) :
    (∃ unit, utf16Units character = [unit] ∧ (unit < 0xd800 ∨ 0xdfff < unit) ∧
        character = Char.ofNat unit) ∨
      ∃ high low, utf16Units character = [high, low] ∧ (0xd800 ≤ high ∧ high < 0xdc00) ∧
        (0xdc00 ≤ low ∧ low ≤ 0xdfff) ∧
        character = Char.ofNat (0x10000 + (high - 0xd800) * 0x400 + (low - 0xdc00)) := by
  have valid : character.toNat < 0xd800 ∨ 0xdfff < character.toNat ∧ character.toNat < 0x110000 :=
    character.valid
  rw [utf16Units]
  split_ifs with small
  · refine .inl ⟨_, rfl, ?_, (Char.ofNat_toNat character).symm⟩
    omega
  · refine .inr ⟨_, _, rfl, by omega, by omega, ?_⟩
    have number : 0x10000 + (0xd800 + (character.toNat - 0x10000) / 0x400 - 0xd800) * 0x400 +
        (0xdc00 + (character.toNat - 0x10000) % 0x400 - 0xdc00) = character.toNat := by
      omega
    rw [number, Char.ofNat_toNat]

/-- Whole characters are decoded. -/
theorem decodeUtf16_characters (characters : List Char) (rest : List Nat) (offset : Nat)
    (text : List Char) :
    decodeUtf16 offset text (characters.flatMap utf16Units ++ rest) =
      decodeUtf16 (offset + 2 * (characters.flatMap utf16Units).length) (text ++ characters)
        rest := by
  induction characters generalizing offset text with
  | nil => simp
  | cons character others ih =>
      rw [List.flatMap_cons, List.append_assoc]
      rcases utf16Units_spec character with ⟨unit, units, plain, same⟩ |
        ⟨high, low, units, highRange, lowRange, same⟩
      · rw [units]
        rw [List.singleton_append, decodeUtf16.eq_def]
        simp only []
        rw [if_pos plain, ← same, ih]
        simp only [List.singleton_append, List.length_cons, List.append_assoc]
        congr 1
        omega
      · have surrogate : ¬ (high < 0xd800 ∨ 0xdfff < high) := by omega
        have first : ¬ 0xdc00 ≤ high := by omega
        have second : ¬ (low < 0xdc00 ∨ 0xdfff < low) := by omega
        rw [units]
        simp only [List.cons_append, List.nil_append, decodeUtf16]
        rw [if_neg surrogate, if_neg first, if_neg second, ← same, ih]
        simp only [List.length_cons, List.append_assoc, List.singleton_append]
        congr 1
        omega

theorem le_of_decodeUtf16_error {units : List Nat} {offset at_ : Nat} {text : List Char}
    (stops : decodeUtf16 offset text units = .error at_) : offset ≤ at_ := by
  fun_induction decodeUtf16 offset text units with
  | case1 => cases stops
  | case2 offset text unit rest plain ih =>
      have more := ih stops
      omega
  | case3 => cases stops; exact Nat.le_refl _
  | case4 => cases stops; exact Nat.le_refl _
  | case5 => cases stops; exact Nat.le_refl _
  | case6 offset text unit surrogate first low rest second ih =>
      have more := ih stops
      omega

/-- What has been decoded, and where decoding stops. -/
theorem decodeUtf16_spec {units : List Nat} (small : ∀ unit ∈ units, unit < 0x10000)
    (offset : Nat) (text : List Char) :
    ∃ characters : List Char, ∃ rest, units = characters.flatMap utf16Units ++ rest ∧
      (decodeUtf16 offset text units = .ok (text ++ characters) ∧ rest = [] ∨
        decodeUtf16 offset text units =
          .error (offset + 2 * (characters.flatMap utf16Units).length)) := by
  fun_induction decodeUtf16 offset text units with
  | case1 offset text => exact ⟨[], [], rfl, .inl ⟨by rw [List.append_nil], rfl⟩⟩
  | case2 offset text unit rest plain ih =>
      rcases ih fun other member => small other (List.mem_cons_of_mem _ member) with
        ⟨characters, left, split, ends⟩
      have encoded := utf16Units_ofNat_one (small unit List.mem_cons_self) plain
      refine ⟨Char.ofNat unit :: characters, left, ?_, ?_⟩
      · rw [List.flatMap_cons, encoded, split]
        rfl
      · rw [List.flatMap_cons, encoded]
        rcases ends with ⟨decoded, empty⟩ | stops
        · refine .inl ⟨?_, empty⟩
          rw [decoded, List.append_assoc]
          rfl
        · refine .inr ?_
          rw [stops, List.singleton_append, List.length_cons]
          congr 1
          omega
  | case3 offset text unit rest surrogate first =>
      exact ⟨[], unit :: rest, rfl, .inr rfl⟩
  | case4 offset text unit surrogate first => exact ⟨[], [unit], rfl, .inr rfl⟩
  | case5 offset text unit surrogate first low rest second =>
      exact ⟨[], unit :: low :: rest, rfl, .inr rfl⟩
  | case6 offset text unit surrogate first low rest second ih =>
      rcases ih fun other member =>
        small other (List.mem_cons_of_mem _ (List.mem_cons_of_mem _ member)) with
        ⟨characters, left, split, ends⟩
      have encoded := @utf16Units_ofNat_two unit low (by omega) (by omega)
      generalize Char.ofNat (0x10000 + (unit - 0xd800) * 0x400 + (low - 0xdc00)) = character at *
      refine ⟨character :: characters, left, ?_, ?_⟩
      · rw [List.flatMap_cons, encoded, split]
        simp only [List.cons_append, List.nil_append]
      · rw [List.flatMap_cons, encoded]
        rcases ends with ⟨decoded, empty⟩ | stops
        · refine .inl ⟨?_, empty⟩
          rw [decoded, List.append_assoc]
          rfl
        · refine .inr ?_
          rw [stops]
          simp only [List.cons_append, List.nil_append, List.length_cons]
          congr 1
          omega

/-- The units of a byte string are read back from their bytes. -/
theorem leUnits_append {units : List Nat} (small : ∀ unit ∈ units, unit < 0x10000)
    (rest : List UInt8) : leUnits (units.flatMap leBytes ++ rest) = units ++ leUnits rest := by
  induction units with
  | nil => rfl
  | cons unit units ih =>
      have fits := small unit List.mem_cons_self
      have number : (UInt8.ofNat unit).toNat + 256 * (UInt8.ofNat (unit / 256)).toNat = unit := by
        rw [UInt8.toNat_ofNat', UInt8.toNat_ofNat']
        omega
      rw [List.flatMap_cons, leBytes]
      simp only [List.cons_append, List.nil_append, leUnits, number]
      rw [ih fun other member => small other (List.mem_cons_of_mem _ member)]

theorem lt_of_mem_leUnits {bytes : List UInt8} {unit : Nat} (member : unit ∈ leUnits bytes) :
    unit < 0x10000 := by
  fun_induction leUnits bytes with
  | case1 low high rest ih =>
      rcases List.mem_cons.mp member with rfl | member
      · have lowBounded := low.toNat_lt
        have highBounded := high.toNat_lt
        omega
      · exact ih member
  | case2 => cases member

theorem flatMap_leUnits {bytes : List UInt8} (even : bytes.length % 2 = 0) :
    (leUnits bytes).flatMap leBytes = bytes := by
  fun_induction leUnits bytes with
  | case1 low high rest ih =>
      have lowBounded := low.toNat_lt
      have highBounded := high.toNat_lt
      have fewer : rest.length % 2 = 0 := by
        simp only [List.length_cons] at even
        omega
      have first : UInt8.ofNat (low.toNat + 256 * high.toNat) = low := by
        rw [← UInt8.toNat_inj, UInt8.toNat_ofNat']
        omega
      have second : UInt8.ofNat ((low.toNat + 256 * high.toNat) / 256) = high := by
        rw [← UInt8.toNat_inj, UInt8.toNat_ofNat']
        omega
      rw [List.flatMap_cons, ih fewer, leBytes, first, second]
      rfl
  | case2 bytes none_left =>
      rcases bytes with _ | ⟨one, _ | ⟨two, rest⟩⟩
      · rfl
      · cases even
      · exact absurd rfl (none_left one two rest)

theorem flatMap_utf16Le (characters : List Char) :
    characters.flatMap utf16Le = (characters.flatMap utf16Units).flatMap leBytes := by
  rw [List.flatMap_assoc]
  rfl

theorem length_flatMap_leBytes (units : List Nat) :
    (units.flatMap leBytes).length = 2 * units.length := by
  induction units with
  | nil => rfl
  | cons unit units ih =>
      rw [List.flatMap_cons, List.length_append, ih, List.length_cons]
      change 2 + 2 * units.length = _
      omega

theorem utf16Units_small (characters : List Char) :
    ∀ unit ∈ characters.flatMap utf16Units, unit < 0x10000 := by
  intro unit member
  rcases List.mem_flatMap.mp member with ⟨character, -, member⟩
  have bounded : character.toNat < 0x110000 := by
    rcases character.valid with low | high
    · exact Nat.lt_trans low (by decide)
    · exact high.2
  rw [utf16Units] at member
  split_ifs at member with small
  · rw [List.mem_singleton.mp member]
    exact small
  · rcases List.mem_cons.mp member with rfl | member
    · omega
    · rw [List.mem_singleton.mp member]
      omega

/-- The loop over the units decodes what consists of whole characters, and otherwise
tells the longest beginning that does. -/
theorem decodeUtf16_bytes {bytes : List UInt8} (even : bytes.length % 2 = 0) :
    (∃ characters, decodeUtf16 0 [] (leUnits bytes) = .ok characters ∧
        bytes = characters.flatMap utf16Le) ∨
      ∃ at_, decodeUtf16 0 [] (leUnits bytes) = .error at_ ∧
        LongestEncoded utf16Le bytes at_ := by
  rcases decodeUtf16_spec (fun unit => @lt_of_mem_leUnits bytes unit) 0 [] with
    ⟨characters, rest, split, ⟨decoded, rfl⟩ | stops⟩
  · rw [List.append_nil] at split
    refine .inl ⟨characters, decoded, ?_⟩
    rw [flatMap_utf16Le, ← split, flatMap_leUnits even]
  · have whole := flatMap_leUnits even
    rw [split, List.flatMap_append, ← flatMap_utf16Le] at whole
    have size : (characters.flatMap utf16Le).length =
        2 * (characters.flatMap utf16Units).length := by
      rw [flatMap_utf16Le, length_flatMap_leBytes]
    rw [Nat.zero_add, ← size] at stops
    refine .inr ⟨_, stops, ?_, ⟨characters, ?_⟩, ?_⟩
    · rw [← whole, List.length_append]
      exact Nat.le_add_right _ _
    · rw [← whole, List.take_left]
    · rintro more within ⟨others, taken⟩
      have again : bytes = (others.flatMap utf16Units).flatMap leBytes ++ bytes.drop more := by
        rw [← flatMap_utf16Le, ← taken, List.take_append_drop]
      have units := leUnits_append (utf16Units_small others) (bytes.drop more)
      rw [← again] at units
      rw [units, decodeUtf16_characters, Nat.zero_add] at stops
      have passed := le_of_decodeUtf16_error stops
      rw [← length_flatMap_leBytes, ← flatMap_utf16Le, ← taken,
        List.length_take_of_le within] at passed
      exact passed

end X64dbgMcp.Text
