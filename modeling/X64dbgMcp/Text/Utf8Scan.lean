import X64dbgMcp.Text.Utf8

/-!
# Checking bytes for UTF-8

The check reads one character after the other.  Where it stops it tells a character
that the bytes end in from a byte that no character can have there.
-/

namespace X64dbgMcp.Text

/-- The result of `str::from_utf8`; an unfinished error has no length. -/
inductive Utf8Check where
  | valid
  | unfinished (validUpTo : Nat)
  | invalid (validUpTo : Nat)
  deriving DecidableEq

/-- The length of a character with this first byte, or 0. -/
def characterLength (first : UInt8) : Nat :=
  if first < 0x80 then 1
  else if 0xc2 ≤ first ∧ first ≤ 0xdf then 2
  else if 0xe0 ≤ first ∧ first ≤ 0xef then 3
  else if 0xf0 ≤ first ∧ first ≤ 0xf4 then 4
  else 0

/-- A byte that continues a character. -/
def isContinuation (byte : UInt8) : Bool :=
  0x80 ≤ byte && byte ≤ 0xbf

/-- The second byte excludes overlong forms, surrogates and what is above the last
character. -/
def isSecond (first second : UInt8) : Bool :=
  if first = 0xe0 then 0xa0 ≤ second && second ≤ 0xbf
  else if first = 0xed then 0x80 ≤ second && second ≤ 0x9f
  else if first = 0xf0 then 0x90 ≤ second && second ≤ 0xbf
  else if first = 0xf4 then 0x80 ≤ second && second ≤ 0x8f
  else isContinuation second

/-- The bytes can follow the first byte of a character. -/
def continues (first : UInt8) : List UInt8 → Bool
  | [] => true
  | second :: others => isSecond first second && others.all isContinuation

/-- What the bytes begin with. -/
inductive Lead where
  | character (length : Nat)
  | unfinished
  | malformed
  deriving DecidableEq

/-- What the bytes start with. -/
def lead : List UInt8 → Lead
  | [] => .unfinished
  | first :: rest =>
      let more := characterLength first - 1
      if characterLength first = 0 ∨ continues first (rest.take more) = false then .malformed
      else if rest.length < more then .unfinished
      else .character (characterLength first)

/-- Each character has a byte, so the length of the bytes is enough fuel. -/
def scan : Nat → Nat → List UInt8 → Utf8Check
  | _, _, [] => .valid
  | 0, position, _ => .invalid position
  | fuel + 1, position, bytes =>
      match lead bytes with
      | .character length => scan fuel (position + length) (bytes.drop length)
      | .unfinished => .unfinished position
      | .malformed => .invalid position

/-- Check the bytes from the front. -/
def fromUtf8 (bytes : List UInt8) : Utf8Check :=
  scan bytes.length 0 bytes

/-- The bytes of some characters. -/
def IsUtf8 (bytes : List UInt8) : Prop :=
  ∃ characters : List Char, bytes = characters.flatMap String.utf8EncodeChar

/-! ## One character -/

theorem continues_prefix {first : UInt8} {part whole : List UInt8} (isPrefix : part <+: whole)
    (fits : continues first whole = true) : continues first part = true := by
  rcases isPrefix with ⟨rest, rfl⟩
  cases part with
  | nil => rfl
  | cons second others =>
      simp only [List.cons_append, continues, List.all_append, Bool.and_eq_true] at fits
      simp only [continues, Bool.and_eq_true]
      exact ⟨fits.1, fits.2.1⟩

theorem toNat_le_of_char (character : Char) :
    character.val.toNat < 0xd800 ∨ 0xdfff < character.val.toNat ∧ character.val.toNat < 0x110000 :=
  character.valid

theorem characterLength_ofNat {value : Nat} (byte : value < 256) :
    characterLength (UInt8.ofNat value) =
      if value < 0x80 then 1
      else if 0xc2 ≤ value ∧ value ≤ 0xdf then 2
      else if 0xe0 ≤ value ∧ value ≤ 0xef then 3
      else if 0xf0 ≤ value ∧ value ≤ 0xf4 then 4
      else 0 := by
  have same : (UInt8.ofNat value).toNat = value := by
    rw [UInt8.toNat_ofNat', Nat.mod_eq_of_lt byte]
  simp only [characterLength, UInt8.lt_iff_toNat_lt, UInt8.le_iff_toNat_le, same]
  rfl

theorem isContinuation_ofNat {value : Nat} (low : 0x80 ≤ value) (high : value ≤ 0xbf) :
    isContinuation (UInt8.ofNat value) = true := by
  have same : (UInt8.ofNat value).toNat = value := by
    rw [UInt8.toNat_ofNat', Nat.mod_eq_of_lt (by omega)]
  simp only [isContinuation, Bool.and_eq_true, decide_eq_true_eq, UInt8.le_iff_toNat_le, same]
  exact ⟨low, high⟩

theorem isSecond_ofNat {first second : Nat} (byte : first < 256) (low : 0x80 ≤ second)
    (high : second ≤ 0xbf) (short : first = 0xe0 → 0xa0 ≤ second)
    (surrogate : first = 0xed → second ≤ 0x9f) (overlong : first = 0xf0 → 0x90 ≤ second)
    (last : first = 0xf4 → second ≤ 0x8f) :
    isSecond (UInt8.ofNat first) (UInt8.ofNat second) = true := by
  have firstEq : (UInt8.ofNat first).toNat = first := by
    rw [UInt8.toNat_ofNat', Nat.mod_eq_of_lt byte]
  have secondEq : (UInt8.ofNat second).toNat = second := by
    rw [UInt8.toNat_ofNat', Nat.mod_eq_of_lt (by omega)]
  simp only [isSecond, isContinuation, ← UInt8.toNat_inj, UInt8.le_iff_toNat_le, firstEq, secondEq]
  split_ifs with e0 ed f0 f4 <;>
    simp only [Bool.and_eq_true, decide_eq_true_eq, UInt8.reduceToNat] at * <;> omega

/-- The first byte of a character tells its length, and the others follow it. -/
theorem encode_spec (character : Char) :
    ∃ first others, String.utf8EncodeChar character = first :: others ∧
      characterLength first = others.length + 1 ∧ continues first others = true := by
  have range := toNat_le_of_char character
  unfold String.utf8EncodeChar
  dsimp only
  generalize character.val.toNat = value at range
  split_ifs with one two three
  · refine ⟨_, _, rfl, ?_, rfl⟩
    rw [characterLength_ofNat (by omega), if_pos (by omega)]
    rfl
  · refine ⟨_, _, rfl, ?_, ?_⟩
    · rw [characterLength_ofNat (by omega), if_neg (by omega), if_pos (by omega)]
      rfl
    · simp only [continues, List.all_nil, Bool.and_true]
      apply isSecond_ofNat <;> omega
  · refine ⟨_, _, rfl, ?_, ?_⟩
    · rw [characterLength_ofNat (by omega), if_neg (by omega), if_neg (by omega),
        if_pos (by omega)]
      rfl
    · simp only [continues, List.all_cons, List.all_nil, Bool.and_true, Bool.and_eq_true]
      constructor
      · apply isSecond_ofNat <;> omega
      · apply isContinuation_ofNat <;> omega
  · refine ⟨_, _, rfl, ?_, ?_⟩
    · rw [characterLength_ofNat (by omega), if_neg (by omega), if_neg (by omega),
        if_neg (by omega), if_pos (by omega)]
      rfl
    · simp only [continues, List.all_cons, List.all_nil, Bool.and_true, Bool.and_eq_true]
      refine ⟨?_, ?_, ?_⟩
      · apply isSecond_ofNat <;> omega
      · apply isContinuation_ofNat <;> omega
      · apply isContinuation_ofNat <;> omega

theorem lead_encode (character : Char) (rest : List UInt8) :
    lead (String.utf8EncodeChar character ++ rest) =
      .character (String.utf8EncodeChar character).length := by
  rcases encode_spec character with ⟨first, others, encoded, length, fits⟩
  rw [encoded, List.cons_append]
  simp only [lead, length, Nat.add_sub_cancel, List.take_left, fits, List.length_append,
    List.length_cons]
  rw [if_neg (by simp), if_neg (by omega)]

/-- The bytes end in a character. -/
theorem lead_part {character : Char} {part : List UInt8} (some : part ≠ [])
    (isPrefix : part <+: String.utf8EncodeChar character)
    (proper : part ≠ String.utf8EncodeChar character) : lead part = .unfinished := by
  rcases encode_spec character with ⟨first, others, encoded, length, fits⟩
  rw [encoded] at isPrefix proper
  cases part with
  | nil => exact absurd rfl some
  | cons head rest =>
      rcases List.cons_prefix_cons.mp isPrefix with ⟨rfl, restPrefix⟩
      have shorter : rest.length < others.length := by
        refine Nat.lt_of_le_of_ne restPrefix.length_le ?_
        intro same
        exact proper (congrArg _ (restPrefix.eq_of_length same))
      have all : rest.take others.length = rest := List.take_of_length_le (Nat.le_of_lt shorter)
      simp only [lead, length, Nat.add_sub_cancel, all, continues_prefix restPrefix fits]
      rw [if_neg (by simp), if_pos shorter]

theorem characterLength_spec (first : UInt8) :
    (first.toNat < 0x80 ∧ characterLength first = 1) ∨
      (0xc2 ≤ first.toNat ∧ first.toNat ≤ 0xdf ∧ characterLength first = 2) ∨
      (0xe0 ≤ first.toNat ∧ first.toNat ≤ 0xef ∧ characterLength first = 3) ∨
      (0xf0 ≤ first.toNat ∧ first.toNat ≤ 0xf4 ∧ characterLength first = 4) ∨
      ((0x80 ≤ first.toNat ∧ first.toNat < 0xc2 ∨ 0xf4 < first.toNat) ∧
        characterLength first = 0) := by
  simp only [characterLength, UInt8.lt_iff_toNat_lt, UInt8.le_iff_toNat_le, UInt8.reduceToNat]
  split_ifs <;> omega

theorem toNat_of_isContinuation {byte : UInt8} (fits : isContinuation byte = true) :
    0x80 ≤ byte.toNat ∧ byte.toNat ≤ 0xbf := by
  simpa [isContinuation, UInt8.le_iff_toNat_le] using fits

theorem toNat_of_isSecond {first second : UInt8} (fits : isSecond first second = true) :
    0x80 ≤ second.toNat ∧ second.toNat ≤ 0xbf ∧ (first.toNat = 0xe0 → 0xa0 ≤ second.toNat) ∧
      (first.toNat = 0xed → second.toNat ≤ 0x9f) ∧ (first.toNat = 0xf0 → 0x90 ≤ second.toNat) ∧
      (first.toNat = 0xf4 → second.toNat ≤ 0x8f) := by
  simp only [isSecond, isContinuation, ← UInt8.toNat_inj, UInt8.le_iff_toNat_le] at fits
  split_ifs at fits with e0 ed f0 f4 <;>
    simp only [Bool.and_eq_true, decide_eq_true_eq, UInt8.reduceToNat] at * <;> omega

theorem toNat_ofNat {value : Nat} (valid : value.isValidChar) :
    (Char.ofNat value).val.toNat = value := by
  rw [Char.ofNat, dif_pos valid]
  rfl

theorem ofNat_eq {value : Nat} {byte : UInt8} (same : value = byte.toNat) :
    UInt8.ofNat value = byte := by
  rw [same, UInt8.ofNat_toNat]

theorem encode_one {first : UInt8} (ascii : first.toNat < 0x80) :
    String.utf8EncodeChar (Char.ofNat first.toNat) = [first] := by
  have valid : first.toNat.isValidChar := .inl (by omega)
  unfold String.utf8EncodeChar
  dsimp only
  rw [toNat_ofNat valid, if_pos (by omega), UInt8.ofNat_toNat]

theorem encode_two {first second : UInt8} (low : 0xc2 ≤ first.toNat) (high : first.toNat ≤ 0xdf)
    (fits : isContinuation second = true) :
    String.utf8EncodeChar (Char.ofNat (first.toNat % 32 * 64 + second.toNat % 64)) =
      [first, second] := by
  have range := toNat_of_isContinuation fits
  have valid : (first.toNat % 32 * 64 + second.toNat % 64).isValidChar := .inl (by omega)
  unfold String.utf8EncodeChar
  dsimp only
  rw [toNat_ofNat valid, if_neg (by omega), if_pos (by omega), @ofNat_eq _ first (by omega),
    @ofNat_eq _ second (by omega)]

theorem encode_three {first second third : UInt8} (low : 0xe0 ≤ first.toNat)
    (high : first.toNat ≤ 0xef) (fits : isSecond first second = true)
    (follows : isContinuation third = true) :
    String.utf8EncodeChar (Char.ofNat
      (first.toNat % 16 * 4096 + second.toNat % 64 * 64 + third.toNat % 64)) =
        [first, second, third] := by
  have range := toNat_of_isSecond fits
  have last := toNat_of_isContinuation follows
  have valid :
      (first.toNat % 16 * 4096 + second.toNat % 64 * 64 + third.toNat % 64).isValidChar := by
    unfold Nat.isValidChar
    omega
  unfold String.utf8EncodeChar
  dsimp only
  rw [toNat_ofNat valid, if_neg (by omega), if_neg (by omega), if_pos (by omega),
    @ofNat_eq _ first (by omega), @ofNat_eq _ second (by omega), @ofNat_eq _ third (by omega)]

theorem encode_four {first second third fourth : UInt8} (low : 0xf0 ≤ first.toNat)
    (high : first.toNat ≤ 0xf4) (fits : isSecond first second = true)
    (follows : isContinuation third = true) (ends : isContinuation fourth = true) :
    String.utf8EncodeChar (Char.ofNat (first.toNat % 8 * 262144 + second.toNat % 64 * 4096 +
      third.toNat % 64 * 64 + fourth.toNat % 64)) = [first, second, third, fourth] := by
  have range := toNat_of_isSecond fits
  have inner := toNat_of_isContinuation follows
  have last := toNat_of_isContinuation ends
  have valid : (first.toNat % 8 * 262144 + second.toNat % 64 * 4096 + third.toNat % 64 * 64 +
      fourth.toNat % 64).isValidChar := .inr ⟨by omega, by omega⟩
  unfold String.utf8EncodeChar
  dsimp only
  rw [toNat_ofNat valid, if_neg (by omega), if_neg (by omega), if_neg (by omega),
    @ofNat_eq _ first (by omega), @ofNat_eq _ second (by omega), @ofNat_eq _ third (by omega),
    @ofNat_eq _ fourth (by omega)]

theorem length_encode_pos (character : Char) : 0 < (String.utf8EncodeChar character).length := by
  rcases encode_spec character with ⟨first, others, encoded, -, -⟩
  rw [encoded]
  exact Nat.zero_lt_succ _

theorem length_encode_le (character : Char) : (String.utf8EncodeChar character).length ≤ 4 := by
  rw [String.length_utf8EncodeChar]
  exact Char.utf8Size_le_four character

/-- An ASCII byte of a character is all of it. -/
theorem encode_eq_singleton {character : Char} {byte : UInt8}
    (member : byte ∈ String.utf8EncodeChar character) (ascii : byte < 0x80) :
    String.utf8EncodeChar character = [byte] := by
  have value : character.val.toNat = byte.toNat := toNat_of_mem_utf8EncodeChar member ascii
  have small : byte.toNat ≤ 0x7f := Nat.le_of_lt_succ ascii
  unfold String.utf8EncodeChar
  dsimp only
  rw [value, if_pos small, UInt8.ofNat_toNat]

/-! ## Many characters -/

theorem IsUtf8.nil : IsUtf8 [] :=
  ⟨[], rfl⟩

theorem IsUtf8.append {first second : List UInt8} (left : IsUtf8 first) (right : IsUtf8 second) :
    IsUtf8 (first ++ second) := by
  rcases left with ⟨characters, rfl⟩
  rcases right with ⟨others, rfl⟩
  exact ⟨characters ++ others, List.flatMap_append.symm⟩

theorem isUtf8_utf8 (text : String) : IsUtf8 (utf8 text) :=
  ⟨text.toList, rfl⟩

theorem isUtf8_ascii {bytes : List UInt8} (ascii : ∀ byte ∈ bytes, byte < 0x80) : IsUtf8 bytes := by
  induction bytes with
  | nil => exact .nil
  | cons byte rest ih =>
      have small : byte.toNat ≤ 0x7f := Nat.le_of_lt_succ (ascii byte List.mem_cons_self)
      have single : IsUtf8 [byte] := by
        refine ⟨[Char.ofNat byte.toNat], ?_⟩
        rw [List.flatMap_cons, List.flatMap_nil, List.append_nil, encode_one (by omega)]
      exact single.append (ih fun other member => ascii other (List.mem_cons_of_mem byte member))

theorem isUtf8_byte {byte : UInt8} (ascii : byte < 0x80) : IsUtf8 [byte] :=
  isUtf8_ascii (List.forall_mem_singleton.mpr ascii)

/-- Only the first byte of a character is not a continuation byte. -/
theorem encode_cut {character : Char} {front rest : List UInt8} {byte : UInt8}
    (encoded : String.utf8EncodeChar character = front ++ byte :: rest) :
    isContinuation byte = true ↔ front ≠ [] := by
  rcases encode_spec character with ⟨first, others, form, count, fits⟩
  rw [form] at encoded
  cases front with
  | nil =>
      cases encoded
      have wrong : isContinuation byte ≠ true := by
        intro continuation
        have range := toNat_of_isContinuation continuation
        rcases characterLength_spec byte with
          ⟨low, -⟩ | ⟨low, -⟩ | ⟨low, -⟩ | ⟨low, -⟩ | ⟨-, none⟩ <;> omega
      simpa using wrong
  | cons head front =>
      rw [List.cons_append, List.cons.injEq] at encoded
      rcases encoded with ⟨rfl, rfl⟩
      have continuation : isContinuation byte = true := by
        cases front with
        | nil =>
            simp only [List.nil_append, continues, Bool.and_eq_true] at fits
            rcases toNat_of_isSecond fits.1 with ⟨low, high, -⟩
            simp [isContinuation, UInt8.le_iff_toNat_le, low, high]
        | cons second front =>
            simp only [List.cons_append, continues, Bool.and_eq_true, List.all_append,
              List.all_cons] at fits
            exact fits.2.2.1
      simpa using continuation

/-- UTF-8 synchronises itself: bytes can be cut before every byte that is not a
continuation byte. -/
theorem IsUtf8.cut_before {front rest : List UInt8} {byte : UInt8}
    (leads : isContinuation byte = false) (isUtf8 : IsUtf8 (front ++ byte :: rest)) :
    IsUtf8 front ∧ IsUtf8 (byte :: rest) := by
  rcases isUtf8 with ⟨characters, encoded⟩
  induction characters generalizing front with
  | nil => simp at encoded
  | cons character others ih =>
      rw [List.flatMap_cons] at encoded
      have single : IsUtf8 (String.utf8EncodeChar character) := ⟨[character], by simp⟩
      rcases List.append_eq_append_iff.mp encoded with
        ⟨middle, whole, tail⟩ | ⟨middle, rfl, tail⟩
      · cases middle with
        | nil =>
            rw [List.append_nil] at whole
            exact ⟨whole ▸ single, others, tail⟩
        | cons head middle =>
            cases tail
            have first : front = [] := by
              by_contra inside
              rw [(encode_cut whole).mpr inside] at leads
              cases leads
            subst first
            exact ⟨.nil, character :: others, by rw [List.flatMap_cons, whole]; simp⟩
      · rcases ih tail.symm with ⟨first, later⟩
        exact ⟨single.append first, later⟩

/-- UTF-8 does not start with a continuation byte. -/
theorem IsUtf8.leads {byte : UInt8} {rest : List UInt8} (isUtf8 : IsUtf8 (byte :: rest)) :
    isContinuation byte = false := by
  rcases isUtf8 with ⟨characters, encoded⟩
  cases characters with
  | nil => cases encoded
  | cons character others =>
      rcases encode_spec character with ⟨first, behind, form, -, -⟩
      rw [List.flatMap_cons, form] at encoded
      cases encoded
      have start := @encode_cut character [] behind byte form
      simpa using start

/-- What stands behind whole characters is characters again. -/
theorem IsUtf8.behind {front rest : List UInt8} (whole : IsUtf8 front)
    (isUtf8 : IsUtf8 (front ++ rest)) : IsUtf8 rest := by
  rcases whole with ⟨characters, rfl⟩
  induction characters with
  | nil => exact isUtf8
  | cons character others ih =>
      rw [List.flatMap_cons, List.append_assoc] at isUtf8
      rcases isUtf8 with ⟨decoded, encoded⟩
      cases decoded with
      | nil =>
          have positive := length_encode_pos character
          rw [(List.append_eq_nil_iff.mp encoded).1] at positive
          cases positive
      | cons other decoded =>
          rw [List.flatMap_cons] at encoded
          have lengths := congrArg lead encoded
          rw [lead_encode, lead_encode, Lead.character.injEq] at lengths
          exact ih ⟨decoded, (List.append_inj encoded lengths).2⟩

/-- Bytes can be cut after an ASCII byte. -/
theorem IsUtf8.cut {front rest : List UInt8} {byte : UInt8} (ascii : byte < 0x80)
    (isUtf8 : IsUtf8 (front ++ byte :: rest)) : IsUtf8 (front ++ [byte]) ∧ IsUtf8 rest := by
  have leads : isContinuation byte = false := by
    by_contra continuation
    have range := toNat_of_isContinuation (Bool.of_not_eq_false continuation)
    exact absurd ascii (Nat.not_lt.mpr range.1)
  rcases isUtf8.cut_before leads with ⟨first, later⟩
  exact ⟨first.append (isUtf8_byte ascii), (isUtf8_byte ascii).behind later⟩

/-- The beginning of some characters: whole ones, and a part of the next. -/
theorem take_characters (characters : List Char) (count : Nat) :
    ∃ whole later part, characters = whole ++ later ∧
      (characters.flatMap String.utf8EncodeChar).take count =
        whole.flatMap String.utf8EncodeChar ++ part ∧
      (part = [] ∨ ∃ character rest, later = character :: rest ∧ part ≠ [] ∧
        part <+: String.utf8EncodeChar character ∧ part ≠ String.utf8EncodeChar character) := by
  induction characters generalizing count with
  | nil => exact ⟨[], [], [], rfl, by simp, .inl rfl⟩
  | cons character others ih =>
      by_cases fits : (String.utf8EncodeChar character).length ≤ count
      · rcases ih (count - (String.utf8EncodeChar character).length) with
          ⟨whole, later, part, rfl, taken, ends⟩
        refine ⟨character :: whole, later, part, rfl, ?_, ends⟩
        rw [List.flatMap_cons, List.take_append, List.take_of_length_le fits, taken,
          List.flatMap_cons, List.append_assoc]
      · have short : count < (String.utf8EncodeChar character).length := Nat.lt_of_not_le fits
        refine ⟨[], character :: others, (String.utf8EncodeChar character).take count, rfl, ?_, ?_⟩
        · rw [List.flatMap_cons, List.take_append_of_le_length (Nat.le_of_lt short)]
          rfl
        · cases count with
          | zero => exact .inl rfl
          | succ count =>
              refine .inr ⟨character, others, rfl, ?_, List.take_prefix _ _, ?_⟩
              · rw [← List.length_pos_iff, List.length_take]
                omega
              · intro same
                have length := congrArg List.length same
                rw [List.length_take] at length
                omega

theorem scan_of_character {fuel position length : Nat} {bytes : List UInt8}
    (leads : lead bytes = .character length) (some : bytes ≠ []) :
    scan (fuel + 1) position bytes = scan fuel (position + length) (bytes.drop length) := by
  cases bytes with
  | nil => exact absurd rfl some
  | cons first rest => simp only [scan, leads]

theorem scan_of_unfinished {fuel position : Nat} {bytes : List UInt8}
    (leads : lead bytes = .unfinished) (some : bytes ≠ []) :
    scan (fuel + 1) position bytes = .unfinished position := by
  cases bytes with
  | nil => exact absurd rfl some
  | cons first rest => simp only [scan, leads]

theorem scan_characters (characters : List Char) (rest : List UInt8) {fuel position : Nat}
    (enough : (characters.flatMap String.utf8EncodeChar ++ rest).length ≤ fuel) :
    ∃ left, rest.length ≤ left ∧
      scan fuel position (characters.flatMap String.utf8EncodeChar ++ rest) =
        scan left (position + (characters.flatMap String.utf8EncodeChar).length) rest := by
  induction characters generalizing fuel position with
  | nil => exact ⟨fuel, enough, rfl⟩
  | cons character others ih =>
      have positive := length_encode_pos character
      have leads := lead_encode character (others.flatMap String.utf8EncodeChar ++ rest)
      rw [List.flatMap_cons, List.append_assoc] at enough ⊢
      cases fuel with
      | zero =>
          rw [List.length_append] at enough
          omega
      | succ fuel =>
          have enough' : (others.flatMap String.utf8EncodeChar ++ rest).length ≤ fuel := by
            rw [List.length_append] at enough
            omega
          rcases @ih fuel (position + (String.utf8EncodeChar character).length) enough' with
            ⟨left, within, scanned⟩
          refine ⟨left, within, ?_⟩
          have some : String.utf8EncodeChar character ++
              (others.flatMap String.utf8EncodeChar ++ rest) ≠ [] := by
            rw [← List.length_pos_iff, List.length_append]
            omega
          rw [scan_of_character leads some, List.drop_left, List.length_append, ← Nat.add_assoc]
          exact scanned

theorem fromUtf8_of_isUtf8 {bytes : List UInt8} (isUtf8 : IsUtf8 bytes) :
    fromUtf8 bytes = .valid := by
  rcases isUtf8 with ⟨characters, rfl⟩
  have enough : (characters.flatMap String.utf8EncodeChar ++ []).length ≤
      (characters.flatMap String.utf8EncodeChar).length :=
    Nat.le_of_eq (congrArg List.length (List.append_nil _))
  rcases @scan_characters characters [] _ 0 enough with ⟨left, -, scanned⟩
  rw [List.append_nil] at scanned
  rw [fromUtf8, scanned]
  cases left <;> rfl

/-- How many bytes are whole characters, unless a byte cannot be one. -/
def Utf8Check.validUpTo (length : Nat) : Utf8Check → Option Nat
  | .valid => some length
  | .unfinished position => some position
  | .invalid _ => none

/-- The beginning of valid bytes is valid but for a part of a character at its end. -/
theorem fromUtf8_take {bytes : List UInt8} (isUtf8 : IsUtf8 bytes) (count : Nat) :
    ∃ whole rest part, bytes = whole ++ rest ∧ IsUtf8 whole ∧ IsUtf8 rest ∧
      bytes.take count = whole ++ part ∧
      (part = [] ∨ part.length < 4 ∧ part.length < rest.length) ∧
      (fromUtf8 (bytes.take count)).validUpTo (bytes.take count).length = some whole.length := by
  rcases isUtf8 with ⟨characters, rfl⟩
  rcases take_characters characters count with ⟨whole, later, part, rfl, taken, ends⟩
  refine ⟨_, _, part, List.flatMap_append, ⟨whole, rfl⟩, ⟨later, rfl⟩, taken, ?_, ?_⟩
  · rcases ends with empty | ⟨character, rest, rfl, -, isPrefix, proper⟩
    · exact .inl empty
    · refine .inr ?_
      have most := length_encode_le character
      have short : part.length < (String.utf8EncodeChar character).length := by
        refine Nat.lt_of_le_of_ne isPrefix.length_le ?_
        intro same
        exact proper (isPrefix.eq_of_length same)
      rw [List.flatMap_cons, List.length_append]
      omega
  · rw [taken, fromUtf8]
    rcases @scan_characters whole part _ 0 (Nat.le_refl _) with ⟨left, within, scanned⟩
    rw [scanned, Nat.zero_add]
    rcases ends with rfl | ⟨character, rest, rfl, some, isPrefix, proper⟩
    · rw [List.append_nil]
      cases left <;> rfl
    · cases left with
      | zero => exact absurd (List.eq_nil_of_length_eq_zero (Nat.le_zero.mp within)) some
      | succ left => rw [scan_of_unfinished (lead_part some isPrefix proper) some]; rfl

end X64dbgMcp.Text
