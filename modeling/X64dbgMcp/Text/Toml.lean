import X64dbgMcp.Text.Numeral
import X64dbgMcp.Text.Utf8Scan

/-!
# TOML documents of one-line entries

The grammar of TOML 1.1 for documents whose lines are blank, comments, or bare keys with
a basic string or a decimal number.  On such documents the lines are read one by one,
and a reader of TOML can do nothing but what is written here.
-/

namespace X64dbgMcp.Text.Toml

/-- What a key stands for; tables, dates and the like carry no data here. -/
inductive Value where
  | string (bytes : List UInt8)
  | integer (value : Int)
  | array (items : List Value)
  | other

/-- The keys of a document with their values. -/
abbrev Table := List (List UInt8 × Value)

/-- `wschar` -/
def isBlank (byte : UInt8) : Bool :=
  byte == 0x20 || byte == 0x09

/-- No control character other than the tab. -/
def isTextByte (byte : UInt8) : Bool :=
  byte == 0x09 || (0x20 ≤ byte && byte != 0x7f)

/-- `unquoted-key` -/
def isBareKeyByte (byte : UInt8) : Bool :=
  (0x41 ≤ byte && byte ≤ 0x5a) || (0x61 ≤ byte && byte ≤ 0x7a) || (0x30 ≤ byte && byte ≤ 0x39) ||
    byte == 0x2d || byte == 0x5f

/-- The lines of a document; a line ends with a line feed or a carriage return and one. -/
def lines : List UInt8 → List (List UInt8)
  | [] => [[]]
  | 0x0d :: 0x0a :: rest => [] :: lines rest
  | 0x0a :: rest => [] :: lines rest
  | byte :: rest =>
      match lines rest with
      | line :: others => (byte :: line) :: others
      | [] => [[byte]]

/-- Blanks and a comment may follow an entry. -/
def endsLine (rest : List UInt8) : Bool :=
  match rest.dropWhile isBlank with
  | [] => true
  | byte :: comment => byte == 0x23 && comment.all isTextByte

/-- Where a reader of a basic string is. -/
inductive Escape where
  | outside
  | begun
  | digits (count : Nat) (read : List UInt8)

/-- The control characters, the escape character among them, the quote and the backslash. -/
def simpleEscape (byte : UInt8) : Option UInt8 :=
  [(0x62, 0x08), (0x74, 0x09), (0x6e, 0x0a), (0x66, 0x0c), (0x72, 0x0d), (0x65, 0x1b),
    (0x22, 0x22), (0x5c, 0x5c)].lookup byte

/-- The hexadecimal digits that follow `x`, `u` and `U`. -/
def escapeDigits (byte : UInt8) : Option Nat :=
  if byte = 0x78 then some 2
  else if byte = 0x75 then some 4
  else if byte = 0x55 then some 8
  else none

/-- The character with a hexadecimal code point; surrogates are none. -/
def scalar (digits : List UInt8) : Option (List UInt8) :=
  if digits.all (isDigit 16) ∧ (ofDigits 16 digits).isValidChar then
    some (String.utf8EncodeChar (Char.ofNat (ofDigits 16 digits)))
  else none

/-- The value of a basic string after its opening quote, and what follows the closing one. -/
def basicString : Escape → List UInt8 → Option (List UInt8 × List UInt8)
  | _, [] => none
  | .outside, byte :: rest =>
      if byte = 0x22 then some ([], rest)
      else if byte = 0x5c then basicString .begun rest
      else if isTextByte byte then
        (basicString .outside rest).map fun found => (byte :: found.1, found.2)
      else none
  | .begun, byte :: rest =>
      match escapeDigits byte with
      | some count => basicString (.digits count []) rest
      | none => do
          let escaped ← simpleEscape byte
          (basicString .outside rest).map fun found => (escaped :: found.1, found.2)
  | .digits count read, byte :: rest =>
      if read.length + 1 < count then basicString (.digits count (read ++ [byte])) rest
      else do
        let character ← scalar (read ++ [byte])
        (basicString .outside rest).map fun found => (character ++ found.1, found.2)

/-- A decimal number has no leading zeros and fits into 64 signed bits. -/
def decimalInteger (bytes : List UInt8) : Option (Int × List UInt8) :=
  let digits := bytes.takeWhile (isDigit 10)
  if digits.isEmpty ∨ (digits.head? = some 0x30 ∧ 1 < digits.length) then none
  else if 2 ^ 63 ≤ ofDigits 10 digits then none
  else some (ofDigits 10 digits, bytes.dropWhile (isDigit 10))

/-- Read a value. -/
def value : List UInt8 → Option (Value × List UInt8)
  | 0x22 :: rest => (basicString .outside rest).map fun found => (.string found.1, found.2)
  | bytes => (decimalInteger bytes).map fun found => (.integer found.1, found.2)

/-- What a line holds: an entry or nothing, if it is well-formed. -/
def expression (line : List UInt8) : Option (Option (List UInt8 × Value)) :=
  match line.dropWhile isBlank with
  | [] => some none
  | 0x23 :: comment => if comment.all isTextByte then some none else none
  | start =>
      match start.takeWhile isBareKeyByte,
        (start.dropWhile isBareKeyByte).dropWhile isBlank with
      | first :: others, 0x3d :: rest => do
          let found ← value (rest.dropWhile isBlank)
          if endsLine found.2 then some (some (first :: others, found.1)) else none
      | _, _ => none

/-- A key is defined once. -/
def extend (table : Table) (line : List UInt8) : Option Table := do
  match ← expression line with
  | none => some table
  | some (key, value) =>
      if (table.lookup key).isSome then none else some (table ++ [(key, value)])

/-- Read a document. -/
def document (text : List UInt8) : Option Table :=
  (lines text).foldlM extend []

/-- A line that is blank, a comment, or an entry whose value is a basic string or starts
with a run of digits that is the whole value.  A carriage return may stand where a blank
can stand, where it makes the line malformed. -/
inductive OneLine : List UInt8 → Prop
  | blank {line : List UInt8} (blanks : ∀ byte ∈ line, isBlank byte = true ∨ byte = 0x0d) :
      OneLine line
  | comment {lead comment : List UInt8} (blanks : ∀ byte ∈ lead, isBlank byte = true) :
      OneLine (lead ++ 0x23 :: comment)
  | text {lead key gap space rest : List UInt8} (blanks : ∀ byte ∈ lead, isBlank byte = true)
      (bare : key ≠ [] ∧ ∀ byte ∈ key, isBareKeyByte byte = true)
      (gaps : ∀ byte ∈ gap, isBlank byte = true ∨ byte = 0x0d)
      (spaces : ∀ byte ∈ space, isBlank byte = true)
      (single : rest.take 2 ≠ [0x22, 0x22]) :
      OneLine (lead ++ key ++ gap ++ 0x3d :: (space ++ 0x22 :: rest))
  | number {lead key gap space digits tail : List UInt8}
      (blanks : ∀ byte ∈ lead, isBlank byte = true)
      (bare : key ≠ [] ∧ ∀ byte ∈ key, isBareKeyByte byte = true)
      (gaps : ∀ byte ∈ gap, isBlank byte = true ∨ byte = 0x0d)
      (spaces : ∀ byte ∈ space, isBlank byte = true)
      (run : digits ≠ [] ∧ ∀ byte ∈ digits, isDigit 10 byte = true)
      (tails : ∀ byte ∈ tail, isBlank byte = true ∨ byte = 0x0d) :
      OneLine (lead ++ key ++ gap ++ 0x3d :: (space ++ digits ++ tail))

/-- A reader of TOML goes by the grammar on documents of such lines. -/
structure Rules (toml : List UInt8 → Option Table) : Prop where
  oneLines : ∀ text, fromUtf8 text = .valid → (∀ line ∈ lines text, OneLine line) →
    toml text = document text

/-! ## Lines of one kind -/

/-- What stands where a blank can stand: blanks and carriage returns. -/
def Gap (bytes : List UInt8) : Prop :=
  ∀ byte ∈ bytes, isBlank byte = true ∨ byte = 0x0d

/-- A carriage return stops the reader of blanks. -/
theorem Gap.dropWhile_append {gap : List UInt8} (gaps : Gap gap) (rest : List UInt8) :
    (0x0d ∉ gap ∧ (gap ++ rest).dropWhile isBlank = rest.dropWhile isBlank) ∨
      0x0d ∈ gap ∧ ∃ more, (gap ++ rest).dropWhile isBlank = 0x0d :: more := by
  induction gap with
  | nil => exact .inl ⟨List.not_mem_nil, rfl⟩
  | cons byte gap ih =>
      have tail : Gap gap := fun other member => gaps other (List.mem_cons_of_mem _ member)
      rcases gaps byte List.mem_cons_self with blank | rfl
      · have other : byte ≠ 0x0d := by
          rintro rfl
          revert blank
          decide
        rw [List.cons_append, List.dropWhile_cons_of_pos blank, List.mem_cons,
          or_iff_right (Ne.symm other)]
        exact ih tail
      · exact .inr ⟨List.mem_cons_self, gap ++ rest, List.dropWhile_cons_of_neg (by decide)⟩

theorem endsLine_of_gap {tail : List UInt8} (gaps : Gap tail) :
    endsLine tail = true ↔ 0x0d ∉ tail := by
  rcases gaps.dropWhile_append [] with ⟨free, dropped⟩ | ⟨held, more, dropped⟩
  · rw [List.append_nil] at dropped
    rw [endsLine, dropped]
    simp [free]
  · rw [List.append_nil] at dropped
    rw [endsLine, dropped]
    simp [held]

theorem expression_of_gap {line : List UInt8} (gaps : Gap line) :
    expression line = if 0x0d ∈ line then none else some none := by
  rcases gaps.dropWhile_append [] with ⟨free, dropped⟩ | ⟨held, more, dropped⟩
  · rw [List.append_nil] at dropped
    rw [expression, dropped, if_neg free]
    rfl
  · rw [List.append_nil] at dropped
    rw [expression, dropped, if_pos held]
    rfl

theorem expression_of_comment {lead comment : List UInt8}
    (blanks : ∀ byte ∈ lead, isBlank byte = true) :
    expression (lead ++ 0x23 :: comment) =
      if comment.all isTextByte then some none else none := by
  have dropped : (lead ++ 0x23 :: comment).dropWhile isBlank = 0x23 :: comment := by
    rw [List.dropWhile_append_of_pos blanks]
    rfl
  rw [expression, dropped]
  rfl

/-- An entry with a carriage return before its sign is malformed. -/
theorem expression_of_entry {lead key gap space rest : List UInt8}
    (blanks : ∀ byte ∈ lead, isBlank byte = true)
    (bare : key ≠ [] ∧ ∀ byte ∈ key, isBareKeyByte byte = true) (gaps : Gap gap)
    (spaces : ∀ byte ∈ space, isBlank byte = true) {first : UInt8}
    (starts : rest.head? = some first) (solid : isBlank first = false) :
    expression (lead ++ key ++ gap ++ 0x3d :: (space ++ rest)) =
      if 0x0d ∈ gap then none
      else (value rest).bind fun found =>
        if endsLine found.2 then some (some (key, found.1)) else none := by
  rcases bare with ⟨nonempty, bare⟩
  rcases List.exists_cons_of_ne_nil nonempty with ⟨initial, others, rfl⟩
  have initialBare := bare initial List.mem_cons_self
  have notBlank : ¬isBlank initial = true := by
    intro blank
    rw [isBlank, Bool.or_eq_true, beq_iff_eq, beq_iff_eq] at blank
    rcases blank with rfl | rfl <;> revert initialBare <;> decide
  have notComment : initial ≠ 0x23 := by
    rintro rfl
    revert initialBare
    decide
  have restStarts : rest.dropWhile isBlank = rest := by
    rcases rest with _ | ⟨byte, rest⟩
    · rfl
    · cases starts
      exact List.dropWhile_cons_of_neg (by rw [solid]; decide)
  -- the byte behind the key cannot belong to it
  have separated : ∃ byte more, gap ++ 0x3d :: (space ++ rest) = byte :: more ∧
      isBareKeyByte byte = false := by
    rcases gap with _ | ⟨byte, gap⟩
    · exact ⟨0x3d, space ++ rest, rfl, by decide⟩
    · refine ⟨byte, _, rfl, ?_⟩
      rcases gaps byte List.mem_cons_self with blank | rfl
      · rw [isBlank, Bool.or_eq_true, beq_iff_eq, beq_iff_eq] at blank
        rcases blank with rfl | rfl <;> decide
      · decide
  rcases separated with ⟨byte, more, after, foreign⟩
  have started : (lead ++ (initial :: others) ++ gap ++ 0x3d :: (space ++ rest)).dropWhile isBlank =
      initial :: others ++ (gap ++ 0x3d :: (space ++ rest)) := by
    rw [List.append_assoc, List.append_assoc, List.dropWhile_append_of_pos blanks, List.cons_append,
      List.dropWhile_cons_of_neg notBlank]
  have taken : (initial :: others ++ (gap ++ 0x3d :: (space ++ rest))).takeWhile isBareKeyByte =
      initial :: others := by
    rw [List.takeWhile_append_of_pos bare, after,
      List.takeWhile_cons_of_neg (by rw [foreign]; decide), List.append_nil]
  have dropped : (initial :: others ++ (gap ++ 0x3d :: (space ++ rest))).dropWhile isBareKeyByte =
      gap ++ 0x3d :: (space ++ rest) := by
    rw [List.dropWhile_append_of_pos bare, after,
      List.dropWhile_cons_of_neg (by rw [foreign]; decide)]
  unfold expression
  rw [started]
  split
  · rename_i empty
    cases empty
  · rename_i comment isComment
    exact absurd (List.cons.inj isComment).1 notComment
  · rw [taken, dropped]
    rcases gaps.dropWhile_append (0x3d :: (space ++ rest)) with ⟨free, behind⟩ | ⟨held, other, behind⟩
    · have sign : (0x3d :: (space ++ rest)).dropWhile isBlank = 0x3d :: (space ++ rest) := rfl
      have inner : (space ++ rest).dropWhile isBlank = rest := by
        rw [List.dropWhile_append_of_pos spaces, restStarts]
      rw [behind, sign, if_neg free]
      change ((value ((space ++ rest).dropWhile isBlank)).bind fun found =>
        if endsLine found.2 then some (some (initial :: others, found.1)) else none) = _
      rw [inner]
    · rw [behind, if_pos held]
      rfl

/-! ## Basic strings -/

theorem basicString_plain {body : List UInt8} (rest : List UInt8)
    (plain : ∀ byte ∈ body, isTextByte byte = true ∧ byte ≠ 0x22 ∧ byte ≠ 0x5c) :
    basicString .outside (body ++ 0x22 :: rest) = some (body, rest) := by
  induction body with
  | nil => rfl
  | cons byte body ih =>
      rcases plain byte List.mem_cons_self with ⟨isText, noQuote, noEscape⟩
      have tail := ih fun other member => plain other (List.mem_cons_of_mem _ member)
      rw [List.cons_append, basicString, if_neg noQuote, if_neg noEscape, if_pos isText, tail]
      rfl

/-- The bytes that an open escape has taken and may still give back. -/
def Escape.credit : Escape → Nat
  | .outside => 0
  | .begun => 0
  | .digits _ read => read.length

theorem two_le_escapeDigits {byte : UInt8} {count : Nat}
    (isCount : escapeDigits byte = some count) : 2 ≤ count := by
  rw [escapeDigits] at isCount
  split_ifs at isCount <;> cases isCount <;> decide

theorem utf8Size_le_two {character : Char} (small : character.val.toNat < 2 ^ 11) :
    character.utf8Size ≤ 2 := by
  have le : character.val ≤ 0x7ff := UInt32.le_iff_toNat_le.mpr (Nat.le_of_lt_succ small)
  rw [Char.utf8Size]
  split_ifs with one two three
  · decide
  · decide
  · exact absurd le two
  · exact absurd le two

theorem utf8Size_le_three {character : Char} (small : character.val.toNat < 2 ^ 16) :
    character.utf8Size ≤ 3 := by
  have le : character.val ≤ 0xffff := UInt32.le_iff_toNat_le.mpr (Nat.le_of_lt_succ small)
  rw [Char.utf8Size]
  split_ifs with one two three
  · decide
  · decide
  · decide
  · exact absurd le three

/-- A character takes no more bytes than digits, for two digits do not reach the third byte. -/
theorem length_scalar_le {digits bytes : List UInt8} (reads : scalar digits = some bytes)
    (wide : 2 ≤ digits.length) : bytes.length ≤ digits.length := by
  rw [scalar] at reads
  split_ifs at reads with valid
  cases reads
  have most := length_encode_le (Char.ofNat (ofDigits 16 digits))
  have small := ofDigits_lt fun byte member => List.all_eq_true.mp valid.1 byte member
  have code : (Char.ofNat (ofDigits 16 digits)).val.toNat = ofDigits 16 digits := by
    rw [Char.ofNat, dif_pos valid.2]
    rfl
  rcases Nat.lt_or_ge 3 digits.length with long | short
  · omega
  · rw [String.length_utf8EncodeChar]
    interval_cases digits.length
    · exact utf8Size_le_two (by omega)
    · exact utf8Size_le_three (by omega)

/-- A string is never longer than its text, and shorter when there is an escape in it. -/
theorem basicString_shrinks {escape : Escape} {bytes held rest : List UInt8}
    (enough : ∀ count read, escape = .digits count read → 2 ≤ count)
    (reads : basicString escape bytes = some (held, rest)) :
    ∃ raw, bytes = raw ++ 0x22 :: rest ∧ held.length ≤ raw.length + escape.credit ∧
      (escape = .outside → 0x5c ∈ raw → held.length < raw.length) := by
  induction bytes generalizing escape held with
  | nil => cases escape <;> cases reads
  | cons byte bytes ih =>
      cases escape with
      | outside =>
          rw [basicString] at reads
          split_ifs at reads with quote begins isText
          · cases reads
            exact ⟨[], by rw [quote]; rfl, Nat.zero_le _, fun _ member => absurd member List.not_mem_nil⟩
          · rcases ih (fun _ _ open_ => by cases open_) reads with ⟨raw, rfl, short, -⟩
            refine ⟨byte :: raw, rfl, ?_, fun _ _ => ?_⟩
            all_goals
              simp only [Escape.credit, List.length_cons] at short ⊢
              omega
          · rw [Option.map_eq_some_iff] at reads
            rcases reads with ⟨⟨inner, after⟩, innerReads, same⟩
            cases same
            rcases ih (fun _ _ open_ => by cases open_) innerReads with ⟨raw, rfl, short, strict⟩
            refine ⟨byte :: raw, rfl, ?_, fun _ member => ?_⟩
            · simp only [Escape.credit, List.length_cons] at short ⊢
              omega
            · have inside : 0x5c ∈ raw := by
                rcases List.mem_cons.mp member with same | inside
                · exact absurd same.symm begins
                · exact inside
              have less := strict rfl inside
              simp only [List.length_cons]
              omega
      | begun =>
          rw [basicString] at reads
          split at reads
          · rename_i count isCount
            have wide := two_le_escapeDigits isCount
            rcases ih (fun _ _ same => by cases same; exact wide) reads with ⟨raw, rfl, short, -⟩
            refine ⟨byte :: raw, rfl, ?_, fun isOutside => by cases isOutside⟩
            simp only [Escape.credit, List.length_cons, List.length_nil] at short ⊢
            omega
          · rw [Option.bind_eq_bind, Option.bind_eq_some_iff] at reads
            rcases reads with ⟨escaped, -, reads⟩
            rw [Option.map_eq_some_iff] at reads
            rcases reads with ⟨⟨inner, after⟩, innerReads, same⟩
            cases same
            rcases ih (fun _ _ open_ => by cases open_) innerReads with ⟨raw, rfl, short, -⟩
            refine ⟨byte :: raw, rfl, ?_, fun isOutside => by cases isOutside⟩
            simp only [Escape.credit, List.length_cons] at short ⊢
            omega
      | digits count read =>
          have wide := enough count read rfl
          rw [basicString] at reads
          split_ifs at reads with more
          · rcases ih (fun _ _ same => by cases same; exact wide) reads with ⟨raw, rfl, short, -⟩
            refine ⟨byte :: raw, rfl, ?_, fun isOutside => by cases isOutside⟩
            simp only [Escape.credit, List.length_append, List.length_cons, List.length_nil]
              at short ⊢
            omega
          · rw [Option.bind_eq_bind, Option.bind_eq_some_iff] at reads
            rcases reads with ⟨character, isCharacter, reads⟩
            rw [Option.map_eq_some_iff] at reads
            rcases reads with ⟨⟨inner, after⟩, innerReads, same⟩
            cases same
            have length : (read ++ [byte]).length = read.length + 1 := List.length_append
            have small := length_scalar_le isCharacter (by omega)
            rcases ih (fun _ _ open_ => by cases open_) innerReads with ⟨raw, rfl, short, -⟩
            refine ⟨byte :: raw, rfl, ?_, fun isOutside => by cases isOutside⟩
            simp only [Escape.credit, List.length_append, List.length_cons] at short ⊢
            omega

end X64dbgMcp.Text.Toml
