import X64dbgMcp.Plugin.ConditionalRules
import X64dbgMcp.Text.Precedence

/-!
# What a condition means to the debugger

`CompileConditionalExpression` writes a condition as an expression of the debugger.  The
grammar of these expressions, as far as the compiler uses it, stands first: words, calls
without arguments, parentheses, and the comparison and logical operators of C over
unsigned numbers of 64 bits.
-/

namespace X64dbgMcp.Plugin

open Text

/-! ## Expressions of the debugger -/

/-- A word or a call without arguments. -/
inductive ExpressionOperand where
  | word (text : List UInt8)
  | call (function : List UInt8)
  deriving DecidableEq

/-- The operators that conditions are made of. -/
inductive BinaryOperator where
  | or
  | and
  | equal
  | notEqual
  | less
  | lessEqual
  | greater
  | greaterEqual
  | remainder
  deriving DecidableEq

namespace BinaryOperator

/-- How tightly an operator binds. -/
def precedence : BinaryOperator → Nat
  | .or => 0
  | .and => 1
  | .equal | .notEqual => 2
  | .less | .lessEqual | .greater | .greaterEqual => 3
  | .remainder => 4

/-- A condition as a number. -/
def truth (condition : Bool) : UInt64 :=
  if condition then 1 else 0

/-- Division by zero has no value. -/
def apply (operator : BinaryOperator) (left right : UInt64) : Option UInt64 :=
  match operator with
  | .or => some (truth (left != 0 || right != 0))
  | .and => some (truth (left != 0 && right != 0))
  | .equal => some (truth (left == right))
  | .notEqual => some (truth (left != right))
  | .less => some (truth (left < right))
  | .lessEqual => some (truth (left ≤ right))
  | .greater => some (truth (right < left))
  | .greaterEqual => some (truth (right ≤ left))
  | .remainder => if right = 0 then none else some (left % right)

end BinaryOperator

/-- What an expression is read into first. -/
abbrev ExpressionToken := Precedence.Token ExpressionOperand BinaryOperator

/-- An expression of the debugger. -/
abbrev DebuggerExpression := Precedence.Expr ExpressionOperand BinaryOperator

/-- A byte of a word. -/
def isWordByte (byte : UInt8) : Bool :=
  (0x30 ≤ byte && byte ≤ 0x39) || (0x41 ≤ byte && byte ≤ 0x5a) || (0x61 ≤ byte && byte ≤ 0x7a) ||
    byte == 0x24 || byte == 0x5f

/-- The longest symbol at the beginning. -/
def lexSymbol : List UInt8 → Option (ExpressionToken × List UInt8)
  | 0x28 :: rest => some (.opening, rest)
  | 0x29 :: rest => some (.closing, rest)
  | 0x7c :: 0x7c :: rest => some (.op .or, rest)
  | 0x26 :: 0x26 :: rest => some (.op .and, rest)
  | 0x3d :: 0x3d :: rest => some (.op .equal, rest)
  | 0x21 :: 0x3d :: rest => some (.op .notEqual, rest)
  | 0x3c :: 0x3d :: rest => some (.op .lessEqual, rest)
  | 0x3c :: rest => some (.op .less, rest)
  | 0x3e :: 0x3d :: rest => some (.op .greaterEqual, rest)
  | 0x3e :: rest => some (.op .greater, rest)
  | 0x25 :: rest => some (.op .remainder, rest)
  | _ => none

attribute [grind =] lexSymbol

/-- Every turn takes a byte or more, so the length of the text is enough fuel. -/
def lexFrom : Nat → List UInt8 → Option (List ExpressionToken)
  | _, [] => some []
  | 0, _ => none
  | fuel + 1, text =>
      let word := text.takeWhile isWordByte
      if word = [] then
        (lexSymbol text).bind fun symbol => (lexFrom fuel symbol.2).map (symbol.1 :: ·)
      else
        match text.dropWhile isWordByte with
        | 0x28 :: 0x29 :: rest => (lexFrom fuel rest).map (.operand (.call word) :: ·)
        | rest => (lexFrom fuel rest).map (.operand (.word word) :: ·)

attribute [grind =] lexFrom

/-- Read a text into tokens. -/
def lex (text : List UInt8) : Option (List ExpressionToken) :=
  lexFrom text.length text

/-- What an expression can ask of a debuggee that has stopped. -/
structure DebuggeeValues where
  register : String → UInt64
  threadId : UInt64
  hitCount : UInt64

/-- A word is a number with its prefix, a register, a variable, or a number without a
prefix. -/
def ExpressionOperand.value (values : DebuggeeValues) : ExpressionOperand → Option UInt64
  | .word text =>
      if text.take 2 = utf8 "0x" then
        (fromCharsAll 16 (2 ^ 64) (text.drop 2)).map UInt64.ofNat
      else
        match ["cax", "cbx", "ccx", "cdx", "csi", "cdi", "cbp", "csp", "cip"].find?
            fun name => utf8 name == text with
        | some name => some (values.register name)
        | none =>
            if text = utf8 "$breakpointcounter" then some values.hitCount
            else (fromCharsAll 16 (2 ^ 64) text).map UInt64.ofNat
  | .call function => if function = utf8 "tid" then some values.threadId else none

/-- The value of an expression in a debuggee. -/
def evalExpression (values : DebuggeeValues) (expr : DebuggerExpression) : Option UInt64 :=
  expr.eval (ExpressionOperand.value values) BinaryOperator.apply

/-! ## Conditions -/

/-- The number that a predicate is about. -/
def ConditionalPredicate.actual (values : DebuggeeValues) (predicate : ConditionalPredicate) :
    UInt64 :=
  match predicate.source with
  | .registerValue => values.register predicate.registerName
  | .threadId => values.threadId
  | .hitCount => values.hitCount

/-- What the comparison of a request means. -/
def ConditionalOperator.relates (operation : ConditionalOperator) (actual value : Nat) : Bool :=
  match operation with
  | .equal => actual = value
  | .notEqual => actual ≠ value
  | .less => actual < value
  | .lessEqual => actual ≤ value
  | .greater => value < actual
  | .greaterEqual => value ≤ actual
  | .multipleOf => value ∣ actual

/-- The predicate of a request holds in a debuggee. -/
def ConditionalPredicate.holds (values : DebuggeeValues) (predicate : ConditionalPredicate) :
    Bool :=
  predicate.operation.relates (predicate.actual values).toNat predicate.value

/-- So does the condition. -/
def ConditionalSpec.holds (values : DebuggeeValues) (condition : ConditionalSpec) : Bool :=
  match condition.mode with
  | .all => condition.predicates.all (·.holds values)
  | .any => condition.predicates.any (·.holds values)

/-! ## Tokens of a text -/

/-- The tokens of a text, with any fuel that is enough. -/
def Lexes (text : List UInt8) (tokens : List ExpressionToken) : Prop :=
  ∀ fuel, text.length ≤ fuel → lexFrom fuel text = some tokens

theorem Lexes.lex {text : List UInt8} {tokens : List ExpressionToken}
    (lexes : Lexes text tokens) : Plugin.lex text = some tokens :=
  lexes text.length (Nat.le_refl _)

theorem Lexes.nil : Lexes [] [] := by
  intro fuel _
  cases fuel <;> rfl

theorem Lexes.symbol {first : UInt8} {more rest : List UInt8} {token : ExpressionToken}
    {tokens : List ExpressionToken} (notWord : isWordByte first = false)
    (reads : lexSymbol (first :: more ++ rest) = some (token, rest))
    (behind : Lexes rest tokens) : Lexes (first :: more ++ rest) (token :: tokens) := by
  intro fuel enough
  rw [List.cons_append, List.length_cons, List.length_append] at enough
  obtain ⟨fuel, rfl⟩ := Nat.exists_eq_succ_of_ne_zero (by omega : fuel ≠ 0)
  have noWord : (first :: more ++ rest).takeWhile isWordByte = [] := by
    rw [List.cons_append, List.takeWhile_cons_of_neg (by rw [notWord]; decide)]
  rw [List.cons_append] at noWord reads ⊢
  simp only [lexFrom, noWord, reads, Option.bind_some, behind fuel (by omega), if_true]
  rfl

/-- A word ends before every other byte. -/
theorem word_split {word rest : List UInt8} (bytes : ∀ byte ∈ word, isWordByte byte = true)
    {next : UInt8} (ends : isWordByte next = false) :
    (word ++ next :: rest).takeWhile isWordByte = word ∧
      (word ++ next :: rest).dropWhile isWordByte = next :: rest := by
  rw [List.takeWhile_append_of_pos bytes, List.dropWhile_append_of_pos bytes,
    List.takeWhile_cons_of_neg (by rw [ends]; decide),
    List.dropWhile_cons_of_neg (by rw [ends]; decide), List.append_nil]
  exact ⟨rfl, rfl⟩

theorem Lexes.word {word rest : List UInt8} {next : UInt8} {tokens : List ExpressionToken}
    (some : word ≠ []) (bytes : ∀ byte ∈ word, isWordByte byte = true)
    (ends : isWordByte next = false) (noCall : next ≠ 0x28)
    (behind : Lexes (next :: rest) tokens) :
    Lexes (word ++ next :: rest) (.operand (.word word) :: tokens) := by
  intro fuel enough
  have positive := List.length_pos_iff.mpr some
  rw [List.length_append] at enough
  obtain ⟨fuel, rfl⟩ := Nat.exists_eq_succ_of_ne_zero (by omega : fuel ≠ 0)
  rcases @word_split _ rest bytes _ ends with ⟨taken, dropped⟩
  have lexed := behind fuel (by omega)
  cases word with
  | nil => exact absurd rfl some
  | cons first word =>
      rw [List.cons_append] at taken dropped ⊢
      simp only [lexFrom, taken, dropped, reduceCtorEq, if_false]
      split
      · rename_i same
        exact absurd (List.cons.inj same).1 noCall
      · rw [lexed]
        rfl

theorem Lexes.call {word rest : List UInt8} {tokens : List ExpressionToken}
    (some : word ≠ []) (bytes : ∀ byte ∈ word, isWordByte byte = true)
    (behind : Lexes rest tokens) :
    Lexes (word ++ 0x28 :: 0x29 :: rest) (.operand (.call word) :: tokens) := by
  intro fuel enough
  have positive := List.length_pos_iff.mpr some
  rw [List.length_append, List.length_cons, List.length_cons] at enough
  obtain ⟨fuel, rfl⟩ := Nat.exists_eq_succ_of_ne_zero (by omega : fuel ≠ 0)
  rcases @word_split _ (0x29 :: rest) bytes _ (by decide : isWordByte 0x28 = false) with
    ⟨taken, dropped⟩
  have lexed := behind fuel (by omega)
  cases word with
  | nil => exact absurd rfl some
  | cons first word =>
      rw [List.cons_append] at taken dropped ⊢
      simp only [lexFrom, taken, dropped, reduceCtorEq, if_false]
      rw [lexed]
      rfl

/-! ## One predicate -/

/-- The text of a predicate's operand. -/
def sourceText (predicate : ConditionalPredicate) : String :=
  match predicate.source with
  | .registerValue => predicate.registerName
  | .threadId => "tid()"
  | .hitCount => "$breakpointcounter"

/-- The operand that a predicate compares. -/
def sourceOperand (predicate : ConditionalPredicate) : ExpressionOperand :=
  match predicate.source with
  | .registerValue => .word (utf8 predicate.registerName)
  | .threadId => .call (utf8 "tid")
  | .hitCount => .word (utf8 "$breakpointcounter")

theorem conditionalOperand_eq (build : Build) (pointer : build.pointerBytes = 8)
    (predicate : ConditionalPredicate) :
    (predicate.Permitted → conditionalOperand build predicate = some (sourceText predicate)) ∧
      (¬ predicate.Permitted → conditionalOperand build predicate = none) := by
  have limit : build.limit = 2 ^ 64 := by rw [Build.limit, pointer]
  rcases predicate with ⟨source, operation, registerName, value⟩
  unfold ConditionalPredicate.Permitted conditionalOperand sourceText
  cases source with
  | registerValue =>
      dsimp only
      rw [limit]
      constructor
      · rintro ⟨portable, comparison, fits⟩
        rw [if_neg]
        simp only [portable, comparison, Nat.not_le.mpr fits, Bool.not_true, Bool.false_eq_true,
          or_self, not_false_eq_true]
      · intro refused
        rw [if_pos]
        by_contra accepted
        simp only [not_or, Nat.not_le, Bool.not_eq_true', Bool.not_eq_false] at accepted
        exact refused ⟨accepted.1, accepted.2.1, accepted.2.2⟩
  | threadId =>
      dsimp only
      constructor
      · rintro ⟨noName, equality, fits⟩
        rw [if_neg]
        simp only [noName, ne_eq, not_true_eq_false, false_or, not_or, not_and, Nat.not_le, fits,
          and_true]
        exact fun notEqual => not_not_intro (equality.resolve_left notEqual)
      · intro refused
        rw [if_pos]
        by_contra accepted
        simp only [not_or, not_and, not_not, Nat.not_le, ne_eq] at accepted
        refine refused ⟨accepted.1, ?_, accepted.2.2⟩
        exact or_iff_not_imp_left.mpr accepted.2.1
  | hitCount =>
      dsimp only
      constructor
      · rintro ⟨noName, positive, fits⟩
        rw [if_neg]
        simp only [noName, ne_eq, not_true_eq_false, false_or]
        omega
      · intro refused
        rw [if_pos]
        by_contra accepted
        simp only [not_or, not_not, Nat.not_le, ne_eq] at accepted
        exact refused ⟨accepted.1, by omega, accepted.2.2⟩

/-- The operator that a comparison is written with. -/
def binaryOperator : ConditionalOperator → BinaryOperator
  | .equal => .equal
  | .notEqual => .notEqual
  | .less => .less
  | .lessEqual => .lessEqual
  | .greater => .greater
  | .greaterEqual => .greaterEqual
  | .multipleOf => .remainder

/-- The value to compare with. -/
def valueOperand (value : Nat) : ExpressionOperand :=
  .word (utf8 (hexConstant value))

/-- The tokens of one predicate. -/
def termTokens (predicate : ConditionalPredicate) : List ExpressionToken :=
  let source := .operand (sourceOperand predicate)
  let operation := .op (binaryOperator predicate.operation)
  let value := .operand (valueOperand predicate.value)
  if predicate.operation = .multipleOf then
    [.opening, .opening, source, operation, value, .closing, .op .equal,
      .operand (.word (utf8 "0")), .closing]
  else [.opening, source, operation, value, .closing]

/-- The expression that they are. -/
def termExpr (predicate : ConditionalPredicate) : DebuggerExpression :=
  let inner := .binary (binaryOperator predicate.operation) (.leaf (sourceOperand predicate))
    (.leaf (valueOperand predicate.value))
  if predicate.operation = .multipleOf then .binary .equal inner (.leaf (.word (utf8 "0")))
  else inner

theorem utf8_hexConstant (value : Nat) : utf8 (hexConstant value) = utf8 "0x" ++ hexadecimal value :=
  utf8_append _ _

theorem isWordByte_of_isLowerHex {byte : UInt8} (hex : isLowerHex byte = true) :
    isWordByte byte = true := by
  rw [isLowerHex_eq_true] at hex
  simp only [isWordByte, Bool.or_eq_true, Bool.and_eq_true, decide_eq_true_eq,
    UInt8.le_iff_toNat_le, UInt8.reduceToNat]
  omega

theorem isWordByte_of_mem_hexConstant {value : Nat} {byte : UInt8}
    (member : byte ∈ utf8 (hexConstant value)) : isWordByte byte = true := by
  rw [utf8_hexConstant, List.mem_append] at member
  rcases member with start | digit
  · have every : (utf8 "0x").all isWordByte = true := by decide
    exact List.all_eq_true.mp every byte start
  · exact isWordByte_of_isLowerHex (isLowerHex_of_mem_hexadecimal digit)

theorem Lexes.value {value : Nat} {rest : List UInt8} {next : UInt8}
    {tokens : List ExpressionToken} (ends : isWordByte next = false) (noCall : next ≠ 0x28)
    (behind : Lexes (next :: rest) tokens) :
    Lexes (utf8 (hexConstant value) ++ next :: rest)
      (.operand (valueOperand value) :: tokens) := by
  refine Lexes.word ?_ (fun byte => isWordByte_of_mem_hexConstant) ends noCall behind
  rw [utf8_hexConstant]
  exact List.append_ne_nil_of_right_ne_nil _ (hexadecimal_ne_nil value)

theorem word_of_portable {name : String} (portable : portableConditionalRegister name = true) :
    utf8 name ≠ [] ∧ ∀ byte ∈ utf8 name, isWordByte byte = true := by
  have every : ∀ name ∈ ["cax", "cbx", "ccx", "cdx", "csi", "cdi", "cbp", "csp", "cip"],
      utf8 name ≠ [] ∧ (utf8 name).all isWordByte = true := by
    decide
  rcases every name (List.contains_iff_mem.mp portable) with ⟨some, bytes⟩
  exact ⟨some, List.all_eq_true.mp bytes⟩

theorem Lexes.source {predicate : ConditionalPredicate} (permitted : predicate.Permitted)
    {rest : List UInt8} {next : UInt8} {tokens : List ExpressionToken}
    (ends : isWordByte next = false) (noCall : next ≠ 0x28)
    (behind : Lexes (next :: rest) tokens) :
    Lexes (utf8 (sourceText predicate) ++ next :: rest)
      (.operand (sourceOperand predicate) :: tokens) := by
  rcases predicate with ⟨source, operation, registerName, value⟩
  cases source with
  | registerValue =>
      rcases word_of_portable permitted.1 with ⟨some, bytes⟩
      exact Lexes.word some bytes ends noCall behind
  | threadId =>
      have bytes : (utf8 "tid").all isWordByte = true := by decide
      have text : utf8 "tid()" = utf8 "tid" ++ [0x28, 0x29] := by decide
      change Lexes (utf8 "tid()" ++ next :: rest) _
      rw [text, List.append_assoc]
      exact Lexes.call (by decide) (List.all_eq_true.mp bytes) behind
  | hitCount =>
      have bytes : (utf8 "$breakpointcounter").all isWordByte = true := by decide
      have some : utf8 "$breakpointcounter" ≠ [] := by decide
      exact Lexes.word some (List.all_eq_true.mp bytes) ends noCall behind

/-- The operator ends before the number behind it. -/
theorem Lexes.operator {operation : ConditionalOperator} {rest : List UInt8}
    {tokens : List ExpressionToken} (behind : Lexes (0x30 :: rest) tokens) :
    Lexes (utf8 (conditionalOperatorToken operation) ++ 0x30 :: rest)
      (.op (binaryOperator operation) :: tokens) := by
  cases operation <;> exact Lexes.symbol (by decide) rfl behind

/-- The first byte of an operator ends a word and is no parenthesis. -/
theorem operator_cons (operation : ConditionalOperator) :
    ∃ first more, utf8 (conditionalOperatorToken operation) = first :: more ∧
      isWordByte first = false ∧ first ≠ 0x28 := by
  cases operation <;> exact ⟨_, _, rfl, by decide, by decide⟩

/-- The operand, the operator and the number, before a closing parenthesis. -/
theorem Lexes.comparison {predicate : ConditionalPredicate} (permitted : predicate.Permitted)
    {rest : List UInt8} {tokens : List ExpressionToken} (behind : Lexes rest tokens) :
    Lexes (utf8 (sourceText predicate) ++
        (utf8 (conditionalOperatorToken predicate.operation) ++
          (utf8 (hexConstant predicate.value) ++ 0x29 :: rest)))
      (.operand (sourceOperand predicate) :: .op (binaryOperator predicate.operation) ::
        .operand (valueOperand predicate.value) :: .closing :: tokens) := by
  have closing : Lexes (0x29 :: rest) (.closing :: tokens) :=
    @Lexes.symbol 0x29 [] rest _ _ (by decide) rfl behind
  have value := @Lexes.value predicate.value _ _ _ (by decide) (by decide) closing
  have number : utf8 (hexConstant predicate.value) ++ 0x29 :: rest =
      0x30 :: (0x78 :: hexadecimal predicate.value ++ 0x29 :: rest) := by
    rw [utf8_hexConstant]
    rfl
  rw [number] at value ⊢
  have operator := @Lexes.operator predicate.operation _ _ value
  rcases operator_cons predicate.operation with ⟨first, more, text, ends, noCall⟩
  rw [text] at operator ⊢
  exact Lexes.source permitted ends noCall operator

theorem Lexes.term {predicate : ConditionalPredicate} (permitted : predicate.Permitted)
    {rest : List UInt8} {tokens : List ExpressionToken} (behind : Lexes rest tokens) :
    Lexes (utf8 (conditionalTerm (sourceText predicate) predicate) ++ rest)
      (termTokens predicate ++ tokens) := by
  have opens : ∀ {text : List UInt8} {inner : List ExpressionToken}, Lexes text inner →
      Lexes (0x28 :: text) (.opening :: inner) :=
    fun inner => @Lexes.symbol 0x28 [] _ _ _ (by decide) rfl inner
  rw [conditionalTerm, termTokens]
  split_ifs with multiple
  · have closing : Lexes (0x29 :: rest) (.closing :: tokens) :=
      @Lexes.symbol 0x29 [] rest _ _ (by decide) rfl behind
    have zero : Lexes (0x30 :: 0x29 :: rest) (.operand (.word (utf8 "0")) :: .closing :: tokens) :=
      @Lexes.word [0x30] rest 0x29 _ (by decide) (List.forall_mem_singleton.mpr (by decide))
        (by decide) (by decide) closing
    have equal : Lexes (0x3d :: 0x3d :: 0x30 :: 0x29 :: rest)
        (.op .equal :: .operand (.word (utf8 "0")) :: .closing :: tokens) :=
      @Lexes.symbol 0x3d [0x3d] _ _ _ (by decide) rfl zero
    have whole := opens (opens (Lexes.comparison permitted equal))
    have token : utf8 (conditionalOperatorToken predicate.operation) = utf8 "%" := by
      rw [multiple]
      rfl
    rw [token] at whole
    simp only [utf8_append, List.append_assoc]
    exact whole
  · have whole := opens (Lexes.comparison permitted behind)
    simp only [utf8_append, List.append_assoc]
    exact whole

theorem derives_term (predicate : ConditionalPredicate) (level : Nat) :
    Precedence.Derives BinaryOperator.precedence level (termTokens predicate)
      (termExpr predicate) := by
  have inner : ∀ weak ≤ (binaryOperator predicate.operation).precedence,
      Precedence.Derives BinaryOperator.precedence weak
        ([.operand (sourceOperand predicate)] ++
          .op (binaryOperator predicate.operation) :: [.operand (valueOperand predicate.value)])
        (.binary (binaryOperator predicate.operation) (.leaf (sourceOperand predicate))
          (.leaf (valueOperand predicate.value))) :=
    fun weak tight => .binary tight (.operand _ _) (.operand _ _)
  rw [termTokens, termExpr]
  split_ifs with multiple
  · have group := Precedence.Derives.parentheses 2 (inner 0 (Nat.zero_le _))
    have zero : Precedence.Derives BinaryOperator.precedence 3
        [.operand (ExpressionOperand.word (utf8 "0"))] (.leaf (.word (utf8 "0"))) :=
      .operand _ _
    have whole := @Precedence.Derives.binary _ _ BinaryOperator.precedence 0 .equal _ _ _ _
      (Nat.zero_le _) group zero
    exact .parentheses level whole
  · exact .parentheses level (inner 0 (Nat.zero_le _))

theorem value_valueOperand {value : Nat} (fits : value < 2 ^ 64) (values : DebuggeeValues) :
    (valueOperand value).value values = some (UInt64.ofNat value) := by
  have taken : (utf8 "0x" ++ hexadecimal value).take 2 = utf8 "0x" := List.take_left' rfl
  have dropped : (utf8 "0x" ++ hexadecimal value).drop 2 = hexadecimal value :=
    List.drop_left' rfl
  have reads : fromCharsAll 16 (2 ^ 64) (hexadecimal value) = some value := by
    have digits := ofDigits_hexadecimal value
    rw [fromCharsAll_of_digits (hexadecimal_ne_nil value) (fun byte member =>
      isDigit_of_isLowerHex (isLowerHex_of_mem_hexadecimal member)) (by rw [digits]; exact fits),
      digits]
  rw [valueOperand, ExpressionOperand.value, utf8_hexConstant, if_pos taken, dropped, reads,
    Option.map_some]

theorem value_sourceOperand {predicate : ConditionalPredicate} (permitted : predicate.Permitted)
    (values : DebuggeeValues) :
    (sourceOperand predicate).value values = some (predicate.actual values) := by
  rcases predicate with ⟨source, operation, registerName, value⟩
  cases source with
  | registerValue =>
      have every : ∀ name ∈ ["cax", "cbx", "ccx", "cdx", "csi", "cdi", "cbp", "csp", "cip"],
          (utf8 name).take 2 ≠ utf8 "0x" ∧
            ["cax", "cbx", "ccx", "cdx", "csi", "cdi", "cbp", "csp", "cip"].find?
              (fun other => utf8 other == utf8 name) = some name := by
        decide
      rcases every registerName (List.contains_iff_mem.mp permitted.1) with ⟨noPrefix, found⟩
      change ExpressionOperand.value values (.word (utf8 registerName)) = _
      rw [ExpressionOperand.value, if_neg noPrefix, found]
      rfl
  | threadId => rfl
  | hitCount => rfl

theorem value_lt_of_permitted {predicate : ConditionalPredicate}
    (permitted : predicate.Permitted) : predicate.value < 2 ^ 64 := by
  rcases predicate with ⟨source, operation, registerName, value⟩
  cases source with
  | registerValue => exact permitted.2.2
  | threadId => exact Nat.lt_trans permitted.2.2 (by decide)
  | hitCount => exact Nat.lt_trans permitted.2.2 (by decide)

/-- Only a hit count is asked for a multiple, and its divisor is not zero. -/
theorem value_pos_of_multipleOf {predicate : ConditionalPredicate}
    (permitted : predicate.Permitted) (multiple : predicate.operation = .multipleOf) :
    1 ≤ predicate.value := by
  rcases predicate with ⟨source, operation, registerName, value⟩
  cases source with
  | registerValue => exact absurd multiple permitted.2.1
  | threadId => rcases permitted.2.1 with equal | equal <;> cases equal.symm.trans multiple
  | hitCount => exact permitted.2.1

/-- The comparisons of words are those of numbers. -/
theorem apply_comparison {operation : ConditionalOperator} (comparison : operation ≠ .multipleOf)
    (actual : UInt64) {value : Nat} (fits : value < 2 ^ 64) :
    (binaryOperator operation).apply actual (UInt64.ofNat value) =
      some (BinaryOperator.truth (operation.relates actual.toNat value)) := by
  have word : (UInt64.ofNat value).toNat = value := UInt64.toNat_ofNat_of_lt' fits
  have same : (actual == UInt64.ofNat value) = decide (actual.toNat = value) := by
    rw [Bool.eq_iff_iff, beq_iff_eq, decide_eq_true_eq, ← UInt64.toNat_inj, word]
  cases operation with
  | equal => simp [binaryOperator, BinaryOperator.apply, ConditionalOperator.relates, same]
  | notEqual =>
      simp [binaryOperator, BinaryOperator.apply, ConditionalOperator.relates, bne, same]
  | less =>
      simp [binaryOperator, BinaryOperator.apply, ConditionalOperator.relates,
        UInt64.lt_iff_toNat_lt, word]
  | lessEqual =>
      simp [binaryOperator, BinaryOperator.apply, ConditionalOperator.relates,
        UInt64.le_iff_toNat_le, word]
  | greater =>
      simp [binaryOperator, BinaryOperator.apply, ConditionalOperator.relates,
        UInt64.lt_iff_toNat_lt, word]
  | greaterEqual =>
      simp [binaryOperator, BinaryOperator.apply, ConditionalOperator.relates,
        UInt64.le_iff_toNat_le, word]
  | multipleOf => exact absurd rfl comparison

/-- A remainder is zero for a multiple. -/
theorem apply_remainder (actual : UInt64) {value : Nat} (positive : 1 ≤ value)
    (fits : value < 2 ^ 64) :
    ∃ remainder, BinaryOperator.remainder.apply actual (UInt64.ofNat value) = some remainder ∧
      BinaryOperator.equal.apply remainder 0 =
        some (BinaryOperator.truth (ConditionalOperator.multipleOf.relates actual.toNat value)) := by
  have word : (UInt64.ofNat value).toNat = value := UInt64.toNat_ofNat_of_lt' fits
  have nonzero : UInt64.ofNat value ≠ 0 := by
    rw [ne_eq, ← UInt64.toNat_inj, word]
    exact Nat.ne_of_gt positive
  refine ⟨actual % UInt64.ofNat value, if_neg nonzero, ?_⟩
  have zero : (actual % UInt64.ofNat value == 0) = decide (value ∣ actual.toNat) := by
    rw [Bool.eq_iff_iff, beq_iff_eq, decide_eq_true_eq, ← UInt64.toNat_inj, UInt64.toNat_mod,
      word, Nat.dvd_iff_mod_eq_zero]
    rfl
  simp [BinaryOperator.apply, ConditionalOperator.relates, zero]

theorem eval_term {predicate : ConditionalPredicate} (permitted : predicate.Permitted)
    (values : DebuggeeValues) :
    evalExpression values (termExpr predicate) =
      some (BinaryOperator.truth (predicate.holds values)) := by
  have fits := value_lt_of_permitted permitted
  have inner : evalExpression values (.binary (binaryOperator predicate.operation)
      (.leaf (sourceOperand predicate)) (.leaf (valueOperand predicate.value))) =
        (binaryOperator predicate.operation).apply (predicate.actual values)
          (UInt64.ofNat predicate.value) := by
    simp only [evalExpression, Precedence.Expr.eval, value_sourceOperand permitted,
      value_valueOperand fits, Option.bind_some]
  rw [ConditionalPredicate.holds, termExpr]
  split_ifs with multiple
  · have positive := value_pos_of_multipleOf permitted multiple
    rcases apply_remainder (predicate.actual values) positive fits with
      ⟨remainder, divides, decides⟩
    have zero : ExpressionOperand.value values (.word (utf8 "0")) = some 0 := rfl
    rw [multiple] at inner ⊢
    rw [evalExpression] at inner ⊢
    rw [Precedence.Expr.eval, inner, Precedence.Expr.eval, zero, binaryOperator, divides,
      Option.bind_some, Option.bind_some, decides]
  · rw [inner, apply_comparison multiple _ fits]

/-! ## Many predicates -/

/-- What stands between two predicates. -/
def modeText (mode : ConditionalMode) : String :=
  if mode = .all then "&&" else "||"

/-- The operator that it is. -/
def modeOperator (mode : ConditionalMode) : BinaryOperator :=
  if mode = .all then .and else .or

/-- What stands behind the first predicate. -/
def chainText (mode : ConditionalMode) : List ConditionalPredicate → List UInt8
  | [] => []
  | predicate :: rest =>
      utf8 (modeText mode) ++ (utf8 (conditionalTerm (sourceText predicate) predicate) ++
        chainText mode rest)

/-- The tokens of the predicates behind the first. -/
def chainTokens (mode : ConditionalMode) : List ConditionalPredicate → List ExpressionToken
  | [] => []
  | predicate :: rest => .op (modeOperator mode) :: (termTokens predicate ++ chainTokens mode rest)

/-- The expression of all of them. -/
def chainExpr (mode : ConditionalMode) (expr : DebuggerExpression)
    (predicates : List ConditionalPredicate) : DebuggerExpression :=
  predicates.foldl (fun left predicate => .binary (modeOperator mode) left (termExpr predicate))
    expr

theorem lexes_chain (mode : ConditionalMode) {predicates : List ConditionalPredicate}
    (permitted : ∀ predicate ∈ predicates, predicate.Permitted) :
    Lexes (chainText mode predicates) (chainTokens mode predicates) := by
  induction predicates with
  | nil => exact .nil
  | cons predicate rest ih =>
      rw [List.forall_mem_cons] at permitted
      have behind := Lexes.term permitted.1 (ih permitted.2)
      rw [chainText, chainTokens]
      cases mode with
      | all => exact @Lexes.symbol 0x26 [0x26] _ _ _ (by decide) rfl behind
      | any => exact @Lexes.symbol 0x7c [0x7c] _ _ _ (by decide) rfl behind

/-- A chain of one operator associates to the left. -/
theorem derives_chain (mode : ConditionalMode) {tokens : List ExpressionToken}
    {expr : DebuggerExpression}
    (derives : Precedence.Derives BinaryOperator.precedence (modeOperator mode).precedence
      tokens expr) (predicates : List ConditionalPredicate) :
    Precedence.Derives BinaryOperator.precedence (modeOperator mode).precedence
      (tokens ++ chainTokens mode predicates) (chainExpr mode expr predicates) := by
  induction predicates generalizing tokens expr with
  | nil =>
      rw [chainTokens, List.append_nil]
      exact derives
  | cons predicate rest ih =>
      have longer := ih (.binary (Nat.le_refl _) derives (derives_term predicate _))
      rw [List.append_assoc] at longer
      exact longer

/-- What the mode makes of two truths. -/
def modeJoins (mode : ConditionalMode) (left right : Bool) : Bool :=
  match mode with
  | .all => left && right
  | .any => left || right

/-- What the first predicate and the others mean together. -/
def chainHolds (mode : ConditionalMode) (values : DebuggeeValues) (first : Bool)
    (predicates : List ConditionalPredicate) : Bool :=
  predicates.foldl (fun left predicate => modeJoins mode left (predicate.holds values)) first

theorem chainHolds_eq (mode : ConditionalMode) (values : DebuggeeValues) (first : Bool)
    (predicates : List ConditionalPredicate) :
    chainHolds mode values first predicates =
      match mode with
      | .all => first && predicates.all (·.holds values)
      | .any => first || predicates.any (·.holds values) := by
  induction predicates generalizing first with
  | nil => cases mode <;> simp [chainHolds]
  | cons predicate rest ih =>
      rw [chainHolds, List.foldl_cons, ← chainHolds, ih]
      cases mode <;> simp [modeJoins, Bool.and_assoc, Bool.or_assoc]

theorem apply_mode (mode : ConditionalMode) (left right : Bool) :
    (modeOperator mode).apply (BinaryOperator.truth left) (BinaryOperator.truth right) =
      some (BinaryOperator.truth (modeJoins mode left right)) := by
  cases mode <;> cases left <;> cases right <;> rfl

theorem eval_chain (mode : ConditionalMode) (values : DebuggeeValues)
    {predicates : List ConditionalPredicate}
    (permitted : ∀ predicate ∈ predicates, predicate.Permitted) {expr : DebuggerExpression}
    {first : Bool} (value : evalExpression values expr = some (BinaryOperator.truth first)) :
    evalExpression values (chainExpr mode expr predicates) =
      some (BinaryOperator.truth (chainHolds mode values first predicates)) := by
  induction predicates generalizing expr first with
  | nil => exact value
  | cons predicate rest ih =>
      rw [List.forall_mem_cons] at permitted
      have joined : evalExpression values (.binary (modeOperator mode) expr (termExpr predicate)) =
          some (BinaryOperator.truth (modeJoins mode first (predicate.holds values))) := by
        rw [evalExpression, Precedence.Expr.eval, ← evalExpression, ← evalExpression, value,
          eval_term permitted.1 values, Option.bind_some, Option.bind_some, apply_mode]
      exact ih permitted.2 joined

/-! ## The compiler -/

theorem length_hexConstant_le {value digits : Nat} (some_digit : 0 < digits)
    (fits : value < 16 ^ digits) : (utf8 (hexConstant value)).length ≤ digits + 2 := by
  have most := length_hexadecimal_le some_digit fits
  have start : (utf8 "0x").length = 2 := rfl
  rw [utf8_hexConstant, List.length_append, start]
  omega

theorem length_operator_le (operation : ConditionalOperator) :
    (utf8 (conditionalOperatorToken operation)).length ≤ 2 := by
  cases operation <;> decide

/-- The longest is a multiple of a hit count. -/
theorem length_conditionalTerm_le {predicate : ConditionalPredicate}
    (permitted : predicate.Permitted) :
    (utf8 (conditionalTerm (sourceText predicate) predicate)).length ≤ 36 := by
  have operator := length_operator_le predicate.operation
  have shapes : (utf8 (conditionalTerm (sourceText predicate) predicate)).length ≤
      (utf8 (sourceText predicate)).length + (utf8 (hexConstant predicate.value)).length +
        if predicate.operation = .multipleOf then 8 else 4 := by
    have open1 : (utf8 "(").length = 1 := rfl
    have open2 : (utf8 "((").length = 2 := rfl
    have percent : (utf8 "%").length = 1 := rfl
    have close1 : (utf8 ")").length = 1 := rfl
    have close5 : (utf8 ")==0)").length = 5 := rfl
    rw [conditionalTerm]
    split_ifs <;> simp only [utf8_append, List.length_append, open1, open2, percent, close1,
      close5] <;> omega
  rcases predicate with ⟨source, operation, registerName, value⟩
  cases source with
  | registerValue =>
      have every : ∀ name ∈ ["cax", "cbx", "ccx", "cdx", "csi", "cdi", "cbp", "csp", "cip"],
          (utf8 name).length = 3 := by
        decide
      have name : (utf8 registerName).length = 3 :=
        every registerName (List.contains_iff_mem.mp permitted.1)
      have constant := @length_hexConstant_le value 16 (by decide) permitted.2.2
      rw [if_neg permitted.2.1] at shapes
      simp only [sourceText] at shapes ⊢
      omega
  | threadId =>
      have name : (utf8 "tid()").length = 5 := rfl
      have constant := @length_hexConstant_le value 8 (by decide) permitted.2.2
      simp only [sourceText] at shapes ⊢
      split_ifs at shapes <;> omega
  | hitCount =>
      have name : (utf8 "$breakpointcounter").length = 18 := rfl
      have constant := @length_hexConstant_le value 8 (by decide) permitted.2.2
      simp only [sourceText] at shapes ⊢
      split_ifs at shapes <;> omega

section Compiler

variable {build : Build}

/-- What the loop has written is followed by the chain of the predicates left. -/
theorem compilePredicates_spec (pointer : build.pointerBytes = 8)
    (room : build.maxConditionalExprSize = 256) (mode : ConditionalMode) {expression : String}
    {predicates : List ConditionalPredicate}
    (short : (utf8 expression).length + 38 * predicates.length < 256) :
    ((∀ predicate ∈ predicates, predicate.Permitted) →
      ∃ result, compilePredicates build mode false expression predicates = some result ∧
        utf8 result = utf8 expression ++ chainText mode predicates ∧
        (utf8 result).length < 256) ∧
    (¬ (∀ predicate ∈ predicates, predicate.Permitted) →
      compilePredicates build mode false expression predicates = none) := by
  induction predicates generalizing expression with
  | nil =>
      refine ⟨fun _ => ⟨expression, rfl, (List.append_nil _).symm, by omega⟩, fun refused => ?_⟩
      exact absurd (fun _ member => nomatch member) refused
  | cons predicate rest ih =>
      rw [List.length_cons] at short
      rw [List.forall_mem_cons, compilePredicates]
      rcases conditionalOperand_eq build pointer predicate with ⟨accepts, refuses⟩
      by_cases permitted : predicate.Permitted
      · have term := length_conditionalTerm_le permitted
        have separator : (utf8 (modeText mode)).length = 2 := by cases mode <;> rfl
        have size : (utf8 (expression ++ modeText mode ++
            conditionalTerm (sourceText predicate) predicate)).length ≤
              (utf8 expression).length + 38 := by
          rw [utf8_append, utf8_append, List.length_append, List.length_append]
          omega
        have fits : (utf8 (expression ++ modeText mode ++
            conditionalTerm (sourceText predicate) predicate)).length <
              build.maxConditionalExprSize := by
          omega
        have next := @ih (expression ++ modeText mode ++
          conditionalTerm (sourceText predicate) predicate) (by omega)
        rw [accepts permitted]
        simp only [Bool.false_eq_true, if_false, Option.bind_eq_bind, Option.bind_some]
        rw [← modeText, require, if_pos fits, Option.bind_some]
        refine ⟨fun all => ?_, fun refused => next.2 fun later => refused ⟨permitted, later⟩⟩
        rcases next.1 all.2 with ⟨result, compiled, text, small⟩
        refine ⟨result, compiled, ?_, small⟩
        rw [text, utf8_append, utf8_append, chainText, List.append_assoc, List.append_assoc]
      · rw [refuses permitted]
        exact ⟨fun all => absurd all.1 permitted, fun _ => rfl⟩

/-- The condition is compiled exactly where it is permitted, to the term of its first
predicate and the chain of the others. -/
theorem compileConditionalExpression_spec (pointer : build.pointerBytes = 8)
    (room : build.maxConditionalExprSize = 256) (condition : ConditionalSpec) :
    (condition.Permitted → ∃ first rest expression, condition.predicates = first :: rest ∧
      compileConditionalExpression build condition = some expression ∧
      utf8 expression = utf8 (conditionalTerm (sourceText first) first) ++
        chainText condition.mode rest ∧
      (utf8 expression).length < 256) ∧
    (¬ condition.Permitted → compileConditionalExpression build condition = none) := by
  rcases condition with ⟨mode, predicates⟩
  rw [compileConditionalExpression]
  cases predicates with
  | nil => exact ⟨fun permitted => absurd permitted.count.1 (Nat.not_succ_le_zero 0), fun _ => rfl⟩
  | cons first rest =>
      dsimp only
      split_ifs with outside
      · have many : 4 < (first :: rest).length := outside.resolve_left (by simp)
        exact ⟨fun permitted => absurd permitted.count.2 (Nat.not_le.mpr many), fun _ => rfl⟩
      have count : (first :: rest).length ≤ 4 := by
        rw [not_or, Nat.not_lt] at outside
        exact outside.2
      rw [List.length_cons] at count
      rw [compilePredicates]
      rcases conditionalOperand_eq build pointer first with ⟨accepts, refuses⟩
      by_cases permitted : first.Permitted
      · have term := length_conditionalTerm_le permitted
        have whole : "" ++ conditionalTerm (sourceText first) first =
            conditionalTerm (sourceText first) first :=
          String.empty_append
        have fits : (utf8 (conditionalTerm (sourceText first) first)).length <
            build.maxConditionalExprSize := by
          omega
        have later := @compilePredicates_spec build pointer room mode
          (conditionalTerm (sourceText first) first) rest (by omega)
        rw [accepts permitted]
        simp only [if_true, Option.bind_eq_bind, Option.bind_some]
        rw [whole, require, if_pos fits, Option.bind_some]
        constructor
        · intro all
          rcases later.1 (List.forall_mem_cons.mp all.each).2 with ⟨result, compiled, text, small⟩
          exact ⟨first, rest, result, rfl, compiled, text, small⟩
        · intro refused
          refine later.2 fun each => refused ⟨⟨Nat.succ_le_succ (Nat.zero_le _), count⟩, ?_⟩
          exact List.forall_mem_cons.mpr ⟨permitted, each⟩
      · rw [refuses permitted]
        exact ⟨fun all => absurd (List.forall_mem_cons.mp all.each).1 permitted, fun _ => rfl⟩

/-- For 64 bits: a condition is compiled exactly where it is permitted, which is where
the server accepts it.  Its expression fits the debugger's buffer, and the grammar of the
debugger gives it one reading, whose value is that of the condition whatever the
registers, the thread and the hit count are; so nothing is divided by zero. -/
theorem compileConditionalExpression_means (pointer : build.pointerBytes = 8)
    (room : build.maxConditionalExprSize = 256) (condition : ConditionalSpec) :
    ((compileConditionalExpression build condition).isSome = true ↔ condition.Permitted) ∧
    ((∀ predicate ∈ condition.predicates, predicate.value < 2 ^ 64) →
      (Tools.validateConditionalSpec [("condition", .object (conditionFields condition))] =
        .ok () ↔ condition.Permitted)) ∧
    ∀ expression, compileConditionalExpression build condition = some expression →
      (utf8 expression).length < build.maxConditionalExprSize ∧
      ∃ tokens expr, lex (utf8 expression) = some tokens ∧
        Precedence.Derives BinaryOperator.precedence 0 tokens expr ∧
        (∀ other, Precedence.Derives BinaryOperator.precedence 0 tokens other → other = expr) ∧
        ∀ values, evalExpression values expr =
          some (BinaryOperator.truth (condition.holds values)) := by
  rcases compileConditionalExpression_spec pointer room condition with ⟨accepts, refuses⟩
  by_cases permitted : condition.Permitted
  · rcases accepts permitted with ⟨first, rest, result, predicates, compiled, text, small⟩
    rw [compiled]
    refine ⟨iff_of_true rfl permitted, validateConditionalSpec_iff, ?_⟩
    rintro expression ⟨⟩
    have each := permitted.each
    rw [predicates, List.forall_mem_cons] at each
    have lexes := Lexes.term each.1 (lexes_chain condition.mode each.2)
    rw [← text] at lexes
    have chain := derives_chain condition.mode (derives_term first _) rest
    have derives : Precedence.Derives BinaryOperator.precedence 0
        (termTokens first ++ chainTokens condition.mode rest)
        (chainExpr condition.mode (termExpr first) rest) :=
      chain.mono (Nat.zero_le _)
    refine ⟨room ▸ small, _, _, lexes.lex, derives, fun other again => derives.unique again, ?_⟩
    intro values
    rw [eval_chain condition.mode values each.2 (eval_term each.1 values), chainHolds_eq,
      ConditionalSpec.holds, predicates]
    cases condition.mode <;> simp
  · rw [refuses permitted]
    exact ⟨iff_of_false Bool.false_ne_true permitted, validateConditionalSpec_iff,
      fun expression none => nomatch none⟩

end Compiler

/-- A register, the thread, and every third hit. -/
def threePredicates : ConditionalSpec where
  mode := .all
  predicates :=
    [⟨.registerValue, .equal, "cax", 1⟩, ⟨.threadId, .notEqual, "", 0x20⟩,
      ⟨.hitCount, .multipleOf, "", 3⟩]

theorem compileConditionalExpression_means_three :
    ∃ expression, compileConditionalExpression ⟨8, 256⟩ threePredicates = some expression ∧
      ∃ tokens expr, lex (utf8 expression) = some tokens ∧
        Precedence.Derives BinaryOperator.precedence 0 tokens expr ∧
        evalExpression ⟨fun _ => 1, 0x21, 6⟩ expr = some 1 ∧
        evalExpression ⟨fun _ => 1, 0x21, 7⟩ expr = some 0 := by
  have means := @compileConditionalExpression_means ⟨8, 256⟩ rfl rfl threePredicates
  have permitted : threePredicates.Permitted := by
    refine ⟨by decide, ?_⟩
    simp [threePredicates, ConditionalPredicate.Permitted, portableConditionalRegister]
  rcases Option.isSome_iff_exists.mp (means.1.mpr permitted) with ⟨expression, compiled⟩
  rcases (means.2.2 expression compiled).2 with ⟨tokens, expr, lexed, derives, -, value⟩
  exact ⟨expression, compiled, tokens, expr, lexed, derives, value _, value _⟩

end X64dbgMcp.Plugin
