import Mathlib.Data.List.Basic

/-!
# Splitting command lines

Two ways in which a command line is split: by the rules of `CommandLineToArgvW`, where
backslashes count only before a quote, and as quoted arguments behind a comma and a
space, where a backslash makes the next character literal.
-/

namespace X64dbgMcp.Text

universe u

/-- The characters at which a command line is split. -/
structure Marks (α : Type u) where
  quote : α
  backslash : α
  blank : α → Bool
  backslash_ne_quote : backslash ≠ quote
  blank_quote : blank quote = false
  blank_backslash : blank backslash = false

namespace Marks

variable {α : Type u} [DecidableEq α] (marks : Marks α)

/-! ## CommandLineToArgvW -/

/-- An argument, if one has begun, with backslashes that no quote follows. -/
def pending (argument : Option (List α)) (backslashes : Nat) : Option (List α) :=
  if backslashes = 0 then argument
  else some (argument.getD [] ++ List.replicate backslashes marks.backslash)

/-- The arguments behind the first one. -/
def arguments (quoted : Bool) (backslashes : Nat) (argument : Option (List α)) :
    List α → List (List α)
  | [] => (marks.pending argument backslashes).toList
  | character :: rest =>
      if character = marks.backslash then arguments quoted (backslashes + 1) argument rest
      else if character = marks.quote then
        let before := argument.getD [] ++ List.replicate (backslashes / 2) marks.backslash
        if backslashes % 2 = 0 then arguments (!quoted) 0 (some before) rest
        else arguments quoted 0 (some (before ++ [marks.quote])) rest
      else if marks.blank character && !quoted then
        (marks.pending argument backslashes).toList ++ arguments false 0 none rest
      else
        arguments quoted 0 (some ((marks.pending argument backslashes).getD [] ++ [character])) rest

/-- The first argument has no escapes: in quotes it ends at the next quote, and else at
the first blank. -/
def commandLineToArgv : List α → List (List α)
  | [] => []
  | character :: rest =>
      if character = marks.quote then
        rest.takeWhile (· != marks.quote) ::
          marks.arguments false 0 none ((rest.dropWhile (· != marks.quote)).drop 1)
      else
        (character :: rest).takeWhile (!marks.blank ·) ::
          marks.arguments false 0 none ((character :: rest).dropWhile (!marks.blank ·))

variable {marks} {quoted : Bool} {argument : Option (List α)} {rest : List α}

attribute [grind =] arguments

@[simp]
theorem arguments_nil : marks.arguments false 0 argument [] = argument.toList :=
  rfl

@[simp]
theorem arguments_backslash (backslashes : Nat) :
    marks.arguments quoted backslashes argument (marks.backslash :: rest) =
      marks.arguments quoted (backslashes + 1) argument rest := by
  rw [arguments, if_pos rfl]

theorem arguments_backslashes (backslashes count : Nat) :
    marks.arguments quoted backslashes argument
        (List.replicate count marks.backslash ++ rest) =
      marks.arguments quoted (backslashes + count) argument rest := by
  induction count generalizing backslashes with
  | zero => rfl
  | succ count ih =>
      rw [List.replicate_succ, List.cons_append, arguments_backslash, ih, Nat.add_assoc,
        Nat.add_comm 1]

/-- `2n` backslashes before a quote are `n`, and the quote opens or closes. -/
theorem arguments_quote (count : Nat) :
    marks.arguments quoted 0 argument
        (List.replicate (count * 2) marks.backslash ++ marks.quote :: rest) =
      marks.arguments (!quoted) 0
        (some (argument.getD [] ++ List.replicate count marks.backslash)) rest := by
  rw [arguments_backslashes, Nat.zero_add, arguments, if_neg marks.backslash_ne_quote.symm,
    if_pos rfl, if_pos (Nat.mul_mod_left count 2), Nat.mul_div_cancel count (by decide)]

/-- `2n + 1` backslashes before a quote are `n` and the quote. -/
theorem arguments_literal_quote (count : Nat) :
    marks.arguments quoted 0 argument
        (List.replicate (count * 2 + 1) marks.backslash ++ marks.quote :: rest) =
      marks.arguments quoted 0
        (some (argument.getD [] ++ List.replicate count marks.backslash ++ [marks.quote]))
        rest := by
  have odd : ¬ (count * 2 + 1) % 2 = 0 := by omega
  have half : (count * 2 + 1) / 2 = count := by omega
  rw [arguments_backslashes, Nat.zero_add, arguments, if_neg marks.backslash_ne_quote.symm,
    if_pos rfl, if_neg odd, half]

/-- In quotes any other character is literal, and so are the backslashes before it. -/
theorem arguments_literal {character : α} (noBackslash : character ≠ marks.backslash)
    (noQuote : character ≠ marks.quote) (count : Nat) (begun : List α) :
    marks.arguments true 0 (some begun)
        (List.replicate count marks.backslash ++ character :: rest) =
      marks.arguments true 0
        (some (begun ++ List.replicate count marks.backslash ++ [character])) rest := by
  have literal : (marks.pending (some begun) count).getD [] =
      begun ++ List.replicate count marks.backslash := by
    unfold pending
    split_ifs with zero
    · rw [zero, List.replicate_zero, List.append_nil]
      rfl
    · rfl
  rw [arguments_backslashes, Nat.zero_add, arguments, if_neg noBackslash, if_neg noQuote,
    if_neg (by simp), literal]

/-- Behind its closing quote an argument ends at a blank. -/
theorem arguments_blank {character : α} (blank : marks.blank character = true) :
    marks.arguments false 0 argument (character :: rest) =
      argument.toList ++ marks.arguments false 0 none rest := by
  have noBackslash : character ≠ marks.backslash := by
    rintro rfl
    exact Bool.false_ne_true (marks.blank_backslash.symm.trans blank)
  have noQuote : character ≠ marks.quote := by
    rintro rfl
    exact Bool.false_ne_true (marks.blank_quote.symm.trans blank)
  rw [arguments, if_neg noBackslash, if_neg noQuote, if_pos (by simp [blank])]
  rfl

theorem commandLineToArgv_quoted {first : List α} (noQuote : marks.quote ∉ first) :
    marks.commandLineToArgv (marks.quote :: first ++ marks.quote :: rest) =
      first :: marks.arguments false 0 none rest := by
  have all : ∀ character ∈ first, (character != marks.quote) = true := by
    intro character member
    rw [bne_iff_ne]
    rintro rfl
    exact noQuote member
  rw [List.cons_append, commandLineToArgv, if_pos rfl, List.takeWhile_append_of_pos all,
    List.dropWhile_append_of_pos all, List.takeWhile_cons_of_neg (by simp),
    List.dropWhile_cons_of_neg (by simp), List.append_nil, List.drop_one, List.tail_cons]

/-! ## Arguments behind a comma and a space -/

/-- Where the next character stands.  Outside quotes a comma without a space behind it
is a part of the argument. -/
inductive Place where
  | outside
  | comma
  | inside
  | literal
  | closed
  | separator

variable (marks) (comma space : α)

/-- The arguments; a text behind a closing quote, or no closing quote, is an error. -/
def commandArguments : Place → List α → List α → Option (List (List α))
  | .outside, argument, [] => some [argument]
  | .outside, argument, character :: rest =>
      if character = marks.quote then commandArguments .inside argument rest
      else if character = comma then commandArguments .comma argument rest
      else commandArguments .outside (argument ++ [character]) rest
  | .comma, argument, [] => some [argument ++ [comma]]
  | .comma, argument, character :: rest =>
      if character = space then (commandArguments .outside [] rest).map (argument :: ·)
      else if character = marks.quote then commandArguments .inside (argument ++ [comma]) rest
      else if character = comma then commandArguments .comma (argument ++ [comma]) rest
      else commandArguments .outside (argument ++ [comma, character]) rest
  | .inside, _, [] => none
  | .inside, argument, character :: rest =>
      if character = marks.quote then commandArguments .closed argument rest
      else if character = marks.backslash then commandArguments .literal argument rest
      else commandArguments .inside (argument ++ [character]) rest
  | .literal, _, [] => none
  | .literal, argument, character :: rest =>
      commandArguments .inside (argument ++ [character]) rest
  | .closed, argument, [] => some [argument]
  | .closed, argument, character :: rest =>
      if character = comma then commandArguments .separator argument rest else none
  | .separator, _, [] => none
  | .separator, argument, character :: rest =>
      if character = space then (commandArguments .outside [] rest).map (argument :: ·) else none

attribute [grind =] commandArguments

/-- The text of which the splitter makes a literal character. -/
def escaped (character : α) : List α :=
  if character = marks.backslash ∨ character = marks.quote then [marks.backslash, character]
  else [character]

variable {marks comma space}

theorem commandArguments_escaped (character : α) (argument : List α) :
    marks.commandArguments comma space .inside argument (marks.escaped character ++ rest) =
      marks.commandArguments comma space .inside (argument ++ [character]) rest := by
  unfold escaped
  split_ifs with special
  · rw [List.cons_append, List.singleton_append, commandArguments,
      if_neg marks.backslash_ne_quote, if_pos rfl, commandArguments]
  · rcases not_or.mp special with ⟨noBackslash, noQuote⟩
    rw [List.singleton_append, commandArguments, if_neg noQuote, if_neg noBackslash]

/-- A quoted text of escaped characters is one argument. -/
theorem commandArguments_quoted (value argument : List α) :
    marks.commandArguments comma space .inside argument
        (value.flatMap marks.escaped ++ marks.quote :: rest) =
      marks.commandArguments comma space .closed (argument ++ value) rest := by
  induction value generalizing argument with
  | nil => rw [List.append_nil, List.flatMap_nil, List.nil_append, commandArguments, if_pos rfl]
  | cons character value ih =>
      rw [List.flatMap_cons, List.append_assoc, commandArguments_escaped, ih, List.append_assoc,
        List.singleton_append]

theorem commandArguments_next (value : List α) :
    marks.commandArguments comma space .outside []
        (marks.quote :: value.flatMap marks.escaped ++ marks.quote :: comma :: space :: rest) =
      (marks.commandArguments comma space .outside [] rest).map (value :: ·) := by
  rw [List.cons_append, commandArguments, if_pos rfl, commandArguments_quoted, List.nil_append,
    commandArguments, if_pos rfl, commandArguments, if_pos rfl]

theorem commandArguments_last (value : List α) :
    marks.commandArguments comma space .outside []
        (marks.quote :: value.flatMap marks.escaped ++ [marks.quote]) = some [value] := by
  rw [List.cons_append, commandArguments, if_pos rfl, commandArguments_quoted]
  rfl

end Marks

end X64dbgMcp.Text
