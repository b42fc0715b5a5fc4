import Mathlib.Data.List.Infix

/-!
# Replacing words in a text

Every occurrence of a word is replaced from left to right, without overlaps.  What was
replaced is described twice: by the first occurrence and the rest, and, for several words
replaced one after another, by the places of the original text that were replaced.

The second description needs a replacement that no word can touch: `Separates` says that
an occurrence next to the replacement lies entirely before or behind it.
-/

namespace X64dbgMcp.Text

universe u

variable {α : Type u}

section Scan

variable [DecidableEq α]

/-- Skip the rest of an occurrence, then look for the next one. -/
def replaceFrom (word replacement : List α) : Nat → List α → List α
  | _, [] => []
  | skip + 1, _ :: rest => replaceFrom word replacement skip rest
  | 0, symbol :: rest =>
      if word.isPrefixOf (symbol :: rest) then
        replacement ++ replaceFrom word replacement (word.length - 1) rest
      else symbol :: replaceFrom word replacement 0 rest

attribute [grind =] replaceFrom

/-- All occurrences of a nonempty word replaced. -/
def replace (word replacement text : List α) : List α :=
  replaceFrom word replacement 0 text

end Scan

/-- The first occurrence of the word is replaced, and so on behind it. -/
inductive Replaced (word replacement : List α) : List α → List α → Prop where
  | absent {text : List α} (absent : ¬ word <:+: text) : Replaced word replacement text text
  | found {before after result : List α} (first : ¬ word <:+: before ++ word.dropLast)
      (rest : Replaced word replacement after result) :
      Replaced word replacement (before ++ word ++ after) (before ++ replacement ++ result)

theorem replaceFrom_eq_drop [DecidableEq α] (word replacement : List α) (skip : Nat)
    (text : List α) :
    replaceFrom word replacement skip text = replace word replacement (text.drop skip) := by
  induction text generalizing skip with
  | nil => cases skip <;> rfl
  | cons symbol rest ih =>
      cases skip with
      | zero => rfl
      | succ skip => exact ih skip

theorem replace_of_start [DecidableEq α] {word replacement after : List α}
    (nonempty : word ≠ []) :
    replace word replacement (word ++ after) = replacement ++ replace word replacement after := by
  cases word with
  | nil => contradiction
  | cons symbol rest =>
      have here : (symbol :: rest).isPrefixOf (symbol :: (rest ++ after)) = true :=
        List.isPrefixOf_iff_prefix.mpr ⟨after, rfl⟩
      rw [replace, List.cons_append, replaceFrom, if_pos here, replaceFrom_eq_drop]
      simp

theorem replace_of_mismatch [DecidableEq α] {word replacement rest : List α} {symbol : α}
    (absent : ¬ word <+: symbol :: rest) :
    replace word replacement (symbol :: rest) = symbol :: replace word replacement rest := by
  have different : ¬ word.isPrefixOf (symbol :: rest) = true :=
    fun isPrefix => absent (List.isPrefixOf_iff_prefix.mp isPrefix)
  rw [replace, replaceFrom, if_neg different]
  rfl

/-- A symbol in front of which no occurrence begins is kept. -/
theorem Replaced.cons {word replacement text result : List α} {symbol : α} (nonempty : word ≠ [])
    (absent : ¬ word <+: symbol :: text) (replaced : Replaced word replacement text result) :
    Replaced word replacement (symbol :: text) (symbol :: result) := by
  cases replaced with
  | absent nowhere =>
      refine .absent ?_
      rw [List.infix_cons_iff]
      exact not_or.mpr ⟨absent, nowhere⟩
  | @found before after result first rest =>
      have further : ¬ word <:+: symbol :: before ++ word.dropLast := by
        rw [List.cons_append, List.infix_cons_iff]
        refine not_or.mpr ⟨?_, first⟩
        intro isPrefix
        apply absent
        refine isPrefix.trans ⟨word.getLast nonempty :: after, ?_⟩
        calc
          symbol :: (before ++ word.dropLast) ++ word.getLast nonempty :: after =
              symbol :: (before ++ (word.dropLast ++ [word.getLast nonempty]) ++ after) := by simp
          _ = symbol :: (before ++ word ++ after) := by rw [List.dropLast_append_getLast]
      exact .found further rest

theorem absent_dropLast {word : List α} (nonempty : word ≠ []) : ¬ word <:+: word.dropLast := by
  intro inside
  have shorter := inside.length_le
  rw [List.length_dropLast] at shorter
  have positive := List.length_pos_iff.mpr nonempty
  omega

/-- What `replace` computes. -/
theorem replaced_replace [DecidableEq α] {word : List α} (nonempty : word ≠ [])
    (replacement text : List α) :
    Replaced word replacement text (replace word replacement text) := by
  induction length : text.length using Nat.strong_induction_on generalizing text with
  | _ size ih =>
      cases text with
      | nil =>
          refine .absent ?_
          rw [List.infix_nil]
          exact nonempty
      | cons symbol rest =>
          by_cases here : word <+: symbol :: rest
          · obtain ⟨after, split⟩ := here
            have positive := List.length_pos_iff.mpr nonempty
            have sizes := congrArg List.length split
            rw [List.length_append] at sizes
            rw [← split, replace_of_start nonempty]
            exact @Replaced.found _ _ _ [] _ _ (absent_dropLast nonempty)
              (ih after.length (by omega) after rfl)
          · rw [replace_of_mismatch here]
            refine Replaced.cons nonempty here (ih rest.length ?_ rest rfl)
            rw [← length, List.length_cons]
            exact Nat.lt_succ_self _

/-! ## Replacements that no word touches -/

/-- An occurrence of the word in a text with the replacement lies before or behind it. -/
def Separates (replacement word : List α) : Prop :=
  ∀ before after front back, front ++ word ++ back = before ++ replacement ++ after →
    (∃ between, before = front ++ word ++ between ∧ back = between ++ replacement ++ after) ∨
      ∃ between, front = before ++ replacement ++ between ∧ after = between ++ word ++ back

/-- An occurrence of a word lies before or behind a symbol that it does not have. -/
theorem separates_symbol {symbol : α} {word : List α} (foreign : symbol ∉ word) :
    Separates [symbol] word := by
  intro before after front back split
  rw [List.append_assoc before, List.singleton_append] at split
  rcases List.append_eq_append_iff.mp split with ⟨tail, whole, rest⟩ | ⟨tail, whole, rest⟩
  · exact .inl ⟨tail, whole, by rw [rest]; simp⟩
  · cases tail with
    | nil => exact .inl ⟨[], by simpa using whole.symm, by simpa using rest.symm⟩
    | cons other tail =>
        -- The occurrence ends behind the place of the symbol, so it begins there too.
        rw [List.cons_append, List.cons.injEq] at rest
        obtain ⟨rfl, rfl⟩ := rest
        rcases List.append_eq_append_iff.mp whole with ⟨more, _, inside⟩ | ⟨more, begins, inside⟩
        · rw [inside] at foreign
          exact absurd (by simp) foreign
        · cases more with
          | nil =>
              rw [List.nil_append] at inside
              rw [← inside] at foreign
              exact absurd List.mem_cons_self foreign
          | cons other more =>
              rw [List.cons_append, List.cons.injEq] at inside
              obtain ⟨rfl, rfl⟩ := inside
              exact .inr ⟨more, by simpa using begins, rfl⟩

/-- A replacement between two symbols that the word does not have, and without the word. -/
theorem separates_enclosed {left right : α} {middle word : List α} (opened : left ∉ word)
    (closed : right ∉ word) (absent : ¬ word <:+: middle) :
    Separates (left :: middle ++ [right]) word := by
  intro before after front back split
  have first : front ++ word ++ back = before ++ [left] ++ (middle ++ [right] ++ after) := by
    rw [split]
    simp
  rcases separates_symbol opened _ _ _ _ first with
    ⟨between, beforeEq, backEq⟩ | ⟨between, frontEq, middleEq⟩
  · exact .inl ⟨between, beforeEq, by rw [backEq]; simp⟩
  · rcases separates_symbol closed _ _ _ _ middleEq.symm with
      ⟨later, inside, _⟩ | ⟨later, betweenEq, afterEq⟩
    · exact absurd ⟨between, later, inside.symm⟩ absent
    · exact .inr ⟨later, by rw [frontEq, betweenEq]; simp, afterEq⟩

theorem Separates.inside {replacement word before after : List α}
    (separates : Separates replacement word)
    (occurs : word <:+: before ++ replacement ++ after) : word <:+: before ∨ word <:+: after := by
  obtain ⟨front, back, split⟩ := occurs
  rcases separates _ _ _ _ split with ⟨between, whole, _⟩ | ⟨between, _, whole⟩
  · exact .inl ⟨front, between, whole.symm⟩
  · exact .inr ⟨between, back, whole.symm⟩

section Separated

variable {word replacement text result : List α}

/-- Replacing makes no new occurrence of a word. -/
theorem Replaced.inside_of_inside (replaced : Replaced word replacement text result)
    {other : List α} (separates : Separates replacement other) (occurs : other <:+: result) :
    other <:+: text := by
  induction replaced with
  | absent => exact occurs
  | @found before after result _ _ ih =>
      rcases separates.inside occurs with inBefore | inResult
      · rw [List.append_assoc]
        exact List.infix_append_of_infix_left inBefore
      · exact List.infix_append_of_infix_right (ih inResult)

/-- No occurrence of the replaced word is left. -/
theorem Replaced.gone (replaced : Replaced word replacement text result)
    (separates : Separates replacement word) : ¬ word <:+: result := by
  induction replaced with
  | absent absent => exact absent
  | @found before after result first _ ih =>
      intro occurs
      rcases separates.inside occurs with inBefore | inResult
      · exact first (List.infix_append_of_infix_left inBefore)
      · exact ih inResult

end Separated

/-! ## Several words -/

/-- Some places of the text that hold one of the words are replaced; the rest is kept. -/
inductive Substituted (words : List (List α)) (replacement : List α) :
    List α → List α → Prop where
  | kept (text : List α) : Substituted words replacement text text
  | place {before word after result : List α} (member : word ∈ words)
      (rest : Substituted words replacement after result) :
      Substituted words replacement (before ++ word ++ after) (before ++ replacement ++ result)

namespace Substituted

variable {words : List (List α)} {replacement text result : List α}

/-- An occurrence that does not touch the replacement was there before. -/
theorem split {word : List α} (separates : Separates replacement word)
    (substituted : Substituted words replacement text result) {front back : List α}
    (occurs : result = front ++ word ++ back) :
    ∃ before after, text = before ++ word ++ after ∧
      Substituted words replacement before front ∧ Substituted words replacement after back := by
  induction substituted generalizing front with
  | kept text => exact ⟨front, back, occurs, .kept front, .kept back⟩
  | @place before replaced after result member rest ih =>
      rcases separates _ _ _ _ occurs.symm with ⟨between, rfl, rfl⟩ | ⟨between, rfl, inResult⟩
      · exact ⟨front, between ++ replaced ++ after, by simp, .kept front, .place member rest⟩
      · obtain ⟨earlier, later, rfl, substitutedFront, substitutedBack⟩ := ih inResult
        exact ⟨before ++ replaced ++ earlier, later, by simp, .place member substitutedFront,
          substitutedBack⟩

/-- One more place between two parts. -/
theorem join {word before front after back : List α} (member : word ∈ words)
    (left : Substituted words replacement before front)
    (right : Substituted words replacement after back) :
    Substituted words replacement (before ++ word ++ after) (front ++ replacement ++ back) := by
  induction left with
  | kept text => exact .place member right
  | @place earlier other later result otherMember _ ih =>
      have joined := @place _ _ _ earlier _ _ _ otherMember ih
      simpa only [List.append_assoc] using joined

/-- Replacing a further word does not touch the places replaced before. -/
theorem replaced {word final : List α} (member : word ∈ words)
    (separates : Separates replacement word)
    (substituted : Substituted words replacement text result)
    (replaced : Replaced word replacement result final) :
    Substituted words replacement text final := by
  induction replaced generalizing text with
  | absent => exact substituted
  | found _ _ ih =>
      obtain ⟨before, after, rfl, left, right⟩ := substituted.split separates rfl
      exact join member left (ih right)

end Substituted

end X64dbgMcp.Text
