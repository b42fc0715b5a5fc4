import Mathlib.Data.List.GetD
import X64dbgMcp.Plugin.Utf8

/-!
# The text around a match

The left edge moves to the right over continuation bytes, and the right edge to the left
until the bytes in between are UTF-8.
-/

namespace X64dbgMcp.Plugin

open Text

/-- Where a match lies in the text. -/
structure Utf8LiteralMatch where
  offset : Nat
  length : Nat

/-- A match with the text around it. -/
structure Utf8MatchContext where
  before : List UInt8
  matched : List UInt8
  after : List UInt8
  text : List UInt8
  textOffset : Nat
  truncated : Bool
  deriving DecidableEq

/-- The most bytes on either side. -/
def maxContextBytes : Nat := 128

/-- The longest match. -/
def maxMatchBytes : Nat := 1024

/-- `std::string_view::substr` -/
def substr (value : List UInt8) (offset length : Nat) : List UInt8 :=
  (value.drop offset).take length

/-- The first loop; `left` is how far `start` is from the match. -/
def contextStart (value : List UInt8) : Nat → Nat → Nat
  | 0, start => start
  | left + 1, start =>
      if isContinuation (value.getD start 0) then contextStart value left (start + 1) else start

/-- The second loop; it counts the bytes behind the match. -/
def contextLength (value : List UInt8) (matchEnd : Nat) : Nat → Nat
  | 0 => 0
  | count + 1 =>
      if isValidUtf8 (substr value matchEnd (count + 1)) then count + 1
      else contextLength value matchEnd count

/-- The match with as much text around it as is asked for. -/
def utf8ContextAroundMatch (value : List UInt8) (found : Utf8LiteralMatch) (contextBytes : Nat) :
    Option Utf8MatchContext :=
  if maxContextBytes < contextBytes ∨ maxMatchBytes < found.length ∨
      value.length < found.offset ∨ value.length - found.offset < found.length ∨
      isValidUtf8 value = false ∨ isValidUtf8 (substr value found.offset found.length) = false then
    none
  else
    let first := if contextBytes < found.offset then found.offset - contextBytes else 0
    let start := contextStart value (found.offset - first) first
    let matchEnd := found.offset + found.length
    let most := min value.length (matchEnd + contextBytes)
    let ending := matchEnd + contextLength value matchEnd (most - matchEnd)
    let before := substr value start (found.offset - start)
    let matched := substr value found.offset found.length
    let after := substr value matchEnd (ending - matchEnd)
    some {
      before := before
      matched := matched
      after := after
      text := before ++ matched ++ after
      textOffset := start
      truncated := start != 0 || ending != value.length
    }

/-! ## The claims on a context -/

/-- UTF-8 of at most `contextBytes` bytes that ends where the match begins. -/
def EndsAtMatch (value : List UInt8) (offset contextBytes : Nat) (bytes : List UInt8) : Prop :=
  bytes <:+ value.take offset ∧ IsUtf8 bytes ∧ bytes.length ≤ contextBytes

/-- UTF-8 of at most `contextBytes` bytes that begins where the match ends. -/
def StartsBehindMatch (value : List UInt8) (matchEnd contextBytes : Nat) (bytes : List UInt8) :
    Prop :=
  bytes <+: value.drop matchEnd ∧ IsUtf8 bytes ∧ bytes.length ≤ contextBytes

/-- The longest of the candidates. -/
def IsLongest (candidate : List UInt8 → Prop) (bytes : List UInt8) : Prop :=
  candidate bytes ∧ ∀ other, candidate other → other.length ≤ bytes.length

/-! ## The two edges -/

theorem isValidUtf8_iff (value : List UInt8) : isValidUtf8 value = true ↔ IsUtf8 value :=
  isValidFrom_iff value value.length (Nat.le_refl _)

theorem isContinuation_eq (byte : UInt8) : isContinuation byte = Text.isContinuation byte := by
  rw [Bool.eq_iff_iff, isContinuation_iff, textContinuation_iff]

/-- The left edge stops at the first byte that is not a continuation byte. -/
theorem contextStart_spec (value : List UInt8) (left start : Nat) :
    start ≤ contextStart value left start ∧ contextStart value left start ≤ start + left ∧
      (∀ index, start ≤ index → index < contextStart value left start →
        isContinuation (value.getD index 0) = true) ∧
      (contextStart value left start < start + left →
        isContinuation (value.getD (contextStart value left start) 0) = false) := by
  induction left generalizing start with
  | zero =>
      refine ⟨Nat.le_refl _, Nat.le_refl _, ?_, fun short => absurd short (Nat.lt_irrefl _)⟩
      intro index above below
      exact absurd above (Nat.not_le.mpr below)
  | succ left ih =>
      rw [contextStart]
      split_ifs with continuation
      · rcases ih (start + 1) with ⟨above, below, skipped, stops⟩
        refine ⟨by omega, by omega, ?_, fun short => stops (by omega)⟩
        intro index from_start before_edge
        by_cases first : index = start
        · rw [first]
          exact continuation
        · exact skipped index (by omega) before_edge
      · refine ⟨Nat.le_refl _, Nat.le_add_right _ _, ?_, fun _ => Bool.of_not_eq_true continuation⟩
        intro index above below
        exact absurd above (Nat.not_le.mpr below)

/-- The right edge is the last one with UTF-8 before it. -/
theorem contextLength_spec (value : List UInt8) (matchEnd count : Nat) :
    contextLength value matchEnd count ≤ count ∧
      IsUtf8 (substr value matchEnd (contextLength value matchEnd count)) ∧
      ∀ length ≤ count, IsUtf8 (substr value matchEnd length) →
        length ≤ contextLength value matchEnd count := by
  induction count with
  | zero => exact ⟨Nat.le_refl _, .nil, fun length within _ => within⟩
  | succ count ih =>
      rw [contextLength]
      split_ifs with valid
      · exact ⟨Nat.le_refl _, (isValidUtf8_iff _).mp valid, fun length within _ => within⟩
      · rcases ih with ⟨short, isUtf8, most⟩
        refine ⟨Nat.le_succ_of_le short, isUtf8, ?_⟩
        intro length within other
        rcases Nat.le_succ_iff.mp within with less | rfl
        · exact most length less other
        · exact absurd ((isValidUtf8_iff _).mpr other) valid

theorem length_substr {value : List UInt8} {offset length : Nat}
    (within : offset + length ≤ value.length) : (substr value offset length).length = length := by
  rw [substr, List.length_take, List.length_drop]
  omega

theorem substr_append {value : List UInt8} {offset length next more : Nat}
    (adjacent : next = offset + length) :
    substr value offset length ++ substr value next more = substr value offset (length + more) := by
  rw [substr, substr, substr, adjacent, ← List.drop_drop, List.take_add]

/-- Text can be cut on both sides of a piece of text inside. -/
theorem isUtf8_around {front inside behind : List UInt8} (some : inside ≠ [])
    (isUtf8 : IsUtf8 inside) (whole : IsUtf8 (front ++ (inside ++ behind))) :
    IsUtf8 front ∧ IsUtf8 behind := by
  cases inside with
  | nil => exact absurd rfl some
  | cons byte rest =>
      rcases whole.cut_before isUtf8.leads with ⟨before, after⟩
      exact ⟨before, isUtf8.behind after⟩

/-- The text from the left edge to the match. -/
theorem isLongest_before {value : List UInt8} {offset : Nat} (within : offset ≤ value.length)
    (isUtf8 : IsUtf8 (value.take offset)) (contextBytes : Nat) :
    let first := if contextBytes < offset then offset - contextBytes else 0
    let start := contextStart value (offset - first) first
    start ≤ offset ∧
      IsLongest (EndsAtMatch value offset contextBytes) (substr value start (offset - start)) := by
  intro first start
  have edge : first ≤ offset ∧ offset - first ≤ contextBytes ∧
      ∀ length ≤ contextBytes, first ≤ offset - length := by
    simp only [first]
    split_ifs <;> refine ⟨by omega, by omega, fun length short => by omega⟩
  rcases contextStart_spec value (offset - first) first with ⟨above, below, skipped, stops⟩
  change first ≤ start at above
  change start ≤ first + (offset - first) at below
  have start_le : start ≤ offset := by omega
  have cut : substr value start (offset - start) = (value.take offset).drop start := by
    rw [substr, List.drop_take]
  have lengths : (substr value start (offset - start)).length = offset - start :=
    length_substr (by omega)
  refine ⟨start_le, ⟨?_, ?_, by omega⟩, ?_⟩
  · rw [cut]
    exact List.drop_suffix _ _
  · rcases Nat.lt_or_eq_of_le start_le with inside | atMatch
    · have leads := stops (by change start < _; omega)
      have index : start < (value.take offset).length := by
        rw [List.length_take]
        omega
      rw [← List.take_append_drop start (value.take offset),
        List.drop_eq_getElem_cons index] at isUtf8
      rw [List.getD_eq_getElem _ _ (by omega), isContinuation_eq] at leads
      rw [cut, List.drop_eq_getElem_cons index]
      refine (isUtf8.cut_before ?_).2
      rw [List.getElem_take]
      exact leads
    · rw [atMatch, Nat.sub_self, substr, List.take_zero]
      exact .nil
  · rintro other ⟨suffix, otherUtf8, short⟩
    by_contra longer
    rw [lengths] at longer
    have size : other.length ≤ offset := by
      have bound := suffix.length_le
      rw [List.length_take] at bound
      omega
    have begins := skipped (offset - other.length) (edge.2.2 _ short) (by omega)
    cases other with
    | nil => simp at longer
    | cons byte rest =>
        have head : (value.take offset).drop (offset - (byte :: rest).length) = byte :: rest := by
          have full : (value.take offset).length = offset := List.length_take_of_le within
          nth_rewrite 1 [← full]
          exact (List.suffix_iff_eq_drop.mp suffix).symm
        have same : value.getD (offset - (byte :: rest).length) 0 = byte := by
          rw [List.drop_eq_getElem_cons (by rw [List.length_take]; omega), List.getElem_take] at head
          rw [List.getD_eq_getElem _ _ (by omega)]
          exact (List.cons.inj head).1
        rw [same, isContinuation_eq, otherUtf8.leads] at begins
        cases begins

/-- The text from the match to the right edge. -/
theorem isLongest_after {value : List UInt8} {matchEnd : Nat} (within : matchEnd ≤ value.length)
    (contextBytes : Nat) :
    let most := min value.length (matchEnd + contextBytes)
    let ending := matchEnd + contextLength value matchEnd (most - matchEnd)
    matchEnd ≤ ending ∧ ending ≤ value.length ∧
      IsLongest (StartsBehindMatch value matchEnd contextBytes)
        (substr value matchEnd (ending - matchEnd)) := by
  intro most ending
  rcases contextLength_spec value matchEnd (most - matchEnd) with ⟨short, isUtf8, longest⟩
  have count : ending - matchEnd = contextLength value matchEnd (most - matchEnd) :=
    Nat.add_sub_cancel_left _ _
  have range : most ≤ value.length ∧ most - matchEnd ≤ contextBytes := by omega
  have lengths : (substr value matchEnd (ending - matchEnd)).length = ending - matchEnd :=
    length_substr (by omega)
  refine ⟨by omega, by omega, ⟨List.take_prefix _ _, ?_, by omega⟩, ?_⟩
  · rw [count]
    exact isUtf8
  · rintro other ⟨isPrefix, otherUtf8, fits⟩
    have bound := isPrefix.length_le
    rw [List.length_drop] at bound
    rw [lengths, count]
    refine longest other.length (by omega) ?_
    rw [substr, ← List.prefix_iff_eq_take.mp isPrefix]
    exact otherUtf8

/-- For every match of a byte or more: there is no context exactly where a bound is
exceeded, the match is out of range, or the value or the match is not UTF-8.  Otherwise
the context is a slice of the value, cut between characters as far from the match as the
context size allows. -/
theorem utf8ContextAroundMatch_spec (value : List UInt8) (found : Utf8LiteralMatch)
    (contextBytes : Nat) (nonempty : 1 ≤ found.length) :
    (utf8ContextAroundMatch value found contextBytes = none ↔
      maxContextBytes < contextBytes ∨ maxMatchBytes < found.length ∨
        value.length < found.offset + found.length ∨ ¬ IsUtf8 value ∨
        ¬ IsUtf8 (substr value found.offset found.length)) ∧
    ∀ context, utf8ContextAroundMatch value found contextBytes = some context →
      IsUtf8 context.before ∧ IsUtf8 context.matched ∧ IsUtf8 context.after ∧
      context.matched = substr value found.offset found.length ∧
      context.text = context.before ++ context.matched ++ context.after ∧
      context.text = substr value context.textOffset context.text.length ∧
      context.textOffset + context.before.length = found.offset ∧
      IsLongest (EndsAtMatch value found.offset contextBytes) context.before ∧
      IsLongest (StartsBehindMatch value (found.offset + found.length) contextBytes)
        context.after ∧
      (context.truncated = true ↔ context.text ≠ value) := by
  have refused : (maxContextBytes < contextBytes ∨ maxMatchBytes < found.length ∨
      value.length < found.offset ∨ value.length - found.offset < found.length ∨
      isValidUtf8 value = false ∨ isValidUtf8 (substr value found.offset found.length) = false) ↔
      maxContextBytes < contextBytes ∨ maxMatchBytes < found.length ∨
        value.length < found.offset + found.length ∨ ¬ IsUtf8 value ∨
        ¬ IsUtf8 (substr value found.offset found.length) := by
    have range : value.length < found.offset ∨ value.length - found.offset < found.length ↔
        value.length < found.offset + found.length := by
      omega
    simp only [← isValidUtf8_iff, Bool.not_eq_true, ← range, or_assoc]
  rw [utf8ContextAroundMatch]
  split
  case isTrue invalid =>
    exact ⟨iff_of_true rfl (refused.mp invalid), fun context none => nomatch none⟩
  case isFalse valid =>
    refine ⟨iff_of_false (fun none => nomatch none) (fun fails => valid (refused.mpr fails)), ?_⟩
    simp only [refused, not_or, Nat.not_lt, not_not] at valid
    rcases valid with ⟨-, -, inRange, isUtf8, matchUtf8⟩
    intro context made
    cases Option.some.inj made
    have inside : substr value found.offset found.length ≠ [] := by
      rw [← List.length_pos_iff, substr, List.length_take, List.length_drop]
      omega
    have split : value = value.take found.offset ++
        (substr value found.offset found.length ++ value.drop (found.offset + found.length)) := by
      rw [substr, ← List.drop_drop, List.take_append_drop, List.take_append_drop]
    rcases isUtf8_around inside matchUtf8 (split ▸ isUtf8) with ⟨front, -⟩
    have before := isLongest_before (by omega) front contextBytes
    have after := isLongest_after inRange contextBytes
    dsimp only at before after ⊢
    generalize contextStart value _ _ = start at before ⊢
    generalize found.offset + found.length + contextLength value _ _ = ending at after ⊢
    rcases after with ⟨behind, ending_le, longestAfter⟩
    rcases before with ⟨start_le, longestBefore⟩
    have joined : substr value start (found.offset - start) ++
        substr value found.offset found.length ++
        substr value (found.offset + found.length) (ending - (found.offset + found.length)) =
          substr value start (ending - start) := by
      rw [substr_append (by omega) , substr_append (by omega)]
      congr 1
      omega
    rw [joined]
    refine ⟨longestBefore.1.2.1, matchUtf8, longestAfter.1.2.1, rfl, rfl, ?_, ?_, longestBefore,
      longestAfter, ?_⟩
    · rw [length_substr (by omega)]
    · rw [length_substr (by omega)]
      omega
    · simp only [Bool.or_eq_true, bne_iff_ne]
      constructor
      · rintro shorter whole
        have lengths := congrArg List.length whole
        rw [length_substr (by omega)] at lengths
        omega
      · intro part
        by_contra all
        push Not at all
        apply part
        rw [all.1, all.2]
        exact List.take_length

/-- Beside a letter between two characters of two bytes, a context of one byte is
empty. -/
theorem utf8ContextAroundMatch_spec_narrow :
    ∃ context, utf8ContextAroundMatch [0xc3, 0xa9, 0x61, 0xc3, 0xa9] ⟨2, 1⟩ 1 = some context ∧
      IsLongest (EndsAtMatch [0xc3, 0xa9, 0x61, 0xc3, 0xa9] 2 1) context.before ∧
      context.before = [] ∧ context.text = [0x61] ∧ context.truncated = true := by
  refine ⟨⟨[], [0x61], [], [0x61], 2, true⟩, by decide, ?_, rfl, rfl, rfl⟩
  exact ((utf8ContextAroundMatch_spec [0xc3, 0xa9, 0x61, 0xc3, 0xa9] ⟨2, 1⟩ 1 (by decide)).2 _
    (by decide)).2.2.2.2.2.2.2.1

end X64dbgMcp.Plugin
