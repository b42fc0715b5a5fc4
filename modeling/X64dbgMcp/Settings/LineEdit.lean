import X64dbgMcp.Settings.LineReading
import X64dbgMcp.Settings.ScyllaHide

/-!
# Editing one line

When the content of a line is exchanged for another without line ends, the text keeps its
lines: the same contents before and behind, and the new content at the same place.
-/

namespace X64dbgMcp.Settings

open Text

theorem content_lineAt (before otherBefore piece after otherAfter : List UInt8) :
    (lineAt before piece after).content = (lineAt otherBefore piece otherAfter).content := by
  unfold lineAt
  split_ifs <;> rfl

/-- A content that may stand in a line. -/
structure LineContent (content : List UInt8) : Prop where
  nonempty : content ≠ []
  oneLine : 0x0a ∉ content
  ends : content.getLast? ≠ some 0x0d

theorem lineAt_of_content {content : List UInt8} (fits : LineContent content)
    (before after : List UInt8) : lineAt before content after = ⟨before, content, after⟩ :=
  if_neg fits.ends

theorem lineAt_return (before content after : List UInt8) :
    lineAt before (content ++ [0x0d]) after = ⟨before, content, 0x0d :: after⟩ := by
  rw [lineAt, if_pos List.getLast?_concat, List.dropLast_concat]

/-- What stands behind a line: nothing or a carriage return more than behind its piece. -/
theorem after_lineAt (before piece after : List UInt8) :
    (lineAt before piece after).before = before ∧
      ((lineAt before piece after).after = after ∨
        (lineAt before piece after).after = 0x0d :: after) := by
  unfold lineAt
  split_ifs
  · exact ⟨rfl, .inr rfl⟩
  · exact ⟨rfl, .inl rfl⟩

/-! ## The first line -/

theorem linesFrom_append {content : List UInt8} (oneLine : 0x0a ∉ content)
    (before piece rest : List UInt8) :
    linesFrom before piece (content ++ rest) = linesFrom before (piece ++ content) rest := by
  induction content generalizing piece with
  | nil => simp
  | cons byte content ih =>
      rw [List.mem_cons, not_or] at oneLine
      rw [List.cons_append, linesFrom, if_neg (Ne.symm oneLine.1), ih oneLine.2,
        List.append_assoc, List.singleton_append]

/-- The last line has no line feed. -/
theorem linesFrom_last {content : List UInt8} (oneLine : 0x0a ∉ content) (before : List UInt8) :
    linesFrom before [] content = if content.isEmpty then [] else [lineAt before content []] := by
  have passed := linesFrom_append oneLine before [] []
  rw [List.append_nil, List.nil_append] at passed
  rw [passed, linesFrom]

theorem linesFrom_feed {content : List UInt8} (oneLine : 0x0a ∉ content)
    (before rest : List UInt8) :
    linesFrom before [] (content ++ 0x0a :: rest) =
      lineAt before content (0x0a :: rest) ::
        linesFrom (before ++ content ++ [0x0a]) [] rest := by
  rw [linesFrom_append oneLine, List.nil_append, linesFrom, if_pos rfl]

/-- A text is one line, or its first line ends with a line feed. -/
theorem first_line (text : List UInt8) :
    0x0a ∉ text ∨ ∃ content rest, text = content ++ 0x0a :: rest ∧ 0x0a ∉ content := by
  by_cases feed : 0x0a ∈ text
  · obtain ⟨content, rest, split, absent⟩ := List.eq_append_cons_of_mem feed
    exact .inr ⟨content, rest, split, absent⟩
  · exact .inl feed

/-- The contents do not depend on what stands before the lines. -/
theorem contents_linesFrom (before otherBefore piece rest : List UInt8) :
    (linesFrom before piece rest).map Line.content =
      (linesFrom otherBefore piece rest).map Line.content := by
  induction rest generalizing before otherBefore piece with
  | nil =>
      simp only [linesFrom]
      split_ifs
      · rfl
      · rw [List.map_singleton, List.map_singleton, content_lineAt before otherBefore]
  | cons byte rest ih =>
      simp only [linesFrom]
      split_ifs
      · rw [List.map_cons, List.map_cons, content_lineAt before otherBefore piece _ (0x0a :: rest),
          ih _ (otherBefore ++ piece ++ [0x0a])]
      · exact ih _ _ _

/-! ## The edit -/

/-- The text around a line is the text. -/
theorem text_of_mem_linesFrom {before piece rest : List UInt8} {line : Line}
    (member : line ∈ linesFrom before piece rest) :
    before ++ piece ++ rest = line.before ++ line.content ++ line.after := by
  have whole : ∀ before piece after,
      before ++ piece ++ after = (lineAt before piece after).before ++
        (lineAt before piece after).content ++ (lineAt before piece after).after := by
    intro before piece after
    unfold lineAt
    split_ifs with ends
    · obtain ⟨front, rfl⟩ := List.getLast?_eq_some_iff.mp ends
      simp
    · rfl
  induction rest generalizing before piece with
  | nil =>
      simp only [linesFrom] at member
      split_ifs at member
      · cases member
      · rw [List.mem_singleton.mp member]
        exact whole before piece []
  | cons byte rest ih =>
      simp only [linesFrom] at member
      split_ifs at member with feed
      · rw [feed]
        rcases List.mem_cons.mp member with rfl | later
        · exact whole before piece _
        · have onward := ih later
          simpa using onward
      · have onward := ih member
        simpa using onward

/-- The lines of an edited text, from a place on. -/
theorem linesFrom_edit {rest before : List UInt8} {front back : List Line} {line : Line}
    (split : linesFrom before [] rest = front ++ line :: back) {content : List UInt8}
    (fits : LineContent content) :
    ∃ between front' back', line.before = before ++ between ∧
      linesFrom before [] (between ++ content ++ line.after) =
        front' ++ ⟨line.before, content, line.after⟩ :: back' ∧
      front'.map Line.content = front.map Line.content ∧
      back'.map Line.content = back.map Line.content := by
  induction size : rest.length using Nat.strong_induction_on generalizing rest before front with
  | _ size ih =>
      rcases first_line rest with oneLine | ⟨first, others, rfl, oneLine⟩
      · -- The text is one line.
        rw [linesFrom_last oneLine] at split
        split_ifs at split with empty
        · exact absurd split (by simp)
        · rcases front with _ | ⟨head, front⟩
          · obtain ⟨rfl, rfl⟩ := List.cons.inj split
            obtain ⟨here, behind⟩ := after_lineAt before rest []
            refine ⟨[], [], [], by rw [here, List.append_nil], ?_, rfl, rfl⟩
            rw [here, List.nil_append, List.nil_append]
            rcases behind with nothing | return_
            · rw [nothing, List.append_nil, linesFrom_last fits.oneLine, if_neg (by
                simpa using fits.nonempty), lineAt_of_content fits]
            · have oneLine' : 0x0a ∉ content ++ [0x0d] := by
                rw [List.mem_append, not_or]
                exact ⟨fits.oneLine, by decide⟩
              rw [return_, linesFrom_last oneLine', if_neg (by simp), lineAt_return]
          · exact absurd (List.cons.inj split).2 (by simp)
      · rw [linesFrom_feed oneLine] at split
        rcases front with _ | ⟨head, front⟩
        · -- The first line is edited.
          obtain ⟨rfl, rfl⟩ := List.cons.inj split
          obtain ⟨here, behind⟩ := after_lineAt before first (0x0a :: others)
          rw [here]
          rcases behind with feed | return_
          · refine ⟨[], [], linesFrom (before ++ content ++ [0x0a]) [] others,
              (List.append_nil before).symm, ?_, rfl, contents_linesFrom _ _ _ _⟩
            rw [feed, List.nil_append, linesFrom_feed fits.oneLine, lineAt_of_content fits,
              List.nil_append]
          · have oneLine' : 0x0a ∉ content ++ [0x0d] := by
              rw [List.mem_append, not_or]
              exact ⟨fits.oneLine, by decide⟩
            have moved : content ++ 0x0d :: 0x0a :: others =
                content ++ [0x0d] ++ 0x0a :: others := by simp
            refine ⟨[], [], linesFrom (before ++ (content ++ [0x0d]) ++ [0x0a]) [] others,
              (List.append_nil before).symm, ?_, rfl, contents_linesFrom _ _ _ _⟩
            rw [return_, List.nil_append, moved, linesFrom_feed oneLine', lineAt_return,
              List.nil_append]
        · -- A later line is edited.
          obtain ⟨rfl, later⟩ := List.cons.inj split
          have shorter : others.length < (first ++ 0x0a :: others).length := by
            rw [List.length_append, List.length_cons]
            omega
          obtain ⟨between, front', back', place, lines, sameFront, sameBack⟩ :=
            ih others.length (size ▸ shorter) later rfl
          refine ⟨first ++ [0x0a] ++ between,
            lineAt before first (0x0a :: (between ++ content ++ line.after)) :: front', back',
            by rw [place]; simp, ?_, ?_, sameBack⟩
          · have moved : first ++ [0x0a] ++ between ++ content ++ line.after =
                first ++ 0x0a :: (between ++ content ++ line.after) := by simp
            rw [moved, linesFrom_feed oneLine, lines, List.cons_append]
          · rw [List.map_cons, List.map_cons, sameFront, content_lineAt before before]

/-- The lines of an edited text. -/
theorem placedLines_edit {text : List UInt8} {front back : List Line} {line : Line}
    (nonempty : text ≠ []) (split : placedLines text = front ++ line :: back)
    {content : List UInt8} (fits : LineContent content) :
    ∃ front' back',
      placedLines (line.before ++ content ++ line.after) =
        front' ++ ⟨line.before, content, line.after⟩ :: back' ∧
      front'.map Line.content = front.map Line.content ∧
      back'.map Line.content = back.map Line.content := by
  rw [placedLines, if_neg (by simpa using nonempty)] at split
  obtain ⟨between, front', back', place, lines, sameFront, sameBack⟩ := linesFrom_edit split fits
  rw [List.nil_append] at place
  refine ⟨front', back', ?_, sameFront, sameBack⟩
  have filled : ¬ (line.before ++ content ++ line.after).isEmpty = true := by
    simp [fits.nonempty]
  rw [placedLines, if_neg filled, ← lines, place]

end X64dbgMcp.Settings
