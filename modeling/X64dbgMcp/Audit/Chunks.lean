import X64dbgMcp.Audit.Lines
import X64dbgMcp.Audit.Reader

/-!
# Chunks of a snapshot

What is left to read at a cursor, and how a chunk and the passing of read segments
change it.  The snapshot is given by the bytes of each segment, of which a cursor
sees those that were there when it was taken.
-/

namespace X64dbgMcp.Audit

open Files Text
open Ipc (Uuid)

/-! ## Cutting -/

theorem recordBoundary_spec {limit : Nat} {bytes : Bytes} {index completed count : Nat}
    {last found : Option Nat}
    (result : recordBoundary limit bytes index completed last = (count, found)) :
    (newline ∉ bytes ∧ count = completed ∧ found = last) ∨
      ∃ front rest, bytes = front ++ newline :: rest ∧
        found = some (index + front.length + 1) ∧ count = completed + front.count newline + 1 := by
  induction bytes generalizing index completed last with
  | nil =>
      cases result
      exact .inl ⟨List.not_mem_nil, rfl, rfl⟩
  | cons byte rest ih =>
      simp only [recordBoundary] at result
      split at result
      · rename_i here
        subst here
        split at result
        · cases result
          exact .inr ⟨[], rest, rfl, rfl, rfl⟩
        · rcases ih result with ⟨clean, rfl, rfl⟩ | ⟨front, later, rfl, rfl, rfl⟩
          · exact .inr ⟨[], rest, rfl, rfl, rfl⟩
          · refine .inr ⟨newline :: front, later, rfl, ?_, ?_⟩
            · rw [List.length_cons]
              congr 1
              omega
            · rw [List.count_cons_self]
              omega
      · rename_i other
        rcases ih result with ⟨clean, rfl, rfl⟩ | ⟨front, later, rfl, rfl, rfl⟩
        · refine .inl ⟨?_, rfl, rfl⟩
          rw [List.mem_cons, not_or]
          exact ⟨Ne.symm other, clean⟩
        · refine .inr ⟨byte :: front, later, rfl, ?_, ?_⟩
          · rw [List.length_cons]
            congr 1
            omega
          · rw [List.count_cons_of_ne other]

/-- A chunk is a nonempty beginning of what is left, cut at a character. -/
theorem cutChunk_spec {rest : Bytes} (isUtf8 : IsUtf8 rest) (some : rest ≠ []) {budget : Nat}
    (large : 4 ≤ budget) (limit : Nat) :
    ∃ chunk later, cutChunk limit (rest.take budget) = .ok (chunk, chunk.count newline) ∧
      rest = chunk ++ later ∧ chunk ≠ [] ∧ IsUtf8 chunk ∧ IsUtf8 later := by
  rcases fromUtf8_take isUtf8 budget with
    ⟨whole, others, part, rfl, wholeUtf8, othersUtf8, taken, ends, valid⟩
  have nonempty : whole ≠ [] := by
    rintro rfl
    have length := congrArg List.length taken
    have positive : 0 < others.length := List.length_pos_iff.mpr some
    simp only [List.nil_append, List.length_take] at length
    rcases ends with rfl | ⟨few, fewer⟩
    · rw [List.length_nil] at length
      omega
    · omega
  simp only [cutChunk, valid]
  rw [taken, List.take_left]
  rcases result : recordBoundary limit whole 0 0 none with ⟨count, found⟩
  rcases recordBoundary_spec result with ⟨clean, rfl, rfl⟩ | ⟨front, later, rfl, rfl, rfl⟩
  · refine ⟨whole, others, ?_, rfl, nonempty, wholeUtf8, othersUtf8⟩
    simp only [List.count_eq_zero_of_not_mem clean]
  · rcases IsUtf8.cut (by decide) wholeUtf8 with ⟨cutUtf8, laterUtf8⟩
    refine ⟨front ++ [newline], later ++ others, ?_, by simp, by simp, cutUtf8,
      laterUtf8.append othersUtf8⟩
    have cut : (front ++ newline :: later).take (front.length + 1) = front ++ [newline] := by
      rw [List.take_length_add_append]
      rfl
    simp only [Nat.zero_add]
    rw [cut, List.count_append, List.count_singleton_self]

/-! ## What is left -/

/-- The bytes of a segment that the snapshot has. -/
def cutText (archive : Uuid → Bytes) (segment : Segment) : Bytes :=
  (archive segment.id).take segment.length

/-- The content of a segment: characters, up to a newline. -/
structure WholeText (bytes : Bytes) : Prop where
  isUtf8 : IsUtf8 bytes
  complete : Complete bytes

namespace Cursor

/-- The bytes of the snapshot from the cursor on. -/
def remaining (archive : Uuid → Bytes) (cursor : Cursor) : Bytes :=
  (cursor.segment.elim [] fun segment => (cutText archive segment).drop cursor.offset) ++
    (cursor.segments.drop (cursor.index + 1)).flatMap (cutText archive)

/-- The segments of the cursor are known, and it stands at a character of the next. -/
structure Sound (archive : Uuid → Bytes) (issued : List Uuid) (cursor : Cursor) : Prop where
  known : ∀ segment ∈ cursor.segments, segment.id ∈ issued
  within : ∀ segment ∈ cursor.segments, segment.length ≤ (archive segment.id).length
  whole : ∀ segment ∈ cursor.segments, WholeText (cutText archive segment)
  index : cursor.index ≤ cursor.segments.length
  offset : ∀ segment, cursor.segment = some segment → cursor.offset ≤ segment.length
  boundary : ∀ segment, cursor.segment = some segment →
    IsUtf8 ((cutText archive segment).drop cursor.offset)
  starts : ∀ segment, cursor.segment = some segment →
    (cursor.partialRecord = true ↔ ¬ Complete ((cutText archive segment).take cursor.offset))

variable {archive : Uuid → Bytes} {issued : List Uuid} {cursor : Cursor}

theorem Sound.length_cutText (sound : cursor.Sound archive issued) {segment : Segment}
    (member : segment ∈ cursor.segments) : (cutText archive segment).length = segment.length := by
  rw [cutText, List.length_take]
  exact Nat.min_eq_left (sound.within segment member)

theorem mem_of_segment {segment : Segment} (found : cursor.segment = some segment) :
    segment ∈ cursor.segments :=
  List.mem_of_getElem? found

/-- The beginning of a segment. -/
theorem Sound.start (sound : cursor.Sound archive issued) {index : Nat}
    (within : index ≤ cursor.segments.length) :
    Sound archive issued ⟨cursor.segments, index, 0, false⟩ := by
  refine ⟨sound.known, sound.within, sound.whole, within, fun _ _ => Nat.zero_le _, ?_, ?_⟩
  · intro segment found
    exact (sound.whole segment (List.mem_of_getElem? found)).isUtf8
  · intro segment _
    simp only [List.take_zero]
    exact iff_of_false Bool.false_ne_true fun torn => torn (.inl rfl)

theorem remaining_start (archive : Uuid → Bytes) (segments : List Segment) (index : Nat) :
    remaining archive ⟨segments, index, 0, false⟩ =
      (segments.drop index).flatMap (cutText archive) := by
  simp only [remaining, segment, List.drop_zero]
  cases found : segments[index]? with
  | none =>
      have past := List.getElem?_eq_none_iff.mp found
      rw [List.drop_eq_nil_of_le past, List.drop_eq_nil_of_le (by omega)]
      rfl
  | some segment =>
      rcases List.getElem?_eq_some_iff.mp found with ⟨below, rfl⟩
      rw [List.drop_eq_getElem_cons below, List.flatMap_cons]
      rfl

/-- Passing read segments leaves what is left. -/
theorem Sound.advance {rounds : Nat} (sound : cursor.Sound archive issued)
    (enough : cursor.segments.length - cursor.index ≤ rounds) :
    (cursor.advance rounds).Sound archive issued ∧
      (cursor.advance rounds).segments = cursor.segments ∧
      (cursor.advance rounds).remaining archive = cursor.remaining archive ∧
      ∀ segment, (cursor.advance rounds).segment = some segment →
        (cursor.advance rounds).offset < segment.length := by
  induction rounds generalizing cursor with
  | zero =>
      refine ⟨sound, rfl, rfl, ?_⟩
      intro segment found
      have below := (List.getElem?_eq_some_iff.mp found).1
      simp only [Cursor.advance] at below
      omega
  | succ rounds ih =>
      simp only [Cursor.advance]
      split
      · rename_i past
        refine ⟨sound, rfl, rfl, ?_⟩
        intro segment found
        rw [Cursor.segment, past] at found
        contradiction
      · rename_i segment found
        split
        · rename_i done
          have below := (List.getElem?_eq_some_iff.mp found).1
          have next := sound.start (Nat.succ_le_of_lt below)
          have fewer : cursor.segments.length - (cursor.index + 1) ≤ rounds := by omega
          rcases @ih ⟨cursor.segments, cursor.index + 1, 0, false⟩ next fewer with
            ⟨soundAfter, segments, left, inside⟩
          refine ⟨soundAfter, segments, ?_, inside⟩
          have length := sound.length_cutText (mem_of_segment found)
          have read : (cutText archive segment).drop cursor.offset = [] :=
            List.drop_eq_nil_of_le (by omega)
          rw [left, remaining_start, remaining, Cursor.segment, found, Option.elim_some, read]
          rfl
        · rename_i inside
          refine ⟨sound, rfl, rfl, ?_⟩
          intro other foundOther
          cases found.symm.trans foundOther
          exact Nat.lt_of_le_of_ne (sound.offset segment found) inside

theorem Sound.advanceEmptySegments (sound : cursor.Sound archive issued) :
    cursor.advanceEmptySegments.Sound archive issued ∧
      cursor.advanceEmptySegments.segments = cursor.segments ∧
      cursor.advanceEmptySegments.remaining archive = cursor.remaining archive ∧
      ∀ segment, cursor.advanceEmptySegments.segment = some segment →
        cursor.advanceEmptySegments.offset < segment.length :=
  sound.advance (Nat.le_refl _)

theorem remaining_of_segment_none (past : cursor.segment = none) :
    cursor.remaining archive = [] := by
  have length := List.getElem?_eq_none_iff.mp past
  rw [remaining, past, List.drop_eq_nil_of_le (by omega)]
  rfl

theorem Sound.remaining_ne_nil (sound : cursor.Sound archive issued) {segment : Segment}
    (found : cursor.segment = some segment) (inside : cursor.offset < segment.length) :
    (cutText archive segment).drop cursor.offset ≠ [] := by
  rw [← List.length_pos_iff, List.length_drop, sound.length_cutText (mem_of_segment found)]
  omega

/-- Nothing is left exactly when all segments are passed. -/
theorem Sound.remaining_eq_nil_iff (sound : cursor.Sound archive issued)
    (inside : ∀ segment, cursor.segment = some segment → cursor.offset < segment.length) :
    cursor.remaining archive = [] ↔ cursor.index = cursor.segments.length := by
  constructor
  · intro nothing
    by_contra unfinished
    have below : cursor.index < cursor.segments.length :=
      Nat.lt_of_le_of_ne sound.index unfinished
    have found : cursor.segment = some cursor.segments[cursor.index] :=
      List.getElem?_eq_getElem below
    rw [remaining, found, Option.elim_some] at nothing
    exact sound.remaining_ne_nil found (inside _ found) (List.append_eq_nil_iff.mp nothing).1
  · intro finished
    apply remaining_of_segment_none
    exact List.getElem?_eq_none_iff.mpr (Nat.le_of_eq finished.symm)

theorem complete_append_iff (front : Bytes) {chunk : Bytes} (some : chunk ≠ []) :
    Complete (front ++ chunk) ↔ chunk.getLast? = Option.some newline := by
  constructor
  · rintro (empty | ⟨start, ends⟩)
    · exact absurd (List.append_eq_nil_iff.mp empty).2 some
    · have last := congrArg List.getLast? ends
      rwa [List.getLast?_append_of_ne_nil _ some, List.getLast?_concat] at last
  · intro last
    rcases List.getLast?_eq_some_iff.mp last with ⟨start, rfl⟩
    exact .inr ⟨front ++ start, (List.append_assoc _ _ _).symm⟩

theorem endsMidRecord_iff (front : Bytes) {chunk : Bytes} (some : chunk ≠ []) :
    endsMidRecord chunk = true ↔ ¬ Complete (front ++ chunk) := by
  rw [complete_append_iff front some, endsMidRecord, bne_iff_ne]

/-- A chunk is passed. -/
theorem Sound.pass (sound : cursor.Sound archive issued) {segment : Segment} {chunk later : Bytes}
    (found : cursor.segment = some segment)
    (split : (cutText archive segment).drop cursor.offset = chunk ++ later) (some : chunk ≠ [])
    (isUtf8 : IsUtf8 later) :
    (cursor.pass chunk).Sound archive issued ∧
      cursor.remaining archive = chunk ++ (cursor.pass chunk).remaining archive := by
  have member := mem_of_segment found
  have rest : (cutText archive segment).drop (cursor.offset + chunk.length) = later := by
    rw [← List.drop_drop, split, List.drop_left]
  have front : (cutText archive segment).take (cursor.offset + chunk.length) =
      (cutText archive segment).take cursor.offset ++ chunk := by
    rw [List.take_add, split, List.take_left]
  constructor
  · refine ⟨sound.known, sound.within, sound.whole, sound.index, ?_, ?_, ?_⟩
    · intro other foundOther
      cases found.symm.trans foundOther
      have length := congrArg List.length split
      have inside := sound.offset segment found
      rw [List.length_drop, sound.length_cutText member, List.length_append] at length
      simp only [Cursor.pass]
      omega
    · intro other foundOther
      cases found.symm.trans foundOther
      simp only [Cursor.pass, rest]
      exact isUtf8
    · intro other foundOther
      cases found.symm.trans foundOther
      simp only [Cursor.pass, front]
      exact endsMidRecord_iff _ some
  · have same : (cursor.pass chunk).segment = cursor.segment := rfl
    simp only [remaining, same, found, Option.elim_some, split]
    simp only [Cursor.pass, rest, List.append_assoc]

/-! ### Growing segments -/

/-- Known segments keep what they have. -/
def Grows (issued : List Uuid) (archive later : Uuid → Bytes) : Prop :=
  ∀ id ∈ issued, archive id <+: later id

variable {later : Uuid → Bytes}

theorem Sound.cutText_eq (sound : cursor.Sound archive issued) (grows : Grows issued archive later)
    {segment : Segment} (member : segment ∈ cursor.segments) :
    cutText later segment = cutText archive segment := by
  rcases grows segment.id (sound.known segment member) with ⟨more, grown⟩
  rw [cutText, ← grown, List.take_append_of_le_length (sound.within segment member), cutText]

theorem Sound.remaining_eq (sound : cursor.Sound archive issued) (grows : Grows issued archive later) :
    cursor.remaining later = cursor.remaining archive := by
  have behind : (cursor.segments.drop (cursor.index + 1)).flatMap (cutText later) =
      (cursor.segments.drop (cursor.index + 1)).flatMap (cutText archive) := by
    apply List.flatMap_congr
    intro segment member
    exact sound.cutText_eq grows (List.mem_of_mem_drop member)
  rw [remaining, remaining, behind]
  cases found : cursor.segment with
  | none => rfl
  | some segment =>
      simp only [Option.elim_some, sound.cutText_eq grows (mem_of_segment found)]

theorem Sound.grow (sound : cursor.Sound archive issued) (grows : Grows issued archive later)
    {more : List Uuid} (kept : issued ⊆ more) : cursor.Sound later more := by
  refine ⟨?_, ?_, ?_, sound.index, sound.offset, ?_, ?_⟩
  · intro segment member
    exact kept (sound.known segment member)
  · intro segment member
    exact Nat.le_trans (sound.within segment member)
      (grows segment.id (sound.known segment member)).length_le
  · intro segment member
    rw [sound.cutText_eq grows member]
    exact sound.whole segment member
  · intro segment found
    rw [sound.cutText_eq grows (mem_of_segment found)]
    exact sound.boundary segment found
  · intro segment found
    rw [sound.cutText_eq grows (mem_of_segment found)]
    exact sound.starts segment found

end Cursor

end X64dbgMcp.Audit
