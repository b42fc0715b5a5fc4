import X64dbgMcp.Audit.Store
import X64dbgMcp.Plugin.Crossing

/-!
# Lines of a segment

What a whole line is, that a header is one and can be read back, and where the last
complete line of a file ends.
-/

namespace X64dbgMcp.Audit

open Files Text
open Ipc (Uuid)

/-- A line without its newline, and the newline. -/
def IsLine (line : Bytes) : Prop :=
  ∃ body, newline ∉ body ∧ line = body ++ [newline]

/-- Nothing, or a newline at the end. -/
def Complete (text : Bytes) : Prop :=
  text = [] ∨ ∃ front, text = front ++ [newline]

theorem IsLine.complete {line : Bytes} (isLine : IsLine line) (text : Bytes) :
    Complete (text ++ line) := by
  rcases isLine with ⟨body, -, rfl⟩
  exact .inr ⟨text ++ body, (List.append_assoc _ _ _).symm⟩

/-! ## Headers -/

theorem hexDigit_ne_newline {value : UInt8} (small : value.toNat < 16) :
    hexDigit value ≠ newline := by
  intro equal
  have same := congrArg UInt8.toNat equal
  unfold hexDigit newline at same
  split at same <;> rw [UInt8.toNat_add] at same <;> simp at same <;> omega

theorem newline_notMem_escapeByte (byte : UInt8) : newline ∉ escapeByte byte := by
  have high : (byte / 16).toNat < 16 := by
    rw [UInt8.toNat_div]
    have below := byte.toNat_lt
    simp
    omega
  have low : (byte % 16).toNat < 16 := by
    rw [UInt8.toNat_mod]
    exact Nat.mod_lt _ (by decide)
  have upper := (hexDigit_ne_newline high).symm
  have lower := (hexDigit_ne_newline low).symm
  unfold escapeByte
  split_ifs with quote backslash back feed line <;>
    simp only [List.mem_cons, List.not_mem_nil, or_false, not_or]
  all_goals first | decide | skip
  · exact ⟨by decide, by decide, by decide, by decide, upper, lower⟩
  · exact fun same => line same.symm

theorem newline_notMem_writeString (text : String) : newline ∉ writeString text := by
  simp only [writeString, List.mem_append, List.mem_singleton, List.mem_flatMap, not_or, not_exists,
    not_and]
  refine ⟨⟨by decide, ?_⟩, by decide⟩
  intro byte _
  exact newline_notMem_escapeByte byte

theorem newline_notMem_decimal (value : Nat) : newline ∉ decimal value := by
  intro member
  have digit := isDigit_of_mem_decimal member
  simp [newline, isDigit, digitValue] at digit

theorem headerText_eq (id : Uuid) (time : UInt64) :
    headerText id time =
      [0x7b] ++ writeString "kind" ++ [0x3a] ++ writeString "segment" ++ [0x2c] ++
        writeString "segment_id" ++ [0x3a] ++ writeString id.text ++ [0x2c] ++
        writeString "timestamp_unix_ms" ++ [0x3a] ++ decimal time.toNat ++ [0x7d] := by
  simp [headerText, Json.write, Json.writeFields, Json.separator, Json.writeNumber]

theorem newline_notMem_headerText (id : Uuid) (time : UInt64) : newline ∉ headerText id time := by
  simp only [headerText_eq, List.mem_append, List.mem_singleton, newline_notMem_writeString,
    newline_notMem_decimal, or_false]
  decide

theorem isLine_headerLine (id : Uuid) (time : UInt64) : IsLine (headerLine id time) :=
  ⟨headerText id time, newline_notMem_headerText id time, rfl⟩

theorem length_headerLine_pos (id : Uuid) (time : UInt64) : 0 < (headerLine id time).length := by
  simp [headerLine]

theorem length_headerText_le (id : Uuid) (time : UInt64) : (headerText id time).length ≤ 1024 := by
  have kind := length_writeString_le "kind"
  have segment := length_writeString_le "segment"
  have segmentId := length_writeString_le "segment_id"
  have text := length_writeString_le id.text
  have timestamp := length_writeString_le "timestamp_unix_ms"
  have digits : (decimal time.toNat).length ≤ 20 := length_decimal_le time.toNat_lt
  rw [Plugin.length_text] at text
  rw [show (utf8 "kind").length = 4 from rfl] at kind
  rw [show (utf8 "segment").length = 7 from rfl] at segment
  rw [show (utf8 "segment_id").length = 10 from rfl] at segmentId
  rw [show (utf8 "timestamp_unix_ms").length = 17 from rfl] at timestamp
  simp only [headerText_eq, List.length_append, List.length_singleton]
  omega

/-- The first line of the first bytes of a segment is the text of its header. -/
theorem firstLine_headerLine (id : Uuid) (time : UInt64) (rest : Bytes) :
    (((headerLine id time ++ rest).take (min (headerLine id time ++ rest).length 1024)).takeWhile
      (· != newline)) = headerText id time := by
  have long : (headerText id time).length ≤ min (headerLine id time ++ rest).length 1024 := by
    have short := length_headerText_le id time
    simp only [headerLine, List.length_append, List.length_singleton]
    omega
  have text : ∀ byte ∈ headerText id time, (byte != newline) = true := by
    intro byte member
    simp only [bne_iff_ne, ne_eq]
    rintro rfl
    exact newline_notMem_headerText id time member
  generalize min (headerLine id time ++ rest).length 1024 = count at long
  rw [headerLine, List.append_assoc, List.take_append, List.take_of_length_le long,
    List.takeWhile_append_of_pos text]
  cases count - (headerText id time).length <;> simp

/-! ## The last complete line -/

theorem split_of_findIdx? {α : Type} {test : α → Bool} {items : List α} {index : Nat}
    (found : items.findIdx? test = some index) :
    ∃ front item rest, items = front ++ item :: rest ∧ test item = true ∧
      (∀ other ∈ front, test other = false) ∧ front.length = index := by
  induction items generalizing index with
  | nil => simp at found
  | cons item rest ih =>
      rw [List.findIdx?_cons] at found
      by_cases here : test item = true
      · rw [if_pos here] at found
        cases found
        exact ⟨[], item, rest, rfl, here, List.forall_mem_nil _, rfl⟩
      · rw [if_neg here] at found
        rcases Option.map_eq_some_iff.mp found with ⟨later, foundLater, rfl⟩
        rcases ih foundLater with ⟨front, hit, others, rfl, isHit, missed, rfl⟩
        refine ⟨item :: front, hit, others, rfl, isHit, ?_, rfl⟩
        intro other member
        rcases List.mem_cons.mp member with rfl | member
        · simpa using here
        · exact missed other member

theorem lastNewline_eq_some {bytes : Bytes} {last : Nat} (found : lastNewline bytes = some last) :
    ∃ front rest, bytes = front ++ newline :: rest ∧ newline ∉ rest ∧ front.length = last := by
  rcases Option.map_eq_some_iff.mp found with ⟨index, foundIndex, rfl⟩
  rcases split_of_findIdx? foundIndex with ⟨front, item, rest, reversed, isNewline, missed, rfl⟩
  cases beq_iff_eq.mp isNewline
  have bytesEq : bytes = rest.reverse ++ newline :: front.reverse := by
    rw [← List.reverse_reverse bytes, reversed]
    simp
  refine ⟨rest.reverse, front.reverse, bytesEq, ?_, ?_⟩
  · intro member
    have notNewline := missed newline (List.mem_reverse.mp member)
    simp at notNewline
  · rw [bytesEq]
    simp

theorem lastNewline_eq_none {bytes : Bytes} (absent : lastNewline bytes = none) :
    newline ∉ bytes := by
  intro member
  rw [lastNewline, Option.map_eq_none_iff, List.findIdx?_eq_none_iff] at absent
  have notNewline := absent newline (List.mem_reverse.mpr member)
  simp at notNewline

/-- The part before `length` is complete, and no newline follows it before `until_`. -/
def TailAt (content : Bytes) (until_ length : Nat) : Prop :=
  ∃ front rest, content.take until_ = front ++ rest ∧ front.length = length ∧ newline ∉ rest ∧
    Complete front

/-- What is before the last block, and the block. -/
theorem take_block (content : Bytes) {start until_ : Nat} (before : start ≤ until_) :
    content.take until_ = content.take start ++ (content.drop start).take (until_ - start) := by
  rw [← List.take_add, Nat.add_sub_cancel' before]

theorem completeTail_spec {block : Nat} {content : Bytes} {rounds until_ : Nat} (some : 0 < block)
    (enough : until_ ≤ rounds) (within : until_ ≤ content.length) :
    TailAt content until_ (completeTail block content rounds until_) := by
  induction rounds generalizing until_ with
  | zero =>
      cases Nat.le_zero.mp enough
      exact ⟨[], [], List.take_zero, rfl, List.not_mem_nil, .inl rfl⟩
  | succ rounds ih =>
      simp only [completeTail]
      split
      · rename_i none
        subst none
        exact ⟨[], [], List.take_zero, rfl, List.not_mem_nil, .inl rfl⟩
      · rename_i positive
        have before : until_ - block ≤ until_ := Nat.sub_le _ _
        have shorter : until_ - block ≤ rounds := by omega
        generalize until_ - block = start at before shorter
        have cut := take_block content before
        split
        · rename_i last found
          rcases lastNewline_eq_some found with ⟨front, rest, block, clean, rfl⟩
          refine ⟨content.take start ++ front ++ [newline], rest, ?_, ?_, clean, .inr ⟨_, rfl⟩⟩
          · rw [cut, block]
            simp
          · simp
            omega
        · rename_i absent
          have clean := lastNewline_eq_none absent
          rcases ih shorter (Nat.le_trans before within) with
            ⟨front, rest, earlier, length, free, whole⟩
          refine ⟨front, rest ++ (content.drop start).take (until_ - start), ?_, length, ?_, whole⟩
          · rw [cut, earlier, List.append_assoc]
          · rw [List.mem_append]
            rintro (member | member)
            · exact free member
            · exact clean member

theorem completeTailLength_spec (content : Bytes) :
    TailAt content content.length (completeTailLength content content.length) :=
  completeTail_spec (by decide) (Nat.le_refl _) (Nat.le_refl _)

end X64dbgMcp.Audit
