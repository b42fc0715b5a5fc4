import X64dbgMcp.Ipc.Frame

/-!
# Streams of frames

A byte stream that consists of whole frames stays in step with its reader: a
reader that stands at a frame boundary, or inside the first frame, never sees a
bad length and completes exactly that frame.
-/

namespace X64dbgMcp.Ipc

universe u

/-- A payload that can be framed. -/
structure Framable (payload : Bytes) : Prop where
  positive : 0 < payload.length
  bounded : payload.length ≤ maxFrameBytes

/-- The frame of a payload. -/
def frameOf (payload : Bytes) : Bytes :=
  lengthPrefix payload.length ++ payload

@[simp]
theorem length_lengthPrefix (length : Nat) : (lengthPrefix length).length = lengthPrefixBytes :=
  rfl

@[simp]
theorem length_frameOf (payload : Bytes) :
    (frameOf payload).length = lengthPrefixBytes + payload.length := by
  simp [frameOf]

theorem encodeFrame_eq_ok {serialized : Option Bytes} {frame : Bytes}
    (encoded : encodeFrame serialized = .ok frame) :
    ∃ payload, serialized = some payload ∧ Framable payload ∧ frame = frameOf payload := by
  cases serialized with
  | none => cases encoded
  | some payload =>
      simp only [encodeFrame] at encoded
      split at encoded
      · cases encoded
      · rename_i nonempty
        split at encoded
        · cases encoded
        · rename_i bounded
          cases encoded
          refine ⟨payload, rfl, ⟨?_, Nat.not_lt.mp bounded⟩, rfl⟩
          exact List.length_pos_iff.mpr (by simpa using nonempty)

/-- The prefix of a frame is read back. -/
theorem prefixLength_lengthPrefix {length : Nat} (bounded : length ≤ maxFrameBytes) :
    prefixLength (lengthPrefix length) = length := by
  simp only [maxFrameBytes] at bounded
  simp only [prefixLength, lengthPrefix, List.foldr_cons, List.foldr_nil, UInt8.toNat_ofNat']
  omega

theorem take_frameOf_append (payload rest : Bytes) :
    (frameOf payload ++ rest).take lengthPrefixBytes = lengthPrefix payload.length := by
  rw [frameOf, List.append_assoc]
  exact List.take_left' (length_lengthPrefix _)

theorem drop_frameOf_append (payload rest : Bytes) :
    (frameOf payload ++ rest).drop (lengthPrefixBytes + payload.length) = rest := by
  rw [← length_frameOf]
  exact List.drop_left

/-! ## Reading one frame -/

/-- A reader inside the first frame wants more, but not beyond it. -/
theorem readProgress_take_of_lt {payload : Bytes} (framable : Framable payload) (rest : Bytes)
    {count : Nat}
    (inside : count < lengthPrefixBytes + payload.length) :
    ∃ wanted, readProgress ((frameOf payload ++ rest).take count) = .wants wanted ∧
      count + wanted ≤ lengthPrefixBytes + payload.length := by
  have length : ((frameOf payload ++ rest).take count).length = count := by
    simp
    omega
  by_cases short : count < lengthPrefixBytes
  · exact ⟨lengthPrefixBytes - count, by simp only [readProgress, length, short, if_true],
      by omega⟩
  · have announced : prefixLength
        (((frameOf payload ++ rest).take count).take lengthPrefixBytes) = payload.length := by
      rw [List.take_take, Nat.min_eq_left (Nat.not_lt.mp short), take_frameOf_append,
        prefixLength_lengthPrefix framable.bounded]
    refine ⟨lengthPrefixBytes + payload.length - count, ?_, by omega⟩
    simp only [readProgress, length, short, announced, if_false]
    rw [if_neg (Nat.ne_of_gt framable.positive), if_neg (Nat.not_lt.mpr framable.bounded),
      if_pos inside]

/-- A reader that has the whole frame, or more, is done. -/
theorem readProgress_take_of_le {payload : Bytes} (framable : Framable payload) (rest : Bytes)
    {count : Nat}
    (whole : lengthPrefixBytes + payload.length ≤ count)
    (within : count ≤ (frameOf payload ++ rest).length) :
    readProgress ((frameOf payload ++ rest).take count) =
      .complete (((frameOf payload ++ rest).take count).drop lengthPrefixBytes) := by
  have length : ((frameOf payload ++ rest).take count).length = count :=
    List.length_take_of_le within
  have announced : prefixLength
      (((frameOf payload ++ rest).take count).take lengthPrefixBytes) = payload.length := by
    rw [List.take_take, Nat.min_eq_left (by omega), take_frameOf_append,
      prefixLength_lengthPrefix framable.bounded]
  have behind : ¬ count < lengthPrefixBytes := by omega
  simp only [readProgress, length, behind, announced, if_false]
  rw [if_neg (Nat.ne_of_gt framable.positive), if_neg (Nat.not_lt.mpr framable.bounded),
    if_neg (Nat.not_lt.mpr whole)]

theorem readProgress_frameOf {payload : Bytes} (framable : Framable payload) :
    readProgress (frameOf payload) = .complete payload := by
  have done := readProgress_take_of_le framable [] (Nat.le_refl _) (by simp)
  rw [List.append_nil, ← length_frameOf, List.take_length] at done
  rw [done, frameOf, List.drop_left' (length_lengthPrefix _)]

/-- A portion read inside the first frame leaves the reader inside it or
completes exactly it. -/
theorem readProgress_append {payload rest buffer available : Bytes} {wanted count : Nat}
    (framable : Framable payload) (stream : buffer ++ available = frameOf payload ++ rest)
    (wants : readProgress buffer = .wants wanted) (within : count ≤ wanted) :
    (∃ more, readProgress (buffer ++ available.take count) = .wants more) ∨
      (buffer ++ available.take count = frameOf payload ∧ available.drop count = rest) := by
  have bufferEq : buffer = (frameOf payload ++ rest).take buffer.length := by
    rw [← stream, List.take_left]
  have collectedEq : buffer ++ available.take count =
      (frameOf payload ++ rest).take (buffer.length + count) := by
    rw [← stream, List.take_length_add_append]
  -- The buffer is shorter than the frame, for it still wants bytes.
  have inside : buffer.length < lengthPrefixBytes + payload.length := by
    rcases Nat.lt_or_ge buffer.length (lengthPrefixBytes + payload.length) with inside | whole
    · exact inside
    · have done := readProgress_take_of_le framable rest whole
        (by rw [← stream]; simp)
      rw [← bufferEq, wants] at done
      contradiction
  have bounded : buffer.length + count ≤ lengthPrefixBytes + payload.length := by
    obtain ⟨asked, askedEq, fits⟩ := readProgress_take_of_lt framable rest inside
    rw [← bufferEq, wants] at askedEq
    cases askedEq
    omega
  rcases Nat.lt_or_eq_of_le bounded with more | whole
  · left
    obtain ⟨asked, askedEq, -⟩ := readProgress_take_of_lt framable rest more
    exact ⟨asked, by rw [collectedEq, askedEq]⟩
  · right
    have collected : buffer ++ available.take count = frameOf payload := by
      rw [collectedEq, whole, ← length_frameOf, List.take_left]
    refine ⟨collected, ?_⟩
    have remaining : buffer ++ available.take count ++ available.drop count =
        frameOf payload ++ rest := by
      rw [List.append_assoc, List.take_append_drop, stream]
    rw [collected] at remaining
    exact List.append_cancel_left remaining

/-! ## Streams -/

/-- The bytes are the frames of messages with these labels, in order. -/
inductive Framed {κ : Type u} (carries : κ → Bytes → Prop) : List κ → Bytes → Prop where
  | nil : Framed carries [] []
  | cons {label : κ} {payload : Bytes} {labels : List κ} {rest : Bytes}
      (carried : carries label payload) (framable : Framable payload)
      (framed : Framed carries labels rest) :
      Framed carries (label :: labels) (frameOf payload ++ rest)

namespace Framed

variable {κ : Type u} {carries : κ → Bytes → Prop} {labels : List κ} {bytes : Bytes}

/-- One more frame at the end. -/
theorem snoc (framed : Framed carries labels bytes) {label : κ} {payload : Bytes}
    (carried : carries label payload) (framable : Framable payload) :
    Framed carries (labels ++ [label]) (bytes ++ frameOf payload) := by
  induction framed with
  | nil =>
      have single := Framed.cons carried framable .nil
      simpa using single
  | cons first firstFramable _ ih =>
      rw [List.append_assoc]
      exact .cons first firstFramable ih

end Framed

end X64dbgMcp.Ipc
