import X64dbgMcp.Ipc.FrameStream
import Mathlib.Algebra.GroupWithZero.Nat

/-!
# Three framings

The sidecar decodes a frame from a slice and reads one from a stream; the plugin reads
and writes frames with loops over partial transfers.  What a stream gives depends on its
bytes alone and not on the portions in which they come, so the three agree on every
byte string and every fragmentation of it.
-/

namespace X64dbgMcp.Ipc

/-! ## Portions -/

/-- A loop that reads until it has what it wants.  Each portion is what one read can
give; a read of nothing is the end of the stream. -/
def readExact : Nat → List Bytes → Option (Bytes × List Bytes)
  | want, [] => if want = 0 then some ([], []) else none
  | want, portion :: rest =>
      if want = 0 then some ([], portion :: rest)
      else if portion.isEmpty then none
      else if want < portion.length then some (portion.take want, portion.drop want :: rest)
      else (readExact (want - portion.length) rest).map fun read => (portion ++ read.1, read.2)

/-- A loop that writes until everything is out, with what has reached the pipe.  Each
count is what one write takes; a write that takes nothing fails. -/
def writeAll : List Nat → Bytes → Bytes × Bool × List Nat
  | counts, [] => ([], true, counts)
  | [], _ :: _ => ([], false, [])
  | count :: rest, data =>
      if count = 0 then ([], false, rest)
      else
        let more := writeAll rest (data.drop count)
        (data.take count ++ more.1, more.2)

theorem readExact_of_length_le {want : Nat} {portions : List Bytes}
    (solid : ∀ portion ∈ portions, portion ≠ []) (enough : want ≤ portions.flatten.length) :
    ∃ rest, readExact want portions = some (portions.flatten.take want, rest) ∧
      rest.flatten = portions.flatten.drop want ∧ ∀ portion ∈ rest, portion ≠ [] := by
  induction portions generalizing want with
  | nil =>
      have none_wanted : want = 0 := Nat.le_zero.mp enough
      subst none_wanted
      exact ⟨[], rfl, rfl, solid⟩
  | cons portion rest ih =>
      have nonempty := solid portion List.mem_cons_self
      have tail := fun other member => solid other (List.mem_cons_of_mem portion member)
      rw [List.flatten_cons] at enough ⊢
      rw [readExact]
      by_cases none_wanted : want = 0
      · subst none_wanted
        exact ⟨portion :: rest, by simp, by simp, solid⟩
      · rw [if_neg none_wanted, if_neg (by simpa using nonempty)]
        by_cases less : want < portion.length
        · refine ⟨portion.drop want :: rest, ?_, ?_, ?_⟩
          · rw [if_pos less, List.take_append_of_le_length (Nat.le_of_lt less)]
          · rw [List.flatten_cons, List.drop_append_of_le_length (Nat.le_of_lt less)]
          · intro other member
            rcases List.mem_cons.mp member with rfl | member
            · intro empty
              rw [List.drop_eq_nil_iff] at empty
              omega
            · exact tail other member
        · rw [List.length_append] at enough
          rcases @ih (want - portion.length) tail (by omega) with
            ⟨left, read, remaining, leftSolid⟩
          refine ⟨left, ?_, ?_, leftSolid⟩
          · rw [if_neg less, read, List.take_append, List.take_of_length_le (Nat.not_lt.mp less)]
            rfl
          · rw [remaining, List.drop_append, List.drop_of_length_le (Nat.not_lt.mp less),
              List.nil_append]

theorem readExact_of_lt_length {want : Nat} {portions : List Bytes}
    (short : portions.flatten.length < want) : readExact want portions = none := by
  induction portions generalizing want with
  | nil =>
      rw [readExact, if_neg]
      exact Nat.ne_of_gt short
  | cons portion rest ih =>
      rw [List.flatten_cons, List.length_append] at short
      rw [readExact, if_neg (by omega)]
      split_ifs with ended less
      · rfl
      · omega
      · rw [ih (by omega)]
        rfl

theorem writeAll_of_success {counts : List Nat} {data : Bytes}
    (success : (writeAll counts data).2.1 = true) : (writeAll counts data).1 = data := by
  induction counts generalizing data with
  | nil =>
      cases data with
      | nil => rfl
      | cons byte data => cases success
  | cons count counts ih =>
      cases data with
      | nil => rfl
      | cons byte data =>
          by_cases none_taken : count = 0
          · simp [writeAll, none_taken] at success
          · simp only [writeAll, if_neg none_taken] at success ⊢
            rw [ih success]
            exact List.take_append_drop count (byte :: data)

/-- A pipe that takes everything at once. -/
theorem writeAll_whole (data : Bytes) (rest : List Nat) (some_data : data ≠ []) :
    writeAll (data.length :: rest) data = (data, true, rest) := by
  cases data with
  | nil => exact absurd rfl some_data
  | cons byte data =>
      have nonzero : (byte :: data).length ≠ 0 := by simp
      simp only [writeAll, if_neg nonzero, List.take_length, List.drop_length]
      cases rest <;> simp

/-- Nothing is left of portions that hold no byte. -/
theorem eq_nil_of_flatten_eq_nil {portions : List Bytes}
    (solid : ∀ portion ∈ portions, portion ≠ []) (empty : portions.flatten = []) :
    portions = [] := by
  cases portions with
  | nil => rfl
  | cons portion rest =>
      rw [List.flatten_cons, List.append_eq_nil_iff] at empty
      exact absurd empty.1 (solid portion List.mem_cons_self)

/-- Four bytes are the prefix of the length that they stand for. -/
theorem lengthPrefix_prefixLength {header : Bytes} (size : header.length = 4) :
    lengthPrefix (prefixLength header) = header := by
  rcases header with _ | ⟨first, _ | ⟨second, _ | ⟨third, _ | ⟨fourth, _ | ⟨fifth, rest⟩⟩⟩⟩⟩
  · cases size
  · cases size
  · cases size
  · cases size
  · have one := first.toNat_lt
    have two := second.toNat_lt
    have three := third.toNat_lt
    have four := fourth.toNat_lt
    simp only [prefixLength, lengthPrefix, List.foldr_cons, List.foldr_nil, List.cons.injEq,
      ← UInt8.toNat_inj, UInt8.toNat_ofNat', and_true]
    omega
  · simp at size

/-! ## The sidecar -/

/-- `write_frame`, with what has reached the pipe when it succeeds. -/
def writeFrame (counts : List Nat) (serialized : Option Bytes) : Except FrameError Bytes :=
  match encodeFrame serialized with
  | .error error => .error error
  | .ok frame =>
      let written := writeAll counts frame
      if written.2.1 then .ok written.1 else .error .io

/-- The bytes of a frame behind its prefix, as `read_frame` takes them from a stream. -/
def readPayload (portions : List Bytes) : Except FrameError (Bytes × List Bytes) :=
  match readExact lengthPrefixBytes portions with
  | none => .error .io
  | some (header, rest) =>
      let length := prefixLength header
      if length = 0 then .error .emptyPayload
      else if maxFrameBytes < length then .error .oversized
      else
        match readExact length rest with
        | none => .error .io
        | some (payload, rest) => .ok (payload, rest)

section Sidecar

variable {M : Type} (fromSlice : Bytes → Option M)

/-- `read_frame` -/
def readFrame (portions : List Bytes) : Except FrameError (M × List Bytes) :=
  match readPayload portions with
  | .error error => .error error
  | .ok (payload, rest) =>
      match fromSlice payload with
      | none => .error .invalidPayload
      | some message => .ok (message, rest)

/-- Some messages, one after the other. -/
def readFrames : Nat → List Bytes → Except FrameError (List M × List Bytes)
  | 0, portions => .ok ([], portions)
  | count + 1, portions =>
      match readFrame fromSlice portions with
      | .error error => .error error
      | .ok (message, rest) => (readFrames count rest).map fun read => (message :: read.1, read.2)

/-- `decode_frame` -/
def decodeFrame (frame : Bytes) : Except FrameError M :=
  if frame.length < lengthPrefixBytes then .error .missingLengthPrefix
  else
    let length := prefixLength (frame.take lengthPrefixBytes)
    let payload := frame.drop lengthPrefixBytes
    if length = 0 then .error .emptyPayload
    else if maxFrameBytes < length then .error .oversized
    else if payload.length ≠ length then .error .lengthMismatch
    else
      match fromSlice payload with
      | none => .error .invalidPayload
      | some message => .ok message

end Sidecar

/-! ## The plugin -/

namespace Plugin

/-- `kMaxFrameBytes` -/
def kMaxFrameBytes : Nat :=
  1024 * 1024

/-- `WriteFrame`, with what has reached the pipe. -/
def writeFrame (counts : List Nat) (payload : Bytes) : Bytes × Bool :=
  if payload.isEmpty ∨ kMaxFrameBytes < payload.length ∨ 2 ^ 32 - 1 < payload.length then ([], false)
  else
    let first := writeAll counts (lengthPrefix payload.length)
    if first.2.1 then
      let second := writeAll first.2.2 payload
      (first.1 ++ second.1, second.2.1)
    else (first.1, false)

/-- `ReadFrame` -/
def readFrame (portions : List Bytes) : Option (Bytes × List Bytes) := do
  let (header, rest) ← readExact 4 portions
  let length := prefixLength header
  if length = 0 ∨ kMaxFrameBytes < length then none else readExact length rest

end Plugin

/-! ## Agreement -/

section Agreement

variable {M : Type} {fromSlice : Bytes → Option M}

/-- A stream that starts with a frame gives its payload, in whatever portions. -/
theorem readPayload_frameOf {payload rest : Bytes} (framable : Framable payload)
    {portions : List Bytes} (solid : ∀ portion ∈ portions, portion ≠ [])
    (stream : portions.flatten = frameOf payload ++ rest) :
    ∃ left, readPayload portions = .ok (payload, left) ∧ left.flatten = rest ∧
      ∀ portion ∈ left, portion ≠ [] := by
  have size : portions.flatten.length = lengthPrefixBytes + payload.length + rest.length := by
    rw [stream, List.length_append, length_frameOf]
  rcases @readExact_of_length_le lengthPrefixBytes _ solid (by omega) with
    ⟨behind, header, behindIs, behindSolid⟩
  have headerIs : portions.flatten.take lengthPrefixBytes = lengthPrefix payload.length := by
    rw [stream, take_frameOf_append]
  have payloadNext : behind.flatten = payload ++ rest := by
    rw [behindIs, stream, frameOf, List.append_assoc, List.drop_left' (length_lengthPrefix _)]
  rcases @readExact_of_length_le payload.length _ behindSolid (by
    rw [payloadNext, List.length_append]
    omega) with ⟨left, read, leftIs, leftSolid⟩
  rw [payloadNext, List.take_left' rfl] at read
  rw [payloadNext, List.drop_left' rfl] at leftIs
  refine ⟨left, ?_, leftIs, leftSolid⟩
  rw [readPayload, header, headerIs]
  simp only [prefixLength_lengthPrefix framable.bounded]
  rw [if_neg (Nat.ne_of_gt framable.positive), if_neg (Nat.not_lt.mpr framable.bounded), read]

/-- What is read from a stream is its first frame. -/
theorem readPayload_eq_ok {portions rest : List Bytes} {payload : Bytes}
    (solid : ∀ portion ∈ portions, portion ≠ [])
    (read : readPayload portions = .ok (payload, rest)) :
    Framable payload ∧ portions.flatten = frameOf payload ++ rest.flatten ∧
      ∀ portion ∈ rest, portion ≠ [] := by
  rcases Nat.lt_or_ge portions.flatten.length lengthPrefixBytes with short | enough
  · rw [readPayload, readExact_of_lt_length short] at read
    cases read
  rcases readExact_of_length_le solid enough with ⟨behind, header, behindIs, behindSolid⟩
  rw [readPayload, header] at read
  simp only [] at read
  split_ifs at read with empty oversized
  have size : (portions.flatten.take lengthPrefixBytes).length = 4 := List.length_take_of_le enough
  have prefixIs := lengthPrefix_prefixLength size
  generalize prefixLength (portions.flatten.take lengthPrefixBytes) = length at *
  rcases Nat.lt_or_ge behind.flatten.length length with short | enough
  · rw [readExact_of_lt_length short] at read
    cases read
  rcases readExact_of_length_le behindSolid enough with ⟨left, taken, leftIs, leftSolid⟩
  rw [taken] at read
  cases read
  have payloadSize : (behind.flatten.take length).length = length := List.length_take_of_le enough
  refine ⟨⟨?_, ?_⟩, ?_, leftSolid⟩
  · rw [payloadSize]
    exact Nat.pos_of_ne_zero empty
  · rw [payloadSize]
    exact Nat.not_lt.mp oversized
  · rw [frameOf, payloadSize, prefixIs, leftIs, behindIs, List.append_assoc,
      List.take_append_drop, List.take_append_drop]

/-- The decoder accepts whole frames of readable payloads. -/
theorem decodeFrame_eq_ok_iff {frame : Bytes} {message : M} :
    decodeFrame fromSlice frame = .ok message ↔
      ∃ payload, Framable payload ∧ frame = frameOf payload ∧ fromSlice payload = some message := by
  constructor
  · intro decoded
    simp only [decodeFrame] at decoded
    split_ifs at decoded with short empty oversized mismatch
    have size : (frame.take lengthPrefixBytes).length = 4 :=
      List.length_take_of_le (Nat.not_lt.mp short)
    have prefixIs := lengthPrefix_prefixLength size
    rw [← not_not.mp mismatch] at prefixIs empty oversized
    cases given : fromSlice (frame.drop lengthPrefixBytes) with
    | none =>
        rw [given] at decoded
        cases decoded
    | some message =>
        rw [given] at decoded
        cases decoded
        refine ⟨frame.drop lengthPrefixBytes, ⟨Nat.pos_of_ne_zero empty, Nat.not_lt.mp oversized⟩,
          ?_, given⟩
        rw [frameOf, prefixIs, List.take_append_drop]
  · rintro ⟨payload, framable, rfl, given⟩
    have header : (frameOf payload).take lengthPrefixBytes = lengthPrefix payload.length :=
      List.take_left' (length_lengthPrefix _)
    have behind : (frameOf payload).drop lengthPrefixBytes = payload :=
      List.drop_left' (length_lengthPrefix _)
    have long : ¬ (frameOf payload).length < lengthPrefixBytes := by
      rw [length_frameOf]
      omega
    rw [decodeFrame, if_neg long]
    simp only [header, behind, prefixLength_lengthPrefix framable.bounded]
    rw [if_neg (Nat.ne_of_gt framable.positive), if_neg (Nat.not_lt.mpr framable.bounded),
      if_neg (not_not.mpr rfl), given]

theorem readFrame_eq_ok_iff {portions rest : List Bytes} {message : M} :
    readFrame fromSlice portions = .ok (message, rest) ↔
      ∃ payload, readPayload portions = .ok (payload, rest) ∧ fromSlice payload = some message := by
  rw [readFrame]
  constructor
  · intro read
    rcases taken : readPayload portions with error | ⟨payload, left⟩
    · rw [taken] at read
      cases read
    · rw [taken] at read
      simp only [] at read
      cases given : fromSlice payload with
      | none =>
          rw [given] at read
          cases read
      | some message =>
          rw [given] at read
          cases read
          exact ⟨payload, rfl, given⟩
  · rintro ⟨payload, taken, given⟩
    simp only [taken, given]

/-- A stream decodes as one frame when reading it takes all of it. -/
theorem decodeFrame_flatten_iff {portions : List Bytes} {message : M}
    (solid : ∀ portion ∈ portions, portion ≠ []) :
    decodeFrame fromSlice portions.flatten = .ok message ↔
      readFrame fromSlice portions = .ok (message, []) := by
  rw [decodeFrame_eq_ok_iff, readFrame_eq_ok_iff]
  constructor
  · rintro ⟨payload, framable, whole, given⟩
    rcases readPayload_frameOf framable solid (by rw [whole, List.append_nil]) with
      ⟨left, read, leftIs, leftSolid⟩
    rw [eq_nil_of_flatten_eq_nil leftSolid leftIs] at read
    exact ⟨payload, read, given⟩
  · rintro ⟨payload, read, given⟩
    rcases readPayload_eq_ok solid read with ⟨framable, stream, -⟩
    exact ⟨payload, framable, by rw [stream, List.flatten_nil, List.append_nil], given⟩

/-- Frames that lie one after the other are read one after the other. -/
theorem readFrames_of_encoded {toVec : M → Option Bytes}
    (roundTrip : ∀ message payload, toVec message = some payload → fromSlice payload = some message)
    {messages : List M} {frames : List Bytes}
    (encoded : List.Forall₂ (fun message frame => encodeFrame (toVec message) = .ok frame)
      messages frames)
    {portions : List Bytes} (solid : ∀ portion ∈ portions, portion ≠ [])
    (stream : portions.flatten = frames.flatten) :
    readFrames fromSlice messages.length portions = .ok (messages, []) := by
  induction encoded generalizing portions with
  | nil =>
      rw [List.flatten_nil] at stream
      rw [eq_nil_of_flatten_eq_nil solid stream]
      rfl
  | @cons message frame messages frames first _ ih =>
      rcases encodeFrame_eq_ok first with ⟨payload, serialized, framable, rfl⟩
      rw [List.flatten_cons] at stream
      rcases readPayload_frameOf framable solid stream with ⟨left, read, leftIs, leftSolid⟩
      have readFirst := (@readFrame_eq_ok_iff M fromSlice portions left message).mpr
        ⟨payload, read, roundTrip message payload serialized⟩
      rw [List.length_cons, readFrames, readFirst]
      simp only [ih leftSolid leftIs]
      rfl

theorem writeFrame_eq_ok {counts : List Nat} {serialized : Option Bytes} {written : Bytes}
    (success : writeFrame counts serialized = .ok written) :
    encodeFrame serialized = .ok written := by
  unfold writeFrame at success
  rcases encoded : encodeFrame serialized with error | frame
  · rw [encoded] at success
    cases success
  · rw [encoded] at success
    simp only [] at success
    split_ifs at success with out
    cases success
    rw [writeAll_of_success out]

/-! ### The plugin's side -/

/-- The plugin reads what the sidecar reads. -/
theorem Plugin.readFrame_eq_some_iff {portions rest : List Bytes} {payload : Bytes} :
    Plugin.readFrame portions = some (payload, rest) ↔
      readPayload portions = .ok (payload, rest) := by
  unfold Plugin.readFrame readPayload
  rw [show lengthPrefixBytes = 4 from rfl]
  rcases readExact 4 portions with _ | ⟨header, behind⟩
  · simp
  simp only [Option.bind_eq_bind, Option.bind_some, Plugin.kMaxFrameBytes, maxFrameBytes]
  by_cases empty : prefixLength header = 0
  · simp [empty]
  by_cases oversized : 1024 * 1024 < prefixLength header
  · simp only [empty, oversized, or_true, if_true, if_false]
    constructor <;> intro read <;> cases read
  simp only [empty, oversized, or_false, if_false]
  rcases readExact (prefixLength header) behind with _ | ⟨taken, left⟩
  · simp
  · simp

/-- A successful write has put out the sidecar's frame. -/
theorem Plugin.writeFrame_of_success {counts : List Nat} {payload : Bytes}
    (success : (Plugin.writeFrame counts payload).2 = true) :
    encodeFrame (some payload) = .ok (Plugin.writeFrame counts payload).1 := by
  simp only [Plugin.writeFrame] at success ⊢
  split_ifs at success ⊢ with refused started
  · have header := writeAll_of_success started
    have behind := writeAll_of_success success
    simp only [header, behind]
    rcases not_or.mp refused with ⟨nonempty, refused⟩
    rcases not_or.mp refused with ⟨bounded, -⟩
    have within : ¬ maxFrameBytes < payload.length := bounded
    rw [encodeFrame, if_neg nonempty, if_neg within]

/-- A payload that the sidecar frames goes out when the pipe takes it. -/
theorem Plugin.writeFrame_whole {payload frame : Bytes}
    (encoded : encodeFrame (some payload) = .ok frame) :
    Plugin.writeFrame [lengthPrefixBytes, payload.length] payload = (frame, true) := by
  rcases encodeFrame_eq_ok encoded with ⟨_, same, framable, rfl⟩
  cases same
  have accepted : ¬ (payload.isEmpty ∨ Plugin.kMaxFrameBytes < payload.length ∨
      2 ^ 32 - 1 < payload.length) := by
    have positive := framable.positive
    have bounded := framable.bounded
    simp only [maxFrameBytes] at bounded
    simp only [Plugin.kMaxFrameBytes, List.isEmpty_iff, ← List.length_eq_zero_iff]
    omega
  rw [Plugin.writeFrame, if_neg accepted, show lengthPrefixBytes =
    (lengthPrefix payload.length).length from rfl]
  rw [writeAll_whole _ _ (by simp [lengthPrefix])]
  simp only [if_true]
  rw [writeAll_whole _ _ (List.length_pos_iff.mp framable.positive)]
  rfl

/-- A framed payload is read, in whatever portions it comes, and nothing behind it. -/
theorem readPayload_of_encoded {payload frame rest : Bytes}
    (encoded : encodeFrame (some payload) = .ok frame)
    {portions : List Bytes} (solid : ∀ portion ∈ portions, portion ≠ [])
    (stream : portions.flatten = frame ++ rest) :
    ∃ left, readPayload portions = .ok (payload, left) ∧ left.flatten = rest := by
  rcases encodeFrame_eq_ok encoded with ⟨_, same, framable, rfl⟩
  cases same
  rcases readPayload_frameOf framable solid stream with ⟨left, read, leftIs, -⟩
  exact ⟨left, read, leftIs⟩

end Agreement

/-! ## The codec -/

/-- The three framings agree: what is encoded decodes, a sequence of frames is read back
from any fragmentation with nothing left, a byte string decodes just when reading it takes
all of it, and what either side writes the other reads. -/
theorem frame_codec {M : Type} (toVec : M → Option Bytes) (fromSlice : Bytes → Option M)
    (roundTrip : ∀ message payload,
      toVec message = some payload → fromSlice payload = some message) :
    (∀ message frame, encodeFrame (toVec message) = .ok frame →
      decodeFrame fromSlice frame = .ok message) ∧
    (∀ messages frames portions,
      List.Forall₂ (fun message frame => encodeFrame (toVec message) = .ok frame)
        messages frames →
      (∀ portion ∈ portions, portion ≠ []) → portions.flatten = frames.flatten →
      readFrames fromSlice messages.length portions = .ok (messages, [])) ∧
    (∀ bytes portions message, (∀ portion ∈ portions, portion ≠ []) →
      portions.flatten = bytes →
      (decodeFrame fromSlice bytes = .ok message ↔
        readFrame fromSlice portions = .ok (message, []))) ∧
    (∀ payload, (∃ counts, (Plugin.writeFrame counts payload).2 = true) ↔
      ∃ frame, encodeFrame (some payload) = .ok frame) ∧
    (∀ counts payload, (Plugin.writeFrame counts payload).2 = true →
      encodeFrame (some payload) = .ok (Plugin.writeFrame counts payload).1) ∧
    (∀ counts payload written, writeFrame counts (some payload) = .ok written →
      encodeFrame (some payload) = .ok written) ∧
    (∀ portions payload rest, Plugin.readFrame portions = some (payload, rest) ↔
      readPayload portions = .ok (payload, rest)) ∧
    (∀ counts payload portions rest, (Plugin.writeFrame counts payload).2 = true →
      (∀ portion ∈ portions, portion ≠ []) →
      portions.flatten = (Plugin.writeFrame counts payload).1 ++ rest →
      ∃ left, readPayload portions = .ok (payload, left) ∧ left.flatten = rest) ∧
    (∀ counts payload written portions rest, writeFrame counts (some payload) = .ok written →
      (∀ portion ∈ portions, portion ≠ []) → portions.flatten = written ++ rest →
      ∃ left, Plugin.readFrame portions = some (payload, left) ∧ left.flatten = rest) := by
  refine ⟨?_, ?_, ?_, ?_, ?_, ?_, ?_, ?_, ?_⟩
  · intro message frame encoded
    rcases encodeFrame_eq_ok encoded with ⟨payload, serialized, framable, rfl⟩
    exact decodeFrame_eq_ok_iff.mpr
      ⟨payload, framable, rfl, roundTrip message payload serialized⟩
  · intro messages frames portions encoded solid stream
    exact readFrames_of_encoded roundTrip encoded solid stream
  · rintro _ portions message solid rfl
    exact decodeFrame_flatten_iff solid
  · intro payload
    constructor
    · rintro ⟨counts, success⟩
      exact ⟨_, Plugin.writeFrame_of_success success⟩
    · rintro ⟨frame, encoded⟩
      exact ⟨[lengthPrefixBytes, payload.length], by rw [Plugin.writeFrame_whole encoded]⟩
  · intro counts payload success
    exact Plugin.writeFrame_of_success success
  · intro counts payload written success
    exact writeFrame_eq_ok success
  · intro portions payload rest
    exact Plugin.readFrame_eq_some_iff
  · intro counts payload portions rest success solid stream
    exact readPayload_of_encoded (Plugin.writeFrame_of_success success) solid stream
  · intro counts payload written portions rest success solid stream
    rcases readPayload_of_encoded (writeFrame_eq_ok success) solid stream with ⟨left, read, leftIs⟩
    exact ⟨left, Plugin.readFrame_eq_some_iff.mpr read, leftIs⟩

/-- Messages that are their own bytes. -/
theorem frame_codec_bytes :
    decodeFrame some [2, 0, 0, 0, 91, 93] = .ok [91, 93] ∧
      readFrames some 2 [[2, 0], [0, 0, 91], [93, 1], [0, 0, 0, 48]] = .ok ([[91, 93], [48]], []) := by
  have codec := frame_codec some some (fun _ _ given => given.symm)
  refine ⟨codec.1 [91, 93] _ rfl, ?_⟩
  exact codec.2.1 [[91, 93], [48]] [[2, 0, 0, 0, 91, 93], [1, 0, 0, 0, 48]] _
    (.cons rfl (.cons rfl .nil)) (by decide) rfl

end X64dbgMcp.Ipc
