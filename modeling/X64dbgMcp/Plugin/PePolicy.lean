import Mathlib.Tactic.SplitIfs
import X64dbgMcp.Collection.SpanReads

/-!
# The identity of a portable executable

`ParsePeIdentity` reads a span whose contents choose where the headers are and how long
they are; `ReadPeIdentity` gives it the beginning of a file.
-/

namespace X64dbgMcp.Plugin.Pe

open Collection

/-- Where a file names the offset of its headers. -/
def dosOffset : Nat := 0x3c

/-- How far into a file its headers may be. -/
def maxHeaderOffset : Nat := 1024 * 1024

/-- How much more is read behind that. -/
def headerSlack : Nat := 512

/-- The file is a library. -/
def dllCharacteristic : UInt16 := 0x2000

/-- What is told of a file. -/
structure PeIdentity where
  machine : UInt16
  optionalMagic : UInt16
  entryRva : UInt32
  dll : Bool
  deriving DecidableEq

/-! ## ParsePeIdentity -/

/-- Read a byte. -/
def byteAt (bytes : List UInt8) (offset : Nat) : Reads UInt8 :=
  Reads.element bytes 0 offset

/-- Read a number of 16 bits. -/
def u16 (bytes : List UInt8) (offset : Nat) : Reads UInt16 := do
  return (← byteAt bytes offset).toUInt16 ||| (← byteAt bytes (offset + 1)).toUInt16 <<< 8

/-- Read a number of 32 bits. -/
def u32 (bytes : List UInt8) (offset : Nat) : Reads UInt32 := do
  return (← byteAt bytes offset).toUInt32 ||| (← byteAt bytes (offset + 1)).toUInt32 <<< 8 |||
    (← byteAt bytes (offset + 2)).toUInt32 <<< 16 ||| (← byteAt bytes (offset + 3)).toUInt32 <<< 24

/-- The byte is another than expected. -/
def differs (bytes : List UInt8) (offset : Nat) (expected : UInt8) : Reads Bool := do
  return (← byteAt bytes offset) != expected

/-- The length of the headers of fixed size. -/
def requiredAfterNt : Nat := 24 + 20

/-- Read the headers of a file. -/
def parsePeIdentity (bytes : List UInt8) : Reads (Option PeIdentity) := do
  if ← Reads.any [pure (bytes.length < 64), differs bytes 0 0x4d, differs bytes 1 0x5a] then
    return none
  let ntOffset ← u32 bytes dosOffset
  let nt := ntOffset.toNat
  if nt < 64 || maxHeaderOffset < nt || bytes.length < nt ||
      bytes.length - nt < requiredAfterNt then
    return none
  if ← Reads.any [differs bytes nt 0x50, differs bytes (nt + 1) 0x45, differs bytes (nt + 2) 0,
      differs bytes (nt + 3) 0] then
    return none
  let optionalSize ← u16 bytes (nt + 20)
  if optionalSize.toNat < 20 || bytes.length - nt < 24 + optionalSize.toNat then
    return none
  return some {
    machine := ← u16 bytes (nt + 4)
    optionalMagic := ← u16 bytes (nt + 24)
    entryRva := ← u32 bytes (nt + 24 + 16)
    dll := (← u16 bytes (nt + 22)) &&& dllCharacteristic != 0
  }

/-! ## ReadPeIdentity -/

/-- For a file that opens and reads, given by its content. -/
def readPeIdentity (file : List UInt8) : Option PeIdentity :=
  if file.length < 64 then none
  else
    let cap := maxHeaderOffset + headerSlack
    let bounded := if cap < file.length then cap else file.length
    (parsePeIdentity (file.take bounded)).value

/-! ## The headers of a file -/

/-- Where the headers of a file begin. -/
def ntOffset (bytes : List UInt8) : Nat :=
  (u32 bytes dosOffset).value.toNat

/-- The length of its optional header. -/
def optionalSize (bytes : List UInt8) : Nat :=
  (u16 bytes (ntOffset bytes + 20)).value.toNat

/-- Where its headers end. -/
def headersEnd (bytes : List UInt8) : Nat :=
  ntOffset bytes + 24 + optionalSize bytes

/-- The signatures stand where they belong, and the headers are inside the bytes. -/
structure HasHeaders (bytes : List UInt8) : Prop where
  size : 64 ≤ bytes.length
  dosSignature : (differs bytes 0 0x4d).value = false ∧ (differs bytes 1 0x5a).value = false
  offset : 64 ≤ ntOffset bytes ∧ ntOffset bytes ≤ maxHeaderOffset
  ntSignature : (differs bytes (ntOffset bytes) 0x50).value = false ∧
    (differs bytes (ntOffset bytes + 1) 0x45).value = false ∧
    (differs bytes (ntOffset bytes + 2) 0).value = false ∧
    (differs bytes (ntOffset bytes + 3) 0).value = false
  optional : 20 ≤ optionalSize bytes
  complete : headersEnd bytes ≤ bytes.length

/-- What its headers say. -/
def identity (bytes : List UInt8) : PeIdentity where
  machine := (u16 bytes (ntOffset bytes + 4)).value
  optionalMagic := (u16 bytes (ntOffset bytes + 24)).value
  entryRva := (u32 bytes (ntOffset bytes + 24 + 16)).value
  dll := (u16 bytes (ntOffset bytes + 22)).value &&& dllCharacteristic != 0

/-- What is parsed is the identity behind complete headers. -/
theorem parsePeIdentity_value (bytes : List UInt8) (parsed : PeIdentity) :
    (parsePeIdentity bytes).value = some parsed ↔ HasHeaders bytes ∧ parsed = identity bytes := by
  have offset : (u32 bytes dosOffset).value.toNat = ntOffset bytes := rfl
  have optional : (u16 bytes (ntOffset bytes + 20)).value.toNat = optionalSize bytes := rfl
  unfold parsePeIdentity
  simp only [Reads.bind_value, apply_ite Reads.value, Reads.pure_value, Reads.any_value,
    List.any_cons, List.any_nil, Bool.or_false, Bool.or_eq_true, decide_eq_true_eq, offset,
    optional]
  constructor
  · intro found
    split_ifs at found with dos range signature size
    simp only [not_or, Nat.not_lt, Bool.not_eq_true, requiredAfterNt] at dos range signature size
    refine ⟨⟨dos.1, dos.2, range.1.1, signature, size.1, ?_⟩, (Option.some.inj found).symm⟩
    rw [headersEnd]
    omega
  · rintro ⟨⟨size, dos, range, signature, optionalLow, complete⟩, rfl⟩
    rw [headersEnd] at complete
    simp only [dos, signature, Bool.false_eq_true, or_false, requiredAfterNt]
    rw [if_neg (by omega), if_neg (by omega), if_neg not_false, if_neg (by omega)]
    rfl

theorem parsePeIdentity_of_headers {bytes : List UInt8} (headers : HasHeaders bytes) :
    (parsePeIdentity bytes).value = some (identity bytes) :=
  (parsePeIdentity_value bytes _).mpr ⟨headers, rfl⟩

theorem parsePeIdentity_of_not_headers {bytes : List UInt8} (none : ¬ HasHeaders bytes) :
    (parsePeIdentity bytes).value = Option.none := by
  rw [Option.eq_none_iff_forall_ne_some]
  intro parsed found
  exact none ((parsePeIdentity_value bytes parsed).mp found).1

/-! ## Reads inside the span -/

theorem inside_byteAt {bytes : List UInt8} {offset : Nat} (within : offset < bytes.length) :
    (byteAt bytes offset).Inside bytes.length :=
  Reads.inside_element within 0

theorem inside_differs {bytes : List UInt8} {offset : Nat} (within : offset < bytes.length)
    (expected : UInt8) : (differs bytes offset expected).Inside bytes.length :=
  (inside_byteAt within).bind (Reads.inside_pure _ _)

theorem inside_u16 {bytes : List UInt8} {offset : Nat} (within : offset + 2 ≤ bytes.length) :
    (u16 bytes offset).Inside bytes.length :=
  (inside_byteAt (by omega)).bind ((inside_byteAt (by omega)).bind (Reads.inside_pure _ _))

theorem inside_u32 {bytes : List UInt8} {offset : Nat} (within : offset + 4 ≤ bytes.length) :
    (u32 bytes offset).Inside bytes.length :=
  (inside_byteAt (by omega)).bind ((inside_byteAt (by omega)).bind
    ((inside_byteAt (by omega)).bind ((inside_byteAt (by omega)).bind (Reads.inside_pure _ _))))

/-- The size is checked before the offset in the header is read, and the offset before the
header behind it. -/
theorem inside_parsePeIdentity (bytes : List UInt8) :
    (parsePeIdentity bytes).Inside bytes.length := by
  unfold parsePeIdentity
  refine Reads.Inside.bind ?_ ?_
  · refine Reads.Inside.any_cons (Reads.inside_pure _ _) fun large => Reads.Inside.any ?_
    have size : 64 ≤ bytes.length := Nat.le_of_not_lt (of_decide_eq_false large)
    simp only [List.forall_mem_cons, List.not_mem_nil, false_implies, implies_true, and_true]
    exact ⟨inside_differs (by omega) _, inside_differs (by omega) _⟩
  split_ifs with dos
  · exact Reads.inside_pure _ _
  simp only [Reads.any_value, List.any_cons, List.any_nil, Bool.or_false, Reads.pure_value,
    Bool.or_eq_true, decide_eq_true_eq, not_or, Nat.not_lt, dosOffset] at dos ⊢
  refine (inside_u32 (by omega)).bind ?_
  generalize (u32 bytes _).value.toNat = nt
  split_ifs with range
  · exact Reads.inside_pure _ _
  simp only [not_or, Nat.not_lt, requiredAfterNt] at range
  refine Reads.Inside.bind (Reads.Inside.any ?_) ?_
  · simp only [List.forall_mem_cons, List.not_mem_nil, false_implies, implies_true, and_true]
    exact ⟨inside_differs (by omega) _, inside_differs (by omega) _, inside_differs (by omega) _,
      inside_differs (by omega) _⟩
  split_ifs with signature
  · exact Reads.inside_pure _ _
  refine (inside_u16 (by omega)).bind ?_
  split_ifs with size
  · exact Reads.inside_pure _ _
  refine (inside_u16 (by omega)).bind ((inside_u16 (by omega)).bind ((inside_u32 (by omega)).bind
    ((inside_u16 (by omega)).bind (Reads.inside_pure _ _))))

/-! ## The beginning of a file -/

/-- How much of a file is read. -/
def readSize (file : List UInt8) : Nat :=
  if maxHeaderOffset + headerSlack < file.length then maxHeaderOffset + headerSlack
  else file.length

theorem readPeIdentity_of_size {file : List UInt8} (size : 64 ≤ file.length) :
    readPeIdentity file = (parsePeIdentity (file.take (readSize file))).value := by
  rw [readPeIdentity, if_neg (Nat.not_lt.mpr size)]
  rfl

theorem le_readSize {file : List UInt8} {count : Nat}
    (below : count ≤ maxHeaderOffset + headerSlack) (inside : count ≤ file.length) :
    count ≤ readSize file := by
  rw [readSize]
  split_ifs
  · exact below
  · exact inside

theorem byteAt_take (file : List UInt8) {offset count : Nat} (within : offset < count) :
    byteAt (file.take count) offset = byteAt file offset := by
  rw [byteAt, Reads.element, List.getD_eq_getElem?_getD, List.getElem?_take_of_lt within]
  rfl

theorem u16_take (file : List UInt8) {offset count : Nat} (within : offset + 2 ≤ count) :
    u16 (file.take count) offset = u16 file offset := by
  rw [u16, byteAt_take file (by omega), byteAt_take file (by omega)]
  rfl

theorem u32_take (file : List UInt8) {offset count : Nat} (within : offset + 4 ≤ count) :
    u32 (file.take count) offset = u32 file offset := by
  rw [u32, byteAt_take file (by omega), byteAt_take file (by omega), byteAt_take file (by omega),
    byteAt_take file (by omega)]
  rfl

theorem differs_take (file : List UInt8) {offset count : Nat} (within : offset < count)
    (expected : UInt8) : differs (file.take count) offset expected = differs file offset expected := by
  rw [differs, byteAt_take file within]
  rfl

theorem ntOffset_take (file : List UInt8) {count : Nat} (header : 64 ≤ count) :
    ntOffset (file.take count) = ntOffset file := by
  have within : dosOffset + 4 ≤ count := header
  rw [ntOffset, u32_take file within]
  rfl

theorem optionalSize_take (file : List UInt8) {count : Nat} (header : 64 ≤ count)
    (within : ntOffset file + 22 ≤ count) : optionalSize (file.take count) = optionalSize file := by
  rw [optionalSize, ntOffset_take file header, u16_take file within]
  rfl

/-- The beginning has the headers of the file if they end in it. -/
theorem hasHeaders_take (file : List UInt8) {count : Nat} (header : 64 ≤ count) :
    HasHeaders (file.take count) ↔ HasHeaders file ∧ headersEnd file ≤ count := by
  have sameOffset := ntOffset_take file header
  constructor
  · intro headers
    have complete := headers.complete
    have optional := headers.optional
    have shorter := headers.size
    rw [headersEnd, sameOffset] at complete
    rw [List.length_take] at complete shorter
    have sameSize := optionalSize_take file header (by omega)
    rw [sameSize] at complete optional
    have dos := headers.dosSignature
    have nt := headers.ntSignature
    rw [differs_take file (by omega), differs_take file (by omega)] at dos
    rw [sameOffset, differs_take file (by omega), differs_take file (by omega),
      differs_take file (by omega), differs_take file (by omega)] at nt
    exact ⟨⟨by omega, dos, sameOffset ▸ headers.offset, nt, optional, by rw [headersEnd]; omega⟩,
      by rw [headersEnd]; omega⟩
  · rintro ⟨headers, fits⟩
    have complete := headers.complete
    have optional := headers.optional
    have size := headers.size
    rw [headersEnd] at complete fits
    have sameSize := optionalSize_take file header (by omega)
    have dos := headers.dosSignature
    have nt := headers.ntSignature
    refine ⟨?_, ?_, ?_, ?_, ?_, ?_⟩
    · rw [List.length_take]
      omega
    · rwa [differs_take file (by omega), differs_take file (by omega)]
    · rw [sameOffset]
      exact headers.offset
    · rwa [sameOffset, differs_take file (by omega), differs_take file (by omega),
        differs_take file (by omega), differs_take file (by omega)]
    · rwa [sameSize]
    · rw [headersEnd, sameOffset, sameSize, List.length_take]
      omega

theorem identity_take {file : List UInt8} {count : Nat} (headers : HasHeaders file)
    (fits : headersEnd file ≤ count) : identity (file.take count) = identity file := by
  have optional := headers.optional
  have low := headers.offset.1
  rw [headersEnd] at fits
  rw [identity, ntOffset_take file (by omega), u16_take file (by omega), u16_take file (by omega),
    u32_take file (by omega), u16_take file (by omega)]
  rfl

theorem readPeIdentity_eq_iff (file : List UInt8) :
    readPeIdentity file = (parsePeIdentity file).value ↔
      ¬ (HasHeaders file ∧ maxHeaderOffset + headerSlack < headersEnd file) := by
  by_cases headers : HasHeaders file
  · rw [readPeIdentity_of_size headers.size, parsePeIdentity_of_headers headers]
    by_cases fits : headersEnd file ≤ maxHeaderOffset + headerSlack
    · have inside : headersEnd file ≤ readSize file := le_readSize fits headers.complete
      have header : 64 ≤ readSize file := le_readSize (by decide) headers.size
      rw [parsePeIdentity_of_headers ((hasHeaders_take file header).mpr ⟨headers, inside⟩),
        identity_take headers inside]
      exact iff_of_true rfl fun fails => absurd fails.2 (Nat.not_lt.mpr fits)
    · have large : maxHeaderOffset + headerSlack < headersEnd file := Nat.lt_of_not_le fits
      have cut : readSize file = maxHeaderOffset + headerSlack :=
        if_pos (Nat.lt_of_lt_of_le large headers.complete)
      have none : ¬ HasHeaders (file.take (readSize file)) := by
        rw [cut, hasHeaders_take file (by decide)]
        exact fun complete => fits complete.2
      rw [parsePeIdentity_of_not_headers none]
      exact iff_of_false (fun same => nomatch same) (fun holds => holds ⟨headers, large⟩)
  · rw [parsePeIdentity_of_not_headers headers]
    refine iff_of_true ?_ fun fails => headers fails.1
    by_cases size : 64 ≤ file.length
    · have header : 64 ≤ readSize file := le_readSize (by decide) size
      rw [readPeIdentity_of_size size]
      apply parsePeIdentity_of_not_headers
      rw [hasHeaders_take file header]
      exact fun complete => headers complete.1
    · rw [readPeIdentity, if_pos (Nat.lt_of_not_le size)]

/-- What is read of a file is the identity of the whole file, except where the file has
complete headers that end behind the part that is read; and every index that
`ParsePeIdentity` reads is inside its span, whatever part it is given. -/
theorem readPeIdentity_agrees_iff (file : List UInt8) :
    (readPeIdentity file = (parsePeIdentity file).value ↔
      ¬ (HasHeaders file ∧ maxHeaderOffset + headerSlack < headersEnd file)) ∧
    ∀ bytes : List UInt8, (parsePeIdentity bytes).Inside bytes.length :=
  ⟨readPeIdentity_eq_iff file, inside_parsePeIdentity⟩

/-! ## Headers at the largest offset -/

/-- The first 64 bytes of a sample. -/
def dosHeader : List UInt8 :=
  [0x4d, 0x5a] ++ List.replicate 58 0 ++ [0x00, 0x00, 0x10, 0x00]

/-- For x64, with an optional header of 489 bytes. -/
def ntHeader : List UInt8 :=
  [0x50, 0x45, 0x00, 0x00, 0x64, 0x86] ++ List.replicate 14 0 ++ [0xe9, 0x01, 0x22, 0x20]

/-- The sample with its headers as far in as they may be. -/
def farHeaders : List UInt8 :=
  (dosHeader ++ List.replicate (maxHeaderOffset - 64) 0) ++ (ntHeader ++ List.replicate 489 0)

theorem byteAt_append (front back : List UInt8) (offset : Nat) :
    (byteAt (front ++ back) (front.length + offset)).value = (byteAt back offset).value := by
  rw [byteAt, Reads.element_value, List.getD_append_right _ _ _ _ (Nat.le_add_right _ _),
    Nat.add_sub_cancel_left]
  rfl

theorem differs_append (front back : List UInt8) (offset : Nat) (expected : UInt8) :
    (differs (front ++ back) (front.length + offset) expected).value =
      (differs back offset expected).value :=
  congrArg (· != expected) (byteAt_append front back offset)

theorem differs_append_zero (front back : List UInt8) (expected : UInt8) :
    (differs (front ++ back) front.length expected).value = (differs back 0 expected).value :=
  differs_append front back 0 expected

theorem u16_append (front back : List UInt8) (offset : Nat) :
    (u16 (front ++ back) (front.length + offset)).value = (u16 back offset).value := by
  simp only [u16, Reads.bind_value, Reads.pure_value, Nat.add_assoc, byteAt_append]

theorem hasHeaders_farHeaders :
    HasHeaders farHeaders ∧ maxHeaderOffset + headerSlack < headersEnd farHeaders := by
  have large : maxHeaderOffset = 1048576 := by decide
  have dosSize : dosHeader.length = 64 := by decide
  have ntSize : ntHeader.length = 24 := by decide
  have frontSize : (dosHeader ++ List.replicate (maxHeaderOffset - 64) 0).length =
      maxHeaderOffset := by
    rw [List.length_append, List.length_replicate, dosSize]
    omega
  have dos : farHeaders.take 64 = dosHeader := by
    rw [farHeaders, List.append_assoc]
    exact List.take_left' dosSize
  have offset : ntOffset farHeaders = maxHeaderOffset := by
    rw [← ntOffset_take farHeaders (Nat.le_refl 64), dos]
    decide
  have size : optionalSize farHeaders = 489 := by
    rw [optionalSize, offset, ← frontSize, farHeaders, u16_append]
    decide
  have length : farHeaders.length = maxHeaderOffset + 513 := by
    rw [farHeaders, List.length_append, frontSize, List.length_append, List.length_replicate,
      ntSize]
  have ending : headersEnd farHeaders = maxHeaderOffset + 513 := by
    rw [headersEnd, offset, size, Nat.add_assoc]
  have slack : headerSlack = 512 := by decide
  refine ⟨⟨?_, ?_, ?_, ?_, ?_, ?_⟩, ?_⟩
  · omega
  · rw [← differs_take farHeaders (by decide : 0 < 64), ← differs_take farHeaders
      (by decide : 1 < 64), dos]
    decide
  · omega
  · rw [offset, ← frontSize, farHeaders, differs_append_zero, differs_append, differs_append,
      differs_append]
    decide
  · omega
  · omega
  · omega

/-- The whole file parses; what is read of it does not. -/
theorem farHeaders_differs : readPeIdentity farHeaders ≠ (parsePeIdentity farHeaders).value := by
  rw [ne_eq, readPeIdentity_eq_iff, not_not]
  exact hasHeaders_farHeaders

end X64dbgMcp.Plugin.Pe
