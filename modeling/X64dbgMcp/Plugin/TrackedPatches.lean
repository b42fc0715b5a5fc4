import X64dbgMcp.Plugin.Backend
import Mathlib.Data.List.Chain
import Mathlib.Data.List.Flatten
import Mathlib.Data.List.Sort

/-!
# Tracked patches

x64dbg tracks a patch byte by byte.  The listing puts the bytes into ranges: the
records are sorted, and each one extends the last range or starts another.
-/

namespace X64dbgMcp.Plugin

variable {backend : Backend}

/-- A patched byte. -/
structure TrackedPatchByte (backend : Backend) where
  module : List UInt8
  address : Duint backend
  original : UInt8
  patched : UInt8
  deriving DecidableEq

/-- Patched bytes in a row. -/
structure TrackedPatchRange (backend : Backend) where
  module : List UInt8
  address : Duint backend
  original : List UInt8
  patched : List UInt8
  deriving DecidableEq

/-- The comparison that the records are sorted by. -/
def TrackedPatchByte.before (left right : TrackedPatchByte backend) : Bool :=
  if left.address ≠ right.address then left.address < right.address
  else decide (left.module < right.module)

/-- `std::sort`, which leaves records that compare equal in any order. -/
structure RecordSort (backend : Backend) where
  run : List (TrackedPatchByte backend) → List (TrackedPatchByte backend)
  perm : ∀ records, (run records).Perm records
  ordered : ∀ records, (run records).Pairwise fun left right => right.before left = false

namespace TrackedPatchRange

variable (range : TrackedPatchRange backend)

/-- The number of bytes, as a `duint`. -/
def size : Duint backend :=
  BitVec.ofNat _ range.patched.length

/-- There is an address behind the range. -/
def canExtend : Bool :=
  range.size ≤ BitVec.allOnes _ - range.address

/-- The address behind the range. -/
def behind : Duint backend :=
  range.address + range.size

/-- The range with one byte more. -/
def extend (record : TrackedPatchByte backend) : TrackedPatchRange backend :=
  { range with
    original := range.original ++ [record.original]
    patched := range.patched ++ [record.patched] }

/-- The range of one byte. -/
def single (record : TrackedPatchByte backend) : TrackedPatchRange backend where
  module := record.module
  address := record.address
  original := [record.original]
  patched := [record.patched]

end TrackedPatchRange

/-- One round of the loop over the sorted records. -/
def addRecord (ranges : List (TrackedPatchRange backend)) (record : TrackedPatchByte backend) :
    Option (List (TrackedPatchRange backend)) :=
  if record.module = [] ∨ record.original = record.patched then none
  else
    match ranges.getLast? with
    | none => some (ranges ++ [.single record])
    | some back =>
        if back.canExtend ∧ record.address = back.behind ∧ record.module = back.module then
          some (ranges.dropLast ++ [back.extend record])
        else if ¬ back.canExtend ∨ record.address < back.behind then none
        else some (ranges ++ [.single record])

/-- `NormalizeTrackedPatches` -/
def normalizeTrackedPatches (sort : RecordSort backend) (records : List (TrackedPatchByte backend)) :
    Option (List (TrackedPatchRange backend)) :=
  if 65536 < records.length then none else (sort.run records).foldlM addRecord []

/-! ## Ranges as bytes -/

/-- The bytes of a range, from an address on. -/
def expandFrom (module : List UInt8) (address : Duint backend) :
    List (UInt8 × UInt8) → List (TrackedPatchByte backend)
  | [] => []
  | (original, patched) :: rest =>
      { module, address, original, patched } :: expandFrom module (address + 1) rest

/-- The bytes of a range. -/
def TrackedPatchRange.expand (range : TrackedPatchRange backend) : List (TrackedPatchByte backend) :=
  expandFrom range.module range.address (range.original.zip range.patched)

/-- The next address, where there is one. -/
theorem toNat_succ {address : Duint backend} (room : address.toNat + 1 < 2 ^ backend.sizeBits) :
    (address + 1).toNat = address.toNat + 1 := by
  have one : (1 : Duint backend).toNat = 1 :=
    Nat.mod_eq_of_lt (backend.lt_two_pow (by decide))
  rw [BitVec.toNat_add, one, Nat.mod_eq_of_lt room]

theorem expandFrom_append (module : List UInt8) (address : Duint backend)
    (front rest : List (UInt8 × UInt8)) :
    expandFrom module address (front ++ rest) =
      expandFrom module address front ++
        expandFrom module (address + BitVec.ofNat _ front.length) rest := by
  induction front generalizing address with
  | nil => simp [expandFrom]
  | cons pair front ih =>
      simp only [List.cons_append, expandFrom, List.length_cons]
      rw [ih, BitVec.add_assoc, Nat.add_comm front.length 1, BitVec.ofNat_add]
      rfl

theorem length_expandFrom (module : List UInt8) (address : Duint backend)
    (bytes : List (UInt8 × UInt8)) : (expandFrom module address bytes).length = bytes.length := by
  induction bytes generalizing address with
  | nil => rfl
  | cons pair rest ih => rw [expandFrom, List.length_cons, List.length_cons, ih]

theorem mem_expandFrom {module : List UInt8} {address : Duint backend}
    {bytes : List (UInt8 × UInt8)} {record : TrackedPatchByte backend}
    (within : address.toNat + bytes.length ≤ 2 ^ backend.sizeBits)
    (member : record ∈ expandFrom module address bytes) :
    address.toNat ≤ record.address.toNat ∧
      record.address.toNat < address.toNat + bytes.length := by
  induction bytes generalizing address with
  | nil => cases member
  | cons pair rest ih =>
      rw [List.length_cons] at within ⊢
      rcases List.mem_cons.mp member with rfl | member
      · exact ⟨Nat.le_refl _, by simp⟩
      · cases rest with
        | nil => cases member
        | cons next rest =>
            rw [List.length_cons] at within
            have nextIs := @toNat_succ _ address (by omega)
            have bounds := ih (by rw [List.length_cons]; omega) member
            rw [List.length_cons] at bounds
            rw [List.length_cons]
            omega

theorem exists_last_expandFrom {module : List UInt8} {address : Duint backend}
    {bytes : List (UInt8 × UInt8)}
    (within : address.toNat + bytes.length ≤ 2 ^ backend.sizeBits) (nonempty : 0 < bytes.length) :
    ∃ record ∈ expandFrom module address bytes,
      record.address.toNat + 1 = address.toNat + bytes.length := by
  induction bytes generalizing address with
  | nil => cases nonempty
  | cons pair rest ih =>
      rw [List.length_cons] at within
      cases rest with
      | nil => exact ⟨_, List.mem_cons_self, rfl⟩
      | cons next rest =>
          rw [List.length_cons] at within
          have nextIs := @toNat_succ _ address (by omega)
          rcases @ih (address + 1) (by rw [List.length_cons]; omega) (by simp) with ⟨record, member, isLast⟩
          refine ⟨record, List.mem_cons_of_mem _ member, ?_⟩
          rw [List.length_cons] at isLast ⊢
          rw [List.length_cons]
          omega

theorem pairwise_expandFrom {module : List UInt8} {address : Duint backend}
    {bytes : List (UInt8 × UInt8)}
    (within : address.toNat + bytes.length ≤ 2 ^ backend.sizeBits) :
    (expandFrom module address bytes).Pairwise fun left right => left.address < right.address := by
  induction bytes generalizing address with
  | nil => exact .nil
  | cons pair rest ih =>
      rw [List.length_cons] at within
      cases rest with
      | nil => exact List.pairwise_singleton _ _
      | cons next rest =>
          rw [List.length_cons] at within
          have nextIs := @toNat_succ _ address (by omega)
          have tailWithin : (address + 1).toNat + (next :: rest).length ≤ 2 ^ backend.sizeBits := by
            rw [List.length_cons]
            omega
          refine .cons ?_ (ih tailWithin)
          intro record member
          have bounds := mem_expandFrom tailWithin member
          rw [BitVec.lt_def]
          change address.toNat < record.address.toNat
          omega

/-- A range that holds as many original as patched bytes, and none beyond the last address. -/
structure TrackedPatchRange.Sound (range : TrackedPatchRange backend) : Prop where
  nonempty : 0 < range.patched.length
  paired : range.original.length = range.patched.length
  within : range.address.toNat + range.patched.length ≤ 2 ^ backend.sizeBits

namespace TrackedPatchRange.Sound

variable {range : TrackedPatchRange backend}

theorem length_zip (sound : range.Sound) :
    (range.original.zip range.patched).length = range.patched.length := by
  rw [List.length_zip, sound.paired, Nat.min_self]

theorem length_expand (sound : range.Sound) : range.expand.length = range.patched.length := by
  rw [expand, length_expandFrom, sound.length_zip]

theorem mem_expand (sound : range.Sound) {record : TrackedPatchByte backend}
    (member : record ∈ range.expand) :
    range.address.toNat ≤ record.address.toNat ∧
      record.address.toNat < range.address.toNat + range.patched.length := by
  have within := sound.within
  rw [← sound.length_zip] at within ⊢
  exact mem_expandFrom within member

theorem pairwise_expand (sound : range.Sound) :
    range.expand.Pairwise fun left right => left.address < right.address := by
  have within := sound.within
  rw [← sound.length_zip] at within
  exact pairwise_expandFrom within

theorem exists_last (sound : range.Sound) :
    ∃ record ∈ range.expand,
      record.address.toNat + 1 = range.address.toNat + range.patched.length := by
  have within := sound.within
  have nonempty := sound.nonempty
  rw [← sound.length_zip] at within nonempty ⊢
  exact exists_last_expandFrom within nonempty

/-- The size of a range that is not too long is not cut. -/
theorem toNat_size (few : range.patched.length ≤ 65536) :
    range.size.toNat = range.patched.length := by
  rw [size, BitVec.toNat_ofNat, Nat.mod_eq_of_lt (backend.lt_two_pow few)]

theorem canExtend_iff (few : range.patched.length ≤ 65536) :
    range.canExtend = true ↔
      range.address.toNat + range.patched.length < 2 ^ backend.sizeBits := by
  have bounded := range.address.isLt
  rw [canExtend, decide_eq_true_eq, BitVec.le_def, toNat_size few, BitVec.toNat_sub_of_le,
    BitVec.toNat_allOnes]
  · omega
  · rw [BitVec.le_def, BitVec.toNat_allOnes]
    omega

theorem toNat_behind (few : range.patched.length ≤ 65536) (extends_ : range.canExtend = true) :
    range.behind.toNat = range.address.toNat + range.patched.length := by
  rw [behind, BitVec.toNat_add, toNat_size few, Nat.mod_eq_of_lt ((canExtend_iff few).mp extends_)]

/-- The range with one more byte is the range and that byte. -/
theorem expand_extend (sound : range.Sound) (few : range.patched.length ≤ 65536)
    {record : TrackedPatchByte backend} (extends_ : range.canExtend = true)
    (adjacent : record.address = range.behind) (same : record.module = range.module) :
    (range.extend record).Sound ∧ (range.extend record).expand = range.expand ++ [record] := by
  have room := (canExtend_iff few).mp extends_
  refine ⟨⟨?_, ?_, ?_⟩, ?_⟩
  · simp [extend]
  · simp [extend, sound.paired]
  · simp only [extend, List.length_append, List.length_singleton]
    omega
  · simp only [expand, extend]
    rw [List.zip_append sound.paired, expandFrom_append, sound.length_zip]
    have address : range.address + BitVec.ofNat _ range.patched.length = record.address :=
      adjacent.symm
    rw [address, ← same]
    rfl

end TrackedPatchRange.Sound

theorem TrackedPatchRange.sound_single (record : TrackedPatchByte backend) :
    (single record).Sound where
  nonempty := Nat.one_pos
  paired := rfl
  within := record.address.isLt

/-! ## The loop -/

/-- The ranges stand for these records, in order and in as few ranges as can be. -/
structure Covers (ranges : List (TrackedPatchRange backend))
    (records : List (TrackedPatchByte backend)) : Prop where
  expanded : ranges.flatMap TrackedPatchRange.expand = records
  sound : ∀ range ∈ ranges, range.Sound
  apart : ranges.Pairwise fun left right =>
    left.address.toNat + left.patched.length ≤ right.address.toNat
  maximal : ranges.IsChain fun left right =>
    left.address.toNat + left.patched.length = right.address.toNat → left.module ≠ right.module
  changed : ∀ record ∈ records, record.module ≠ [] ∧ record.original ≠ record.patched

namespace Covers

variable {ranges : List (TrackedPatchRange backend)} {records : List (TrackedPatchByte backend)}

theorem nil : Covers ([] : List (TrackedPatchRange backend)) [] where
  expanded := rfl
  sound := fun _ member => absurd member List.not_mem_nil
  apart := .nil
  maximal := .nil
  changed := fun _ member => absurd member List.not_mem_nil

theorem mem_records (covers : Covers ranges records) {range : TrackedPatchRange backend}
    (inRanges : range ∈ ranges) {record : TrackedPatchByte backend}
    (member : record ∈ range.expand) : record ∈ records := by
  rw [← covers.expanded]
  exact List.mem_flatMap.mpr ⟨range, inRanges, member⟩

/-- What the ranges stand for is sorted. -/
theorem increasing (covers : Covers ranges records) :
    records.Pairwise fun left right => left.address < right.address := by
  rw [← covers.expanded, List.pairwise_flatMap]
  refine ⟨fun range member => (covers.sound range member).pairwise_expand, ?_⟩
  refine covers.apart.imp_of_mem ?_
  intro left right inLeft inRight apart first firstIn second secondIn
  have low := (covers.sound left inLeft).mem_expand firstIn
  have high := (covers.sound right inRight).mem_expand secondIn
  rw [BitVec.lt_def]
  omega

/-- A range is no longer than the list that it stands for. -/
theorem length_le (covers : Covers ranges records) {range : TrackedPatchRange backend}
    (member : range ∈ ranges) : range.patched.length ≤ records.length := by
  have sublist := (List.singleton_sublist.mpr member).flatMap TrackedPatchRange.expand
  rw [covers.expanded, List.flatMap_singleton] at sublist
  rw [← (covers.sound range member).length_expand]
  exact sublist.length_le

/-- The last range with one more byte. -/
theorem extend {front : List (TrackedPatchRange backend)} {back : TrackedPatchRange backend}
    (covers : Covers (front ++ [back]) records) (few : records.length ≤ 65536)
    {record : TrackedPatchByte backend}
    (good : record.module ≠ [] ∧ record.original ≠ record.patched)
    (extends_ : back.canExtend = true) (adjacent : record.address = back.behind)
    (same : record.module = back.module) :
    Covers (front ++ [back.extend record]) (records ++ [record]) := by
  have backIn : back ∈ front ++ [back] := by simp
  have sound := covers.sound back backIn
  have short := Nat.le_trans (covers.length_le backIn) few
  rcases sound.expand_extend short extends_ adjacent same with ⟨extendedSound, extended⟩
  have apart := List.pairwise_append.mp covers.apart
  have maximal := List.isChain_append.mp covers.maximal
  refine ⟨?_, ?_, ?_, ?_, ?_⟩
  · rw [← covers.expanded, List.flatMap_append, List.flatMap_append, List.flatMap_singleton,
      List.flatMap_singleton, extended, List.append_assoc]
  · intro range member
    rcases List.mem_append.mp member with member | member
    · exact covers.sound range (List.mem_append_left _ member)
    · rw [List.mem_singleton.mp member]
      exact extendedSound
  · refine List.pairwise_append.mpr ⟨apart.1, List.pairwise_singleton _ _, ?_⟩
    intro left inFront right member
    rw [List.mem_singleton.mp member]
    exact apart.2.2 left inFront back (by simp)
  · refine List.isChain_append.mpr ⟨maximal.1, List.isChain_singleton _, ?_⟩
    intro left isLast right member
    cases member
    exact maximal.2.2 left isLast back rfl
  · intro other member
    rcases List.mem_append.mp member with member | member
    · exact covers.changed other member
    · rw [List.mem_singleton.mp member]
      exact good

/-- One more range behind the last. -/
theorem start (covers : Covers ranges records) {record : TrackedPatchByte backend}
    (good : record.module ≠ [] ∧ record.original ≠ record.patched)
    (beyond : ∀ back ∈ ranges.getLast?,
      back.address.toNat + back.patched.length ≤ record.address.toNat ∧
        (back.address.toNat + back.patched.length = record.address.toNat →
          back.module ≠ record.module)) :
    Covers (ranges ++ [.single record]) (records ++ [record]) := by
  refine ⟨?_, ?_, ?_, ?_, ?_⟩
  · rw [← covers.expanded, List.flatMap_append, List.flatMap_singleton]
    rfl
  · intro range member
    rcases List.mem_append.mp member with member | member
    · exact covers.sound range member
    · rw [List.mem_singleton.mp member]
      exact TrackedPatchRange.sound_single record
  · refine List.pairwise_append.mpr ⟨covers.apart, List.pairwise_singleton _ _, ?_⟩
    intro left inRanges right member
    rw [List.mem_singleton.mp member]
    -- Every range ends before the last one does.
    rcases List.eq_nil_or_concat ranges with rfl | ⟨front, back, rfl⟩
    · cases inRanges
    · rw [List.concat_eq_append] at *
      have last := (beyond back (by simp)).1
      rcases List.mem_append.mp inRanges with inFront | isBack
      · have ends := (List.pairwise_append.mp covers.apart).2.2 left inFront back (by simp)
        exact Nat.le_trans ends (Nat.le_trans (Nat.le_add_right _ _) last)
      · rw [List.mem_singleton.mp isBack]
        exact last
  · refine List.isChain_append.mpr ⟨covers.maximal, List.isChain_singleton _, ?_⟩
    intro left isLast right member
    cases member
    exact (beyond left isLast).2
  · intro other member
    rcases List.mem_append.mp member with member | member
    · exact covers.changed other member
    · rw [List.mem_singleton.mp member]
      exact good

/-- A round that goes on covers one record more. -/
theorem addRecord (covers : Covers ranges records) (few : records.length ≤ 65536)
    {record : TrackedPatchByte backend} {next : List (TrackedPatchRange backend)}
    (added : addRecord ranges record = some next) : Covers next (records ++ [record]) := by
  rw [Plugin.addRecord] at added
  split_ifs at added with refused
  have good := not_or.mp refused
  rcases List.eq_nil_or_concat ranges with rfl | ⟨front, back, rfl⟩
  · cases added
    exact covers.start good (fun back absent => by cases absent)
  · rw [List.concat_eq_append] at *
    have short := Nat.le_trans (covers.length_le (List.mem_append_right front (List.mem_singleton_self back))) few
    simp only [List.getLast?_append, List.getLast?_singleton, Option.some_or] at added
    split_ifs at added with joins overlaps
    · cases added
      rw [List.dropLast_concat]
      exact covers.extend few good joins.1 joins.2.1 joins.2.2
    · cases added
      rcases not_or.mp overlaps with ⟨extends_, ends⟩
      rw [not_not] at extends_
      have behind := TrackedPatchRange.Sound.toNat_behind short extends_
      refine covers.start good ?_
      intro last isLast
      simp only [List.getLast?_append, List.getLast?_singleton, Option.some_or,
        Option.mem_some_iff] at isLast
      subst isLast
      rw [BitVec.lt_def, behind] at ends
      refine ⟨Nat.not_lt.mp ends, ?_⟩
      intro adjacent same
      exact joins ⟨extends_, BitVec.eq_of_toNat_eq (by rw [behind, adjacent]), same.symm⟩

/-- A good record behind all the others is taken. -/
theorem exists_addRecord (covers : Covers ranges records) (few : records.length ≤ 65536)
    {record : TrackedPatchByte backend}
    (good : record.module ≠ [] ∧ record.original ≠ record.patched)
    (last : ∀ other ∈ records, other.address < record.address) :
    ∃ next, Plugin.addRecord ranges record = some next := by
  rw [Plugin.addRecord, if_neg (not_or.mpr good)]
  rcases List.eq_nil_or_concat ranges with rfl | ⟨front, back, rfl⟩
  · exact ⟨_, rfl⟩
  · rw [List.concat_eq_append] at *
    have backIn : back ∈ front ++ [back] := by simp
    have short := Nat.le_trans (covers.length_le backIn) few
    -- The last byte of the range comes before the record.
    have beyond : back.address.toNat + back.patched.length ≤ record.address.toNat := by
      rcases (covers.sound back backIn).exists_last with ⟨byte, inBack, isLast⟩
      have before := last byte (covers.mem_records backIn inBack)
      rw [BitVec.lt_def] at before
      omega
    have extends_ : back.canExtend = true :=
      (TrackedPatchRange.Sound.canExtend_iff short).mpr
        (Nat.lt_of_le_of_lt beyond record.address.isLt)
    have behind := TrackedPatchRange.Sound.toNat_behind short extends_
    simp only [List.getLast?_append, List.getLast?_singleton, Option.some_or]
    split_ifs with joins overlaps
    · exact ⟨_, rfl⟩
    · rcases overlaps with full | early
      · exact absurd extends_ full
      · rw [BitVec.lt_def, behind] at early
        omega
    · exact ⟨_, rfl⟩

/-- The loop covers what it has gone through. -/
theorem foldlM (covers : Covers ranges records) {rest : List (TrackedPatchByte backend)}
    (few : (records ++ rest).length ≤ 65536) {result : List (TrackedPatchRange backend)}
    (folded : rest.foldlM Plugin.addRecord ranges = some result) :
    Covers result (records ++ rest) := by
  induction rest generalizing ranges records with
  | nil =>
      cases folded
      rwa [List.append_nil]
  | cons record rest ih =>
      rw [List.foldlM_cons, Option.bind_eq_bind, Option.bind_eq_some_iff] at folded
      rcases folded with ⟨next, added, folded⟩
      rw [List.append_cons] at few ⊢
      rw [List.length_append, List.length_append] at few
      have nextCovers := covers.addRecord (by omega) added
      exact ih nextCovers (by rw [List.length_append, List.length_append]; exact few) folded

/-- The loop comes to the end of a sorted list. -/
theorem exists_foldlM (covers : Covers ranges records) {rest : List (TrackedPatchByte backend)}
    (few : (records ++ rest).length ≤ 65536)
    (sorted : (records ++ rest).Pairwise fun left right => left.address < right.address)
    (good : ∀ record ∈ rest, record.module ≠ [] ∧ record.original ≠ record.patched) :
    ∃ result, rest.foldlM Plugin.addRecord ranges = some result := by
  induction rest generalizing ranges records with
  | nil => exact ⟨ranges, rfl⟩
  | cons record rest ih =>
      rw [List.append_cons] at few sorted
      have fewer := few
      rw [List.length_append, List.length_append] at fewer
      have before := (List.pairwise_append.mp (List.pairwise_append.mp sorted).1).2.2
      rcases covers.exists_addRecord (by omega) (good record List.mem_cons_self)
        (fun other member => before other member record (by simp)) with ⟨next, added⟩
      rcases ih (covers.addRecord (by omega) added) few sorted
        (fun other member => good other (List.mem_cons_of_mem _ member)) with ⟨result, folded⟩
      refine ⟨result, ?_⟩
      rw [List.foldlM_cons, added]
      exact folded

end Covers

/-! ## The ranges of a list of patches -/

namespace TrackedPatchByte

variable {left right : TrackedPatchByte backend}

theorem before_eq_false_iff :
    right.before left = false ↔
      left.address < right.address ∨
        left.address = right.address ∧ left.module ≤ right.module := by
  rw [before]
  by_cases same : right.address = left.address
  · rw [if_neg (not_not.mpr same), decide_eq_false_iff_not, List.not_lt, same]
    simp [BitVec.lt_irrefl]
  · rw [if_pos same, decide_eq_false_iff_not, BitVec.not_lt]
    constructor
    · intro ordered
      exact .inl (BitVec.lt_of_le_ne ordered (Ne.symm same))
    · rintro (less | ⟨equal, -⟩)
      · exact BitVec.le_of_lt less
      · exact absurd equal.symm same

theorem le_of_before_eq_false (after : right.before left = false) :
    left.address ≤ right.address := by
  rcases before_eq_false_iff.mp after with less | ⟨same, -⟩
  · exact BitVec.le_of_lt less
  · exact BitVec.le_of_eq same

theorem before_eq_false_trans {last : TrackedPatchByte backend}
    (first : right.before left = false) (second : last.before right = false) :
    last.before left = false := by
  rw [before_eq_false_iff] at *
  rcases first with less | ⟨same, ordered⟩
  · rcases second with more | ⟨other, -⟩
    · exact .inl (BitVec.lt_trans less more)
    · exact .inl (other ▸ less)
  · rcases second with more | ⟨other, further⟩
    · exact .inl (same ▸ more)
    · exact .inr ⟨same.trans other, List.le_trans ordered further⟩

theorem before_eq_false_total (left right : TrackedPatchByte backend) :
    right.before left = false ∨ left.before right = false := by
  rw [before_eq_false_iff, before_eq_false_iff]
  by_cases less : left.address < right.address
  · exact .inl (.inl less)
  have ordered := BitVec.not_lt.mp less
  by_cases same : left.address = right.address
  · rcases List.le_total left.module right.module with less | more
    · exact .inl (.inr ⟨same, less⟩)
    · exact .inr (.inr ⟨same.symm, more⟩)
  · exact .inr (.inl (BitVec.lt_of_le_ne ordered (Ne.symm same)))

end TrackedPatchByte

namespace RecordSort

/-- A sort that keeps the order of records that compare equal. -/
def merge : RecordSort backend where
  run records := records.mergeSort fun left right => !right.before left
  perm records := records.mergeSort_perm _
  ordered records := by
    have transitive (left right last : TrackedPatchByte backend)
        (first : (!right.before left) = true) (second : (!last.before right) = true) :
        (!last.before left) = true := by
      rw [Bool.not_eq_true'] at *
      exact TrackedPatchByte.before_eq_false_trans first second
    have total (left right : TrackedPatchByte backend) :
        (!right.before left || !left.before right) = true := by
      rw [Bool.or_eq_true, Bool.not_eq_true', Bool.not_eq_true']
      exact TrackedPatchByte.before_eq_false_total left right
    exact (List.pairwise_mergeSort transitive total records).imp fun after => by
      simpa using after

variable (sort : RecordSort backend) {records : List (TrackedPatchByte backend)}

/-- Where no address repeats, sorting leaves no choice. -/
theorem increasing (distinct : (records.map TrackedPatchByte.address).Nodup) :
    (sort.run records).Pairwise fun left right => left.address < right.address := by
  have sortedDistinct : ((sort.run records).map TrackedPatchByte.address).Nodup :=
    ((sort.perm records).map _).nodup_iff.mpr distinct
  refine (sort.ordered records).imp₂ ?_ (List.pairwise_map.mp sortedDistinct)
  intro left right after differ
  exact BitVec.lt_of_le_ne (TrackedPatchByte.le_of_before_eq_false after) differ

theorem run_eq_of_perm (sort' : RecordSort backend) {others : List (TrackedPatchByte backend)}
    (distinct : (records.map TrackedPatchByte.address).Nodup) (same : others.Perm records) :
    sort'.run others = sort.run records := by
  have otherDistinct := (same.map TrackedPatchByte.address).nodup_iff.mpr distinct
  refine List.Perm.eq_of_pairwise ?_ (sort'.increasing otherDistinct) (sort.increasing distinct)
    ((sort'.perm others).trans (same.trans (sort.perm records).symm))
  intro left right _ _ before after
  exact absurd (BitVec.lt_trans before after) (BitVec.lt_irrefl _)

end RecordSort

theorem normalizeTrackedPatches_eq_some {sort : RecordSort backend}
    {records : List (TrackedPatchByte backend)} {ranges : List (TrackedPatchRange backend)}
    (normalized : normalizeTrackedPatches sort records = some ranges) :
    records.length ≤ 65536 ∧ Covers ranges (sort.run records) := by
  rw [normalizeTrackedPatches] at normalized
  split_ifs at normalized with many
  have few := Nat.not_lt.mp many
  refine ⟨few, ?_⟩
  rw [← List.nil_append (sort.run records)]
  exact Covers.nil.foldlM (by rwa [List.nil_append, (sort.perm records).length_eq]) normalized

/-- A list of records has a result just when it is well formed. -/
theorem exists_normalizeTrackedPatches_iff {sort : RecordSort backend}
    {records : List (TrackedPatchByte backend)} :
    (∃ ranges, normalizeTrackedPatches sort records = some ranges) ↔
      records.length ≤ 65536 ∧
        (∀ record ∈ records, record.module ≠ [] ∧ record.original ≠ record.patched) ∧
        (records.map TrackedPatchByte.address).Nodup := by
  have perm := sort.perm records
  constructor
  · rintro ⟨ranges, normalized⟩
    rcases normalizeTrackedPatches_eq_some normalized with ⟨few, covers⟩
    refine ⟨few, fun record member => covers.changed record (perm.mem_iff.mpr member), ?_⟩
    rw [← (perm.map TrackedPatchByte.address).nodup_iff]
    refine List.pairwise_map.mpr (covers.increasing.imp ?_)
    intro left right less
    exact BitVec.ne_of_lt less
  · rintro ⟨few, good, distinct⟩
    rw [normalizeTrackedPatches, if_neg (Nat.not_lt.mpr few)]
    refine Covers.nil.exists_foldlM ?_ ?_ ?_
    · rwa [List.nil_append, perm.length_eq]
    · rw [List.nil_append]
      exact sort.increasing distinct
    · intro record member
      exact good record (perm.mem_iff.mp member)

/-- The order of the records does not matter. -/
theorem normalizeTrackedPatches_eq_of_perm (sort sort' : RecordSort backend)
    {records others : List (TrackedPatchByte backend)} (same : others.Perm records) :
    normalizeTrackedPatches sort' others = normalizeTrackedPatches sort records := by
  by_cases distinct : (records.map TrackedPatchByte.address).Nodup
  · rw [normalizeTrackedPatches, normalizeTrackedPatches, same.length_eq,
      sort.run_eq_of_perm sort' distinct same]
  · have repeated : ¬ (others.map TrackedPatchByte.address).Nodup := by
      rwa [(same.map TrackedPatchByte.address).nodup_iff]
    have missing : normalizeTrackedPatches sort records = none := by
      rw [Option.eq_none_iff_forall_ne_some]
      intro ranges normalized
      exact distinct (exists_normalizeTrackedPatches_iff.mp ⟨ranges, normalized⟩).2.2
    rw [missing, Option.eq_none_iff_forall_ne_some]
    intro ranges normalized
    exact repeated (exists_normalizeTrackedPatches_iff.mp ⟨ranges, normalized⟩).2.2

/-- The additions and subtractions of addresses that the loop makes do not wrap. -/
theorem addresses_exact {sort : RecordSort backend} {records : List (TrackedPatchByte backend)}
    (few : records.length ≤ 65536) {front : List (TrackedPatchByte backend)}
    (passed : front <+: sort.run records) {ranges : List (TrackedPatchRange backend)}
    (reached : front.foldlM addRecord [] = some ranges) {range : TrackedPatchRange backend}
    (member : range ∈ ranges) :
    range.size.toNat = range.patched.length ∧
      (BitVec.allOnes _ - range.address).toNat = 2 ^ backend.sizeBits - 1 - range.address.toNat ∧
      (range.canExtend = true →
        range.behind.toNat = range.address.toNat + range.patched.length) := by
  have fewer : front.length ≤ 65536 := by
    have shorter := passed.length_le
    rw [(sort.perm records).length_eq] at shorter
    exact Nat.le_trans shorter few
  have covers : Covers ranges front := by
    rw [← List.nil_append front]
    exact Covers.nil.foldlM fewer reached
  have short := Nat.le_trans (covers.length_le member) fewer
  refine ⟨TrackedPatchRange.Sound.toNat_size short, ?_, ?_⟩
  · have bounded := range.address.isLt
    rw [BitVec.toNat_sub_of_le, BitVec.toNat_allOnes]
    rw [BitVec.le_def, BitVec.toNat_allOnes]
    omega
  · exact TrackedPatchRange.Sound.toNat_behind short

/-- The listing normalizes: it has a result just for well-formed records, the result
stands for these records in the order of their addresses and in as few ranges as can
be, whatever order they came in, and no address is computed past the last one. -/
theorem tracked_patches_normalized (sort : RecordSort backend)
    (records : List (TrackedPatchByte backend)) :
    ((∃ ranges, normalizeTrackedPatches sort records = some ranges) ↔
      records.length ≤ 65536 ∧
        (∀ record ∈ records, record.module ≠ [] ∧ record.original ≠ record.patched) ∧
        (records.map TrackedPatchByte.address).Nodup) ∧
    (∀ ranges, normalizeTrackedPatches sort records = some ranges →
      (ranges.flatMap TrackedPatchRange.expand).Perm records ∧
      (ranges.flatMap TrackedPatchRange.expand).Pairwise (fun left right =>
        left.address < right.address) ∧
      (∀ range ∈ ranges, range.Sound) ∧
      ranges.Pairwise (fun left right =>
        left.address.toNat + left.patched.length ≤ right.address.toNat) ∧
      ranges.IsChain fun left right =>
        left.address.toNat + left.patched.length = right.address.toNat →
          left.module ≠ right.module) ∧
    (∀ (sort' : RecordSort backend) others, others.Perm records →
      normalizeTrackedPatches sort' others = normalizeTrackedPatches sort records) ∧
    (records.length ≤ 65536 → ∀ front, front <+: sort.run records →
      ∀ ranges, front.foldlM addRecord [] = some ranges → ∀ range ∈ ranges,
        range.size.toNat = range.patched.length ∧
        (BitVec.allOnes _ - range.address).toNat =
          2 ^ backend.sizeBits - 1 - range.address.toNat ∧
        (range.canExtend = true →
          range.behind.toNat = range.address.toNat + range.patched.length)) := by
  refine ⟨exists_normalizeTrackedPatches_iff, ?_, ?_, ?_⟩
  · intro ranges normalized
    have covers := (normalizeTrackedPatches_eq_some normalized).2
    rw [covers.expanded]
    exact ⟨sort.perm records, covers.increasing, covers.sound, covers.apart, covers.maximal⟩
  · intro sort' others same
    exact normalizeTrackedPatches_eq_of_perm sort sort' same
  · intro few front passed ranges reached range member
    exact addresses_exact few passed reached member

/-- The last two addresses make one range, and there is none behind it. -/
example :
    let below : TrackedPatchByte .x32 := ⟨[0x61], 0xfffffffe, 3, 4⟩
    let top : TrackedPatchByte .x32 := ⟨[0x61], 0xffffffff, 1, 2⟩
    [below, top].foldlM addRecord [] = some [⟨[0x61], 0xfffffffe, [3, 1], [4, 2]⟩] ∧
      [below, top, top].foldlM addRecord [] = none := by
  decide

end X64dbgMcp.Plugin
