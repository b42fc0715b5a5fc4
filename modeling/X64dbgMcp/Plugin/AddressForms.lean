import X64dbgMcp.Plugin.Backend
import X64dbgMcp.Plugin.Listings
import Mathlib.Order.CompletePartialOrder

/-!
# Two forms of an address

A tool takes an address as it is or as a module and an offset in it, and reports both.
The reference is resolved in a scan of the native list that counts what matches; a
location is found in a scan of the captured records that stops at a second match.
Addresses are machine words here, so that nothing is said about sums that wrap.
-/

namespace X64dbgMcp.Plugin.Addresses

open X64dbgMcp.Text

variable {backend : Backend}

/-- `Script::Module::ModuleInfo`, with the buffer of its name.  An `int` can count the
characters of the buffer. -/
structure ModuleInfo (backend : Backend) where
  base : Duint backend
  size : Duint backend
  name : List UInt8
  sized : name.length ≤ 2 ^ 31 - 1
  deriving DecidableEq

/-- A module as the runtime keeps it. -/
structure ModuleRecord (backend : Backend) where
  base : Duint backend
  size : Duint backend
  name : List UInt8
  deriving DecidableEq

/-- An address with the module it lies in. -/
structure ResolvedLocation (backend : Backend) where
  address : Duint backend
  module : Option (List UInt8) := none
  moduleBase : Option (Duint backend) := none
  rva : Option (Duint backend) := none
  deriving DecidableEq

/-- An address as a request gives it. -/
structure AddressReference (backend : Backend) where
  kind : AddressReferenceKind := .absolute
  absolute : Duint backend := 0
  module : List UInt8 := []
  rva : Duint backend := 0
  pointerWidthValid : Bool := true

/-- The native record as it is captured. -/
def ModuleInfo.record (module : ModuleInfo backend) : ModuleRecord backend where
  base := module.base
  size := module.size
  name := boundedText module.name

/-- The test that both scans make, of an address against a range. -/
def holds (base size address : Duint backend) : Bool :=
  base ≤ address && address - base < size

section Text

variable (multiByteToWideChar : List UInt8 → Option (List UInt16))
  (compareStringOrdinal : List UInt16 → List UInt16 → Bool)

/-- A text in UTF-16, unless it is empty, too long or not UTF-8. -/
def toWide (value : List UInt8) : Option (List UInt16) :=
  if value = [] ∨ 2 ^ 31 - 1 < value.length then none
  else
    match multiByteToWideChar value with
    | none | some [] => none
    | some wide => some wide

/-- Two texts are the same up to case. -/
def utf8OrdinalEqualsIgnoreCase (left right : List UInt8) : Bool :=
  match toWide multiByteToWideChar left, toWide multiByteToWideChar right with
  | some wideLeft, some wideRight => compareStringOrdinal wideLeft wideRight
  | _, _ => false

end Text

/-! ## Captured records -/

/-- The records of the listed modules, unless there are too many. -/
def captureModuleRecords (list : NativeList (ModuleInfo backend)) :
    Option (List (ModuleRecord backend)) :=
  match list with
  | .listed modules =>
      if kMaxNativeRecords < modules.length then none else some (modules.map ModuleInfo.record)
  | _ => none

/-- An address of this module. -/
def ModuleRecord.locate (module : ModuleRecord backend) (address : Duint backend) :
    ResolvedLocation backend where
  address := address
  module := some module.name
  moduleBase := some module.base
  rva := some (address - module.base)

/-- The loop of `LocationFromModules`, with the match so far. -/
def locationFrom (address : Duint backend) :
    Option (ModuleRecord backend) → List (ModuleRecord backend) → ResolvedLocation backend
  | none, [] => { address }
  | some match_, [] => match_.locate address
  | match_, module :: rest =>
      if holds module.base module.size address then
        if match_.isSome then { address } else locationFrom address (some module) rest
      else locationFrom address match_ rest

/-- The location of an address among these modules. -/
def locationFromModules (address : Duint backend) (modules : List (ModuleRecord backend)) :
    ResolvedLocation backend :=
  locationFrom address none modules

/-! ## References -/

/-- The locals of the scan in `ResolveAddress`. -/
structure Scan (backend : Backend) where
  match_ : Option (ModuleInfo backend) := none
  matches_ : Nat := 0

/-- One round of the loop over the modules. -/
def Scan.round (test : ModuleInfo backend → Bool) (scan : Scan backend)
    (module : ModuleInfo backend) : Scan backend :=
  if test module then { match_ := some module, matches_ := scan.matches_ + 1 } else scan

section Resolve

variable (equalsIgnoreCase : List UInt8 → List UInt8 → Bool)

/-- The module is one that the reference may mean. -/
def AddressReference.test (reference : AddressReference backend) (module : ModuleInfo backend) :
    Bool :=
  match reference.kind with
  | .moduleRva => equalsIgnoreCase (boundedText module.name) reference.module
  | .absolute => holds module.base module.size reference.absolute

/-- The end of `ResolveAddress`, behind the scan. -/
def resolveScan (reference : AddressReference backend) (scan : Scan backend) :
    Except ErrorResponse (ResolvedLocation backend) :=
  match reference.kind with
  | .moduleRva =>
      if scan.matches_ = 0 then .error (failure "INVALID_ARGUMENT" "module is not loaded" false)
      else if scan.matches_ ≠ 1 then
        .error (failure "INVALID_ARGUMENT" "module name is ambiguous" false)
      else
        match scan.match_ with
        | none => .error (failure "INVALID_ARGUMENT" "rva is outside the module" false)
        | some module =>
            if module.size ≤ reference.rva then
              .error (failure "INVALID_ARGUMENT" "rva is outside the module" false)
            else if BitVec.allOnes _ - reference.rva < module.base then
              .error (failure "INVALID_ARGUMENT" "module-relative address overflows" false)
            else .ok (module.record.locate (module.base + reference.rva))
  | .absolute =>
      if scan.matches_ ≠ 1 then .ok { address := reference.absolute }
      else
        match scan.match_ with
        | none => .ok { address := reference.absolute }
        | some module => .ok (module.record.locate reference.absolute)

/-- A module list that x64dbg does not give, or gives malformed. -/
def withoutModules (reference : AddressReference backend) (message : String) (retryable : Bool) :
    Except ErrorResponse (ResolvedLocation backend) :=
  match reference.kind with
  | .absolute => .ok { address := reference.absolute }
  | .moduleRva => .error (failure "INTERNAL" message retryable)

/-- The location that a reference means. -/
def resolveAddress (list : NativeList (ModuleInfo backend)) (reference : AddressReference backend) :
    Except ErrorResponse (ResolvedLocation backend) :=
  if !reference.pointerWidthValid then
    .error (failure "INVALID_ARGUMENT" "address exceeds debugger pointer width" false)
  else
    match list with
    | .unavailable => withoutModules reference "module list is unavailable" true
    | .malformed => withoutModules reference "module list is invalid" false
    | .listed modules =>
        if kMaxNativeRecords < modules.length then
          withoutModules reference "module list is invalid" false
        else
          resolveScan reference
            (modules.foldl (Scan.round (reference.test equalsIgnoreCase)) { })

end Resolve

/-! ## The scans -/

theorem holds_iff {base size address : Duint backend} :
    holds base size address = true ↔
      base.toNat ≤ address.toNat ∧ address.toNat < base.toNat + size.toNat := by
  rw [holds, Bool.and_eq_true, decide_eq_true_eq, decide_eq_true_eq, BitVec.le_def]
  constructor
  · rintro ⟨low, high⟩
    rw [BitVec.lt_def, BitVec.toNat_sub_of_le (BitVec.le_def.mpr low)] at high
    omega
  · rintro ⟨low, high⟩
    rw [BitVec.lt_def, BitVec.toNat_sub_of_le (BitVec.le_def.mpr low)]
    omega

/-- The counting scan keeps the last match and the number of them. -/
theorem foldl_round (test : ModuleInfo backend → Bool) (modules : List (ModuleInfo backend))
    (scan : Scan backend) :
    modules.foldl (Scan.round test) scan =
      { match_ := (modules.filter test).getLast?.or scan.match_
        matches_ := scan.matches_ + (modules.filter test).length } := by
  induction modules generalizing scan with
  | nil => rfl
  | cons module modules ih =>
      rw [List.foldl_cons, ih]
      by_cases found : test module = true
      · rw [List.filter_cons_of_pos found, Scan.round, if_pos found, List.getLast?_cons,
          List.length_cons]
        cases (modules.filter test).getLast? with
        | none => simp [Nat.add_assoc, Nat.add_comm]
        | some last => simp [Nat.add_assoc, Nat.add_comm]
      · rw [List.filter_cons_of_neg found, Scan.round, if_neg found]

/-- The stopping scan finds a module when it is the only one. -/
theorem locationFrom_eq (address : Duint backend) (match_ : Option (ModuleRecord backend))
    (modules : List (ModuleRecord backend)) :
    locationFrom address match_ modules =
      match match_.toList ++ modules.filter fun module =>
        holds module.base module.size address with
      | [module] => module.locate address
      | _ => { address } := by
  induction modules generalizing match_ with
  | nil => cases match_ <;> rfl
  | cons module modules ih =>
      rw [locationFrom]
      simp only [List.filter_cons]
      by_cases found : holds module.base module.size address = true
      · rw [if_pos found, if_pos found]
        cases match_ with
        | none =>
            rw [if_neg (by simp), ih]
            rfl
        | some first => rfl
      · rw [if_neg found, if_neg found, ih]

theorem filter_map_record (address : Duint backend) (modules : List (ModuleInfo backend)) :
    (modules.map ModuleInfo.record).filter (fun module =>
        holds module.base module.size address) =
      (modules.filter fun module => holds module.base module.size address).map
        ModuleInfo.record := by
  rw [List.filter_map]
  rfl

theorem locationFromModules_map_record (address : Duint backend)
    (modules : List (ModuleInfo backend)) :
    locationFromModules address (modules.map ModuleInfo.record) =
      match modules.filter fun module => holds module.base module.size address with
      | [module] => module.record.locate address
      | _ => { address := address } := by
  rw [locationFromModules, locationFrom_eq, filter_map_record]
  rcases modules.filter _ with _ | ⟨module, _ | ⟨second, rest⟩⟩ <;> rfl

section Resolve

variable {equalsIgnoreCase : List UInt8 → List UInt8 → Bool}

/-- A plain address as a reference. -/
def absoluteAddress (address : Duint backend) : AddressReference backend where
  absolute := address

/-- An offset in a module as a reference. -/
def moduleRva (module : List UInt8) (rva : Duint backend) : AddressReference backend where
  kind := .moduleRva
  module := module
  rva := rva

theorem resolveAddress_listed {modules : List (ModuleInfo backend)}
    (few : ¬ kMaxNativeRecords < modules.length) {reference : AddressReference backend}
    (wide : reference.pointerWidthValid = true) :
    resolveAddress equalsIgnoreCase (.listed modules) reference =
      resolveScan reference
        { match_ := (modules.filter (reference.test equalsIgnoreCase)).getLast?
          matches_ := (modules.filter (reference.test equalsIgnoreCase)).length } := by
  rw [resolveAddress, wide]
  simp only [Bool.not_true, Bool.false_eq_true, if_false, if_neg few]
  rw [foldl_round, Option.or_none, Nat.zero_add]

/-- An absolute address in a list that is neither missing nor malformed. -/
theorem resolveAddress_absolute {modules : List (ModuleInfo backend)}
    (few : ¬ kMaxNativeRecords < modules.length) (address : Duint backend) :
    resolveAddress equalsIgnoreCase (.listed modules) (absoluteAddress address) =
      .ok (match modules.filter fun module => holds module.base module.size address with
        | [module] => module.record.locate address
        | _ => { address := address }) := by
  have test : (absoluteAddress address).test equalsIgnoreCase =
      fun module => holds module.base module.size address := rfl
  rw [resolveAddress_listed few rfl, test]
  rcases modules.filter _ with _ | ⟨module, _ | ⟨second, rest⟩⟩
  · rfl
  · rfl
  · simp only [resolveScan, absoluteAddress, List.length_cons]
    rw [if_pos (by omega)]

/-- The guard against a sum that wraps. -/
theorem not_allOnes_sub_lt_iff {base rva : Duint backend} :
    ¬ BitVec.allOnes _ - rva < base ↔ base.toNat + rva.toNat < 2 ^ backend.sizeBits := by
  have rvaBounded := rva.isLt
  have baseBounded := base.isLt
  have least : rva ≤ BitVec.allOnes _ := by
    rw [BitVec.le_def, BitVec.toNat_allOnes]
    omega
  rw [BitVec.not_lt, BitVec.le_def, BitVec.toNat_sub_of_le least, BitVec.toNat_allOnes]
  omega

/-- What resolving a module and an offset comes to. -/
theorem resolveAddress_moduleRva_eq_ok_iff {list : NativeList (ModuleInfo backend)}
    {name : List UInt8} {rva : Duint backend} {location : ResolvedLocation backend} :
    resolveAddress equalsIgnoreCase list (moduleRva name rva) = .ok location ↔
      ∃ modules module, list = .listed modules ∧ ¬ kMaxNativeRecords < modules.length ∧
        (modules.filter fun module => equalsIgnoreCase (boundedText module.name) name) = [module] ∧
        rva < module.size ∧ module.base.toNat + rva.toNat < 2 ^ backend.sizeBits ∧
        location = module.record.locate (module.base + rva) := by
  have test : (moduleRva name rva).test equalsIgnoreCase =
      fun module => equalsIgnoreCase (boundedText module.name) name := rfl
  cases list with
  | unavailable => simp [resolveAddress, moduleRva, withoutModules]
  | malformed => simp [resolveAddress, moduleRva, withoutModules]
  | listed modules =>
      by_cases many : kMaxNativeRecords < modules.length
      · simp [resolveAddress, moduleRva, withoutModules, many]
      rw [resolveAddress_listed many rfl, test]
      simp only [NativeList.listed.injEq, exists_and_left, exists_eq_left', many,
        not_false_eq_true, true_and]
      rcases modules.filter _ with _ | ⟨module, _ | ⟨second, rest⟩⟩
      · simp [resolveScan, moduleRva]
      · have scanned : resolveScan (moduleRva name rva) { match_ := some module, matches_ := 1 } =
            if module.size ≤ rva then
              .error (failure "INVALID_ARGUMENT" "rva is outside the module" false)
            else if BitVec.allOnes _ - rva < module.base then
              .error (failure "INVALID_ARGUMENT" "module-relative address overflows" false)
            else .ok (module.record.locate (module.base + rva)) := rfl
        rw [List.getLast?_singleton, List.length_singleton, scanned]
        simp only [List.cons.injEq, and_true, exists_eq_left', ← not_allOnes_sub_lt_iff]
        by_cases outside : module.size ≤ rva
        · simp [outside, BitVec.not_lt.mpr outside]
        rw [if_neg outside]
        by_cases overflows : BitVec.allOnes _ - rva < module.base
        · simp [overflows]
        rw [if_neg overflows, Except.ok.injEq]
        constructor
        · rintro rfl
          exact ⟨BitVec.not_le.mp outside, overflows, rfl⟩
        · rintro ⟨-, -, rfl⟩
          rfl
      · simp [resolveScan, moduleRva]

end Resolve

/-! ## Agreement -/

/-- A name that can be compared. -/
structure Comparable (name : List UInt8) : Prop where
  nonempty : name ≠ []
  valid : isValidUtf8 name = true
  short : name.length ≤ 2 ^ 31 - 1

/-- Comparing names is an equivalence of names that can be compared. -/
structure ComparesNames (equalsIgnoreCase : List UInt8 → List UInt8 → Bool) : Prop where
  refl : ∀ name, Comparable name → equalsIgnoreCase name name = true
  symm : ∀ left right, Comparable left → Comparable right →
    equalsIgnoreCase left right = true → equalsIgnoreCase right left = true
  trans : ∀ left middle right, Comparable left → Comparable middle → Comparable right →
    equalsIgnoreCase left middle = true → equalsIgnoreCase middle right = true →
    equalsIgnoreCase left right = true

/-- The addresses of a module. -/
def ModuleInfo.range (module : ModuleInfo backend) : Set Nat :=
  Set.Ico module.base.toNat (module.base.toNat + module.size.toNat)

/-- Modules as they lie in an address space, with names of their own. -/
structure LaidOut (equalsIgnoreCase : List UInt8 → List UInt8 → Bool)
    (modules : List (ModuleInfo backend)) : Prop where
  within : ∀ module ∈ modules,
    module.base.toNat + module.size.toNat ≤ 2 ^ backend.sizeBits
  disjoint : modules.Pairwise fun left right => Disjoint left.range right.range
  named : ∀ module ∈ modules,
    boundedText module.name ≠ [] ∧ isValidUtf8 (boundedText module.name) = true
  distinct : modules.Pairwise fun left right =>
    equalsIgnoreCase (boundedText left.name) (boundedText right.name) = false

/-- A test that no two members pass together leaves one. -/
theorem filter_eq_singleton {α : Type} {test : α → Bool} {values : List α}
    (apart : values.Pairwise fun left right => ¬ (test left = true ∧ test right = true))
    {value : α} (member : value ∈ values) (passes : test value = true) :
    values.filter test = [value] := by
  induction apart with
  | nil => cases member
  | @cons first rest alone _ ih =>
      by_cases found : test first = true
      · have others : rest.filter test = [] :=
          List.filter_eq_nil_iff.mpr fun other inRest passed =>
            alone other inRest ⟨found, passed⟩
        rw [List.filter_cons_of_pos found, others]
        rcases List.mem_cons.mp member with rfl | inRest
        · rfl
        · exact absurd ⟨found, passes⟩ (alone value inRest)
      · rw [List.filter_cons_of_neg found]
        rcases List.mem_cons.mp member with rfl | inRest
        · exact absurd passes found
        · exact ih inRest

theorem mem_range_iff {module : ModuleInfo backend} {address : Duint backend} :
    address.toNat ∈ module.range ↔ holds module.base module.size address = true := by
  rw [holds_iff]
  rfl

namespace LaidOut

variable {equalsIgnoreCase : List UInt8 → List UInt8 → Bool} {modules : List (ModuleInfo backend)}
  {module : ModuleInfo backend}

theorem comparable (laidOut : LaidOut equalsIgnoreCase modules) (member : module ∈ modules) :
    Comparable (boundedText module.name) where
  nonempty := (laidOut.named module member).1
  valid := (laidOut.named module member).2
  short := Nat.le_trans (List.takeWhile_prefix _).length_le module.sized

/-- An address lies in one module. -/
theorem filter_holds (laidOut : LaidOut equalsIgnoreCase modules) (member : module ∈ modules)
    {address : Duint backend} (inside : holds module.base module.size address = true) :
    (modules.filter fun module => holds module.base module.size address) = [module] := by
  refine filter_eq_singleton (laidOut.disjoint.imp ?_) member inside
  rintro left right disjoint ⟨inLeft, inRight⟩
  exact Set.disjoint_left.mp disjoint (mem_range_iff.mpr inLeft) (mem_range_iff.mpr inRight)

/-- A name is that of one module. -/
theorem filter_equals (laidOut : LaidOut equalsIgnoreCase modules)
    (compares : ComparesNames equalsIgnoreCase) (member : module ∈ modules) :
    (modules.filter fun other =>
      equalsIgnoreCase (boundedText other.name) (boundedText module.name)) = [module] := by
  have comparable := laidOut.comparable member
  refine filter_eq_singleton (laidOut.distinct.imp_of_mem ?_) member
    (compares.refl _ comparable)
  rintro left right inLeft inRight differ ⟨leftEqual, rightEqual⟩
  have leftComparable := laidOut.comparable inLeft
  have rightComparable := laidOut.comparable inRight
  have back := compares.symm _ _ rightComparable comparable rightEqual
  have equal := compares.trans _ _ _ leftComparable comparable rightComparable leftEqual back
  rw [differ] at equal
  cases equal

end LaidOut

/-- A location whose offset was not cut. -/
def ResolvedLocation.Exact (location : ResolvedLocation backend) : Prop :=
  ∀ base rva, location.moduleBase = some base → location.rva = some rva →
    location.address.toNat = base.toNat + rva.toNat

theorem exact_locate {record : ModuleRecord backend} {address : Duint backend}
    (above : record.base.toNat ≤ address.toNat) : (record.locate address).Exact := by
  intro base rva isBase isRva
  cases isBase
  cases isRva
  change address.toNat = record.base.toNat + (address - record.base).toNat
  rw [BitVec.toNat_sub_of_le (BitVec.le_def.mpr above)]
  omega

/-- The module at an address is the one that the scan of the native list finds. -/
theorem locate_of_filter {modules : List (ModuleInfo backend)} {address : Duint backend}
    {location : ResolvedLocation backend}
    (found : location =
      match modules.filter fun module => holds module.base module.size address with
      | [module] => module.record.locate address
      | _ => { address := address }) :
    location = { address := address } ∨
      ∃ module ∈ modules, holds module.base module.size address = true ∧
        location = module.record.locate address := by
  rcases filtered : modules.filter _ with _ | ⟨module, _ | ⟨second, rest⟩⟩
  · rw [filtered] at found
    exact .inl found
  · have member : module ∈ modules.filter fun module =>
        holds module.base module.size address := by
      rw [filtered]
      exact List.mem_singleton_self module
    rw [filtered] at found
    rw [List.mem_filter] at member
    exact .inr ⟨module, member.1, member.2, found⟩
  · rw [filtered] at found
    exact .inl found

section Agreement

variable {equalsIgnoreCase : List UInt8 → List UInt8 → Bool}
  {list : NativeList (ModuleInfo backend)}

theorem captureModuleRecords_eq_some {records : List (ModuleRecord backend)}
    (captured : captureModuleRecords list = some records) :
    ∃ modules, list = .listed modules ∧ ¬ kMaxNativeRecords < modules.length ∧
      records = modules.map ModuleInfo.record := by
  cases list with
  | unavailable => cases captured
  | malformed => cases captured
  | listed modules =>
      rw [captureModuleRecords] at captured
      split_ifs at captured with many
      cases captured
      exact ⟨modules, rfl, many, rfl⟩

/-- The two scans agree. -/
theorem resolveAddress_of_captured {records : List (ModuleRecord backend)}
    (captured : captureModuleRecords list = some records) (address : Duint backend) :
    resolveAddress equalsIgnoreCase list (absoluteAddress address) =
      .ok (locationFromModules address records) := by
  rcases captureModuleRecords_eq_some captured with ⟨modules, rfl, few, rfl⟩
  rw [resolveAddress_absolute few, locationFromModules_map_record]

/-- An absolute address resolves to itself, in a module or in none. -/
theorem resolveAddress_absolute_eq_ok {address : Duint backend}
    {location : ResolvedLocation backend}
    (resolved : resolveAddress equalsIgnoreCase list (absoluteAddress address) = .ok location) :
    location = { address := address } ∨
      ∃ modules, list = .listed modules ∧ ¬ kMaxNativeRecords < modules.length ∧
        ∃ module ∈ modules, holds module.base module.size address = true ∧
          location = module.record.locate address := by
  cases list with
  | unavailable =>
      cases resolved
      exact .inl rfl
  | malformed =>
      cases resolved
      exact .inl rfl
  | listed modules =>
      by_cases many : kMaxNativeRecords < modules.length
      · have plain : resolveAddress equalsIgnoreCase (.listed modules) (absoluteAddress address) =
            .ok { address := address } := by
          simp [resolveAddress, absoluteAddress, withoutModules, many]
        rw [plain] at resolved
        cases resolved
        exact .inl rfl
      · rw [resolveAddress_absolute many, Except.ok.injEq] at resolved
        rcases locate_of_filter resolved.symm with plain | located
        · exact .inl plain
        · exact .inr ⟨modules, rfl, many, located⟩

/-- Nothing that a location reports was cut. -/
theorem resolveAddress_exact {reference : AddressReference backend}
    {location : ResolvedLocation backend}
    (resolved : resolveAddress equalsIgnoreCase list reference = .ok location) :
    location.Exact := by
  rcases reference with ⟨kind, absolute, name, rva, wide⟩
  cases wide with
  | false => cases resolved
  | true =>
      cases kind with
      | absolute =>
          have plainly : resolveAddress equalsIgnoreCase list (absoluteAddress absolute) =
              .ok location := resolved
          rcases resolveAddress_absolute_eq_ok plainly with rfl | ⟨modules, -, -, module, -, inside,
            rfl⟩
          · intro base rva isBase
            cases isBase
          · exact exact_locate (holds_iff.mp inside).1
      | moduleRva =>
          have plainly : resolveAddress equalsIgnoreCase list (moduleRva name rva) =
              .ok location := resolved
          rcases resolveAddress_moduleRva_eq_ok_iff.mp plainly with
            ⟨modules, module, -, -, -, -, fits, rfl⟩
          refine exact_locate ?_
          change module.base.toNat ≤ (module.base + rva).toNat
          rw [BitVec.toNat_add, Nat.mod_eq_of_lt fits]
          exact Nat.le_add_right _ _

variable {modules : List (ModuleInfo backend)}

/-- The name and the offset that a location reports lead to it. -/
theorem resolveAddress_of_reported (laidOut : LaidOut equalsIgnoreCase modules)
    (compares : ComparesNames equalsIgnoreCase) {address : Duint backend}
    {location : ResolvedLocation backend}
    (resolved : resolveAddress equalsIgnoreCase (.listed modules) (absoluteAddress address) =
      .ok location)
    {name : List UInt8} {rva : Duint backend} (named : location.module = some name)
    (offset : location.rva = some rva) :
    resolveAddress equalsIgnoreCase (.listed modules) (moduleRva name rva) = .ok location := by
  rcases resolveAddress_absolute_eq_ok resolved with rfl | ⟨_, same, few, module, member, inside,
    rfl⟩
  · cases named
  · cases same
    cases named
    cases offset
    rcases holds_iff.mp inside with ⟨low, high⟩
    have offsetIs : (address - module.record.base).toNat =
        address.toNat - module.base.toNat := BitVec.toNat_sub_of_le (BitVec.le_def.mpr low)
    refine resolveAddress_moduleRva_eq_ok_iff.mpr
      ⟨modules, module, rfl, few, laidOut.filter_equals compares member, ?_, ?_, ?_⟩
    · rw [BitVec.lt_def, offsetIs]
      omega
    · have bounded := address.isLt
      rw [offsetIs]
      omega
    · have back : module.base + (address - module.record.base) = address := by
        rw [BitVec.add_comm]
        exact BitVec.sub_add_cancel address module.base
      rw [back]

/-- A location that a name and an offset lead to is found again at its address. -/
theorem resolveAddress_again (laidOut : LaidOut equalsIgnoreCase modules) {name : List UInt8}
    {rva : Duint backend} {location : ResolvedLocation backend}
    (resolved : resolveAddress equalsIgnoreCase (.listed modules) (moduleRva name rva) =
      .ok location) :
    location.rva = some rva ∧
      resolveAddress equalsIgnoreCase (.listed modules) (absoluteAddress location.address) =
        .ok location := by
  rcases resolveAddress_moduleRva_eq_ok_iff.mp resolved with
    ⟨_, module, same, few, only, inside, fits, rfl⟩
  cases same
  have member : module ∈ modules := by
    have inFilter : module ∈ modules.filter fun module =>
        equalsIgnoreCase (boundedText module.name) name := by
      rw [only]
      exact List.mem_singleton_self module
    exact (List.mem_filter.mp inFilter).1
  have sum : (module.base + rva).toNat = module.base.toNat + rva.toNat := by
    rw [BitVec.toNat_add, Nat.mod_eq_of_lt fits]
  have held : holds module.base module.size (module.base + rva) = true := by
    rw [holds_iff, sum]
    rw [BitVec.lt_def] at inside
    omega
  refine ⟨?_, ?_⟩
  · change some (module.base + rva - module.base) = some rva
    rw [BitVec.add_comm, BitVec.add_sub_cancel]
  · change resolveAddress equalsIgnoreCase (.listed modules)
      (absoluteAddress (module.base + rva)) = _
    rw [resolveAddress_absolute few, laidOut.filter_holds member held]

end Agreement

/-! ## Addresses as numbers -/

/-- The record over natural numbers. -/
def ModuleInfo.plain (module : ModuleInfo backend) : Plugin.ModuleRecord where
  base := module.base.toNat
  size := module.size.toNat
  name := boundedText module.name

/-- The location over natural numbers. -/
def ResolvedLocation.plain (location : ResolvedLocation backend) : Plugin.ResolvedLocation where
  address := location.address.toNat
  module := location.module
  moduleBase := location.moduleBase.map BitVec.toNat
  rva := location.rva.map BitVec.toNat

/-- The reference over natural numbers. -/
def AddressReference.plain (reference : AddressReference backend) (module : String) :
    Plugin.AddressReference where
  kind := reference.kind
  absolute := reference.absolute.toNat
  module := module
  rva := reference.rva.toNat
  pointerWidthValid := reference.pointerWidthValid

/-- The list of modules over natural numbers. -/
def plainModules : NativeList (ModuleInfo backend) → NativeList Plugin.ModuleRecord
  | .unavailable => .unavailable
  | .malformed => .malformed
  | .listed modules => .listed (modules.map ModuleInfo.plain)

section Plain

variable {build : Build} {debuggee : Debuggee} {list : NativeList (ModuleInfo backend)}

theorem contains_plain (module : ModuleInfo backend) (address : Duint backend) :
    module.plain.contains address.toNat = holds module.base module.size address := by
  rw [Bool.eq_iff_iff, holds_iff, Plugin.ModuleRecord.contains, Bool.and_eq_true,
    decide_eq_true_eq, decide_eq_true_eq]
  change module.base.toNat ≤ address.toNat ∧
    address.toNat - module.base.toNat < module.size.toNat ↔ _
  omega

theorem locate_plain {module : ModuleInfo backend} {address : Duint backend}
    (above : module.base.toNat ≤ address.toNat) :
    (module.record.locate address).plain = module.plain.locate address.toNat := by
  have offset : (address - module.base).toNat = address.toNat - module.base.toNat :=
    BitVec.toNat_sub_of_le (BitVec.le_def.mpr above)
  change Plugin.ResolvedLocation.mk address.toNat (some (boundedText module.name))
    (some module.base.toNat) (some (address - module.base).toNat) = _
  rw [offset]
  rfl

/-- The scan for a location, over numbers. -/
theorem locationFromModules_plain (modules : List (ModuleInfo backend)) (address : Duint backend) :
    Plugin.locationFromModules address.toNat (modules.map ModuleInfo.plain) =
      (locationFromModules address (modules.map ModuleInfo.record)).plain := by
  have filtered : (modules.map ModuleInfo.plain).filter (fun module =>
      module.contains address.toNat) =
      (modules.filter fun module => holds module.base module.size address).map
        ModuleInfo.plain := by
    rw [List.filter_map]
    congr 2
    funext module
    exact contains_plain module address
  rw [Plugin.locationFromModules, filtered, locationFromModules_map_record]
  rcases found : modules.filter _ with _ | ⟨module, _ | ⟨second, rest⟩⟩
  · rfl
  · have member : module ∈ modules.filter fun module =>
        holds module.base module.size address := by
      rw [found]
      exact List.mem_singleton_self module
    have inside := holds_iff.mp (List.mem_filter.mp member).2
    exact (locate_plain inside.1).symm
  · rfl

theorem scanned_plain {module : ModuleInfo backend} {rva : Duint backend}
    (width : build.limit = 2 ^ backend.sizeBits) :
    ((if module.plain.size ≤ rva.toNat then
        .error (failure "INVALID_ARGUMENT" "rva is outside the module" false)
      else if build.limit - 1 - rva.toNat < module.plain.base then
        .error (failure "INVALID_ARGUMENT" "module-relative address overflows" false)
      else .ok (module.plain.locate (module.plain.base + rva.toNat)) :
        Except ErrorResponse Plugin.ResolvedLocation)) =
      (if module.size ≤ rva then
        .error (failure "INVALID_ARGUMENT" "rva is outside the module" false)
      else if BitVec.allOnes _ - rva < module.base then
        .error (failure "INVALID_ARGUMENT" "module-relative address overflows" false)
      else .ok (module.record.locate (module.base + rva)) :
        Except ErrorResponse (ResolvedLocation backend)).map ResolvedLocation.plain := by
  have size : module.plain.size ≤ rva.toNat ↔ module.size ≤ rva := BitVec.le_def.symm
  have room : build.limit - 1 - rva.toNat < module.plain.base ↔
      BitVec.allOnes _ - rva < module.base := by
    have bounded := rva.isLt
    rw [← not_iff_not, not_allOnes_sub_lt_iff, width]
    change ¬ 2 ^ backend.sizeBits - 1 - rva.toNat < module.base.toNat ↔ _
    have baseBounded := module.base.isLt
    omega
  rw [if_congr size rfl rfl, if_congr room rfl rfl]
  by_cases outside : module.size ≤ rva
  · rw [if_pos outside, if_pos outside]
    rfl
  by_cases overflows : BitVec.allOnes _ - rva < module.base
  · rw [if_neg outside, if_neg outside, if_pos overflows, if_pos overflows]
    rfl
  rw [if_neg outside, if_neg outside, if_neg overflows, if_neg overflows]
  have sum : (module.base + rva).toNat = module.base.toNat + rva.toNat := by
    rw [BitVec.toNat_add, Nat.mod_eq_of_lt (not_allOnes_sub_lt_iff.mp overflows)]
  change _ = Except.ok (module.record.locate (module.base + rva)).plain
  rw [locate_plain (by rw [sum]; exact Nat.le_add_right _ _), sum]
  rfl

theorem resolveAddress_listed_plain {modules : List (ModuleInfo backend)}
    (width : build.limit = 2 ^ backend.sizeBits)
    (sees : debuggee.modules = plainModules (.listed modules)) (kind : AddressReferenceKind)
    (absolute rva : Duint backend) (module : String) :
    Plugin.resolveAddress build debuggee
        { kind, absolute := absolute.toNat, module, rva := rva.toNat } =
      (resolveAddress debuggee.equalsIgnoreCase (.listed modules)
        { kind, absolute, module := utf8 module, rva }).map ResolvedLocation.plain := by
  by_cases many : kMaxNativeRecords < modules.length
  · have captured : Plugin.captureModuleRecords debuggee = none := by
      rw [Plugin.captureModuleRecords, sees]
      simp [plainModules, many]
    simp only [Plugin.resolveAddress, resolveAddress, captured, sees, plainModules, if_pos many]
    cases kind <;> rfl
  have captured : Plugin.captureModuleRecords debuggee = some (modules.map ModuleInfo.plain) := by
    rw [Plugin.captureModuleRecords, sees]
    simp [plainModules, many]
  cases kind with
  | absolute =>
      have native := @resolveAddress_absolute backend debuggee.equalsIgnoreCase modules many absolute
      rw [← locationFromModules_map_record] at native
      have same : resolveAddress debuggee.equalsIgnoreCase (.listed modules)
          { kind := .absolute, absolute, module := utf8 module, rva } =
          .ok (locationFromModules absolute (modules.map ModuleInfo.record)) := native
      rw [same]
      simp only [Plugin.resolveAddress, captured]
      rw [locationFromModules_plain]
      rfl
  | moduleRva =>
      rw [resolveAddress_listed many rfl]
      have test : AddressReference.test debuggee.equalsIgnoreCase
          { kind := .moduleRva, absolute, module := utf8 module, rva } =
          fun other => debuggee.equalsIgnoreCase (boundedText other.name) (utf8 module) := rfl
      have filtered : (modules.map ModuleInfo.plain).filter (fun other =>
          debuggee.equalsIgnoreCase other.name (utf8 module)) =
          (modules.filter fun other =>
            debuggee.equalsIgnoreCase (boundedText other.name) (utf8 module)).map
            ModuleInfo.plain := by
        rw [List.filter_map]
        rfl
      rw [test]
      simp only [Plugin.resolveAddress, captured, sees, plainModules, filtered]
      rcases modules.filter _ with _ | ⟨found, _ | ⟨second, rest⟩⟩
      · rfl
      · exact scanned_plain width
      · rfl

/-- Resolving over numbers is resolving over machine words. -/
theorem resolveAddress_plain (width : build.limit = 2 ^ backend.sizeBits)
    (sees : debuggee.modules = plainModules list) (reference : AddressReference backend)
    {module : String} (named : reference.module = utf8 module) :
    Plugin.resolveAddress build debuggee (reference.plain module) =
      (resolveAddress debuggee.equalsIgnoreCase list reference).map ResolvedLocation.plain := by
  rcases reference with ⟨kind, absolute, name, rva, wide⟩
  subst named
  cases wide with
  | false => rfl
  | true =>
      cases list with
      | unavailable =>
          simp only [Plugin.resolveAddress, Plugin.captureModuleRecords, sees, plainModules]
          cases kind <;> rfl
      | malformed =>
          simp only [Plugin.resolveAddress, Plugin.captureModuleRecords, sees, plainModules]
          cases kind <;> rfl
      | listed modules => exact resolveAddress_listed_plain width sees kind absolute rva module

end Plain

/-- The two forms agree.  On any list both scans find the same location and nothing in
it was cut.  On modules that are laid out properly a location's module and offset lead
to the location, and what a module and an offset lead to is found at its address. -/
theorem address_forms_agree (multiByteToWideChar : List UInt8 → Option (List UInt16))
    (compareStringOrdinal : List UInt16 → List UInt16 → Bool)
    (list : NativeList (ModuleInfo backend)) :
    let equalsIgnoreCase := utf8OrdinalEqualsIgnoreCase multiByteToWideChar compareStringOrdinal
    (∀ records, captureModuleRecords list = some records → ∀ address,
      resolveAddress equalsIgnoreCase list (absoluteAddress address) =
        .ok (locationFromModules address records)) ∧
    (∀ reference location, resolveAddress equalsIgnoreCase list reference = .ok location →
      location.Exact) ∧
    (∀ base size address : Duint backend, holds base size address = true ↔
      base.toNat ≤ address.toNat ∧ address.toNat < base.toNat + size.toNat) ∧
    (∀ modules, list = .listed modules → ComparesNames equalsIgnoreCase →
      LaidOut equalsIgnoreCase modules →
      (∀ address location name rva,
        resolveAddress equalsIgnoreCase list (absoluteAddress address) = .ok location →
        location.module = some name → location.rva = some rva →
        resolveAddress equalsIgnoreCase list (moduleRva name rva) = .ok location) ∧
      (∀ name rva location,
        resolveAddress equalsIgnoreCase list (moduleRva name rva) = .ok location →
        location.rva = some rva ∧
          resolveAddress equalsIgnoreCase list (absoluteAddress location.address) =
            .ok location)) := by
  intro equalsIgnoreCase
  refine ⟨?_, ?_, ?_, ?_⟩
  · intro records captured address
    exact resolveAddress_of_captured captured address
  · intro reference location resolved
    exact resolveAddress_exact resolved
  · intro base size address
    exact holds_iff
  · rintro modules rfl compares laidOut
    refine ⟨?_, ?_⟩
    · intro address location name rva resolved named offset
      exact resolveAddress_of_reported laidOut compares resolved named offset
    · intro name rva location resolved
      exact resolveAddress_again laidOut resolved

/-- Two modules, the second of which ends with the address space. -/
def exampleModules : List (ModuleInfo .x64) :=
  [⟨0x400000, 0x1000, utf8 "app.exe" ++ [0, 0], by decide⟩,
    ⟨0xfffffffffffff000, 0x1000, utf8 "Top.dll" ++ [0], by decide⟩]

/-- Units of ASCII characters. -/
def exampleWide (bytes : List UInt8) : Option (List UInt16) :=
  some (bytes.map UInt8.toUInt16)

/-- A comparison of ASCII characters without their case. -/
def exampleCompare (left right : List UInt16) : Bool :=
  let lower (unit : UInt16) := if 0x41 ≤ unit ∧ unit ≤ 0x5a then unit + 0x20 else unit
  left.map lower == right.map lower

theorem exampleEquals_iff {left right : List UInt8} (leftFits : Comparable left)
    (rightFits : Comparable right) :
    utf8OrdinalEqualsIgnoreCase exampleWide exampleCompare left right = true ↔
      exampleCompare (left.map UInt8.toUInt16) (right.map UInt8.toUInt16) = true := by
  have wide {name : List UInt8} (fits : Comparable name) :
      toWide exampleWide name = some (name.map UInt8.toUInt16) := by
    have admitted : ¬ (name = [] ∨ 2 ^ 31 - 1 < name.length) :=
      not_or.mpr ⟨fits.nonempty, Nat.not_lt.mpr fits.short⟩
    rw [toWide, if_neg admitted, exampleWide]
    cases name with
    | nil => exact absurd rfl fits.nonempty
    | cons byte rest => rfl
  rw [utf8OrdinalEqualsIgnoreCase, wide leftFits, wide rightFits]

theorem exampleCompares : ComparesNames (utf8OrdinalEqualsIgnoreCase exampleWide exampleCompare) where
  refl name fits := by
    rw [exampleEquals_iff fits fits, exampleCompare, beq_iff_eq]
  symm left right leftFits rightFits equal := by
    rw [exampleEquals_iff leftFits rightFits, exampleCompare, beq_iff_eq] at equal
    rw [exampleEquals_iff rightFits leftFits, exampleCompare, beq_iff_eq, equal]
  trans left middle right leftFits middleFits rightFits first second := by
    rw [exampleEquals_iff leftFits middleFits, exampleCompare, beq_iff_eq] at first
    rw [exampleEquals_iff middleFits rightFits, exampleCompare, beq_iff_eq] at second
    rw [exampleEquals_iff leftFits rightFits, exampleCompare, beq_iff_eq, first, second]

theorem exampleLaidOut :
    LaidOut (utf8OrdinalEqualsIgnoreCase exampleWide exampleCompare) exampleModules where
  within := by decide
  disjoint := by
    rw [exampleModules, List.pairwise_pair]
    refine Set.disjoint_left.mpr ?_
    rintro address ⟨_, low⟩ ⟨high, _⟩
    have lowEnd : address < 0x401000 := low
    have highStart : 0xfffffffffffff000 ≤ address := high
    omega
  named := by decide
  distinct := by decide

/-- The last address belongs to the module that ends with the address space. -/
theorem address_forms_agree_top :
    resolveAddress (utf8OrdinalEqualsIgnoreCase exampleWide exampleCompare)
        (.listed exampleModules) (moduleRva (utf8 "top.DLL") 0xfff) =
      .ok ⟨0xffffffffffffffff, some (utf8 "Top.dll"), some 0xfffffffffffff000, some 0xfff⟩ ∧
    resolveAddress (utf8OrdinalEqualsIgnoreCase exampleWide exampleCompare)
        (.listed exampleModules) (absoluteAddress 0xffffffffffffffff) =
      .ok ⟨0xffffffffffffffff, some (utf8 "Top.dll"), some 0xfffffffffffff000, some 0xfff⟩ := by
  have resolved : resolveAddress (utf8OrdinalEqualsIgnoreCase exampleWide exampleCompare)
      (.listed exampleModules) (moduleRva (utf8 "top.DLL") 0xfff) =
      .ok ⟨0xffffffffffffffff, some (utf8 "Top.dll"), some 0xfffffffffffff000, some 0xfff⟩ := by
    rfl
  have agree := (address_forms_agree exampleWide exampleCompare (.listed exampleModules)).2.2.2
    exampleModules rfl exampleCompares exampleLaidOut
  exact ⟨resolved, (agree.2 _ _ _ resolved).2⟩

end X64dbgMcp.Plugin.Addresses
