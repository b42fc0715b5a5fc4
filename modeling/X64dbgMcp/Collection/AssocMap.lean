import Mathlib.Data.List.Basic

/-!
# Finite maps as association lists

A map is an association list that carries the proof that its keys are distinct,
so an entry can be counted, filtered and changed in place.  Only what the
operations do to lookups is stated.
-/

namespace X64dbgMcp.Collection

universe u v

/-- A finite map: its entries, with distinct keys. -/
structure AssocMap (κ : Type u) (ν : Type v) where
  entries : List (κ × ν)
  distinct : (entries.map Prod.fst).Nodup

namespace AssocMap

variable {κ : Type u} {ν : Type v} [DecidableEq κ]

/-- The map without entries. -/
def empty : AssocMap κ ν where
  entries := []
  distinct := List.nodup_nil

/-- The value of a key. -/
def get (map : AssocMap κ ν) (key : κ) : Option ν :=
  map.entries.lookup key

omit [DecidableEq κ] in
/-- The number of entries. -/
def size (map : AssocMap κ ν) : Nat :=
  map.entries.length

/-- Keep the entries that satisfy a test. -/
def retain (map : AssocMap κ ν) (keep : κ → ν → Bool) : AssocMap κ ν where
  entries := map.entries.filter fun entry => keep entry.1 entry.2
  distinct := map.distinct.sublist (List.filter_sublist.map Prod.fst)

/-- Change the value of a key in place. -/
def modify (map : AssocMap κ ν) (key : κ) (change : ν → ν) : AssocMap κ ν where
  entries := map.entries.map fun entry =>
    if entry.1 = key then (entry.1, change entry.2) else entry
  distinct := by
    have keys : (map.entries.map fun entry =>
        if entry.1 = key then (entry.1, change entry.2) else entry).map Prod.fst =
        map.entries.map Prod.fst := by
      rw [List.map_map]
      apply List.map_congr_left
      intro entry _
      simp only [Function.comp_apply]
      split <;> rfl
    rw [keys]
    exact map.distinct

theorem not_mem_keys_of_get_eq_none {map : AssocMap κ ν} {key : κ}
    (absent : map.get key = none) : key ∉ map.entries.map Prod.fst := by
  intro member
  obtain ⟨entry, entryMem, rfl⟩ := List.mem_map.mp member
  have found := List.lookup_eq_none_iff.mp absent entry entryMem
  simp at found

/-- Add a key that has no value yet. -/
def insert (map : AssocMap κ ν) (key : κ) (value : ν) (absent : map.get key = none) :
    AssocMap κ ν where
  entries := (key, value) :: map.entries
  distinct := List.nodup_cons.mpr ⟨not_mem_keys_of_get_eq_none absent, map.distinct⟩

theorem lookup_cons_eq_ite (key : κ) (entry : κ × ν) (rest : List (κ × ν)) :
    (entry :: rest).lookup key = if key = entry.1 then some entry.2 else rest.lookup key := by
  obtain ⟨entryKey, value⟩ := entry
  simp only [List.lookup_cons]
  by_cases equal : key = entryKey
  · simp [equal]
  · rw [if_neg equal, beq_false_of_ne equal]

@[simp]
theorem get_empty (key : κ) : (empty : AssocMap κ ν).get key = none :=
  rfl

theorem get_insert (map : AssocMap κ ν) {key : κ} (value : ν) (absent : map.get key = none)
    (other : κ) :
    (map.insert key value absent).get other =
      if other = key then some value else map.get other := by
  exact lookup_cons_eq_ite other (key, value) map.entries

theorem get_modify (map : AssocMap κ ν) (key : κ) (change : ν → ν) (other : κ) :
    (map.modify key change).get other =
      if other = key then (map.get other).map change else map.get other := by
  obtain ⟨entries, distinct⟩ := map
  simp only [get, modify]
  clear distinct
  induction entries with
  | nil => simp
  | cons entry rest ih =>
      rw [List.map_cons, lookup_cons_eq_ite, lookup_cons_eq_ite, ih]
      by_cases equal : entry.1 = key
      · rw [if_pos equal]
        by_cases found : other = entry.1
        · simp [found, equal]
        · simp [found]
      · rw [if_neg equal]
        by_cases found : other = entry.1
        · simp [found, equal]
        · simp [found]

theorem get_retain (map : AssocMap κ ν) (keep : κ → ν → Bool) (key : κ) :
    (map.retain keep).get key = (map.get key).filter (keep key) := by
  obtain ⟨entries, distinct⟩ := map
  simp only [get, retain]
  induction entries with
  | nil => rfl
  | cons entry rest ih =>
      rw [List.map_cons, List.nodup_cons] at distinct
      by_cases found : key = entry.1
      · subst found
        -- The key does not occur again, so a dropped entry leaves nothing behind.
        have absent : List.lookup entry.1 (rest.filter fun entry => keep entry.1 entry.2) =
            none := by
          rw [List.lookup_eq_none_iff]
          intro other member
          have otherKey : other.1 ∈ rest.map Prod.fst :=
            List.mem_map_of_mem (List.mem_of_mem_filter member)
          simp only [bne_iff_ne, ne_eq]
          intro equal
          exact distinct.1 (equal ▸ otherKey)
        rw [List.filter_cons, lookup_cons_eq_ite, if_pos rfl]
        cases kept : keep entry.1 entry.2 with
        | true => simp [lookup_cons_eq_ite, Option.filter, kept]
        | false => simp [Option.filter, kept, absent]
      · rw [List.filter_cons, lookup_cons_eq_ite key entry rest, if_neg found]
        split
        · rw [lookup_cons_eq_ite, if_neg found, ih distinct.2]
        · exact ih distinct.2

end AssocMap

end X64dbgMcp.Collection
