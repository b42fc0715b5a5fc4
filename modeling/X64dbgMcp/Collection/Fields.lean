import Mathlib.Data.List.Nodup
import Mathlib.Data.List.Perm.Basic
import Mathlib.Algebra.GroupWithZero.Nat

/-!
# Records as lists of fields

A record is a list of fields with distinct keys.  A grammar names the keys a
record must have and those it may have; then the number of fields is decided by
which of the optional keys are there.
-/

namespace X64dbgMcp.Collection

universe u v

variable {κ : Type u} {ν : Type v} [DecidableEq κ]

theorem lookup_isSome_iff {fields : List (κ × ν)} {key : κ} :
    (fields.lookup key).isSome = true ↔ key ∈ fields.map Prod.fst := by
  induction fields with
  | nil => simp
  | cons field rest ih =>
      obtain ⟨name, value⟩ := field
      by_cases same : key = name
      · simp [same]
      · have other : (key == name) = false := beq_false_of_ne same
        simp only [List.lookup_cons, other, ih, List.map_cons, List.mem_cons, same, false_or]

theorem mem_of_lookup {fields : List (κ × ν)} {key : κ} {value : ν}
    (found : fields.lookup key = some value) : (key, value) ∈ fields := by
  induction fields with
  | nil => cases found
  | cons field rest ih =>
      obtain ⟨name, held⟩ := field
      by_cases same : key = name
      · subst same
        simp only [List.lookup_cons, beq_self_eq_true, Option.some.injEq] at found
        simp [found]
      · have other : (key == name) = false := beq_false_of_ne same
        simp only [List.lookup_cons, other] at found
        exact List.mem_cons_of_mem _ (ih found)

theorem lookup_of_mem {fields : List (κ × ν)} (distinct : (fields.map Prod.fst).Nodup) {key : κ}
    {value : ν} (member : (key, value) ∈ fields) : fields.lookup key = some value := by
  have known : key ∈ fields.map Prod.fst := List.mem_map_of_mem member
  obtain ⟨held, found⟩ := Option.isSome_iff_exists.mp (lookup_isSome_iff.mpr known)
  have same : (key, held) = (key, value) :=
    List.inj_on_of_nodup_map distinct (mem_of_lookup found) member rfl
  rw [found, (Prod.mk.inj same).2]

/-- The record without one key. -/
def without (fields : List (κ × ν)) (key : κ) : List (κ × ν) :=
  fields.filter fun field => field.1 ≠ key

theorem without_cons (field : κ × ν) (rest : List (κ × ν)) (key : κ) :
    without (field :: rest) key =
      if field.1 = key then without rest key else field :: without rest key := by
  by_cases same : field.1 = key <;> simp [without, same]

theorem lookup_without_of_ne {fields : List (κ × ν)} {key other : κ} (different : other ≠ key) :
    (without fields key).lookup other = fields.lookup other := by
  induction fields with
  | nil => rfl
  | cons field rest ih =>
      rw [without_cons]
      by_cases dropped : field.1 = key
      · have missed : (other == field.1) = false := by
          rw [dropped]
          exact beq_false_of_ne different
        rw [if_pos dropped, ih, List.lookup_cons, missed]
      · rw [if_neg dropped, List.lookup_cons, List.lookup_cons, ih]

theorem distinct_without {fields : List (κ × ν)} (distinct : (fields.map Prod.fst).Nodup)
    (key : κ) : ((without fields key).map Prod.fst).Nodup :=
  distinct.sublist (List.filter_sublist.map Prod.fst)

/-- A key that is there is dropped once. -/
theorem length_without {fields : List (κ × ν)} (distinct : (fields.map Prod.fst).Nodup) (key : κ) :
    (without fields key).length + (fields.lookup key).isSome.toNat = fields.length := by
  induction fields with
  | nil => rfl
  | cons field rest ih =>
      rw [List.map_cons, List.nodup_cons] at distinct
      have after := ih distinct.2
      rw [without_cons]
      by_cases same : field.1 = key
      · have absent : (rest.lookup key).isSome = false := by
          rw [Bool.eq_false_iff, ne_eq, lookup_isSome_iff, ← same]
          exact distinct.1
        rw [absent, Bool.toNat_false] at after
        rw [if_pos same, List.lookup_cons, ← same, beq_self_eq_true, same, List.length_cons, ← after]
        rfl
      · have other : (key == field.1) = false := beq_false_of_ne (Ne.symm same)
        rw [if_neg same, List.lookup_cons, other, List.length_cons, List.length_cons, ← after]
        exact Nat.succ_add _ _

/-- The fields are the required ones and some of the optional ones. -/
structure Exact (fields : List (κ × ν)) (required optional : List κ) : Prop where
  present : ∀ key ∈ required, (fields.lookup key).isSome = true
  known : ∀ field ∈ fields, field.1 ∈ required ∨ field.1 ∈ optional

namespace Exact

variable {fields : List (κ × ν)} {required optional : List κ}

theorem lookup_eq_none (exact : Exact fields required optional) {key : κ}
    (foreign : key ∉ required ++ optional) : fields.lookup key = none := by
  rw [← Option.not_isSome_iff_eq_none, lookup_isSome_iff]
  intro member
  obtain ⟨field, fieldMem, rfl⟩ := List.mem_map.mp member
  exact foreign (List.mem_append.mpr (exact.known field fieldMem))

/-- What holds of every key of the grammar holds of every field. -/
theorem forall_mem (exact : Exact fields required optional)
    (distinct : (fields.map Prod.fst).Nodup) {property : ν → Prop}
    (holds : ∀ key ∈ required ++ optional, ∀ value, fields.lookup key = some value →
      property value) :
    ∀ field ∈ fields, property field.2 := by
  rintro ⟨key, value⟩ member
  exact holds key (List.mem_append.mpr (exact.known _ member)) value
    (lookup_of_mem distinct member)

/-- The number of fields. -/
theorem length_eq (exact : Exact fields required optional)
    (distinct : (fields.map Prod.fst).Nodup) (names : (required ++ optional).Nodup) :
    fields.length =
      required.length + (optional.map fun key => (fields.lookup key).isSome.toNat).sum := by
  have keys : (fields.map Prod.fst).Perm
      ((required ++ optional).filter fun key => (fields.lookup key).isSome) := by
    rw [List.perm_ext_iff_of_nodup distinct (names.filter _)]
    intro key
    rw [List.mem_filter, lookup_isSome_iff]
    constructor
    · intro member
      obtain ⟨field, fieldMem, rfl⟩ := List.mem_map.mp member
      exact ⟨List.mem_append.mpr (exact.known field fieldMem), member⟩
    · exact And.right
  have all : required.filter (fun key => (fields.lookup key).isSome) = required :=
    List.filter_eq_self.mpr exact.present
  have counted : ∀ keys : List κ,
      (keys.filter fun key => (fields.lookup key).isSome).length =
        (keys.map fun key => (fields.lookup key).isSome.toNat).sum := by
    intro keys
    induction keys with
    | nil => rfl
    | cons key rest ih =>
        rw [List.filter_cons, List.map_cons, List.sum_cons, ← ih]
        cases (fields.lookup key).isSome <;> simp [Nat.add_comm]
  rw [← List.length_map (f := Prod.fst), keys.length_eq, List.filter_append, List.length_append,
    all, counted]

/-- Dropping a key drops it from the grammar. -/
theorem without (exact : Exact fields required optional) {key : κ}
    {fewerRequired fewerOptional : List κ}
    (kept : ∀ name ∈ fewerRequired, name ≠ key ∧ name ∈ required)
    (left : ∀ name, name ≠ key → name ∈ required ∨ name ∈ optional →
      name ∈ fewerRequired ∨ name ∈ fewerOptional) :
    Exact (Collection.without fields key) fewerRequired fewerOptional where
  present name member := by
    rw [lookup_without_of_ne (kept name member).1]
    exact exact.present name (kept name member).2
  known field member := by
    rw [Collection.without, List.mem_filter, decide_eq_true_eq] at member
    exact left field.1 member.2 (exact.known field member.1)

end Exact

end X64dbgMcp.Collection
