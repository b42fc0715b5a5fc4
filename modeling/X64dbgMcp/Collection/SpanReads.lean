import Mathlib.Data.List.GetD

/-!
# Reading a span by indices

A computation that reads a span, together with the indices it has read.  A short-circuit
disjunction reads no further than its first true member, so a size that is checked first
guards the reads behind it.
-/

namespace X64dbgMcp.Collection

universe u v

variable {α : Type u} {β : Type v}

/-- A value with the indices that were read for it. -/
structure Reads (α : Type u) where
  value : α
  indices : List Nat

namespace Reads

instance : Monad Reads where
  pure value := ⟨value, []⟩
  bind first next :=
    ⟨(next first.value).value, first.indices ++ (next first.value).indices⟩

/-- One element; what is read behind the end is not specified. -/
def element (span : List β) (unspecified : β) (index : Nat) : Reads β :=
  ⟨span.getD index unspecified, [index]⟩

/-- `first || second || …` -/
def any : List (Reads Bool) → Reads Bool
  | [] => pure false
  | first :: rest => do if ← first then pure true else any rest

@[simp]
theorem pure_value (value : α) : (pure value : Reads α).value = value :=
  rfl

@[simp]
theorem bind_value {γ : Type u} (first : Reads α) (next : α → Reads γ) :
    (first >>= next).value = (next first.value).value :=
  rfl

@[simp]
theorem map_value {γ : Type u} (first : Reads α) (next : α → γ) :
    (next <$> first).value = next first.value :=
  rfl

@[simp]
theorem element_value (span : List β) (unspecified : β) (index : Nat) :
    (Reads.element span unspecified index).value = span.getD index unspecified :=
  rfl

@[simp]
theorem any_value (members : List (Reads Bool)) :
    (any members).value = members.any (·.value) := by
  induction members with
  | nil => rfl
  | cons first rest ih =>
      rw [any, bind_value, List.any_cons]
      cases first.value with
      | false => exact ih
      | true => rfl

/-! ## Reads inside a span -/

/-- Every index is one of a span of this size. -/
def Inside (size : Nat) (reads : Reads α) : Prop :=
  ∀ index ∈ reads.indices, index < size

theorem inside_pure (size : Nat) (value : α) : Inside size (pure value : Reads α) :=
  fun _ member => nomatch member

theorem inside_element {span : List β} {index : Nat} (within : index < span.length)
    (unspecified : β) : Inside span.length (Reads.element span unspecified index) := by
  intro read member
  rw [List.mem_singleton.mp member]
  exact within

theorem Inside.bind {γ : Type u} {size : Nat} {first : Reads α} {next : α → Reads γ}
    (before : Inside size first) (behind : Inside size (next first.value)) :
    Inside size (first >>= next) := by
  intro index member
  rcases List.mem_append.mp member with early | late
  · exact before index early
  · exact behind index late

theorem Inside.any_cons {size : Nat} {first : Reads Bool} {rest : List (Reads Bool)}
    (before : Inside size first)
    (behind : first.value = false → Inside size (Reads.any rest)) :
    Inside size (Reads.any (first :: rest)) := by
  refine before.bind ?_
  cases decided : first.value with
  | false => exact behind decided
  | true => exact inside_pure size true

theorem Inside.any {size : Nat} {members : List (Reads Bool)}
    (each : ∀ member ∈ members, Inside size member) : Inside size (Reads.any members) := by
  induction members with
  | nil => exact inside_pure size false
  | cons first rest ih =>
      rw [List.forall_mem_cons] at each
      exact each.1.any_cons fun _ => ih each.2

end Reads

end X64dbgMcp.Collection
