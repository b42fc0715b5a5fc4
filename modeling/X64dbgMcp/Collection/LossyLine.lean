import Mathlib.Data.List.Basic

/-!
# Lines that lose elements

Elements join a line at its end and leave it in front or get lost anywhere; the
order of those that stay never changes.  `Passes` accounts for one change of a
line, and changes compose.
-/

namespace X64dbgMcp.Collection

universe u

variable {α : Type u}

/-- A line `before` that took `added` and lost `lost` is now `after`. -/
structure Passes (before added lost after : List α) : Prop where
  order : after.Sublist (before ++ added)
  covered : ∀ element ∈ before ++ added, element ∈ lost ∨ element ∈ after
  known : ∀ element ∈ lost, element ∈ before ++ added

namespace Passes

variable {before middle after first second firstLost secondLost : List α}

theorem refl (line : List α) : Passes line [] [] line := by
  refine ⟨by simp, ?_, List.forall_mem_nil _⟩
  intro element member
  rw [List.append_nil] at member
  exact .inr member

/-- Everything is lost. -/
theorem all (line : List α) : Passes line [] line [] := by
  refine ⟨List.nil_sublist _, ?_, ?_⟩
  · intro element member
    rw [List.append_nil] at member
    exact .inl member
  · intro element member
    rw [List.append_nil]
    exact member

/-- One element joins. -/
theorem join (line added : List α) : Passes line added [] (line ++ added) :=
  ⟨List.Sublist.refl _, fun _ member => .inr member, List.forall_mem_nil _⟩

/-- The elements that come next are lost before they join. -/
theorem refuse (line added : List α) : Passes line added added line :=
  ⟨List.sublist_append_left _ _, fun _ member => (List.mem_append.mp member).symm,
    fun _ member => List.mem_append_right _ member⟩

theorem trans (earlier : Passes before first firstLost middle)
    (later : Passes middle second secondLost after) :
    Passes before (first ++ second) (firstLost ++ secondLost) after := by
  constructor
  · rw [← List.append_assoc]
    exact later.order.trans (earlier.order.append (List.Sublist.refl _))
  · intro element member
    rw [← List.append_assoc] at member
    have passed : element ∈ firstLost ∨ element ∈ middle ++ second := by
      rcases List.mem_append.mp member with old | new
      · exact (earlier.covered element old).imp_right (List.mem_append_left _)
      · exact .inr (List.mem_append_right _ new)
    rcases passed with lost | stays
    · exact .inl (List.mem_append_left _ lost)
    · exact (later.covered element stays).imp_left (List.mem_append_right _)
  · intro element member
    rw [← List.append_assoc]
    rcases List.mem_append.mp member with old | new
    · exact List.mem_append_left _ (earlier.known element old)
    · rcases List.mem_append.mp (later.known element new) with held | added
      · exact List.mem_append_left _ (earlier.order.mem held)
      · exact List.mem_append_right _ added

/-- What stands in front of a line is not touched. -/
theorem behind (front : List α) (passes : Passes before first firstLost after) :
    Passes (front ++ before) first firstLost (front ++ after) := by
  rcases passes with ⟨order, covered, known⟩
  constructor
  · rw [List.append_assoc]
    exact (List.Sublist.refl front).append order
  · intro element member
    rw [List.append_assoc] at member
    rcases List.mem_append.mp member with ahead | member
    · exact .inr (List.mem_append_left _ ahead)
    · exact (covered element member).imp_right (List.mem_append_right _)
  · intro element member
    rw [List.append_assoc]
    exact List.mem_append_right _ (known element member)

/-- The front of a line is lost. -/
theorem front (lost line : List α) : Passes (lost ++ line) [] lost line := by
  refine ⟨?_, ?_, ?_⟩
  · rw [List.append_nil]
    exact List.sublist_append_right _ _
  · intro element member
    rw [List.append_nil] at member
    exact List.mem_append.mp member
  · intro element member
    rw [List.append_nil]
    exact List.mem_append_left _ member

end Passes

end X64dbgMcp.Collection
