import Mathlib.Logic.Basic

/-!
# Early exits

A program that may stop at any of its steps is a chain of `Except` values.  What holds
where it goes on and what holds where it stops are kept apart.
-/

namespace X64dbgMcp.Transition

universe u v w

variable {ε : Type u} {α : Type v} {β : Type v}

/-- A step and the rest go through when both do. -/
theorem bind_eq_ok {first : Except ε α} {next : α → Except ε β} {result : β} :
    (first >>= next) = .ok result ↔ ∃ value, first = .ok value ∧ next value = .ok result := by
  constructor
  · intro passed
    cases first with
    | error stopped => cases passed
    | ok value => exact ⟨value, rfl, passed⟩
  · rintro ⟨value, rfl, passed⟩
    exact passed

/-- One property of what the program goes on with, and one of what it stops with. -/
def Ends (goes : α → Prop) (stops : ε → Prop) : Except ε α → Prop
  | .ok value => goes value
  | .error stopped => stops stopped

namespace Ends

variable {goes : α → Prop} {stops : ε → Prop} {result : Except ε α}

/-- One step, and the rest behind it. -/
theorem bind {further : β → Prop} {next : α → Except ε β} (first : Ends goes stops result)
    (rest : ∀ value, goes value → Ends further stops (next value)) :
    Ends further stops (result >>= next) := by
  cases result with
  | ok value => exact rest value first
  | error stopped => exact first

end Ends

end X64dbgMcp.Transition
