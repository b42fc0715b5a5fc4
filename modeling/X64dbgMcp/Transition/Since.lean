import Mathlib.Data.List.Basic

/-!
# What has happened since

A history is the list of what happened so far.  `Since mark ends` says that something
happened and nothing has ended it since.
-/

namespace X64dbgMcp.Transition

universe u

variable {ο : Type u}

/-- Something marked is in the history, and nothing behind it ends it. -/
def Since (mark ends : ο → Prop) (history : List ο) : Prop :=
  ∃ before event after, history = before ++ event :: after ∧ mark event ∧
    ∀ later ∈ after, ¬ ends later

@[simp]
theorem since_nil {mark ends : ο → Prop} : ¬ Since mark ends [] := by
  rintro ⟨before, event, after, split, -⟩
  cases before <;> cases split

@[simp]
theorem since_concat {mark ends : ο → Prop} {history : List ο} {event : ο} :
    Since mark ends (history ++ [event]) ↔
      mark event ∨ Since mark ends history ∧ ¬ ends event := by
  constructor
  · rintro ⟨before, marked, after, split, isMarked, lasts⟩
    rcases List.eq_nil_or_concat after with rfl | ⟨middle, last, rfl⟩
    · rcases List.append_inj' split rfl with ⟨-, same⟩
      cases same
      exact .inl isMarked
    · rw [List.concat_eq_append, ← List.cons_append, ← List.append_assoc] at split
      rcases List.append_inj' split rfl with ⟨rfl, same⟩
      cases same
      refine .inr ⟨⟨before, marked, middle, rfl, isMarked, ?_⟩, ?_⟩
      · exact fun later member => lasts later (by simp [member])
      · exact lasts event (by simp)
  · rintro (marked | ⟨⟨before, marked, after, rfl, isMarked, lasts⟩, continues⟩)
    · exact ⟨history, event, [], rfl, marked, fun _ member => absurd member List.not_mem_nil⟩
    · refine ⟨before, marked, after ++ [event], by simp, isMarked, ?_⟩
      intro later member
      rcases List.mem_append.mp member with earlier | last
      · exact lasts later earlier
      · rw [List.mem_singleton.mp last]
        exact continues

theorem Since.mono {mark weaker ends : ο → Prop} {history : List ο}
    (since : Since mark ends history) (implies : ∀ event, mark event → weaker event) :
    Since weaker ends history := by
  rcases since with ⟨before, event, after, split, marked, lasts⟩
  exact ⟨before, event, after, split, implies event marked, lasts⟩

end X64dbgMcp.Transition
