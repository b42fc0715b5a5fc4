/-!
# Programs that are cut short

A program changes a world by steps, each named by its site.  At most one of them is
cut short: it fails and the program may go on, or the machine stops.  A step that is
cut short may have happened in part.
-/

namespace X64dbgMcp.Files

/-- A call fails and returns, or the machine stops. -/
inductive Cut where
  | fails
  | crashes
  deriving DecidableEq

/-- The step at `site` is cut short when `left` units of it are done. -/
structure Fault (σ : Type) where
  site : σ
  cut : Cut
  left : Nat

/-- How a program ends. -/
inductive Ended (α : Type) where
  | returned (value : α)
  | failed
  | crashed
  deriving DecidableEq

/-- What a cut makes of a program. -/
def Cut.ended {α : Type} : Cut → Ended α
  | .fails => .failed
  | .crashes => .crashed

/-- The step at `site` is not cut short. -/
def Spared {σ : Type} (fault : Option (Fault σ)) (site : σ) : Prop :=
  ∀ cut left, fault ≠ some ⟨site, cut, left⟩

theorem spared_none {σ : Type} (site : σ) : Spared none site :=
  nofun

theorem spared_of_ne {σ : Type} {site other : σ} {cut : Cut} {left : Nat}
    (different : site ≠ other) : Spared (some ⟨site, cut, left⟩) other := by
  rintro _ _ ⟨⟩
  exact different rfl

/-- A program over worlds `ω` with steps at sites `σ`. -/
def Program (σ ω α : Type) : Type :=
  Option (Fault σ) → ω → Ended α × ω

namespace Program

variable {σ ω α β : Type}

/-- One program behind the other. -/
def andThen (first : Program σ ω α) (next : α → Program σ ω β) : Program σ ω β :=
  fun fault world =>
    match first fault world with
    | (.returned value, middle) => next value fault middle
    | (.failed, middle) => (.failed, middle)
    | (.crashed, middle) => (.crashed, middle)

instance : Monad (Program σ ω) where
  pure value := fun _ world => (.returned value, world)
  bind := andThen

/-- Look at the world. -/
def get : Program σ ω ω :=
  fun _ world => (.returned world, world)

/-- Give up. -/
def fail : Program σ ω α :=
  fun _ world => (.failed, world)

/-- A change of memory, which is never cut short. -/
def modify (change : ω → ω) : Program σ ω Unit :=
  fun _ world => (.returned (), change world)

variable [DecidableEq σ]

/-- One step.  It is refused where `possible` is false. -/
def step (site : σ) (possible : ω → Bool) (change : ω → ω) (torn : Nat → ω → ω) :
    Program σ ω Unit :=
  fun fault world =>
    match fault with
    | none => if possible world then (.returned (), change world) else (.failed, world)
    | some fault =>
        if fault.site = site then (fault.cut.ended, torn fault.left world)
        else if possible world then (.returned (), change world)
        else (.failed, world)

/-- A step that happens whole or not at all. -/
def atomic (site : σ) (possible : ω → Bool) (change : ω → ω) : Program σ ω Unit :=
  step site possible change fun _ world => world

/-- Go on after a failure. -/
def orElse (first : Program σ ω α) (handler : Program σ ω α) : Program σ ω α :=
  fun fault world =>
    match first fault world with
    | (.failed, middle) => handler fault middle
    | ended => ended

/-! ## Inversion -/

variable {fault : Option (Fault σ)} {world target : ω} {site : σ} {possible : ω → Bool}
  {change : ω → ω} {torn : Nat → ω → ω}

omit [DecidableEq σ] in
theorem bind_eq {first : Program σ ω α} {next : α → Program σ ω β} {ended : Ended β}
    (ran : (first >>= next) fault world = (ended, target)) :
    (∃ value middle, first fault world = (.returned value, middle) ∧
        next value fault middle = (ended, target)) ∨
      (first fault world = (.failed, target) ∧ ended = .failed) ∨
      (first fault world = (.crashed, target) ∧ ended = .crashed) := by
  simp only [bind, andThen] at ran
  split at ran
  · rename_i value middle firstEq
    exact .inl ⟨value, middle, firstEq, ran⟩
  · rename_i middle firstEq
    cases ran
    exact .inr (.inl ⟨firstEq, rfl⟩)
  · rename_i middle firstEq
    cases ran
    exact .inr (.inr ⟨firstEq, rfl⟩)

omit [DecidableEq σ] in
theorem bind_of_returned {first : Program σ ω α} {next : α → Program σ ω β} {value : α}
    {middle : ω} (firstEq : first fault world = (.returned value, middle)) :
    (first >>= next) fault world = next value fault middle := by
  simp only [bind, andThen, firstEq]

omit [DecidableEq σ] in
theorem bind_assoc {γ : Type} (first : Program σ ω α) (second : α → Program σ ω β)
    (third : β → Program σ ω γ) :
    (first >>= second) >>= third = first >>= fun value => second value >>= third := by
  funext fault world
  simp only [bind, andThen]
  cases first fault world with
  | mk ended middle => cases ended <;> rfl

/-- A step is cut short, refused or done. -/
theorem step_eq {ended : Ended Unit}
    (ran : step site possible change torn fault world = (ended, target)) :
    (∃ cut left, fault = some ⟨site, cut, left⟩ ∧ ended = cut.ended ∧ target = torn left world) ∨
      (possible world = false ∧ ended = .failed ∧ target = world) ∨
      (Spared fault site ∧ possible world = true ∧ ended = .returned () ∧
        target = change world) := by
  cases fault with
  | none =>
      simp only [step] at ran
      split at ran
      · rename_i allowed
        cases ran
        exact .inr (.inr ⟨spared_none site, allowed, rfl, rfl⟩)
      · rename_i refused
        cases ran
        exact .inr (.inl ⟨by simpa using refused, rfl, rfl⟩)
  | some fault =>
      simp only [step] at ran
      split at ran
      · rename_i here
        cases ran
        subst here
        exact .inl ⟨fault.cut, fault.left, rfl, rfl, rfl⟩
      · rename_i elsewhere
        split at ran
        · rename_i allowed
          cases ran
          refine .inr (.inr ⟨?_, allowed, rfl, rfl⟩)
          rintro cut left ⟨rfl⟩
          exact elsewhere rfl
        · rename_i refused
          cases ran
          exact .inr (.inl ⟨by simpa using refused, rfl, rfl⟩)

/-- A step and what follows it. -/
theorem step_bind_eq {next : Unit → Program σ ω β} {ended : Ended β}
    (allowed : possible world = true)
    (ran : (step site possible change torn >>= next) fault world = (ended, target)) :
    (∃ cut left, fault = some ⟨site, cut, left⟩ ∧ ended = cut.ended ∧ target = torn left world) ∨
      (Spared fault site ∧ next () fault (change world) = (ended, target)) := by
  rcases bind_eq ran with ⟨⟨⟩, middle, stepped, rest⟩ | ⟨stepped, rfl⟩ | ⟨stepped, rfl⟩
  · rcases step_eq stepped with ⟨cut, left, -, endedEq, -⟩ | ⟨-, endedEq, -⟩ |
      ⟨spared, -, -, rfl⟩
    · cases cut <;> contradiction
    · contradiction
    · exact .inr ⟨spared, rest⟩
  · rcases step_eq stepped with ⟨cut, left, rfl, endedEq, rfl⟩ | ⟨refused, -, -⟩ |
      ⟨-, -, endedEq, -⟩
    · cases cut with
      | fails => exact .inl ⟨.fails, left, rfl, rfl, rfl⟩
      | crashes => contradiction
    · rw [allowed] at refused
      contradiction
    · contradiction
  · rcases step_eq stepped with ⟨cut, left, rfl, endedEq, rfl⟩ | ⟨-, endedEq, -⟩ |
      ⟨-, -, endedEq, -⟩
    · cases cut with
      | fails => contradiction
      | crashes => exact .inl ⟨.crashes, left, rfl, rfl, rfl⟩
    · contradiction
    · contradiction

omit [DecidableEq σ] in
theorem orElse_eq {first handler : Program σ ω α} {ended : Ended α}
    (ran : orElse first handler fault world = (ended, target)) :
    (first fault world = (ended, target) ∧ ended ≠ .failed) ∨
      ∃ middle, first fault world = (.failed, middle) ∧ handler fault middle = (ended, target) := by
  simp only [orElse] at ran
  split at ran
  · rename_i middle failed
    exact .inr ⟨middle, failed, ran⟩
  · rename_i result notFailed
    refine .inl ⟨ran, ?_⟩
    rintro rfl
    exact notFailed target ran

end Program

end X64dbgMcp.Files
