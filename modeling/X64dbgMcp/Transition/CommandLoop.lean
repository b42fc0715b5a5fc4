import Mathlib.Data.List.Basic
import Mathlib.Logic.Relation

/-!
# Command loops

Commands wait in a line, and a loop runs them one by one from its front.  Several parties
append commands, and some change the store without a command at all.

A fence is a command whose run is noticed.  What stood before a fence in the line has run
when the fence has: this file supplies that rule, and the stability of conditions under
whatever the other parties do.  It names nothing of the modelled program.
-/

namespace X64dbgMcp.Transition

universe u v

/-- The queued commands, and what they work on. -/
structure CommandLoop (κ : Type u) (σ : Type v) where
  store : σ
  waiting : List κ

/-- What the loop does with a command, and what other parties may do. -/
structure Parties (κ : Type u) (σ : Type v) where
  runs : κ → σ → σ → Prop
  submits : κ → Prop
  meddles : σ → σ → Prop

namespace CommandLoop

variable {κ : Type u} {σ : Type v}

/-- One move of the loop or of a party. -/
inductive Move (parties : Parties κ σ) : CommandLoop κ σ → CommandLoop κ σ → Prop
  | run {store after : σ} {command : κ} {rest : List κ} (ran : parties.runs command store after) :
      Move parties ⟨store, command :: rest⟩ ⟨after, rest⟩
  | submit {store : σ} {command : κ} {waiting : List κ} (submitted : parties.submits command) :
      Move parties ⟨store, waiting⟩ ⟨store, waiting ++ [command]⟩
  | meddle {store after : σ} {waiting : List κ} (meddled : parties.meddles store after) :
      Move parties ⟨store, waiting⟩ ⟨after, waiting⟩

/-- Any number of moves. -/
abbrev Later (parties : Parties κ σ) : CommandLoop κ σ → CommandLoop κ σ → Prop :=
  Relation.ReflTransGen (Move parties)

/-- Stability rule: what every move keeps holds ever after. -/
theorem Later.keeps {parties : Parties κ σ} {holds : CommandLoop κ σ → Prop}
    (move : ∀ ⦃loop target⦄, holds loop → Move parties loop target → holds target)
    {loop target : CommandLoop κ σ} (later : Later parties loop target) (start : holds loop) :
    holds target := by
  induction later with
  | refl => exact start
  | tail _ moved ih => exact move ih moved

/-- A loop may work off its whole line. -/
theorem later_foldl {parties : Parties κ σ} {run : σ → κ → σ}
    (runs : ∀ store command, parties.runs command store (run store command)) (store : σ)
    (waiting : List κ) : Later parties ⟨store, waiting⟩ ⟨waiting.foldl run store, []⟩ := by
  induction waiting generalizing store with
  | nil => exact .refl
  | cons command waiting ih => exact .head (.run (runs store command)) (ih _)

/-! ## A command that may have an effect -/

/-- The command is not waiting, and its effect is absent. -/
structure Free (command : κ) (effect : σ → Prop) (loop : CommandLoop κ σ) : Prop where
  absent : ¬ effect loop.store
  gone : command ∉ loop.waiting

/-- Only the command has the effect, and nobody else submits it. -/
structure Exclusive (parties : Parties κ σ) (command : κ) (effect : σ → Prop) : Prop where
  runs : ∀ ⦃other store after⦄, other ≠ command → parties.runs other store after →
    ¬ effect store → ¬ effect after
  meddles : ∀ ⦃store after⦄, parties.meddles store after → ¬ effect store → ¬ effect after
  submits : ¬ parties.submits command

theorem not_mem_append {command other : κ} {waiting : List κ} (gone : command ∉ waiting)
    (different : other ≠ command) : command ∉ waiting ++ [other] := by
  rw [List.mem_append, List.mem_singleton]
  rintro (member | rfl)
  · exact gone member
  · exact different rfl

theorem Free.move {parties : Parties κ σ} {command : κ} {effect : σ → Prop}
    (exclusive : Exclusive parties command effect) {loop target : CommandLoop κ σ}
    (free : Free command effect loop) (moved : Move parties loop target) :
    Free command effect target := by
  cases moved with
  | run ran =>
      rcases List.ne_and_not_mem_of_not_mem_cons free.gone with ⟨different, gone⟩
      exact ⟨exclusive.runs different.symm ran free.absent, gone⟩
  | submit submitted =>
      refine ⟨free.absent, not_mem_append free.gone ?_⟩
      rintro rfl
      exact exclusive.submits submitted
  | meddle meddled => exact ⟨exclusive.meddles meddled free.absent, free.gone⟩

/-- Frame rule: once absent and not waiting, the effect never comes. -/
theorem Free.later {parties : Parties κ σ} {command : κ} {effect : σ → Prop}
    (exclusive : Exclusive parties command effect) {loop target : CommandLoop κ σ}
    (free : Free command effect loop) (later : Later parties loop target) :
    Free command effect target :=
  later.keeps (fun _ _ => Free.move exclusive) free

/-! ## Fences -/

/-- The command has left the line, or it stands before a fence that has not run. -/
def Fenced (command : κ) (signals : κ → Prop) (reached : σ → Prop) (loop : CommandLoop κ σ) :
    Prop :=
  command ∉ loop.waiting ∨
    ¬ reached loop.store ∧ ∃ front fence back, loop.waiting = front ++ fence :: back ∧
      (∀ other ∈ front, ¬ signals other) ∧ command ∉ back

/-- Only commands that signal are noticed, and nobody else submits the command. -/
structure Guards (parties : Parties κ σ) (command : κ) (signals : κ → Prop)
    (reached : σ → Prop) : Prop where
  runs : ∀ ⦃other store after⦄, ¬ signals other → parties.runs other store after →
    ¬ reached store → ¬ reached after
  meddles : ∀ ⦃store after⦄, parties.meddles store after → ¬ reached store → ¬ reached after
  submits : ¬ parties.submits command

variable {parties : Parties κ σ} {command : κ} {signals : κ → Prop} {reached : σ → Prop}

theorem Fenced.move (guards : Guards parties command signals reached)
    {loop target : CommandLoop κ σ} (fenced : Fenced command signals reached loop)
    (moved : Move parties loop target) : Fenced command signals reached target := by
  cases moved with
  | @run store after head rest ran =>
      rcases fenced with gone | ⟨unreached, front, fence, back, waiting, silent, behind⟩
      · exact .inl (List.ne_and_not_mem_of_not_mem_cons gone).2
      · cases front with
        | nil =>
            cases waiting
            exact .inl behind
        | cons first front =>
            cases waiting
            rcases List.forall_mem_cons.mp silent with ⟨quiet, silent⟩
            exact .inr ⟨guards.runs quiet ran unreached, front, fence, back, rfl, silent, behind⟩
  | @submit store other waiting submitted =>
      have different : other ≠ command := by
        rintro rfl
        exact guards.submits submitted
      rcases fenced with gone | ⟨unreached, front, fence, back, rfl, silent, behind⟩
      · exact .inl (not_mem_append gone different)
      · exact .inr ⟨unreached, front, fence, back ++ [other], by simp, silent,
          not_mem_append behind different⟩
  | meddle meddled =>
      rcases fenced with gone | ⟨unreached, split⟩
      · exact .inl gone
      · exact .inr ⟨guards.meddles meddled unreached, split⟩

theorem Fenced.later (guards : Guards parties command signals reached)
    {loop target : CommandLoop κ σ} (fenced : Fenced command signals reached loop)
    (later : Later parties loop target) : Fenced command signals reached target :=
  later.keeps (fun _ _ => Fenced.move guards) fenced

/-- A fence that was just appended is behind everything. -/
theorem fenced_append {loop : CommandLoop κ σ} {fence : κ} (unreached : ¬ reached loop.store)
    (silent : ∀ other ∈ loop.waiting, ¬ signals other) :
    Fenced command signals reached ⟨loop.store, loop.waiting ++ [fence]⟩ :=
  .inr ⟨unreached, loop.waiting, fence, [], rfl, silent, List.not_mem_nil⟩

/-- Fence rule: when the fence has run, the command has. -/
theorem Fenced.gone {loop : CommandLoop κ σ} (fenced : Fenced command signals reached loop)
    (run : reached loop.store) : command ∉ loop.waiting := by
  rcases fenced with gone | ⟨unreached, -⟩
  · exact gone
  · exact absurd run unreached

end CommandLoop

end X64dbgMcp.Transition
