import Mathlib.Data.List.Basic
import Mathlib.Data.List.Induction

/-!
# Finite executions of partial labelled transitions

A component is described by a partial function that takes a state and an action
and, when the action is enabled, returns an observation and the next state.
Concurrent components use the same shape: the actions of the different parties
are interleaved in one list, and a disabled action stops the execution.

This file supplies executions, the invariant rule over executions whose steps
satisfy a guard, reachability, and the counting rule for one-shot observations.  It names
nothing of the modelled program.
-/

namespace X64dbgMcp.Transition

universe u v w

/-- A partial transition labelled by actions, with one observation per step. -/
abbrev Step (σ : Type u) (α : Type v) (ο : Type w) :=
  σ → α → Option (ο × σ)

variable {σ : Type u} {α : Type v} {ο : Type w}

/-- Perform a list of actions in order and collect the observations.  A
disabled action makes the whole execution undefined. -/
def execute (next : Step σ α ο) : σ → List α → Option (List ο × σ)
  | state, [] => some ([], state)
  | state, action :: rest =>
      match next state action with
      | none => none
      | some (observation, middle) =>
          (execute next middle rest).map fun result =>
            (observation :: result.1, result.2)

attribute [grind =] execute

@[simp]
theorem execute_nil (next : Step σ α ο) (state : σ) :
    execute next state [] = some ([], state) :=
  rfl

/-- A nonempty execution is one enabled step followed by an execution. -/
theorem execute_cons_eq_some_iff {next : Step σ α ο} {state target : σ}
    {action : α} {rest : List α} {observations : List ο} :
    execute next state (action :: rest) = some (observations, target) ↔
      ∃ observation middle later,
        next state action = some (observation, middle) ∧
          execute next middle rest = some (later, target) ∧
          observations = observation :: later := by
  constructor
  · intro run
    simp only [execute] at run
    split at run
    · contradiction
    · rename_i observation middle stepped
      obtain ⟨⟨later, last⟩, executed, equal⟩ := Option.map_eq_some_iff.mp run
      cases equal
      exact ⟨observation, middle, later, stepped, executed, rfl⟩
  · rintro ⟨observation, middle, later, stepped, executed, rfl⟩
    simp [execute, stepped, executed]

/-- Concatenating executions concatenates their observations. -/
theorem execute_append {next : Step σ α ο} {state middle target : σ} {first second : List α}
    {earlier later : List ο} (left : execute next state first = some (earlier, middle))
    (right : execute next middle second = some (later, target)) :
    execute next state (first ++ second) = some (earlier ++ later, target) := by
  induction first generalizing state earlier with
  | nil =>
      cases left
      exact right
  | cons action rest ih =>
      rcases execute_cons_eq_some_iff.mp left with
        ⟨observation, after, observations, stepped, executed, rfl⟩
      exact execute_cons_eq_some_iff.mpr
        ⟨observation, after, observations ++ later, stepped, ih executed, rfl⟩

/-- An execution of a concatenation splits at its middle state. -/
theorem execute_append_eq_some {next : Step σ α ο} {state target : σ} {first second : List α}
    {observations : List ο}
    (run : execute next state (first ++ second) = some (observations, target)) :
    ∃ earlier middle later,
      execute next state first = some (earlier, middle) ∧
        execute next middle second = some (later, target) ∧
        observations = earlier ++ later := by
  induction first generalizing state observations with
  | nil => exact ⟨[], state, observations, rfl, run, rfl⟩
  | cons action rest ih =>
      rcases execute_cons_eq_some_iff.mp run with
        ⟨observation, after, remaining, stepped, executed, rfl⟩
      rcases ih executed with ⟨earlier, middle, later, left, right, rfl⟩
      exact ⟨observation :: earlier, middle, later,
        execute_cons_eq_some_iff.mpr ⟨observation, after, earlier, stepped, left, rfl⟩, right, rfl⟩

/-- Every state-action pair met along an execution satisfies `guard`.  Nothing
is required after a disabled action. -/
def Along (next : Step σ α ο) (guard : σ → α → Prop) : σ → List α → Prop
  | _, [] => True
  | state, action :: rest =>
      guard state action ∧
        ∀ observation middle, next state action = some (observation, middle) →
          Along next guard middle rest

theorem along_cons_of_some {next : Step σ α ο} {guard : σ → α → Prop} {state middle : σ}
    {action : α} {observation : ο} {rest : List α}
    (stepped : next state action = some (observation, middle)) :
    Along next guard state (action :: rest) ↔
      guard state action ∧ Along next guard middle rest := by
  constructor
  · rintro ⟨guarded, continues⟩
    exact ⟨guarded, continues observation middle stepped⟩
  · rintro ⟨guarded, continues⟩
    refine ⟨guarded, ?_⟩
    intro other target otherStep
    cases stepped.symm.trans otherStep
    exact continues

theorem along_cons_of_none {next : Step σ α ο} {guard : σ → α → Prop} {state : σ}
    {action : α} {rest : List α} (disabled : next state action = none) :
    Along next guard state (action :: rest) ↔ guard state action := by
  constructor
  · exact And.left
  · intro guarded
    refine ⟨guarded, ?_⟩
    intro observation middle stepped
    rw [disabled] at stepped
    contradiction

/-- A decidable guard can be checked along a concrete execution. -/
instance decidableAlong (next : Step σ α ο) (guard : σ → α → Prop)
    [decideGuard : ∀ state action, Decidable (guard state action)] :
    ∀ state actions, Decidable (Along next guard state actions)
  | _, [] => isTrue trivial
  | state, action :: rest =>
      match stepped : next state action with
      | none => decidable_of_iff _ (along_cons_of_none stepped).symm
      | some (_, middle) =>
          haveI := decidableAlong next guard middle rest
          decidable_of_iff _ (along_cons_of_some stepped).symm

/-- The guard that excludes nothing. -/
def anything : σ → α → Prop :=
  fun _ _ => True

theorem along_anything (next : Step σ α ο) (state : σ) (actions : List α) :
    Along next anything state actions := by
  induction actions generalizing state with
  | nil => trivial
  | cons action rest ih => exact ⟨trivial, fun _ middle _ => ih middle⟩

/-- A guard on the actions alone only has to hold of each of them. -/
theorem along_of_forall_mem (next : Step σ α ο) {guard : α → Prop} (state : σ)
    {actions : List α} (each : ∀ action ∈ actions, guard action) :
    Along next (fun _ action => guard action) state actions := by
  induction actions generalizing state with
  | nil => trivial
  | cons action rest ih =>
      exact ⟨each action List.mem_cons_self, fun _ middle _ =>
        ih middle fun later member => each later (List.mem_cons_of_mem action member)⟩

theorem Along.mono {next : Step σ α ο} {strong weak : σ → α → Prop}
    (implies : ∀ state action, strong state action → weak state action)
    {state : σ} {actions : List α} (along : Along next strong state actions) :
    Along next weak state actions := by
  induction actions generalizing state with
  | nil => trivial
  | cons action rest ih =>
      exact ⟨implies state action along.1,
        fun observation middle stepped => ih (along.2 observation middle stepped)⟩

theorem Along.and {next : Step σ α ο} {first second : σ → α → Prop} {state : σ}
    {actions : List α} (left : Along next first state actions)
    (right : Along next second state actions) :
    Along next (fun state action => first state action ∧ second state action) state actions := by
  induction actions generalizing state with
  | nil => trivial
  | cons action rest ih =>
      exact ⟨⟨left.1, right.1⟩, fun observation middle stepped =>
        ih (left.2 observation middle stepped) (right.2 observation middle stepped)⟩

theorem Along.append {next : Step σ α ο} {guard : σ → α → Prop} {state middle : σ}
    {first second : List α} {observations : List ο}
    (run : execute next state first = some (observations, middle))
    (left : Along next guard state first) (right : Along next guard middle second) :
    Along next guard state (first ++ second) := by
  induction first generalizing state observations with
  | nil =>
      cases run
      exact right
  | cons action rest ih =>
      obtain ⟨observation, after, later, stepped, executed, -⟩ :=
        execute_cons_eq_some_iff.mp run
      exact (along_cons_of_some stepped).mpr
        ⟨left.1, ih executed (left.2 observation after stepped)⟩

/-- Two guards that agree wherever the first has held so far guard the same
executions. -/
theorem along_congr {next : Step σ α ο} {first second : σ → α → Prop} {inv : σ → Prop}
    (agree : ∀ ⦃state action observation target⦄, inv state →
      next state action = some (observation, target) →
      (first state action ↔ second state action) ∧ (first state action → inv target))
    {actions : List α} {state target : σ} {observations : List ο} (start : inv state)
    (run : execute next state actions = some (observations, target)) :
    Along next first state actions ↔ Along next second state actions := by
  induction actions generalizing state observations with
  | nil => exact Iff.rfl
  | cons action rest ih =>
      rcases execute_cons_eq_some_iff.mp run with
        ⟨observation, middle, later, stepped, executed, -⟩
      rcases agree start stepped with ⟨same, kept⟩
      rw [along_cons_of_some stepped, along_cons_of_some stepped]
      constructor
      · rintro ⟨here, onward⟩
        exact ⟨same.mp here, (ih (kept here) executed).mp onward⟩
      · rintro ⟨here, onward⟩
        exact ⟨same.mpr here, (ih (kept (same.mpr here)) executed).mpr onward⟩

/-- Guarded steps keep `inv`. -/
def Preserves (next : Step σ α ο) (guard : σ → α → Prop) (inv : σ → Prop) : Prop :=
  ∀ ⦃state action observation target⦄, inv state → guard state action →
    next state action = some (observation, target) → inv target

/-- Invariant rule: what every guarded step keeps, every guarded execution
keeps. -/
theorem Preserves.execute {next : Step σ α ο} {guard : σ → α → Prop}
    {inv : σ → Prop} (preserves : Preserves next guard inv)
    {actions : List α} {state target : σ} {observations : List ο}
    (start : inv state) (along : Along next guard state actions)
    (run : execute next state actions = some (observations, target)) :
    inv target := by
  induction actions generalizing state observations with
  | nil =>
      cases run
      exact start
  | cons action rest ih =>
      obtain ⟨observation, middle, later, stepped, executed, -⟩ :=
        execute_cons_eq_some_iff.mp run
      exact ih (preserves start along.1 stepped)
        (along.2 observation middle stepped) executed

/-- Invariant rule for unguarded executions. -/
theorem Preserves.execute_anything {next : Step σ α ο} {inv : σ → Prop}
    (preserves : Preserves next anything inv)
    {actions : List α} {state target : σ} {observations : List ο}
    (start : inv state)
    (run : Transition.execute next state actions = some (observations, target)) :
    inv target :=
  preserves.execute start (along_anything next state actions) run

/-! ## Reachability -/

/-- Some actions lead from one state to the other. -/
def Reaches (next : Step σ α ο) (state target : σ) : Prop :=
  ∃ actions observations, execute next state actions = some (observations, target)

theorem Reaches.refl {next : Step σ α ο} (state : σ) : Reaches next state state :=
  ⟨[], [], rfl⟩

theorem Reaches.single {next : Step σ α ο} {state target : σ} {action : α} {observation : ο}
    (stepped : next state action = some (observation, target)) : Reaches next state target :=
  ⟨[action], [observation],
    execute_cons_eq_some_iff.mpr ⟨observation, target, [], stepped, rfl, rfl⟩⟩

theorem Reaches.trans {next : Step σ α ο} {state middle target : σ}
    (first : Reaches next state middle) (second : Reaches next middle target) :
    Reaches next state target := by
  rcases first with ⟨actions, observations, run⟩
  rcases second with ⟨others, later, onward⟩
  exact ⟨actions ++ others, observations ++ later, execute_append run onward⟩

theorem Reaches.keeps {next : Step σ α ο} {inv : σ → Prop} (preserves : Preserves next anything inv)
    {state target : σ} (reaches : Reaches next state target) (start : inv state) : inv target := by
  rcases reaches with ⟨actions, observations, run⟩
  exact preserves.execute_anything start run

/-- Crossing rule: between a state where a condition fails and one where it holds, some
step enters it. -/
theorem Reaches.crosses {next : Step σ α ο} {state target : σ}
    (reaches : Reaches next state target) (holds : σ → Prop) (fails : ¬ holds state)
    (held : holds target) :
    ∃ before action observation after, Reaches next state before ∧ ¬ holds before ∧
      next before action = some (observation, after) ∧ holds after ∧ Reaches next after target := by
  rcases reaches with ⟨actions, observations, run⟩
  induction actions generalizing state observations with
  | nil =>
      cases run
      exact absurd held fails
  | cons action rest ih =>
      rcases execute_cons_eq_some_iff.mp run with
        ⟨observation, middle, later, stepped, executed, -⟩
      by_cases entered : holds middle
      · exact ⟨state, action, observation, middle, .refl state, fails, stepped, entered, rest,
          later, executed⟩
      · rcases ih entered later executed with
          ⟨before, next_, observed, after, reaches, outside, crossing, inside, onward⟩
        exact ⟨before, next_, observed, after, (Reaches.single stepped).trans reaches, outside,
          crossing, inside, onward⟩

/-- The execution passes through a state where `holds` is true, ends included. -/
def Visits (next : Step σ α ο) (state : σ) (actions : List α) (holds : σ → Prop) : Prop :=
  ∃ first, first <+: actions ∧
    ∃ earlier middle, execute next state first = some (earlier, middle) ∧ holds middle

theorem visits_cons {next : Step σ α ο} {holds : σ → Prop} {state middle : σ} {action : α}
    {rest : List α} {observation : ο} (stepped : next state action = some (observation, middle))
    (visits : Visits next state (action :: rest) holds) :
    holds state ∨ Visits next middle rest holds := by
  rcases visits with ⟨first, isPrefix, earlier, visited, reaches, held⟩
  cases first with
  | nil =>
      cases reaches
      exact .inl held
  | cons head tail =>
      rcases List.cons_prefix_cons.mp isPrefix with ⟨rfl, tailPrefix⟩
      rcases execute_cons_eq_some_iff.mp reaches with
        ⟨other, after, observations, otherStep, tailReaches, -⟩
      cases stepped.symm.trans otherStep
      exact .inr ⟨tail, tailPrefix, observations, visited, tailReaches, held⟩

/-- Latch rule: what follows from a visited condition and is kept from then on
holds at the end. -/
theorem Visits.latch {next : Step σ α ο} {inv holds closed : σ → Prop}
    (preserves : Preserves next anything inv)
    (latched : Preserves next anything fun state => inv state ∧ closed state)
    (closes : ∀ ⦃state⦄, inv state → holds state → closed state)
    {actions : List α} {state target : σ} {observations : List ο} (start : inv state)
    (visits : Visits next state actions holds)
    (run : Transition.execute next state actions = some (observations, target)) :
    closed target := by
  rcases visits with ⟨first, ⟨rest, rfl⟩, earlier, middle, reaches, held⟩
  rcases execute_append_eq_some run with ⟨_, reached, later, toMiddle, fromMiddle, -⟩
  cases reaches.symm.trans toMiddle
  have good : inv middle := preserves.execute_anything start reaches
  exact (latched.execute_anything ⟨good, closes good held⟩ fromMiddle).2

/-- Exact rule with a history: when a step out of a good state and history stays good
exactly under `guard`, an execution is guarded exactly when it is good throughout. -/
theorem along_iff_forall_history {next : Step σ α ο} {guard : σ → α → Prop}
    {inv : List ο → σ → Prop}
    (exact : ∀ ⦃past state action observation target⦄, inv past state →
      next state action = some (observation, target) →
      (inv (past ++ [observation]) target ↔ guard state action))
    {actions : List α} (past : List ο) {state target : σ} {observations : List ο}
    (start : inv past state)
    (run : execute next state actions = some (observations, target)) :
    Along next guard state actions ↔
      ∀ first, first <+: actions → ∀ earlier middle,
        execute next state first = some (earlier, middle) → inv (past ++ earlier) middle := by
  induction actions generalizing past state observations with
  | nil =>
      constructor
      · intro _ first isPrefix earlier middle executed
        rw [List.prefix_nil.mp isPrefix] at executed
        cases executed
        rw [List.append_nil]
        exact start
      · intro _
        trivial
  | cons action rest ih =>
      rcases execute_cons_eq_some_iff.mp run with
        ⟨observation, after, later, stepped, executed, -⟩
      rw [along_cons_of_some stepped]
      constructor
      · rintro ⟨guarded, along⟩ first isPrefix earlier middle reaches
        have good : inv (past ++ [observation]) after := (exact start stepped).mpr guarded
        cases first with
        | nil =>
            cases reaches
            rw [List.append_nil]
            exact start
        | cons head tail =>
            rcases List.cons_prefix_cons.mp isPrefix with ⟨rfl, tailPrefix⟩
            rcases execute_cons_eq_some_iff.mp reaches with
              ⟨otherObservation, otherAfter, observations, otherStep, tailReaches, rfl⟩
            cases stepped.symm.trans otherStep
            have onward := (ih _ good executed).mp along tail tailPrefix observations middle
              tailReaches
            rwa [List.append_assoc, List.singleton_append] at onward
      · intro throughout
        have single : execute next state [action] = some ([observation], after) :=
          execute_cons_eq_some_iff.mpr ⟨observation, after, [], stepped, rfl, rfl⟩
        have good : inv (past ++ [observation]) after :=
          throughout [action] (List.prefix_append [action] rest) [observation] after single
        constructor
        · exact (exact start stepped).mp good
        · apply (ih _ good executed).mpr
          intro first isPrefix earlier middle reaches
          rw [List.append_assoc]
          exact throughout (action :: first) (List.cons_prefix_cons.mpr ⟨rfl, isPrefix⟩)
            (observation :: earlier) middle (execute_append single reaches)

/-- The exact rule for the states alone. -/
theorem along_iff_forall_prefix {next : Step σ α ο} {guard : σ → α → Prop} {inv : σ → Prop}
    (exact : ∀ ⦃state action observation target⦄, inv state →
      next state action = some (observation, target) → (inv target ↔ guard state action))
    {actions : List α} {state target : σ} {observations : List ο} (start : inv state)
    (run : execute next state actions = some (observations, target)) :
    Along next guard state actions ↔
      ∀ first, first <+: actions → ∀ earlier middle,
        execute next state first = some (earlier, middle) → inv middle :=
  along_iff_forall_history (fun _ _ _ _ _ => @exact _ _ _ _) [] start run

/-- Invariant rule for a relation between the observations so far and the
current state. -/
theorem execute_history {next : Step σ α ο} {guard : σ → α → Prop}
    (inv : List ο → σ → Prop)
    (preserves : ∀ ⦃past state action observation target⦄, inv past state →
      guard state action → next state action = some (observation, target) →
      inv (past ++ [observation]) target)
    {actions : List α} (past : List ο) {state target : σ} {observations : List ο}
    (start : inv past state) (along : Along next guard state actions)
    (run : execute next state actions = some (observations, target)) :
    inv (past ++ observations) target := by
  induction actions generalizing past state observations with
  | nil =>
      cases run
      simpa using start
  | cons action rest ih =>
      obtain ⟨observation, middle, later, stepped, executed, rfl⟩ :=
        execute_cons_eq_some_iff.mp run
      have continued := ih (past ++ [observation]) (preserves start along.1 stepped)
        (along.2 observation middle stepped) executed
      simpa using continued

/-- Invariant rule for a relation between the actions so far and the current
state. -/
theorem execute_past {next : Step σ α ο} {start : σ} (inv : List α → σ → Prop)
    (preserves : ∀ ⦃past earlier state action observation target⦄,
      execute next start past = some (earlier, state) → inv past state →
      next state action = some (observation, target) → inv (past ++ [action]) target)
    {actions : List α} {target : σ} {observations : List ο} (initially : inv [] start)
    (run : execute next start actions = some (observations, target)) : inv actions target := by
  induction actions using List.reverseRecOn generalizing target observations with
  | nil =>
      cases run
      exact initially
  | append_singleton past action ih =>
      rcases execute_append_eq_some run with ⟨earlier, state, later, reaches, last, -⟩
      rcases execute_cons_eq_some_iff.mp last with
        ⟨observation, after, remaining, stepped, stays, -⟩
      cases stays
      exact preserves reaches (ih reaches) stepped

/-- Counting rule for one-shot observations: if a hit needs the latch open and
closes it, and no guarded step opens it again, then a guarded execution has at
most one hit, and none when it starts with the latch closed. -/
theorem countP_le_one_of_latch {next : Step σ α ο} {guard : σ → α → Prop}
    {inv : σ → Prop} (closed : σ → Prop) {hit : ο → Bool}
    (preserves : Preserves next guard inv)
    (closes : ∀ ⦃state action observation target⦄, inv state → guard state action →
      next state action = some (observation, target) → hit observation = true →
      ¬ closed state ∧ closed target)
    (latched : ∀ ⦃state action observation target⦄, inv state → guard state action →
      next state action = some (observation, target) → closed state → closed target)
    {actions : List α} {state target : σ} {observations : List ο}
    (start : inv state) (along : Along next guard state actions)
    (run : execute next state actions = some (observations, target)) :
    observations.countP hit ≤ 1 ∧ (closed state → observations.countP hit = 0) := by
  induction actions generalizing state observations with
  | nil =>
      cases run
      simp
  | cons action rest ih =>
      obtain ⟨observation, middle, later, stepped, executed, rfl⟩ :=
        execute_cons_eq_some_iff.mp run
      obtain ⟨atMost, none_of_closed⟩ :=
        ih (preserves start along.1 stepped) (along.2 observation middle stepped) executed
      cases hits : hit observation with
      | false =>
          rw [List.countP_cons_of_neg (by simp [hits])]
          exact ⟨atMost, fun isClosed =>
            none_of_closed (latched start along.1 stepped isClosed)⟩
      | true =>
          obtain ⟨wasOpen, isClosed⟩ := closes start along.1 stepped hits
          rw [List.countP_cons_of_pos hits, none_of_closed isClosed]
          exact ⟨Nat.le_refl 1, fun alreadyClosed => absurd alreadyClosed wasOpen⟩

end X64dbgMcp.Transition
