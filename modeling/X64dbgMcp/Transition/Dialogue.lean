import X64dbgMcp.Transition.Since

/-!
# Dialogues with an environment

A component that asks its environment one thing after another is a tree: a question has
one branch for every answer.  The environment is a relation, for it may answer in more
than one way and change its own state before it answers.

This file supplies the runs of a dialogue, the conditions under which all of them end
well, and the environment that only writes down what was asked and answered.  It names
nothing of the modelled program.
-/

namespace X64dbgMcp.Transition

universe u

/-- A question `ι` is answered by a value of `ρ question`. -/
inductive Dialogue (ι : Type) (ρ : ι → Type) (α : Type) where
  | done (value : α)
  | ask (question : ι) (next : ρ question → Dialogue ι ρ α)

/-- How a state answers a question, and the state behind the answer. -/
abbrev Environment (σ : Type u) (ι : Type) (ρ : ι → Type) :=
  σ → (question : ι) → ρ question → σ → Prop

variable {σ τ : Type u} {ι : Type} {ρ : ι → Type} {α β : Type}

namespace Dialogue

/-- One dialogue behind the other. -/
protected def bind : Dialogue ι ρ α → (α → Dialogue ι ρ β) → Dialogue ι ρ β
  | done value, rest => rest value
  | ask question next, rest => ask question fun answer => (next answer).bind rest

instance : Monad (Dialogue ι ρ) where
  pure := done
  bind := Dialogue.bind

/-- A single question. -/
def put (question : ι) : Dialogue ι ρ (ρ question) :=
  ask question done

/-- The dialogue can end with a value and in a state. -/
inductive Runs (environment : Environment σ ι ρ) : Dialogue ι ρ α → σ → α → σ → Prop
  | done {value : α} {state : σ} : Runs environment (done value) state value state
  | ask {question : ι} {next : ρ question → Dialogue ι ρ α} {state middle target : σ}
      {answer : ρ question} {value : α} (answered : environment state question answer middle)
      (runs : Runs environment (next answer) middle value target) :
      Runs environment (ask question next) state value target

/-- However the environment answers, the dialogue ends as `ends` says. -/
def Meets (environment : Environment σ ι ρ) (ends : α → σ → Prop) : Dialogue ι ρ α → σ → Prop
  | done value, state => ends value state
  | ask question next, state =>
      ∀ answer middle, environment state question answer middle →
        (next answer).Meets environment ends middle

variable {environment : Environment σ ι ρ} {ends weaker : α → σ → Prop}

theorem meets_iff {dialogue : Dialogue ι ρ α} {state : σ} :
    dialogue.Meets environment ends state ↔
      ∀ value target, Runs environment dialogue state value target → ends value target := by
  constructor
  · intro meets value target runs
    induction runs with
    | done => exact meets
    | ask answered _ ih => exact ih (meets _ _ answered)
  · intro each
    induction dialogue generalizing state with
    | done value => exact each value state .done
    | ask question next ih =>
        intro answer middle answered
        apply ih
        intro value target runs
        exact each value target (.ask answered runs)

@[simp]
theorem meets_done {value : α} {state : σ} :
    (done value : Dialogue ι ρ α).Meets environment ends state ↔ ends value state :=
  Iff.rfl

@[simp]
theorem meets_pure {value : α} {state : σ} :
    (pure value : Dialogue ι ρ α).Meets environment ends state ↔ ends value state :=
  Iff.rfl

@[simp]
theorem meets_put {question : ι} {ends : ρ question → σ → Prop} {state : σ} :
    (put question).Meets environment ends state ↔
      ∀ answer middle, environment state question answer middle → ends answer middle :=
  Iff.rfl

/-- Sequencing rule: the rest is met wherever the first part can end. -/
@[simp]
theorem meets_bind {first : Dialogue ι ρ α} {rest : α → Dialogue ι ρ β}
    {ends : β → σ → Prop} {state : σ} :
    (first >>= rest).Meets environment ends state ↔
      first.Meets environment
        (fun value middle => (rest value).Meets environment ends middle) state := by
  induction first generalizing state with
  | done value => exact Iff.rfl
  | ask question next ih =>
      constructor
      · intro meets answer middle answered
        exact (ih answer).mp (meets answer middle answered)
      · intro meets answer middle answered
        exact (ih answer).mpr (meets answer middle answered)

@[simp]
theorem meets_ite {condition : Prop} [Decidable condition] {first second : Dialogue ι ρ α}
    {state : σ} :
    (if condition then first else second).Meets environment ends state ↔
      (condition → first.Meets environment ends state) ∧
        (¬ condition → second.Meets environment ends state) := by
  split <;> simp [*]

/-- Consequence rule. -/
theorem Meets.mono {dialogue : Dialogue ι ρ α} {state : σ}
    (meets : dialogue.Meets environment ends state)
    (implies : ∀ value target, ends value target → weaker value target) :
    dialogue.Meets environment weaker state := by
  rw [meets_iff] at meets ⊢
  intro value target runs
  exact implies value target (meets value target runs)

theorem Meets.and {dialogue : Dialogue ι ρ α} {state : σ}
    (first : dialogue.Meets environment ends state)
    (second : dialogue.Meets environment weaker state) :
    dialogue.Meets environment (fun value target => ends value target ∧ weaker value target)
      state := by
  rw [meets_iff] at first second ⊢
  intro value target runs
  exact ⟨first value target runs, second value target runs⟩

/-- Invariant rule: what every answer keeps, every dialogue keeps. -/
theorem meets_of_preserved {holds : σ → Prop}
    (preserved : ∀ ⦃state question answer target⦄, holds state →
      environment state question answer target → holds target)
    (dialogue : Dialogue ι ρ α) {state : σ} (start : holds state) :
    dialogue.Meets environment (fun _ => holds) state := by
  induction dialogue generalizing state with
  | done value => exact start
  | ask question next ih =>
      intro answer middle answered
      exact ih answer (preserved start answered)

/-- Projection rule: a run stays one where the projected environment allows every answer. -/
theorem Runs.project {other : Environment τ ι ρ} (project : σ → τ)
    (allowed : ∀ ⦃state question answer target⦄, environment state question answer target →
      other (project state) question answer (project target))
    {dialogue : Dialogue ι ρ α} {state target : σ} {value : α}
    (runs : Runs environment dialogue state value target) :
    Runs other dialogue (project state) value (project target) := by
  induction runs with
  | done => exact .done
  | ask answered _ ih => exact .ask (allowed answered) ih

/-- Bounded repetition: at most so many rounds, until one of them ends it. -/
def repeatUpTo (round : Dialogue ι ρ (Option α)) : Nat → Dialogue ι ρ (Option α)
  | 0 => done none
  | rounds + 1 => do
      match ← round with
      | some value => done (some value)
      | none => repeatUpTo round rounds

attribute [grind =] repeatUpTo

/-- Loop rule: rounds that go on keep the invariant. -/
theorem meets_repeatUpTo {round : Dialogue ι ρ (Option α)} {holds : σ → Prop}
    {ends : Option α → σ → Prop}
    (once : ∀ state, holds state → round.Meets environment
      (fun result target => (result = none → holds target) ∧
        (result.isSome = true → ends result target)) state)
    (expired : ∀ state, holds state → ends none state) (rounds : Nat) {state : σ}
    (start : holds state) : (repeatUpTo round rounds).Meets environment ends state := by
  induction rounds generalizing state with
  | zero => exact expired state start
  | succ rounds ih =>
      rw [repeatUpTo, meets_bind]
      apply (once state start).mono
      rintro (_ | value) target ⟨goes, stops⟩
      · exact ih (goes rfl)
      · exact stops rfl

/-! ## Records -/

/-- A question with its answer. -/
structure Exchange (ι : Type) (ρ : ι → Type) where
  question : ι
  answer : ρ question

/-- Any answer may come; what was asked and answered is written down. -/
def recording : Environment (List (Exchange ι ρ)) ι ρ :=
  fun past question answer record => record = past ++ [⟨question, answer⟩]

@[simp]
theorem recording_iff {past record : List (Exchange ι ρ)} {question : ι} {answer : ρ question} :
    recording past question answer record ↔ record = past ++ [⟨question, answer⟩] :=
  Iff.rfl

/-- Recording rule: the condition must hold behind every answer. -/
@[simp]
theorem meets_put_recording {question : ι} {ends : ρ question → List (Exchange ι ρ) → Prop}
    {past : List (Exchange ι ρ)} :
    (put question).Meets recording ends past ↔ ∀ answer, ends answer (past ++ [⟨question, answer⟩]) := by
  simp

/-! ## Runs against a function -/

/-- The run in which a function of the state gives every answer. -/
def follow (answers : σ → (question : ι) → ρ question × σ) : Dialogue ι ρ α → σ → α × σ
  | done value, state => (value, state)
  | ask question next, state =>
      (next (answers state question).1).follow answers (answers state question).2

theorem runs_follow {answers : σ → (question : ι) → ρ question × σ}
    (allowed : ∀ state question,
      environment state question (answers state question).1 (answers state question).2)
    (dialogue : Dialogue ι ρ α) (state : σ) :
    Runs environment dialogue state (dialogue.follow answers state).1
      (dialogue.follow answers state).2 := by
  induction dialogue generalizing state with
  | done value => exact .done
  | ask question next ih => exact .ask (allowed state question) (ih _ _)

/-- The run in which `oracle` gives every answer, with its record. -/
def play (oracle : List (Exchange ι ρ) → (question : ι) → ρ question) :
    Dialogue ι ρ α → List (Exchange ι ρ) → α × List (Exchange ι ρ) :=
  follow fun past question => (oracle past question, past ++ [⟨question, oracle past question⟩])

theorem runs_play (oracle : List (Exchange ι ρ) → (question : ι) → ρ question)
    (dialogue : Dialogue ι ρ α) (past : List (Exchange ι ρ)) :
    Runs recording dialogue past (dialogue.play oracle past).1 (dialogue.play oracle past).2 :=
  runs_follow (fun _ _ => rfl) dialogue past

end Dialogue

end X64dbgMcp.Transition
