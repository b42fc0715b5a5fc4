import X64dbgMcp.Fence.CommandFence

/-!
# Signals of the command fence

What the fence owes its callers, in every interleaving of their calls: who may return
`completed`, and that a signal waits for its `Wait`.  The second holds exactly when no
`Wait` for another token runs into its deadline while the signal is there.
-/

namespace X64dbgMcp.Fence

open Transition

section History

variable (token : UInt64)

/-- The token is given up, or a `Wait` for it has ended. -/
def Releases (event : FenceEvent) : Prop :=
  event = .stopped ∨ event = .cancelled token ∨ event = .waited token .completed ∨
    event = .waited token .timedOut

/-- The latest successful `Arm` of the token holds. -/
def Pending : List FenceEvent → Prop :=
  Since (· = .armed token true) fun event => event = .armed token true ∨ Releases token event

/-- A `Signal` has returned true since the latest successful `Arm`, and nothing has
released the token since that `Arm`. -/
def Signalled (history : List FenceEvent) : Prop :=
  ∃ before after, history = before ++ .armed token true :: after ∧
    .signalled token true ∈ after ∧
      ∀ event ∈ after, ¬ (event = .armed token true ∨ Releases token event)

/-- A `Signal` has returned true, and no `Wait` has ended with it or without it. -/
def Outstanding : List FenceEvent → Prop :=
  Since (· = .signalled token true) (Releases token)

variable {token} {history : List FenceEvent} {event : FenceEvent}

theorem pending_concat :
    Pending token (history ++ [event]) ↔
      event = .armed token true ∨ Pending token history ∧ ¬ Releases token event := by
  unfold Pending
  rw [since_concat]
  tauto

theorem Pending.signalled (pending : Pending token history) :
    Signalled token (history ++ [.signalled token true]) := by
  rcases pending with ⟨before, armed, after, rfl, rfl, lasts⟩
  refine ⟨before, after ++ [.signalled token true], by simp, by simp, ?_⟩
  intro event member
  rcases List.mem_append.mp member with earlier | last
  · exact lasts event earlier
  · rw [List.mem_singleton.mp last]
    simp [Releases]

theorem Signalled.concat (signalled : Signalled token history)
    (arms : event ≠ .armed token true) (keeps : ¬ Releases token event) :
    Signalled token (history ++ [event]) := by
  rcases signalled with ⟨before, after, rfl, member, lasts⟩
  refine ⟨before, after ++ [event], by simp, List.mem_append_left _ member, ?_⟩
  intro other behind
  rcases List.mem_append.mp behind with earlier | last
  · exact lasts other earlier
  · rw [List.mem_singleton.mp last]
    exact not_or.mpr ⟨arms, keeps⟩

theorem Signalled.outstanding (signalled : Signalled token history) :
    Outstanding token history := by
  rcases signalled with ⟨before, after, rfl, member, lasts⟩
  rcases List.append_of_mem member with ⟨between, behind, rfl⟩
  refine ⟨before ++ .armed token true :: between, _, behind, by simp, rfl, ?_⟩
  intro event later
  exact fun releases => lasts event (by simp [later]) (.inr releases)

end History

/-! ## One section -/

section Effect

variable {fence after : CommandFence} {event : FenceEvent} (effect : Effect fence event after)

include effect

theorem Effect.pending_iff (token : UInt64) :
    after.pending = some token ↔
      event = .armed token true ∨ fence.pending = some token ∧ ¬ Releases token event := by
  unfold Releases
  cases effect with
  | otherCancel other =>
      simp only [reduceCtorEq, false_or, or_false, FenceEvent.cancelled.injEq]
      constructor
      · intro pending
        exact ⟨pending, fun same => other (same ▸ pending)⟩
      · exact And.left
  | otherExpire accepting other =>
      simp only [reduceCtorEq, false_or, FenceEvent.waited.injEq, and_false, and_true]
      constructor
      · intro pending
        exact ⟨pending, fun same => other (same ▸ pending)⟩
      · exact And.left
  | _ => simp_all

theorem Effect.accepting_iff :
    after.accepting = true ↔
      event = .started true ∨ fence.accepting = true ∧ event ≠ .stopped := by
  cases effect <;> simp_all

/-- The flag is set by a signal, or it stays set for a token that is not released. -/
theorem Effect.completed (completed : after.completed = true) :
    (∃ token, event = .signalled token true ∧ after.pending = some token ∧
      fence.pending = some token) ∨
    fence.completed = true ∧ after.pending = fence.pending ∧
      ∀ token, fence.pending = some token →
        event ≠ .armed token true ∧ ¬ Releases token event := by
  unfold Releases
  cases effect with
  | otherCancel other =>
      refine .inr ⟨completed, rfl, ?_⟩
      intro token pending
      simp only [ne_eq, reduceCtorEq, not_false_eq_true, false_or, or_false,
        FenceEvent.cancelled.injEq, true_and]
      exact fun same => other (same ▸ pending)
  | _ => simp_all

/-- A section in which a `Wait` for another token takes the flag away. -/
def Loses (fence : CommandFence) (event : FenceEvent) : Prop :=
  fence.completed = true ∧ ∃ token, event = .waited token .timedOut ∧ fence.pending ≠ some token

theorem Effect.keeps (completed : fence.completed = true) {token : UInt64}
    (pending : fence.pending = some token) (unreleased : ¬ Releases token event)
    (spares : ¬ Loses fence event) : after.completed = true := by
  unfold Releases at unreleased
  unfold Loses at spares
  cases effect <;> simp_all

theorem Effect.loses (loses : Loses fence event) : after.completed = false := by
  rcases loses with ⟨-, token, rfl, other⟩
  cases effect <;> rfl

end Effect

/-! ## Invariants -/

/-- The fence has been stopped and not started. -/
def Stopped : List FenceEvent → Prop :=
  Since (· = .stopped) (· = .started true)

/-- What the fence shows of its history. -/
structure Traced (history : List FenceEvent) (fence : CommandFence) : Prop where
  closed : Stopped history → fence.accepting = false
  pending : ∀ token, fence.pending = some token ↔ Pending token history
  signalled : fence.completed = true → ∃ token, fence.pending = some token ∧
    Signalled token history
  idle : fence.accepting = false → fence.completed = false

/-- Every outstanding signal is there. -/
def Live (history : List FenceEvent) (fence : CommandFence) : Prop :=
  ∀ token, Outstanding token history → fence.pending = some token ∧ fence.completed = true

variable {history : List FenceEvent} {fence : CommandFence} {event : FenceEvent}

theorem traced_initial : Traced [] FenceSystem.initial.fence where
  closed := by simp [Stopped]
  pending := by simp [FenceSystem.initial, Pending]
  signalled := nofun
  idle _ := rfl

theorem live_initial : Live [] FenceSystem.initial.fence := by
  simp [Live, Outstanding]

theorem Traced.effect {after : CommandFence} (traced : Traced history fence)
    (effect : Effect fence event after) : Traced (history ++ [event]) after := by
  constructor
  · intro closed
    rw [← Bool.not_eq_true, effect.accepting_iff]
    rcases since_concat.mp closed with rfl | ⟨before, unstarted⟩
    · simp
    · rw [traced.closed before]
      simp [unstarted]
  · intro token
    rw [effect.pending_iff, pending_concat, traced.pending]
  · intro completed
    rcases effect.completed completed with ⟨token, rfl, pending, before⟩ | ⟨set, same, keeps⟩
    · exact ⟨token, pending, ((traced.pending token).mp before).signalled⟩
    · rcases traced.signalled set with ⟨token, pending, signalled⟩
      rcases keeps token pending with ⟨arms, unreleased⟩
      exact ⟨token, same.trans pending, signalled.concat arms unreleased⟩
  · have idle := traced.idle
    cases effect <;> simp_all

/-- A section keeps the outstanding signals exactly when it takes none away. -/
theorem Live.effect_iff {after : CommandFence} (live : Live history fence)
    (traced : Traced history fence) (effect : Effect fence event after) :
    Live (history ++ [event]) after ↔ ¬ Loses fence event := by
  constructor
  · intro later loses
    have gone := effect.loses loses
    rcases loses with ⟨completed, token, rfl, other⟩
    rcases traced.signalled completed with ⟨mine, pending, signalled⟩
    have unreleased : ¬ Releases mine (.waited token .timedOut) := by
      rintro (same | same | same | same) <;> cases same
      exact other pending
    have kept := later mine (since_concat.mpr (.inr ⟨signalled.outstanding, unreleased⟩))
    rw [gone] at kept
    cases kept.2
  · intro spares token outstanding
    rcases since_concat.mp outstanding with rfl | ⟨before, unreleased⟩
    · cases effect
      exact ⟨rfl, rfl⟩
    · rcases live token before with ⟨pending, completed⟩
      exact ⟨(effect.pending_iff token).mpr (.inr ⟨pending, unreleased⟩),
        effect.keeps completed pending unreleased spares⟩

/-! ## What the fence owes its callers -/

/-- The contract, after a history: a `Wait` that returns `completed` has a signal
behind the latest `Arm`; an outstanding signal ends every `Wait` for its token; one
token is pending; and no `Wait` returns `completed` between `Stop` and `Start`. -/
structure Kept (history : List FenceEvent) (system : FenceSystem) : Prop where
  completes : ∀ call token after,
    fenceNext system call = some (.waited token .completed, after) → Signalled token history
  delivers : ∀ token, Outstanding token history → ∀ waiter late,
    (system.waitSection waiter token late).1 = .waited token .completed
  single : ∀ token other, Pending token history → Pending other history → token = other
  closed : Stopped history → ∀ call token after,
    fenceNext system call ≠ some (.waited token .completed, after)

theorem Effect.of_completed {after : CommandFence} {token : UInt64}
    (effect : Effect fence (.waited token .completed) after) :
    fence.accepting = true ∧ fence.pending = some token ∧ fence.completed = true := by
  cases effect with
  | complete accepting pending completed => exact ⟨accepting, pending, completed⟩

theorem waitSection_completed (system : FenceSystem) (token : UInt64) :
    (∀ waiter late, (system.waitSection waiter token late).1 = .waited token .completed) ↔
      system.fence.accepting = true ∧ system.fence.pending = some token ∧
        system.fence.completed = true := by
  constructor
  · intro ends
    have effect := waitSection_effect system 0 token false
    rw [ends 0 false] at effect
    exact effect.of_completed
  · rintro ⟨accepting, pending, completed⟩ waiter late
    simp [FenceSystem.waitSection, CommandFence.released, CommandFence.observe, accepting, pending,
      completed]

theorem Traced.kept_iff {system : FenceSystem} (traced : Traced history system.fence) :
    Kept history system ↔ Live history system.fence := by
  constructor
  · intro kept token outstanding
    exact ((waitSection_completed system token).mp (kept.delivers token outstanding)).2
  · intro live
    constructor
    · intro call token after stepped
      rcases (fenceNext_effect stepped).of_completed with ⟨-, pending, completed⟩
      rcases traced.signalled completed with ⟨mine, isMine, signalled⟩
      cases pending.symm.trans isMine
      exact signalled
    · intro token outstanding
      rcases live token outstanding with ⟨pending, completed⟩
      refine (waitSection_completed system token).mpr ⟨?_, pending, completed⟩
      rw [← Bool.not_eq_false]
      intro idle
      exact Bool.false_ne_true ((traced.idle idle).symm.trans completed)
    · intro token other mine others
      have same := ((traced.pending token).mpr mine).symm.trans ((traced.pending other).mpr others)
      exact Option.some.inj same
    · intro stopped call token after stepped
      have idle := traced.closed stopped
      rw [(fenceNext_effect stepped).of_completed.1] at idle
      cases idle

/-- No `Wait` runs into its deadline while the signal of another token is there. -/
def Spares (system : FenceSystem) : FenceCall → Prop
  | .expire waiter =>
      match system.waiters waiter with
      | some token => system.fence.completed = true → system.fence.pending = some token
      | none => True
  | _ => True

instance (system : FenceSystem) (call : FenceCall) : Decidable (Spares system call) := by
  unfold Spares
  split
  · split <;> infer_instance
  · infer_instance

/-- A section of a `Wait` that is not late does not time out. -/
theorem waitSection_early (system : FenceSystem) (waiter : Nat) (token other : UInt64) :
    (system.waitSection waiter token false).1 ≠ .waited other .timedOut := by
  simp only [FenceSystem.waitSection, Bool.or_false]
  split_ifs with released
  · simp only [ne_eq, FenceEvent.waited.injEq, not_and, CommandFence.observe, released]
    rintro -
    simp only [CommandFence.released, Bool.or_eq_true, Bool.and_eq_true, beq_iff_eq] at released
    rcases released with idle | ⟨pending, completed⟩
    · simp [idle]
    · split_ifs <;> simp_all
  · simp

theorem waitSection_late (system : FenceSystem) (waiter : Nat) (token : UInt64) :
    (system.waitSection waiter token true).1 =
      .waited token (system.fence.observe token (system.fence.released token)).1 := by
  simp [FenceSystem.waitSection]

theorem observe_timedOut {token : UInt64} (completed : fence.completed = true)
    (accepting : fence.accepting = true) :
    (fence.observe token (fence.released token)).1 = .timedOut ↔ fence.pending ≠ some token := by
  by_cases same : fence.pending = some token <;>
    simp [CommandFence.observe, CommandFence.released, accepting, completed, same]

theorem Traced.spares_iff {system after : FenceSystem} {call : FenceCall}
    (traced : Traced history system.fence)
    (stepped : fenceNext system call = some (event, after)) :
    Spares system call ↔ ¬ Loses system.fence event := by
  have early : ∀ {waiter token}, system.waitSection waiter token false = (event, after) →
      ¬ Loses system.fence event := by
    rintro waiter token same ⟨-, other, rfl, -⟩
    exact waitSection_early system waiter token other (congrArg Prod.fst same)
  have unrelated : (∀ token, event ≠ .waited token .timedOut) → ¬ Loses system.fence event := by
    rintro other ⟨-, token, same, -⟩
    exact other token same
  cases call with
  | expire waiter =>
      rcases Option.map_eq_some_iff.mp stepped with ⟨token, waits, same⟩
      have result := (waitSection_late system waiter token).symm.trans (congrArg Prod.fst same)
      simp only [Spares, waits, Loses, not_and, not_exists, not_not]
      constructor
      · rintro spares completed other rfl
        injection result with sameToken timedOut
        exact sameToken ▸ spares completed
      · intro spares completed
        by_contra other
        have accepting : system.fence.accepting = true := by
          rw [← Bool.not_eq_false]
          exact fun idle => Bool.false_ne_true ((traced.idle idle).symm.trans completed)
        rw [(observe_timedOut completed accepting).mpr other] at result
        exact other (spares completed token result.symm)
  | wait waiter token =>
      simp only [fenceNext] at stepped
      split_ifs at stepped
      exact iff_of_true trivial (early (Option.some.inj stepped))
  | wake waiter =>
      rcases Option.map_eq_some_iff.mp stepped with ⟨token, -, same⟩
      exact iff_of_true trivial (early same)
  | _ =>
      cases stepped
      exact iff_of_true trivial (unrelated (by simp))

/-- In every interleaving from the construction of the fence, the contract holds after
every section exactly when no `Wait` runs into its deadline while the signal of another
token is there. -/
theorem fence_contract {calls : List FenceCall} {events : List FenceEvent} {system : FenceSystem}
    (run : execute fenceNext .initial calls = some (events, system)) :
    Along fenceNext Spares .initial calls ↔
      ∀ first, first <+: calls → ∀ earlier middle,
        execute fenceNext .initial first = some (earlier, middle) → Kept earlier middle := by
  have traced : ∀ {calls events system},
      execute fenceNext .initial calls = some (events, system) → Traced events system.fence := by
    intro calls events system run
    refine execute_history (fun history system => Traced history system.fence) ?_ []
      traced_initial (along_anything fenceNext _ _) run
    exact fun _ _ _ _ _ traced _ stepped => traced.effect (fenceNext_effect stepped)
  let inv := fun history system =>
    Traced history system.fence ∧ Live history (FenceSystem.fence system)
  have exact : ∀ ⦃past system call event after⦄, inv past system →
      fenceNext system call = some (event, after) →
      (inv (past ++ [event]) after ↔ Spares system call) := by
    rintro past system call event after ⟨shown, live⟩ stepped
    have effect := fenceNext_effect stepped
    rw [shown.spares_iff stepped, ← live.effect_iff shown effect]
    exact ⟨And.right, fun later => ⟨shown.effect effect, later⟩⟩
  rw [along_iff_forall_history exact [] ⟨traced_initial, live_initial⟩ run]
  constructor
  · intro throughout first isPrefix earlier middle reaches
    rcases throughout first isPrefix earlier middle reaches with ⟨shown, live⟩
    exact shown.kept_iff.mpr live
  · intro throughout first isPrefix earlier middle reaches
    have shown := traced reaches
    exact ⟨shown, shown.kept_iff.mp (throughout first isPrefix earlier middle reaches)⟩

/-- A `Wait` for another token is there and does not expire. -/
theorem fence_contract_signalled :
    Along fenceNext Spares .initial [.start, .arm 1, .wait 0 2, .signal 1, .wake 0, .wait 1 1] ∧
      ∀ first, first <+: [.start, .arm 1, .wait 0 2, .signal 1, .wake 0, .wait 1 1] →
        ∀ earlier middle,
          execute fenceNext .initial first = some (earlier, middle) → Kept earlier middle := by
  have spares : Along fenceNext Spares .initial
      [.start, .arm 1, .wait 0 2, .signal 1, .wake 0, .wait 1 1] := by
    decide
  exact ⟨spares, (fence_contract rfl).mp spares⟩

/-- The `Wait` of the token 2 sleeps through `Stop` and `Start` and expires between the
signal of the token 1 and its `Wait`, which then blocks and times out. -/
theorem fence_loses_signal :
    ∃ events system blocked after,
      execute fenceNext .initial
          [.start, .arm 2, .wait 0 2, .stop, .start, .arm 1, .signal 1, .expire 0] =
        some (events, system) ∧
      Outstanding 1 events ∧
      fenceNext system (.wait 1 1) = some (.blocked 1, blocked) ∧
      fenceNext blocked (.expire 1) = some (.waited 1 .timedOut, after) ∧
      ¬ Kept events system := by
  have outstanding : Outstanding 1 [.started true, .armed 2 true, .blocked 2, .stopped,
      .started true, .armed 1 true, .signalled 1 true, .waited 2 .timedOut] := by
    refine ⟨[.started true, .armed 2 true, .blocked 2, .stopped, .started true, .armed 1 true], _,
      [.waited 2 .timedOut], rfl, rfl, ?_⟩
    intro event member
    rw [List.mem_singleton.mp member]
    simp [Releases]
  refine ⟨_, _, _, _, rfl, outstanding, rfl, rfl, ?_⟩
  intro kept
  have ends := kept.delivers 1 outstanding 1 false
  cases ends

end X64dbgMcp.Fence
