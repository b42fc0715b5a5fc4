import X64dbgMcp.Runtime.DebuggerEvent

/-!
# The snapshot bracket

A reader of the paused debuggee takes the generation before it reads and checks
it afterwards.  This is sound because every step that changes what the reader
relies on moves the generation.  `Effect` says what one step can do to the
generation, the five observed fields and the generation stamps; the invariants
and the bracket follow from it.
-/

namespace X64dbgMcp.Runtime

open Trace

/-- The part of the state that the bracket is about. -/
structure Core where
  observation : Observation
  generation : Nat
  pausedGeneration : Nat
  runningGeneration : Nat
  absentGeneration : Nat
  attachGeneration : Nat
  detachGeneration : Nat

/-- The bracketed part of a state. -/
def State.core (state : State) : Core where
  observation := state.observation
  generation := state.generation
  pausedGeneration := state.pausedGeneration
  runningGeneration := state.runningGeneration
  absentGeneration := state.absentGeneration
  attachGeneration := state.attachGeneration
  detachGeneration := state.detachGeneration

namespace Core

/-- The generations at which something was last observed. -/
def stamps (core : Core) : List Nat :=
  [core.pausedGeneration, core.runningGeneration, core.absentGeneration,
    core.attachGeneration, core.detachGeneration]

/-- The stamp of a state of the debuggee. -/
def observedGeneration (core : Core) : DebuggeeState → Nat
  | .paused => core.pausedGeneration
  | .running => core.runningGeneration
  | .absent => core.absentGeneration
  | .starting | .stopping | .exited => 0

/-- Stamps never run ahead of the generation, and a paused debuggee was paused
after it last ran and after it was last absent. -/
structure Bracketed (core : Core) : Prop where
  stamps : ∀ stamp ∈ core.stamps, stamp ≤ core.generation
  paused : core.observation.debuggeeState = .paused →
    core.observation.latestPause.generation = core.pausedGeneration ∧
      max core.runningGeneration core.absentGeneration < core.pausedGeneration

/-- What one step can do. -/
inductive Effect (before after : Core) : Prop where
  | unchanged (same : after = before)
  /-- A new generation that keeps the state, its pause and the stamps. -/
  | moved
      (generation : after.generation = before.generation + 1)
      (stamps : after.stamps = before.stamps)
      (state : after.observation.debuggeeState = before.observation.debuggeeState)
      (pause : after.observation.latestPause = before.observation.latestPause)
  /-- A new generation for a new state or a new pause. -/
  | entered
      (generation : after.generation = before.generation + 1)
      (stamps : ∀ stamp ∈ after.stamps, stamp ∈ before.stamps ∨ stamp = after.generation)
      (paused : after.observation.debuggeeState = .paused →
        after.observation.latestPause.generation = after.generation ∧
          after.pausedGeneration = after.generation ∧
          after.runningGeneration = before.runningGeneration ∧
          after.absentGeneration = before.absentGeneration)
      (told : ∀ state, after.observedGeneration state ≠ before.observedGeneration state →
        after.observation.debuggeeState = state ∧
          after.observedGeneration state = after.generation)

variable {before after : Core}

theorem Effect.generation_le (effect : Effect before after) :
    before.generation ≤ after.generation := by
  cases effect with
  | unchanged same => exact Nat.le_of_eq (congrArg Core.generation same.symm)
  | moved generation => omega
  | entered generation => omega

/-- A step that changes an observed field moves the generation. -/
theorem Effect.generation_lt (effect : Effect before after)
    (changed : after.observation ≠ before.observation) :
    before.generation < after.generation := by
  cases effect with
  | unchanged same => exact absurd (congrArg Core.observation same) changed
  | moved generation => omega
  | entered generation => omega

/-- Step lemma of the invariant. -/
theorem Effect.bracketed (effect : Effect before after) (bracketed : before.Bracketed) :
    after.Bracketed := by
  cases effect with
  | unchanged same => exact same ▸ bracketed
  | moved generation stamps state pause =>
      refine ⟨?_, ?_⟩
      · intro stamp member
        rw [stamps] at member
        have bounded := bracketed.stamps stamp member
        omega
      · simp only [Core.stamps, List.cons.injEq] at stamps
        intro isPaused
        rw [pause, stamps.1, stamps.2.1, stamps.2.2.1]
        exact bracketed.paused (state ▸ isPaused)
  | entered generation stamps paused told =>
      refine ⟨?_, ?_⟩
      · intro stamp member
        rcases stamps stamp member with known | fresh
        · have bounded := bracketed.stamps stamp known
          omega
        · omega
      · intro isPaused
        obtain ⟨pauseEq, pausedEq, runningEq, absentEq⟩ := paused isPaused
        have running := bracketed.stamps before.runningGeneration (by simp [Core.stamps])
        have absent := bracketed.stamps before.absentGeneration (by simp [Core.stamps])
        rw [pauseEq, pausedEq, runningEq, absentEq]
        omega

end Core

/-! ## Plans whose pause may be dropped -/

namespace Plan

/-- The callback changes neither the origin nor the identity of the debuggee. -/
structure Quiet (plan : Plan) : Prop where
  resetOrigin : plan.resetOrigin = false
  markLaunched : plan.markLaunched = false
  markAttached : plan.markAttached = false
  clearProcess : plan.clearProcess = false
  processId : plan.callbackProcessId = none
  threadId : plan.callbackThreadId = none

/-- Only quiet callbacks can be taken for a repetition of the current pause. -/
def RepeatsQuietly (plan : Plan) : Prop :=
  plan.callbackType = .pauseDebug ∨ plan.pause.kind = .userPause → plan.Quiet

theorem repeatsQuietly_exception (info : Option ExceptionInfo) :
    (exception info).RepeatsQuietly :=
  fun _ => ⟨rfl, rfl, rfl, rfl, rfl, rfl⟩

theorem repeatsQuietly_asOwnedPause (info : Option ExceptionInfo) :
    (exception info).asOwnedPause.RepeatsQuietly :=
  fun _ => ⟨rfl, rfl, rfl, rfl, rfl, rfl⟩

theorem repeatsQuietly_pauseDebug : pauseDebug.RepeatsQuietly :=
  fun _ => ⟨rfl, rfl, rfl, rfl, rfl, rfl⟩

theorem repeatsQuietly_of_kind {plan : Plan} (type : plan.callbackType ≠ .pauseDebug)
    (kind : plan.pause.kind ≠ .userPause) : plan.RepeatsQuietly := by
  rintro (isPause | isUser)
  · exact absurd isPause type
  · exact absurd isUser kind

end Plan

namespace State

/-! ## Frame lemmas -/

@[simp]
theorem core_recordEventLocked (state : State) (input : RecordInput) (event : EventRecord) :
    (state.recordEventLocked input event).2.core = state.core :=
  rfl

@[simp]
theorem core_commitTraceEventLocked (state : State) (callbackType : CallbackType)
    (processDied : Bool) :
    (state.commitTraceEventLocked callbackType processDied).core = state.core :=
  rfl

@[simp]
theorem core_finishCreateThread (state : State) (wait : HandshakeWait) :
    (state.finishCreateThread wait).core = state.core := by
  simp only [finishCreateThread]
  split <;> rfl

theorem core_onCreateThread (state : State) (info : CreateThreadInfo) :
    (state.onCreateThread info).core = state.core := by
  simp only [onCreateThread]
  split
  · rfl
  · split
    · rfl
    · split
      · rfl
      · simp

theorem core_handshakeEnded {state target : State} {index : Nat}
    (ended : state.handshakeEnded index = some target) : target.core = state.core := by
  simp only [handshakeEnded] at ended
  split at ended
  · contradiction
  · split at ended <;> cases ended
    · simp only [core_finishCreateThread]
      rfl
    · rfl

theorem core_onTraceExecute (state : State) (now : TimePoint) (info : TraceExecuteInfo) :
    (state.onTraceExecute now info).2.core = state.core := by
  simp only [onTraceExecute]
  split <;> rfl

@[simp]
theorem core_planException (state : State) (info : Option ExceptionInfo) :
    (state.planException info).2.core = state.core := by
  simp only [planException]
  split <;> rfl

@[simp]
theorem core_updateSession (state : State) (plan : Plan) :
    (state.updateSession plan).core = state.core :=
  rfl

@[simp]
theorem core_correlateException (state : State) (plan : Plan) :
    (state.correlateException plan).2.core = state.core := by
  simp only [correlateException]
  split
  · rfl
  · split <;> rfl

theorem core_identified_of_quiet (state : State) {plan : Plan} (quiet : plan.Quiet) :
    ((state.updateOrigin plan).updateIdentity plan).2.core = state.core := by
  obtain ⟨resetOrigin, markLaunched, markAttached, clearProcess, processId, threadId⟩ := quiet
  simp [updateOrigin, updateIdentity, core, observation, resetOrigin, markLaunched,
    markAttached, clearProcess, processId, threadId]

/-! ## Plans through correlation -/

theorem repeatsQuietly_planException (state : State) (info : Option ExceptionInfo) :
    (state.planException info).1.RepeatsQuietly := by
  simp only [planException]
  split
  · exact Plan.repeatsQuietly_asOwnedPause info
  · exact Plan.repeatsQuietly_exception info

/-- Correlation can only turn the pause into an exception. -/
theorem repeatsQuietly_correlateException (state : State) {plan : Plan}
    (quietly : plan.RepeatsQuietly) : (state.correlateException plan).1.RepeatsQuietly := by
  simp only [correlateException]
  split
  · rintro (isPause | isUser)
    · obtain ⟨resetOrigin, markLaunched, markAttached, clearProcess, processId, threadId⟩ :=
        quietly (.inl isPause)
      exact ⟨resetOrigin, markLaunched, markAttached, clearProcess, processId, threadId⟩
    · cases isUser
  · split <;> exact quietly

@[simp]
theorem callbackType_updateIdentity (state : State) (plan : Plan) :
    (state.updateIdentity plan).1.callbackType = plan.callbackType :=
  rfl

@[simp]
theorem pauseKind_updateIdentity (state : State) (plan : Plan) :
    (state.updateIdentity plan).1.pause.kind = plan.pause.kind := by
  simp only [updateIdentity]
  split <;> split <;> rfl

/-! ## One generation per commit -/

section Commit

variable {before : Core} {state : State}

/-- The state about to be committed differs from the one before the callback
only in what is observed of the debuggee. -/
def Identified (before : Core) (state : State) : Prop :=
  state.core = { before with observation := state.observation }

theorem effect_refinePause (identified : Identified before state)
    (paused : state.debuggeeState = .paused) (input : RecordInput) (plan : Plan) :
    before.Effect (state.refinePause input plan).2.core := by
  have same := identified
  simp only [Identified, State.core, Core.mk.injEq, true_and] at same
  obtain ⟨generation, -, running, absent, attach, detach⟩ := same
  refine .entered ?_ ?_ ?_ ?_
  · simp [refinePause, State.core, ← generation, recordEventLocked]
  · simp [refinePause, State.core, Core.stamps, ← running, ← absent, ← attach, ← detach,
      recordEventLocked]
  · simp [refinePause, State.core, State.observation, ← running, ← absent, recordEventLocked]
  · intro observed changed
    cases observed with
    | paused => exact ⟨paused, rfl⟩
    | running => exact absurd running changed
    | absent => exact absurd absent changed
    | _ => exact absurd rfl changed

theorem effect_commitState (identified : Identified before state)
    (input : CallbackInput) (plan : Plan) :
    before.Effect (state.commitState input plan).2.core := by
  have same := identified
  simp only [Identified, State.core, Core.mk.injEq, true_and] at same
  obtain ⟨generation, paused, running, absent, attach, detach⟩ := same
  have entered : (state.commitState input plan).2.core = (state.enter plan).core := by
    simp only [commitState, core_commitTraceEventLocked]
    split <;> rfl
  rw [entered]
  refine .entered ?_ ?_ ?_ ?_
  · simp [enter, State.core, generation]
  · simp only [enter, State.core, Core.stamps, ← paused, ← running, ← absent, ← attach,
      ← detach]
    intro stamp member
    simp only [List.mem_cons, List.not_mem_nil, or_false] at member ⊢
    grind
  · intro isPaused
    have nextEq : plan.next = .paused := isPaused
    simp [enter, State.core, State.observation, nextEq, running, absent]
  · intro observed changed
    have stamped : plan.next = observed := by
      by_contra other
      apply changed
      cases observed <;>
        simp [Core.observedGeneration, enter, State.core, other, paused, running, absent]
    refine ⟨stamped, ?_⟩
    cases observed <;> first | exact absurd rfl changed | skip
    all_goals simp [Core.observedGeneration, enter, State.core, stamped]

end Commit

/-- The locked part of a callback. -/
theorem effect_performPlan (state : State) (input : CallbackInput) {plan : Plan}
    (quietly : plan.RepeatsQuietly) :
    state.core.Effect (state.performPlan input plan).2.core := by
  simp only [performPlan]
  split
  · exact .unchanged (core_updateSession state plan)
  · have correlatedCore : (((state.updateSession plan).releasePause plan).correlateException
        plan).2.core = state.core := by
      rw [core_correlateException]
      rfl
    have correlatedQuietly := repeatsQuietly_correlateException
      ((state.updateSession plan).releasePause plan) quietly
    generalize ((state.updateSession plan).releasePause plan).correlateException plan =
      correlated at correlatedCore correlatedQuietly
    obtain ⟨planned, settled⟩ := correlated
    dsimp only at correlatedCore correlatedQuietly ⊢
    have identified : Identified state.core
        ((settled.updateOrigin planned).updateIdentity planned).2 := by
      rw [← correlatedCore]
      rfl
    simp only [commitPlan]
    split
    · rename_i both
      simp only [Bool.and_eq_true, beq_iff_eq] at both
      split
      · rename_i repeats
        -- A dropped pause must not have touched the origin or the identity.
        have quiet : planned.Quiet := by
          apply correlatedQuietly
          simp only [repeatsPause, callbackType_updateIdentity, pauseKind_updateIdentity,
            Bool.or_eq_true, Bool.and_eq_true, beq_iff_eq] at repeats
          rcases repeats with isPause | ⟨isUser, -⟩
          · exact .inl isPause
          · exact .inr isUser
        refine .unchanged ?_
        rw [core_commitTraceEventLocked, core_identified_of_quiet settled quiet, correlatedCore]
      · split
        · exact effect_refinePause identified both.1.2 _ _
        · exact effect_commitState identified _ _
    · exact effect_commitState identified _ _

theorem effect_onDebugEvent (state : State) (input : RecordInput) (event : DebugEvent) :
    state.core.Effect (state.onDebugEvent input event).2.core := by
  simp only [onDebugEvent]
  split <;> exact .moved rfl rfl rfl rfl

theorem effect_onDebuggerEvent (state : State) (input : CallbackInput) (callback : Callback) :
    state.core.Effect (state.onDebuggerEvent input callback).2.core := by
  cases callback with
  | initDebug =>
      exact effect_performPlan state input (Plan.repeatsQuietly_of_kind nofun nofun)
  | createProcess info =>
      exact effect_performPlan state input (Plan.repeatsQuietly_of_kind nofun nofun)
  | systemBreakpoint =>
      exact effect_performPlan state input (Plan.repeatsQuietly_of_kind nofun nofun)
  | breakpoint info =>
      refine effect_performPlan state input (Plan.repeatsQuietly_of_kind nofun ?_)
      cases info <;> nofun
  | exception info =>
      have effect := effect_performPlan (state.planException info).2 input
        (state.repeatsQuietly_planException info)
      rwa [core_planException] at effect
  | pauseDebug =>
      exact effect_performPlan state.planPauseDebug.2 input Plan.repeatsQuietly_pauseDebug
  | stepped => exact effect_performPlan state input (Plan.repeatsQuietly_of_kind nofun nofun)
  | resumeDebug => exact effect_performPlan state input (Plan.repeatsQuietly_of_kind nofun nofun)
  | attach processId =>
      exact effect_performPlan state input (Plan.repeatsQuietly_of_kind nofun nofun)
  | detach processId =>
      exact effect_performPlan state input (Plan.repeatsQuietly_of_kind nofun nofun)
  | stoppingDebug =>
      exact effect_performPlan state input (Plan.repeatsQuietly_of_kind nofun nofun)
  | exitProcess exitCode =>
      exact effect_performPlan state input (Plan.repeatsQuietly_of_kind nofun nofun)
  | stopDebug => exact effect_performPlan state input (Plan.repeatsQuietly_of_kind nofun nofun)
  | debugEvent event =>
      cases event with
      | none => exact .unchanged rfl
      | some event => exact effect_onDebugEvent state input.record event
  | createThread info =>
      cases info with
      | none => exact .unchanged rfl
      | some info => exact .unchanged (core_onCreateThread state info)
  | traceExecute info =>
      cases info with
      | none => exact .unchanged rfl
      | some info => exact .unchanged (core_onTraceExecute state input.now info)
  | other => exact .unchanged rfl

/-! ## Reconciliation -/

theorem effect_reconcileDebuggerLiveness (state : State) (isDebugging processDied : Bool) :
    state.core.Effect (state.reconcileDebuggerLiveness isDebugging processDied).core := by
  simp only [reconcileDebuggerLiveness]
  split
  · exact .unchanged rfl
  · split
    · exact .unchanged rfl
    · refine .entered rfl ?_ nofun ?_
      · simp [State.core, Core.stamps, commitTraceEventLocked]
      · intro observed changed
        cases observed <;> first | exact ⟨rfl, rfl⟩ | exact absurd rfl changed

theorem effect_reconcileTraceProcessExit (state : State) (processDied : Bool) :
    state.core.Effect (state.reconcileTraceProcessExit processDied).core := by
  simp only [reconcileTraceProcessExit]
  split
  · exact .unchanged rfl
  · split
    · exact .unchanged rfl
    · split
      · refine .entered rfl ?_ nofun ?_
        · simp [State.core, Core.stamps]
        · intro observed changed
          cases observed <;> exact absurd rfl changed
      · exact .unchanged rfl

/-- Step lemma: what any step does to the bracketed fields. -/
theorem effect_next {state target : State} {action : Action} {output : Output}
    (stepped : next state action = some (output, target)) :
    state.core.Effect target.core := by
  cases action with
  | callback callback input =>
      simp only [next, Option.some.injEq] at stepped
      have effect := state.effect_onDebuggerEvent input callback
      rwa [stepped] at effect
  | handshakeEnded index =>
      simp only [next, Option.map_eq_some_iff, Prod.mk.injEq] at stepped
      obtain ⟨ended, endedEq, -, rfl⟩ := stepped
      exact .unchanged (core_handshakeEnded endedEq)
  | reconcileDebuggerLiveness isDebugging processDied =>
      cases stepped
      exact effect_reconcileDebuggerLiveness state isDebugging processDied
  | reconcileTraceProcessExit processDied =>
      cases stepped
      exact effect_reconcileTraceProcessExit state processDied
  | sidecarReady instanceId =>
      cases stepped
      exact .moved rfl rfl rfl rfl
  | sidecarLost =>
      simp only [next] at stepped
      split at stepped <;> cases stepped
      · exact .moved rfl rfl rfl rfl
      · exact .unchanged rfl
  | pauseCallbackReturned =>
      cases stepped
      exact .unchanged rfl
  | pluginState pluginState =>
      cases stepped
      exact .unchanged rfl
  | traceSide trace =>
      cases stepped
      exact .unchanged rfl
  | pauseInterrupt pending selectedThreadId =>
      cases stepped
      exact .unchanged rfl

/-- Nothing observed has changed since `start` unless the generation moved. -/
def SameUnlessMoved (start state : State) : Prop :=
  start.generation ≤ state.generation ∧
    (state.generation = start.generation → state.observation = start.observation)

theorem preserves_sameUnlessMoved (start : State) :
    Transition.Preserves next Transition.anything (SameUnlessMoved start) := by
  rintro state action output target ⟨grown, same⟩ - stepped
  have effect := effect_next stepped
  have advanced : state.generation ≤ target.generation := effect.generation_le
  refine ⟨Nat.le_trans grown advanced, ?_⟩
  intro unmoved
  have stayed : state.generation = start.generation := by omega
  by_contra changed
  have moved : state.generation < target.generation :=
    effect.generation_lt fun kept => changed (kept.trans (same stayed))
  omega

/-- Run lemma of the bracket. -/
theorem sameUnlessMoved_of_execute {start reached : State} {actions : List Action}
    {outputs : List Output}
    (run : Transition.execute next start actions = some (outputs, reached)) :
    SameUnlessMoved start reached :=
  (preserves_sameUnlessMoved start).execute_anything ⟨Nat.le_refl _, fun _ => rfl⟩ run

theorem preserves_bracketed :
    Transition.Preserves next Transition.anything fun state => state.core.Bracketed :=
  fun _ _ _ _ bracketed _ stepped => (effect_next stepped).bracketed bracketed

theorem bracketed_of_execute {reached : State} {actions : List Action} {outputs : List Output}
    (run : Transition.execute next {} actions = some (outputs, reached)) :
    reached.core.Bracketed := by
  refine preserves_bracketed.execute_anything ?_ run
  exact ⟨by simp [State.core, Core.stamps], nofun⟩

/-! ## Stamps that move -/

theorem observedGeneration_le {state : State} (bracketed : state.core.Bracketed)
    (expected : DebuggeeState) : state.observedGeneration expected ≤ state.generation := by
  cases expected with
  | paused => exact bracketed.stamps _ (by simp [observedGeneration, Core.stamps, State.core])
  | running => exact bracketed.stamps _ (by simp [observedGeneration, Core.stamps, State.core])
  | absent => exact bracketed.stamps _ (by simp [observedGeneration, Core.stamps, State.core])
  | _ => exact Nat.zero_le _

theorem generation_le_of_reaches {start reached : State}
    (reaches : Transition.Reaches next start reached) : start.generation ≤ reached.generation :=
  (reaches.keeps (preserves_sameUnlessMoved start) ⟨Nat.le_refl _, fun _ => rfl⟩).1

/-- A stamp newer than an earlier generation was set since, by a step into its state. -/
theorem entered_of_observedGeneration {start reached : State} {expected : DebuggeeState}
    (bracketed : start.core.Bracketed) (reaches : Transition.Reaches next start reached)
    (newer : start.generation < reached.observedGeneration expected) :
    ∃ before action output entered, Transition.Reaches next start before ∧
      next before action = some (output, entered) ∧ Transition.Reaches next entered reached ∧
      entered.debuggeeState = expected ∧ before.generation < entered.generation := by
  have older := observedGeneration_le bracketed expected
  rcases reaches.crosses (fun state =>
    start.generation < state.observedGeneration expected) (by omega) newer with
    ⟨before, action, output, entered, toBefore, outside, stepped, inside, onward⟩
  refine ⟨before, action, output, entered, toBefore, stepped, onward, ?_⟩
  have same (state : State) :
      state.core.observedGeneration expected = state.observedGeneration expected := by
    cases expected <;> rfl
  have changed : entered.core.observedGeneration expected ≠
      before.core.observedGeneration expected := by
    rw [same, same]
    omega
  cases effect_next stepped with
  | unchanged equal => exact absurd (congrArg (Core.observedGeneration · expected) equal) changed
  | moved generation stamps =>
      simp only [Core.stamps, List.cons.injEq] at stamps
      rcases stamps with ⟨paused, running, absent, -⟩
      exact absurd (by cases expected <;> first | exact paused | exact running | exact absent | rfl)
        changed
  | entered generation stamps paused told =>
      refine ⟨(told expected changed).1, ?_⟩
      have advanced : entered.generation = before.generation + 1 := generation
      omega

end State

open State

/-- The snapshot bracket.  In every state reached by callbacks and
reconciliation in any order: a step never lowers the generation and moves it
when it changes an observed field; no stamp exceeds the generation; a paused
debuggee was paused after it last ran and was last absent; and a snapshot that
is still current has seen no change of an observed field in between. -/
theorem snapshot_bracket {actions : List Action} {outputs : List Output} {reached : State}
    (run : Transition.execute next {} actions = some (outputs, reached)) :
    (∀ action output target, next reached action = some (output, target) →
      reached.generation ≤ target.generation ∧
        (target.observation ≠ reached.observation → reached.generation < target.generation)) ∧
    (reached.pausedGeneration ≤ reached.generation ∧
      reached.runningGeneration ≤ reached.generation ∧
      reached.absentGeneration ≤ reached.generation ∧
      reached.attachGeneration ≤ reached.generation ∧
      reached.detachGeneration ≤ reached.generation) ∧
    (reached.debuggeeState = .paused →
      reached.latestPause.generation = reached.pausedGeneration ∧
        max reached.runningGeneration reached.absentGeneration < reached.pausedGeneration) ∧
    (∀ generation first firstOutputs middle second secondOutputs last,
      reached.beginPausedSnapshot = some generation →
      Transition.execute next reached first = some (firstOutputs, middle) →
      Transition.execute next middle second = some (secondOutputs, last) →
      last.pausedSnapshotCurrent generation = true →
      middle.observation = reached.observation ∧ last.observation = reached.observation) := by
  have bracketed := bracketed_of_execute run
  refine ⟨?_, ?_, bracketed.paused, ?_⟩
  · intro action output target stepped
    have effect := effect_next stepped
    exact ⟨effect.generation_le, effect.generation_lt⟩
  · simpa [State.core, Core.stamps] using bracketed.stamps
  · intro generation first firstOutputs middle second secondOutputs last begun toMiddle toLast
      current
    obtain ⟨grown, same⟩ := sameUnlessMoved_of_execute toMiddle
    obtain ⟨grownLater, sameLater⟩ := sameUnlessMoved_of_execute toLast
    have taken : reached.generation = generation := by
      simp only [beginPausedSnapshot] at begun
      split at begun
      · contradiction
      · exact Option.some.inj begun
    have checked : last.generation = generation := by
      simp only [pausedSnapshotCurrent, Bool.and_eq_true, beq_iff_eq] at current
      exact current.2
    have middleEq : middle.observation = reached.observation := same (by omega)
    exact ⟨middleEq, (sameLater (by omega)).trans middleEq⟩

/-- A launched process paused at its system breakpoint, seen by a ready plugin. -/
def launchedSchedule : List Action :=
  let input : CallbackInput := ⟨⟨0, true⟩, 0, false⟩
  [.sidecarReady "instance", .callback .initDebug input,
    .callback (.createProcess (some (42, 7))) input, .callback .systemBreakpoint input]

/-- In the launched schedule a repeated pause callback leaves the snapshot
current and the observed fields alone. -/
theorem snapshot_bracket_launched :
    ∃ outputs reached,
      Transition.execute next {} launchedSchedule = some (outputs, reached) ∧
      reached.beginPausedSnapshot = some 4 ∧
      max reached.runningGeneration reached.absentGeneration < reached.pausedGeneration ∧
      ∃ output last,
        next reached (.callback .pauseDebug ⟨⟨1, true⟩, 5, false⟩) = some (output, last) ∧
        last.pausedSnapshotCurrent 4 = true ∧ last.observation = reached.observation := by
  refine ⟨_, _, rfl, by decide, ?_, _, _, rfl, by decide, ?_⟩
  · exact ((@snapshot_bracket launchedSchedule _ _ rfl).2.2.1 (by decide)).2
  · exact ((@snapshot_bracket launchedSchedule _ _ rfl).2.2.2 4 [] _ _
      [.callback .pauseDebug ⟨⟨1, true⟩, 5, false⟩] _ _ (by decide) rfl rfl (by decide)).2

end X64dbgMcp.Runtime
