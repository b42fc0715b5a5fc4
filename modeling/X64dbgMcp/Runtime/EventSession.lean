import X64dbgMcp.Runtime.EventHistory

/-!
# Event sessions over whole runs

The histories of two debuggees never mix: every run keeps the bookkeeping of
`EventHistory`, session numbers are never used twice, and a debug session that
ends before its process was created leaves the established history alone.
-/

namespace X64dbgMcp.Runtime

open Transition EventLog

namespace EventLog

/-- The established history and its session. -/
def established (log : EventLog) : List EventRecord × Nat × Nat × Bool :=
  (log.eventHistory, log.eventHistoryOffset, log.eventSessionEpoch, log.historyComplete)

/-- What the reader of events relies on, after the events of `past`. -/
structure Sound (past : List EventRecord) (log : EventLog) : Prop where
  session : ∀ event ∈ log.eventHistory,
    event.sessionId = sessionIdOf log.instanceId log.eventSessionEpoch
  ascending : (log.eventHistory.map EventRecord.sequence).Pairwise (· < ·)
  recordedAscending : (past.map EventRecord.sequence).Pairwise (· < ·)
  bound : log.eventHistory.length ≤ kMaxEventHistory
  candidateBound : log.candidateEvents.length ≤ kMaxEventHistory
  empty : log.candidateEventSession = none → log.candidateEvents = []
  complete : log.historyComplete = true → ∀ event ∈ past,
    event.sessionId = sessionIdOf log.instanceId log.eventSessionEpoch → event ∈ log.eventHistory

theorem Recorded.sound {instanceId : String} {past : List EventRecord} {log : EventLog}
    (recorded : Recorded instanceId past log) : log.Sound past := by
  rcases recorded with ⟨rfl, consistent, complete⟩
  refine ⟨consistent.main.owned, ?_, consistent.ascending, consistent.main.bound, ?_,
    consistent.empty, complete.main⟩
  · exact consistent.ascending.sublist (consistent.main.sublist.map _)
  · cases session : log.candidateEventSession with
    | none =>
        rw [consistent.empty session]
        exact Nat.zero_le _
    | some epoch => exact (consistent.candidate epoch session).bound

end EventLog

namespace State

/-! ## Runs -/

theorem recorded_of_execute {instanceId : String} (short : instanceId.length ≤ 36)
    {start target : State} {actions : List Action} {outputs : List Output}
    (fresh : start.events = { instanceId := instanceId })
    (keeps : ∀ action ∈ actions, action.keepsInstance = true)
    (run : execute next start actions = some (outputs, target)) :
    Recorded instanceId (outputs.flatMap Output.recorded) target.events := by
  have step : ∀ ⦃past : List Output⦄ ⦃state action output after⦄,
      Recorded instanceId (past.flatMap Output.recorded) state.events →
      action.keepsInstance = true → next state action = some (output, after) →
      Recorded instanceId ((past ++ [output]).flatMap Output.recorded) after.events := by
    intro past state action output after recorded keeps stepped
    rcases change_next keeps stepped with ⟨closes, -, change⟩
    rw [List.flatMap_append, List.flatMap_singleton]
    exact recorded.change short change
  have begins : Recorded instanceId [] start.events := by
    rw [fresh]
    exact recorded_empty instanceId
  exact execute_history
    (fun (outputs : List Output) (state : State) =>
      Recorded instanceId (outputs.flatMap Output.recorded) state.events)
    step [] begins (along_of_forall_mem next start keeps) run

/-- The counter bounds every session in use. -/
theorem sessions_le {instanceId : String} {past : List EventRecord} {log : EventLog}
    (recorded : Recorded instanceId past log) :
    ∀ epoch ∈ log.sessions, epoch ≤ log.eventSessionCounter := by
  intro epoch member
  rcases List.mem_cons.mp member with rfl | member
  · exact recorded.consistent.established
  · exact (recorded.consistent.announced epoch (Option.mem_toList.mp member)).2

theorem counter_le_of_execute {start target : State} {actions : List Action}
    {outputs : List Output} (keeps : ∀ action ∈ actions, action.keepsInstance = true)
    (run : execute next start actions = some (outputs, target)) :
    start.events.eventSessionCounter ≤ target.events.eventSessionCounter := by
  have preserves : Preserves next (fun _ action => action.keepsInstance = true)
      (fun state => start.events.eventSessionCounter ≤ state.events.eventSessionCounter) := by
    intro state action output after le keeps stepped
    rcases change_next keeps stepped with ⟨closes, -, change⟩
    exact Nat.le_trans le change.sessions.1
  exact preserves.execute (Nat.le_refl _) (along_of_forall_mem next start keeps) run

/-- A session is numbered above every session of the past: of the last state of
a run, unless it was in use there, and of every earlier state, unless it was
already in use in the last one. -/
theorem sessions_next {instanceId : String} {past : List EventRecord}
    {start reached target : State} {actions : List Action} {outputs : List Output}
    {action : Action} {output : Output} (recorded : Recorded instanceId past start.events)
    (keeps : ∀ other ∈ actions ++ [action], other.keepsInstance = true)
    (run : execute next start actions = some (outputs, reached))
    (stepped : next reached action = some (output, target)) :
    (∀ epoch ∈ target.events.sessions,
        epoch ∈ reached.events.sessions ∨ ∀ old ∈ start.events.sessions, old < epoch) ∧
      (reached.events.actionMove action = .announce →
        ∀ epoch ∈ target.events.candidateEventSession,
          ∀ old ∈ start.events.sessions, old < epoch) ∧
      (reached.events.actionMove action = .establish →
        reached.events.candidateEventSession = none →
          ∀ old ∈ start.events.sessions, old < target.events.eventSessionEpoch) := by
  have keepsRun : ∀ other ∈ actions, other.keepsInstance = true :=
    fun other member => keeps other (List.mem_append_left _ member)
  have keepsStep : action.keepsInstance = true :=
    keeps action (List.mem_append_right _ List.mem_cons_self)
  have older : ∀ old ∈ start.events.sessions, old ≤ reached.events.eventSessionCounter := by
    intro old member
    exact Nat.le_trans (sessions_le recorded old member) (counter_le_of_execute keepsRun run)
  rcases change_next keepsStep stepped with ⟨closes, -, change⟩
  rcases change.sessions with ⟨-, known, announced, established⟩
  refine ⟨?_, ?_, ?_⟩
  · intro epoch member
    apply (known epoch member).imp_right
    intro fresh old oldMember
    exact Nat.lt_of_le_of_lt (older old oldMember) fresh
  · intro move epoch member old oldMember
    exact Nat.lt_of_le_of_lt (older old oldMember) (announced move epoch member)
  · intro move closed old oldMember
    exact Nat.lt_of_le_of_lt (older old oldMember) (established move closed)

end State

/-! ## A failed attempt -/

/-- The callbacks that end an attempt. -/
def Action.settles : Action → Bool
  | .callback (.createProcess _) _ | .callback .stopDebug _ => true
  | _ => false

/-- The callbacks that begin one. -/
def Callback.attempts : Callback → Bool
  | .initDebug | .attach _ => true
  | _ => false

namespace EventLog

/-- A candidate collects the events and the established history rests. -/
structure Attempting (before log : EventLog) : Prop where
  opened : log.candidateEventSession.isSome = true
  kept : log.established = before.established

variable {before log after : EventLog} {events : List EventRecord}

/-- Only establishing a session replaces the established history. -/
theorem Change.attempting {move : SessionMove} {closes : Bool}
    (change : Change log move closes events after) (kept : log.established = before.established)
    (opened : (log.move move).candidateEventSession.isSome = true) (unsettled : move ≠ .establish) :
    after.established = before.established ∧
      (closes = false → after.candidateEventSession.isSome = true) := by
  cases change with
  | kept => exact ⟨kept, fun _ => opened⟩
  | recorded move closes input event =>
      have frame := recordEventLocked_frame (log.move move) input event
      have main := main_recordEventLocked opened input event
      have moved : (log.move move).established = before.established := by
        cases move with
        | none => exact kept
        | announce => exact kept
        | establish => exact absurd rfl unsettled
      rcases frame with ⟨-, epoch, -, candidate⟩
      generalize ((log.move move).recordEventLocked input event).2 = recorded at *
      have same : recorded.established = (log.move move).established := by
        simp only [EventLog.main, History.mk.injEq] at main
        simp only [established, main, epoch]
      have closed : (recorded.closeIf closes).established = recorded.established := by
        cases closes <;> rfl
      refine ⟨closed.trans (same.trans moved), ?_⟩
      rintro rfl
      rw [← candidate] at opened
      exact opened

end EventLog

namespace State

theorem actionMove_of_unsettled {action : Action} (unsettled : action.settles = false)
    (log : EventLog) : log.actionMove action ≠ .establish := by
  cases action with
  | callback callback input =>
      cases callback with
      | createProcess info => cases unsettled
      | attach processId =>
          simp only [actionMove, callbackMove, Callback.type, sessionMove]
          split <;> simp
      | _ => rintro ⟨⟩
  | _ => rintro ⟨⟩

theorem isSome_move {log : EventLog} {move : SessionMove}
    (opened : log.candidateEventSession.isSome = true) (unsettled : move ≠ .establish) :
    (log.move move).candidateEventSession.isSome = true := by
  cases move with
  | none => exact opened
  | announce => rfl
  | establish => exact absurd rfl unsettled

/-- The first callback of an attempt opens a candidate unless one is open. -/
theorem isSome_of_attempts {callback : Callback} (attempts : callback.attempts = true)
    (log : EventLog) :
    (log.move (log.callbackMove callback)).candidateEventSession.isSome = true := by
  cases callback with
  | initDebug => rfl
  | attach processId =>
      simp only [callbackMove, Callback.type, sessionMove]
      cases session : log.candidateEventSession with
      | none => rfl
      | some epoch => simp [EventLog.move, session]
  | _ => cases attempts

/-- Between the beginning of an attempt and its end. -/
theorem attempting_next {before : EventLog} {state target : State} {action : Action}
    {output : Output} (attempting : Attempting before state.events)
    (keeps : action.keepsInstance = true) (unsettled : action.settles = false)
    (stepped : next state action = some (output, target)) :
    Attempting before target.events := by
  rcases change_next keeps stepped with ⟨closes, closing, change⟩
  have opens : closes = false := by
    cases closes with
    | false => rfl
    | true =>
        rcases closing rfl with ⟨input, rfl⟩
        cases unsettled
  have unmoved := actionMove_of_unsettled unsettled state.events
  rcases change.attempting attempting.kept (isSome_move attempting.opened unmoved) unmoved with
    ⟨kept, opened⟩
  exact ⟨opened opens, kept⟩

/-- A debug session that ends before its process was created leaves the
established history alone. -/
theorem established_of_failed_attempt {reached target : State} {callback : Callback}
    {first last : CallbackInput} {middle : List Action} {outputs : List Output}
    (attempts : callback.attempts = true)
    (unsettled : ∀ action ∈ middle, action.keepsInstance = true ∧ action.settles = false)
    (run : execute next reached
      (.callback callback first :: middle ++ [.callback .stopDebug last]) =
        some (outputs, target)) :
    target.events.established = reached.events.established := by
  rcases execute_append_eq_some run with ⟨earlier, between, later, attempt, ended, -⟩
  rcases execute_cons_eq_some_iff.mp attempt with
    ⟨announced, opened, during, began, attempted, -⟩
  rcases execute_cons_eq_some_iff.mp ended with ⟨closed, final, rest, stopped, finished, -⟩
  cases finished
  have start : Attempting reached.events opened.events := by
    rcases change_next rfl began with ⟨closes, closing, change⟩
    have unmoved : reached.events.actionMove (.callback callback first) ≠ .establish := by
      apply actionMove_of_unsettled
      cases callback <;> first | rfl | cases attempts
    rcases change.attempting rfl (isSome_of_attempts attempts reached.events) unmoved with
      ⟨kept, isOpen⟩
    have opens : closes = false := by
      cases closes with
      | false => rfl
      | true =>
          rcases closing rfl with ⟨input, same⟩
          cases same
          cases attempts
    exact ⟨isOpen opens, kept⟩
  have preserves : Preserves next
      (fun _ action => action.keepsInstance = true ∧ action.settles = false)
      (fun state => Attempting reached.events state.events) := by
    intro state action output after attempting guard stepped
    exact attempting_next attempting guard.1 guard.2 stepped
  have attempting := preserves.execute start (along_of_forall_mem next opened unsettled) attempted
  rcases change_next rfl stopped with ⟨closes, -, change⟩
  exact (change.attempting attempting.kept attempting.opened nofun).1

end State

/-! ## Runs over several instances -/

/-- An event of a numbered session, recorded under one of the given instances. -/
def OfInstances (instances : List String) (epoch : Nat) (event : EventRecord) : Prop :=
  ∃ instanceId ∈ instances, event.sessionId = sessionIdOf instanceId epoch

/-- The instance that a step accepts. -/
def Action.accepted : Action → Option String
  | .sidecarReady instanceId => some instanceId
  | _ => none

/-- The log of a runtime that only ever belonged to the given instances. -/
structure Kept (instances : List String) (recorded : List EventRecord) (log : EventLog) :
    Prop where
  instanceId : log.instanceId ∈ instances
  consistent : Consistent (OfInstances instances) recorded log

variable {instances : List String} {recorded : List EventRecord} {state target : State} {action : Action} {output : Output}

/-- Accepting an instance leaves the histories alone; every other step changes
the log as a callback does. -/
theorem change_or_accepted (stepped : State.next state action = some (output, target)) :
    (∃ instanceId, action.accepted = some instanceId ∧ output.recorded = [] ∧
        target.events = { state.events with instanceId := instanceId }) ∨
      ∃ move closes, Change state.events move closes output.recorded target.events := by
  cases keeps : action.keepsInstance with
  | true =>
      rcases State.change_next keeps stepped with ⟨closes, -, change⟩
      exact .inr ⟨_, closes, change⟩
  | false =>
      cases action with
      | sidecarReady instanceId =>
          cases stepped
          exact .inl ⟨instanceId, rfl, rfl, rfl⟩
      | _ => cases keeps

theorem instanceId_change {before after : EventLog} {events : List EventRecord} {move : SessionMove} {closes : Bool}
    (change : Change before move closes events after) : after.instanceId = before.instanceId := by
  cases change with
  | kept => rfl
  | recorded move closes input event =>
      rw [← instanceId_move before move,
        ← (recordEventLocked_frame (before.move move) input event).1]
      cases closes <;> rfl

theorem kept_initial {instanceId : String} {others : List String} {start : State}
    (fresh : start.events = { instanceId := instanceId }) :
    Kept (instanceId :: others) [] start.events := by
  rw [fresh]
  have empty := (recorded_empty instanceId).consistent
  rcases empty with ⟨main, candidate, none, ascending, numbered, established, announced⟩
  exact ⟨List.mem_cons_self, ⟨main.sublist, main.bound, List.forall_mem_nil _⟩, nofun, none,
    ascending, numbered, established, announced⟩

theorem Kept.next (kept : Kept instances recorded state.events)
    (known : ∀ instanceId, action.accepted = some instanceId → instanceId ∈ instances)
    (stepped : State.next state action = some (output, target)) :
    Kept instances (recorded ++ output.recorded) target.events := by
  rcases kept with ⟨instanceId, consistent⟩
  rcases change_or_accepted stepped with ⟨other, accepts, nothing, events⟩ | ⟨move, closes, change⟩
  · rw [nothing, List.append_nil, events]
    rcases consistent with ⟨main, candidate, empty, ascending, numbered, established, announced⟩
    exact ⟨known other accepts,
      ⟨main, candidate, empty, ascending, numbered, established, announced⟩⟩
  · constructor
    · rw [instanceId_change change]
      exact instanceId
    · exact consistent.change (fun _ _ owned => ⟨_, instanceId, owned⟩) change

/-! ## Sessions and histories -/

/-- Over every run of one instance the event log is sound, a new session is
numbered above all earlier ones, and a failed attempt leaves the established
history as it was. -/
theorem event_sessions_sound {instanceId : String} (short : instanceId.length ≤ 36)
    {start reached : State} {actions : List Action} {outputs : List Output}
    (fresh : start.events = { instanceId := instanceId })
    (keeps : ∀ action ∈ actions, action.keepsInstance = true)
    (run : execute State.next start actions = some (outputs, reached)) :
    reached.events.Sound (outputs.flatMap Output.recorded) ∧
      (∀ later action laterOutputs output last target,
        (∀ other ∈ later ++ [action], other.keepsInstance = true) →
        execute State.next reached later = some (laterOutputs, last) →
        State.next last action = some (output, target) →
          (∀ epoch ∈ target.events.sessions,
              epoch ∈ last.events.sessions ∨ ∀ old ∈ reached.events.sessions, old < epoch) ∧
            (last.events.actionMove action = .announce →
              ∀ epoch ∈ target.events.candidateEventSession,
                ∀ old ∈ reached.events.sessions, old < epoch) ∧
            (last.events.actionMove action = .establish →
              last.events.candidateEventSession = none →
                ∀ old ∈ reached.events.sessions, old < target.events.eventSessionEpoch)) ∧
      ∀ callback first middle final laterOutputs target,
        callback.attempts = true →
        (∀ action ∈ middle, action.keepsInstance = true ∧ action.settles = false) →
        execute State.next reached
          (.callback callback first :: middle ++ [.callback .stopDebug final]) =
            some (laterOutputs, target) →
          target.events.established = reached.events.established := by
  have recorded := State.recorded_of_execute short fresh keeps run
  refine ⟨recorded.sound, ?_, ?_⟩
  · intro later action laterOutputs output last target keepsLater laterRun stepped
    exact State.sessions_next recorded keepsLater laterRun stepped
  · intro callback first middle final laterOutputs target attempts unsettled laterRun
    exact State.established_of_failed_attempt attempts unsettled laterRun

/-- A launch that succeeds and a second one that fails: the three events of the
first stay. -/
theorem event_sessions_sound_relaunched :
    let input : CallbackInput := ⟨⟨0, true⟩, 0, false⟩
    let start : State := { events := { instanceId := "instance" } }
    ∃ outputs reached laterOutputs target,
      execute State.next start [.callback .initDebug input,
        .callback (.createProcess (some (42, 7))) input, .callback .systemBreakpoint input] =
          some (outputs, reached) ∧
      execute State.next reached [.callback .initDebug input, .callback .stopDebug input] =
        some (laterOutputs, target) ∧
      reached.events.Sound (outputs.flatMap Output.recorded) ∧
      target.events.established = reached.events.established ∧
      reached.events.eventHistory.map EventRecord.sequence = [1, 2, 3] := by
  intro input start
  have enabled : ((execute State.next start [.callback .initDebug input,
      .callback (.createProcess (some (42, 7))) input, .callback .systemBreakpoint input]).map
        fun result => result.2.events.eventHistory.map EventRecord.sequence) = some [1, 2, 3] := by
    decide +kernel
  rcases Option.map_eq_some_iff.mp enabled with ⟨⟨outputs, reached⟩, run, numbers⟩
  have failed : (execute State.next reached
      [.callback .initDebug input, .callback .stopDebug input]).isSome = true := rfl
  rcases Option.isSome_iff_exists.mp failed with ⟨⟨laterOutputs, target⟩, laterRun⟩
  have keeps : ∀ action ∈ [Action.callback .initDebug input,
      .callback (.createProcess (some (42, 7))) input, .callback .systemBreakpoint input],
        action.keepsInstance = true := by
    decide
  rcases event_sessions_sound (by decide) rfl keeps run with ⟨sound, -, unharmed⟩
  exact ⟨outputs, reached, laterOutputs, target, run, laterRun, sound,
    unharmed .initDebug input [] input laterOutputs target rfl (List.forall_mem_nil _)
      laterRun, numbers⟩

end X64dbgMcp.Runtime
