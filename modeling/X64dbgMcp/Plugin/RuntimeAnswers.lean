import X64dbgMcp.Plugin.RunOutcomes
import X64dbgMcp.Runtime.Snapshot

/-!
# What the runtime answers

Some of the native calls of a handler read the state of the plugin runtime, while debugger
callbacks move it on.  A handler that waited for the debuggee is answered by such a state,
so what it says of the debuggee has been entered by a step of the runtime.
-/

namespace X64dbgMcp.Plugin

open Text Transition Dialogue
open X64dbgMcp.Runtime (DebuggeeState State)

/-- The end of the wait of `run_to_address`. -/
def runEnd (state : State) (beforeRun : Nat) : RunEnd where
  terminal := state.pluginState != .ready || beforeRun < state.pausedGeneration ||
    beforeRun < state.absentGeneration || state.debuggeeState == .exited
  ready := state.pluginState == .ready
  state := state.debuggeeState
  pausedGeneration := state.pausedGeneration
  absentGeneration := state.absentGeneration
  pause := state.latestPause

/-- The answers that the state of the runtime fixes. -/
def reported (state : State) : (call : NativeCall) → Option call.Answer
  | .beginPausedSnapshot => some state.beginPausedSnapshot
  | .pausedSnapshotCurrent generation => some (state.pausedSnapshotCurrent generation)
  | .pauseObservationCurrent generation pauseGeneration =>
      some (state.pauseObservationCurrent generation pauseGeneration)
  | .generation => some state.generation
  | .latestPause => some state.latestPause
  | .pausedObservation => some (state.pausedGeneration, state.latestPause)
  | .debuggeeState => some state.debuggeeState
  | .observedGeneration expected => some (state.observedGeneration expected)
  | .sessionOrigin => some state.sessionOrigin
  | .ownedPauseException => some state.ownedPauseException
  | .confirmedPause generation =>
      some (if state.generation = generation ∧ state.debuggeeState = .paused then
        some (state.latestPause, state.activeThreadId) else none)
  | .waitForState expected afterGeneration =>
      some (state.waitForState expected afterGeneration)
  | .waitForPauseReason reason afterGeneration =>
      some (state.waitForPauseReason reason afterGeneration)
  | .waitForRunEnd afterGeneration => some (runEnd state afterGeneration)
  | _ => none

/-- The answer agrees with what the state fixes. -/
def Agrees (state : State) (call : NativeCall) (answer : call.Answer) : Prop :=
  ∀ fixed, reported state call = some fixed → answer = fixed

/-- The runtime takes any steps before and during a call, which is then answered by the
state that it has come to. -/
def attended : Environment (State × List NativeRecord) NativeCall NativeCall.Answer :=
  fun before call answer after =>
    Reaches State.next before.1 after.1 ∧ Agrees after.1 call answer ∧
      recording before.2 call answer after.2

/-! ## Stories -/

/-- The runtime went from state to state and answered this history. -/
inductive Story (start : State) : List NativeRecord → State → Prop
  | nil : Story start [] start
  | told {history : List NativeRecord} {state later : State} {call : NativeCall}
      {answer : call.Answer} (story : Story start history state)
      (reaches : Reaches State.next state later) (agrees : Agrees later call answer) :
      Story start (history ++ [⟨call, answer⟩]) later

section Stories

variable {start final : State} {history earlier later : List NativeRecord}

theorem Story.reaches (story : Story start history final) : Reaches State.next start final := by
  induction story with
  | nil => exact .refl start
  | told _ onward _ ih => exact ih.trans onward

theorem Story.split (story : Story start (earlier ++ later) final) :
    ∃ middle, Story start earlier middle ∧ Story middle later final := by
  induction later using List.reverseRecOn generalizing final with
  | nil =>
      rw [List.append_nil] at story
      exact ⟨final, story, .nil⟩
  | append_singleton later record ih =>
      rw [← List.append_assoc] at story
      generalize whole : earlier ++ later ++ [record] = history at story
      cases story with
      | nil => simp at whole
      | told story reaches agrees =>
          rcases List.append_inj' whole rfl with ⟨rfl, same⟩
          cases same
          rcases ih story with ⟨middle, first, second⟩
          exact ⟨middle, first, .told second reaches agrees⟩

/-- The state that gave an answer, between what was asked before and behind it. -/
theorem Story.at_answer (story : Story start history final) {call : NativeCall}
    {answer : call.Answer} (member : (⟨call, answer⟩ : NativeRecord) ∈ history) :
    ∃ earlier middle later, history = earlier ++ [⟨call, answer⟩] ++ later ∧
      Story start (earlier ++ [⟨call, answer⟩]) middle ∧ Agrees middle call answer ∧
      Story middle later final := by
  rcases List.append_of_mem member with ⟨earlier, later, rfl⟩
  rw [List.append_cons] at story ⊢
  rcases story.split with ⟨middle, first, second⟩
  refine ⟨earlier, middle, later, rfl, first, ?_, second⟩
  generalize whole : earlier ++ [⟨call, answer⟩] = past at first
  cases first with
  | nil => simp at whole
  | told _ _ agrees =>
      rcases List.append_inj' whole rfl with ⟨-, same⟩
      cases same
      exact agrees

theorem story_of_runs {α : Type} {dialogue : Handler α} {value : α}
    (runs : dialogue.Runs attended (start, []) value (final, history)) :
    dialogue.Runs recording [] value history ∧ Story start history final := by
  constructor
  · exact Runs.project Prod.snd (fun _ _ _ _ answered => answered.2.2) runs
  · have kept : dialogue.Meets attended (fun _ moment => Story start moment.2 moment.1)
        (start, []) := by
      refine meets_of_preserved ?_ dialogue ?_
      on_goal 2 => exact Story.nil
      rintro ⟨state, past⟩ call answer ⟨later, record⟩ story ⟨reaches, agrees, recorded⟩
      cases recorded
      exact .told story reaches agrees
    exact meets_iff.mp kept _ _ runs

end Stories

/-! ## Running the debuggee -/

/-- A confirmed submission was answered by a state with a newer stamp. -/
theorem newer_of_confirmation {method : RunMethod} {state : State} {before : Nat}
    (agrees : Agrees state (method.confirmation before).question
      (method.confirmation before).answer) :
    before < state.observedGeneration method.expected := by
  have paused (reason : Runtime.PauseReasonKind)
      (waited : state.waitForPauseReason reason before = true) :
      before < state.observedGeneration .paused := by
    simp only [State.waitForPauseReason, Bool.and_eq_true, decide_eq_true_eq] at waited
    exact waited.1.2
  have entered (expected : DebuggeeState) (waited : state.waitForState expected before = true) :
      before < state.observedGeneration expected := by
    simp only [State.waitForState, Bool.and_eq_true, decide_eq_true_eq] at waited
    exact waited.2
  cases method with
  | pause => exact paused .userPause (agrees _ rfl).symm
  | stepInto | stepOver => exact paused .step (agrees _ rfl).symm
  | resume | continueException => exact entered .running (agrees _ rfl).symm
  | stop => exact entered .absent (agrees _ rfl).symm

/-- While callbacks move the runtime on at any point, a success means that behind the look
at the generation the runtime stepped into the state that the method is for, with a newer
generation. -/
theorem controlRun_entered {request : Request} {method : RunMethod}
    {actions : List Runtime.Action} {outputs : List Runtime.Output} {start final : State}
    {response : RunResponse} {history : List NativeRecord}
    (reached : execute State.next {} actions = some (outputs, start))
    (runs : (controlRun request method).Runs attended (start, []) response (final, history))
    {confirmed : Nat} {result : RunResult} (told : response = .ok (confirmed, result)) :
    ∃ looked before action output entered,
      Reaches State.next start looked ∧ Ran request method looked.generation history ∧
      Reaches State.next looked before ∧ State.next before action = some (output, entered) ∧
      entered.debuggeeState = method.expected ∧ before.generation < entered.generation ∧
      Reaches State.next entered final := by
  rcases story_of_runs runs with ⟨recorded, story⟩
  rcases (meets_iff.mp controlRun_spec _ _ recorded).confirmed confirmed result told with
    ⟨⟨generation, ran, seen⟩, -, -⟩
  have bracketed := Runtime.State.bracketed_of_execute reached
  have asked : (⟨.generation, generation⟩ : NativeRecord) ∈ history := by
    rcases ran with ⟨command, -, earlier, later, rfl, -, member, -⟩
    exact List.mem_append_left _ member
  have confirmation : method.confirmation generation ∈ history := by
    rcases seen with ⟨earlier, _, later, rfl, rfl, -⟩
    exact List.mem_append_right _ List.mem_cons_self
  rcases story.at_answer asked with ⟨earlier, looked, later, rfl, first, agrees, second⟩
  cases agrees looked.generation rfl
  have sound := first.reaches.keeps State.preserves_bracketed bracketed
  rcases List.mem_append.mp confirmation with behind | ahead
  · -- a state before the look cannot have a newer stamp
    rcases first.at_answer behind with ⟨_, waited, _, -, toWaited, confirmed, onward⟩
    have newer := newer_of_confirmation confirmed
    have older := State.observedGeneration_le
      (toWaited.reaches.keeps State.preserves_bracketed bracketed) method.expected
    have grown := State.generation_le_of_reaches onward.reaches
    omega
  · rcases second.at_answer ahead with ⟨_, waited, _, -, toWaited, confirmed, onward⟩
    have newer := newer_of_confirmation confirmed
    rcases State.entered_of_observedGeneration sound toWaited.reaches newer with
      ⟨before, action, output, entered, toBefore, stepped, toWaited, expected, advanced⟩
    exact ⟨looked, before, action, output, entered, first.reaches, ran, toBefore, stepped, expected,
      advanced, toWaited.trans onward.reaches⟩

/-- The process is launched and paused at its system breakpoint. -/
def launched : State :=
  ((execute State.next {} Runtime.launchedSchedule).map Prod.snd).getD {}

/-- The callback of the resumed process comes in while a handler waits for it. -/
def resumedInWait (state : State) : NativeCall → State
  | .waitForState .. => (state.onDebuggerEvent ⟨⟨1, true⟩, 5, false⟩ .resumeDebug).2
  | _ => state

/-- The runtime answers what its state fixes, and the debugger everything else. -/
def answering (moment : State × List NativeRecord) (call : NativeCall) :
    call.Answer × State × List NativeRecord :=
  let later := resumedInWait moment.1 call
  let answer := (reported later call).getD (agreeable moment.2 call)
  (answer, later, moment.2 ++ [⟨call, answer⟩])

theorem attended_answering (moment : State × List NativeRecord) (call : NativeCall) :
    attended moment call (answering moment call).1 (answering moment call).2 := by
  refine ⟨?_, ?_, rfl⟩
  · cases call with
    | waitForState expected afterGeneration =>
        have stepped : State.next moment.1 (.callback .resumeDebug ⟨⟨1, true⟩, 5, false⟩) =
            some (moment.1.onDebuggerEvent ⟨⟨1, true⟩, 5, false⟩ .resumeDebug) := rfl
        exact .single stepped
    | _ => exact .refl moment.1
  · intro fixed reports
    have same : reported (resumedInWait moment.1 call) call = some fixed := reports
    simp only [answering, same, Option.getD_some]

/-- The launched process is resumed, and its callback comes in during the wait. -/
theorem controlRun_entered_resumed :
    ∃ final history looked before action output entered,
      (controlRun sampleRequest .resume).Runs attended (launched, [])
        (.ok (5, .state .running)) (final, history) ∧
      Ran sampleRequest .resume looked.generation history ∧
      Reaches State.next looked before ∧ State.next before action = some (output, entered) ∧
      entered.debuggeeState = .running ∧ before.generation < entered.generation ∧
      Reaches State.next entered final := by
  have runs := runs_follow attended_answering (controlRun sampleRequest .resume) (launched, [])
  have told : ((controlRun sampleRequest .resume).follow answering (launched, [])).1 =
      .ok (5, .state .running) := by rfl
  rcases @controlRun_entered sampleRequest .resume Runtime.launchedSchedule _ launched _ _ _ rfl
      runs _ _ told with
    ⟨looked, before, action, output, entered, -, ran, toBefore, stepped, running, advanced, onward⟩
  rw [told] at runs
  exact ⟨_, _, looked, before, action, output, entered, runs, ran, toBefore, stepped, running,
    advanced, onward⟩

end X64dbgMcp.Plugin
