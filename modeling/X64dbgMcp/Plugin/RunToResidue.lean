import X64dbgMcp.Plugin.DebuggerLoop
import X64dbgMcp.Plugin.RunControl

/-!
# What running to an address leaves in the debugger

The breakpoint of the run is the request's own.  It is gone when the run has stopped, and
when the request has failed without calling the outcome unknown.
-/

namespace X64dbgMcp.Plugin

open Text Transition Dialogue CommandLoop

section RunTo

variable {parties : Parties (List UInt8) BreakpointTable} {request : Request} {loop : Debugger}

/-- The breakpoint of a run is there. -/
def RunToThere (request : Request) (target : Nat) (table : BreakpointTable) : Prop :=
  ∃ current, table .normal target = some current ∧
    runToBreakpointOwned current target (runToBreakpointName request.operationId) = true

/-- The command that makes the breakpoint of a request. -/
abbrev ownRunToCommand (request : Request) (target : Nat) : List UInt8 :=
  runToBreakpointSetCommand target (runToBreakpointName request.operationId)

theorem isFence_ownRunTo (target : Nat) : isFence (ownRunToCommand request target) = false := by
  simp only [ownRunToCommand, runToBreakpointSetCommand, List.append_assoc]
  exact isFence_append _ (by decide)

theorem word_ne_ownRunTo {word : String} {rest : List UInt8} (target : Nat)
    (long : 1 < (utf8 word).length) (differs : (utf8 word)[1]? ≠ some 0x70) :
    utf8 word ++ rest ≠ ownRunToCommand request target := by
  simp only [ownRunToCommand, runToBreakpointSetCommand, List.append_assoc]
  exact utf8_append_ne 1 ⟨long, by decide⟩ differs

theorem word_ne_ownRunTo' {word : String} (target : Nat) (long : 1 < (utf8 word).length)
    (differs : (utf8 word)[1]? ≠ some 0x70) : utf8 word ≠ ownRunToCommand request target := by
  rw [← List.append_nil (utf8 word)]
  exact word_ne_ownRunTo target long differs

theorem clear_ne_ownRunTo (target : Nat) :
    clearCommand target ≠ ownRunToCommand request target :=
  word_ne_ownRunTo target (by decide) (by decide)

/-- The breakpoint is there only when the answer calls the outcome unknown, or the process
has exited. -/
def RunToLeaves (request : Request) (target : Nat) (response : RunToResponse) (loop : Debugger) :
    Prop :=
  LeavesNothing (ownRunToCommand request target) (RunToThere request target) response loop ∧
    ∀ generation result, response = .ok (generation, result) → result.stopped.isSome = true →
      Absent (ownRunToCommand request target) (RunToThere request target) loop


variable {rounds target : Nat}

namespace RunToLeaves

theorem absent {response : RunToResponse}
    (absent : Absent (ownRunToCommand request target) (RunToThere request target) loop) :
    RunToLeaves request target response loop :=
  ⟨fun _ _ _ => absent, fun _ _ _ _ => absent⟩

theorem unknown {error : ErrorResponse} (unsure : error.unknown = true) :
    RunToLeaves request target (.error error) loop := by
  refine ⟨?_, by rintro _ _ ⟨⟩⟩
  rintro _ ⟨⟩ known
  cases unsure.symm.trans known

theorem exited {generation : Nat} {result : RunToResult} (gone : result.stopped = none) :
    RunToLeaves request target (.ok (generation, result)) loop := by
  refine ⟨by rintro _ ⟨⟩, ?_⟩
  rintro _ _ ⟨⟩ stopped
  rw [gone] at stopped
  cases stopped

/-- The status of a cleanup says whether the outcome is unknown. -/
theorem cleanedUp {status : CleanupStatus} {code message : String} {retryable : Bool}
    (absent : status ≠ .unconfirmed →
      Absent (ownRunToCommand request target) (RunToThere request target) loop) :
    RunToLeaves request target
      (.error ⟨code, message, retryable, status ≠ .absent⟩) loop := by
  refine ⟨?_, by rintro _ _ ⟨⟩⟩
  rintro _ ⟨⟩ known
  apply absent
  rw [not_not.mp (of_decide_eq_false known)]
  rintro ⟨⟩

end RunToLeaves

theorem absent_of_look {state : Debugger} (gone : Unqueued (ownRunToCommand request target) state)
    (foreign : ∀ current, state.store.find .normal target = some current →
      runToBreakpointOwned current target (runToBreakpointName request.operationId) = false) :
    Absent (ownRunToCommand request target) (RunToThere request target) state :=
  ⟨not_there foreign, gone⟩

theorem removedStatus_absent
    (exclusive : Exclusive parties (ownRunToCommand request target) (RunToThere request target))
    (start : Absent (ownRunToCommand request target) (RunToThere request target) loop) :
    (removedStatus target).Meets (debugger parties)
      (fun status state => status ≠ .unconfirmed →
        Absent (ownRunToCommand request target) (RunToThere request target) state) loop := by
  rw [removedStatus]
  exact (lasting_absent exclusive).ask start rfl fun _ _ absent _ => absent

theorem cleanupOwned_absent
    (exclusive : Exclusive parties (ownRunToCommand request target) (RunToThere request target))
    (start : Unqueued (ownRunToCommand request target) loop) :
    (cleanupOwned rounds target (runToBreakpointName request.operationId)).Meets (debugger parties)
      (fun status state => status ≠ .unconfirmed →
        Absent (ownRunToCommand request target) (RunToThere request target) state) loop := by
  have lasting := lasting_unqueued exclusive.submits
  have removed : ∀ state : Debugger, Unqueued (ownRunToCommand request target) state →
      none = state.store.find .normal target →
      Absent (ownRunToCommand request target) (RunToThere request target) state := by
    intro state gone told
    apply absent_of_look gone
    intro current found
    rw [← told] at found
    cases found
  have foreign : ∀ (current : BridgeBreakpoint) (state : Debugger),
      Unqueued (ownRunToCommand request target) state →
      some current = state.store.find .normal target →
      (!runToBreakpointOwned current target (runToBreakpointName request.operationId)) = true →
      Absent (ownRunToCommand request target) (RunToThere request target) state := by
    intro current state gone told other
    apply absent_of_look gone
    intro found same
    rw [← told] at same
    cases same
    exact Bool.not_eq_true' _ ▸ other
  rw [cleanupOwned]
  apply lasting.look start
  rintro (_ | current) state gone told
  · exact removedStatus_absent exclusive (removed state gone told)
  dsimp only
  rw [meets_ite]
  refine ⟨fun other _ => foreign current state gone told other, fun _ => ?_⟩
  apply lasting.queue gone (unqueued_append (clear_ne_ownRunTo target))
  rintro (_ | _) state gone
  · exact fun unsure => absurd rfl unsure
  rw [meets_ite]
  refine ⟨by rintro ⟨⟩, fun _ => ?_⟩
  rw [meets_bind]
  refine meets_repeatUpTo ?_ (fun _ _ unsure => absurd rfl unsure) rounds gone
  intro state gone
  rw [cleanupRound]
  apply lasting.ask gone rfl
  rintro (_ | _) state gone
  · exact ⟨by rintro ⟨⟩, fun _ unsure => absurd rfl unsure⟩
  apply lasting.look gone
  rintro (_ | observed) state gone told
  · rw [meets_bind]
    apply (removedStatus_absent exclusive (removed state gone told)).mono
    intro status state absent
    exact ⟨by rintro ⟨⟩, fun _ => absent⟩
  · dsimp only
    rw [meets_ite]
    refine ⟨fun other => ?_, fun _ => ⟨fun _ => gone, by rintro ⟨⟩⟩⟩
    exact ⟨by rintro ⟨⟩, fun _ _ => foreign observed state gone told other⟩

theorem finishRunTo_leaves {timedOut : Bool} {finalGeneration : Nat}
    {finalPause : Runtime.PauseObservation}
    (exclusive : Exclusive parties (ownRunToCommand request target) (RunToThere request target))
    (start : Unqueued (ownRunToCommand request target) loop) :
    (finishRunTo rounds target (runToBreakpointName request.operationId) timedOut finalGeneration
      finalPause).Meets (debugger parties) (RunToLeaves request target) loop := by
  rw [finishRunTo, meets_ite]
  refine ⟨fun _ => RunToLeaves.unknown rfl, fun _ => ?_⟩
  apply (lasting_unqueued exclusive.submits).ask start rfl
  intro _ state gone
  rw [meets_ite]
  refine ⟨fun _ => RunToLeaves.unknown rfl, fun _ => ?_⟩
  rw [meets_bind]
  apply (cleanupOwned_absent exclusive gone).mono
  rintro (_ | _ | _) state absent
  · have lasting := lasting_absent exclusive
    apply lasting.ask (absent (by rintro ⟨⟩)) rfl
    rintro (_ | final) state absent
    · exact RunToLeaves.absent absent
    apply lasting.ask absent rfl
    rintro (_ | _) state absent
    · exact RunToLeaves.absent absent
    · exact RunToLeaves.absent absent
  · exact RunToLeaves.unknown rfl
  · exact RunToLeaves.unknown rfl

theorem exitRunTo_leaves {beforeRun : Nat} :
    (exitRunTo beforeRun).Meets (debugger parties) (RunToLeaves request target) loop := by
  have exited : ∀ state : Debugger,
      (do
        let stopped : Nat ← native (.observedGeneration .absent)
        return .ok (stopped, ⟨false, true, none, some "process_exited"⟩) :
          Handler RunToResponse).Meets (debugger parties) (RunToLeaves request target) state := by
    intro state
    rw [meets_bind]
    apply meets_put.mpr
    intro _ _ _
    exact RunToLeaves.exited rfl
  rw [exitRunTo, meets_bind]
  apply meets_put.mpr
  rintro (_ | _) state -
  · rw [meets_ite]
    refine ⟨by rintro ⟨⟩, fun _ => ?_⟩
    rw [meets_bind]
    apply meets_put.mpr
    intro _ state _
    rw [meets_ite]
    exact ⟨fun _ => RunToLeaves.unknown rfl, fun _ => exited state⟩
  · exact exited state

theorem awaitRunTo_leaves {beforeRun : Nat}
    (exclusive : Exclusive parties (ownRunToCommand request target) (RunToThere request target))
    (start : Unqueued (ownRunToCommand request target) loop) :
    (awaitRunTo rounds target (runToBreakpointName request.operationId) beforeRun).Meets
      (debugger parties) (RunToLeaves request target) loop := by
  have lasting := lasting_unqueued exclusive.submits
  rw [awaitRunTo]
  apply lasting.ask start rfl
  intro ended state gone
  rw [meets_ite]
  refine ⟨fun _ => RunToLeaves.unknown rfl, fun _ => ?_⟩
  rw [meets_ite]
  refine ⟨fun _ => exitRunTo_leaves, fun _ => ?_⟩
  rw [meets_ite]
  refine ⟨fun _ => finishRunTo_leaves exclusive gone, fun _ => ?_⟩
  rw [meets_ite]
  refine ⟨fun _ => finishRunTo_leaves exclusive gone, fun _ => ?_⟩
  apply lasting.ask gone rfl
  intro _ state gone
  apply lasting.queue gone (unqueued_append (word_ne_ownRunTo' target (by decide) (by decide)))
  rintro (_ | _) state gone
  · exact RunToLeaves.unknown rfl
  apply lasting.ask gone rfl
  rintro (_ | _) state gone
  · exact RunToLeaves.unknown rfl
  apply lasting.ask gone rfl
  intro final state gone
  exact finishRunTo_leaves exclusive gone

/-- The breakpoint may stand, or an error says what became of it. -/
theorem installRunTo_leaves {generation : Nat}
    (exclusive : Exclusive parties (ownRunToCommand request target) (RunToThere request target))
    (others : ∀ other, parties.submits other → signalled other = none)
    (start : Absent (ownRunToCommand request target) (RunToThere request target) loop) :
    (installRunTo rounds target generation (runToBreakpointName request.operationId)).Meets
      (debugger parties)
      (fun refused state => (∀ error, refused = some error →
          RunToLeaves request target (.error error) state) ∧
        (refused = none → Unqueued (ownRunToCommand request target) state)) loop := by
  have lasting := lasting_unqueued exclusive.submits
  rw [installRunTo, meets_bind]
  apply (submitFenced_absent exclusive others (isFence_ownRunTo target) start).mono
  rintro progress state ⟨absent, gone⟩
  cases progress with
  | unarmed => exact ⟨fun _ _ => RunToLeaves.absent (absent rfl), by rintro ⟨⟩⟩
  | refused => exact ⟨fun _ _ => RunToLeaves.absent (absent rfl), by rintro ⟨⟩⟩
  | unfenced => exact ⟨by rintro _ ⟨⟩; exact RunToLeaves.unknown rfl, by rintro ⟨⟩⟩
  | unconfirmed => exact ⟨by rintro _ ⟨⟩; exact RunToLeaves.unknown rfl, by rintro ⟨⟩⟩
  | completed =>
      apply lasting.ask (gone rfl) rfl
      intro installed state gone
      rw [meets_ite]
      constructor
      · intro _
        rw [meets_bind]
        apply (cleanupOwned_absent exclusive gone).mono
        intro status state absent
        refine ⟨?_, by rintro ⟨⟩⟩
        rintro _ ⟨⟩
        exact ⟨abandoned_leavesNothing absent, by rintro _ _ ⟨⟩⟩
      · intro _
        apply lasting.ask gone rfl
        rintro (_ | _) state gone
        · rw [meets_ite]
          refine ⟨fun _ => ?_, fun current => absurd rfl current⟩
          rw [meets_bind]
          apply (cleanupOwned_absent exclusive gone).mono
          intro status state absent
          refine ⟨?_, by rintro ⟨⟩⟩
          rintro _ ⟨⟩
          exact RunToLeaves.cleanedUp absent
        · exact ⟨by rintro _ ⟨⟩, fun _ => gone⟩

theorem runToAddress_leaves {generation : Nat}
    (exclusive : Exclusive parties (ownRunToCommand request target) (RunToThere request target))
    (others : ∀ other, parties.submits other → signalled other = none)
    (start : Absent (ownRunToCommand request target) (RunToThere request target) loop) :
    (runToAddress rounds request target generation).Meets (debugger parties)
      (RunToLeaves request target) loop := by
  have lasting := lasting_absent exclusive
  rw [runToAddress]
  apply lasting.ask start rfl
  rintro (_ | _) state absent
  · exact RunToLeaves.absent absent
  apply lasting.ask absent rfl
  rintro (_ | initial) state absent
  · exact RunToLeaves.absent absent
  apply lasting.ask absent rfl
  intro instruction state absent
  rw [meets_ite]
  refine ⟨fun _ => RunToLeaves.absent absent, fun _ => ?_⟩
  apply lasting.ask absent rfl
  rintro (_ | _) state absent
  · rw [meets_ite]
    refine ⟨by rintro ⟨⟩, fun _ => ?_⟩
    rw [meets_ite]
    constructor
    · intro _
      apply lasting.ask absent rfl
      intro pause state absent
      exact RunToLeaves.absent absent
    · intro _
      apply lasting.ask absent rfl
      rintro (_ | _) state absent
      · exact RunToLeaves.absent absent
      rw [meets_ite]
      refine ⟨by rintro ⟨⟩, fun _ => ?_⟩
      rw [meets_bind]
      apply (installRunTo_leaves exclusive others absent).mono
      rintro (_ | error) state ⟨failed, stands⟩
      · have lasting := lasting_unqueued exclusive.submits
        apply lasting.ask (stands rfl) rfl
        intro beforeRun state gone
        refine lasting.queue gone
          (unqueued_append (word_ne_ownRunTo' target (by decide) (by decide))) ?_
        rintro (_ | _) state gone
        · rw [meets_ite]
          refine ⟨fun _ => ?_, fun accepted => absurd rfl accepted⟩
          rw [meets_bind]
          apply (cleanupOwned_absent exclusive gone).mono
          intro status state absent
          exact RunToLeaves.cleanedUp absent
        · exact awaitRunTo_leaves exclusive gone
      · exact failed error rfl
  · exact RunToLeaves.absent absent

/-- Whatever the other parties do: when running to an address fails and the outcome is not
called unknown, or when it has stopped in a pause, the breakpoint of the run is not there
then, and never will be. -/
theorem runToAddress_residue {generation : Nat} {response : RunToResponse} {state final : Debugger}
    (exclusive : Exclusive parties (ownRunToCommand request target) (RunToThere request target))
    (others : ∀ other, parties.submits other → signalled other = none)
    (start : Absent (ownRunToCommand request target) (RunToThere request target) loop)
    (runs : (runToAddress rounds request target generation).Runs (debugger parties) loop
      response state)
    (clean : (∃ error, response = .error error ∧ error.unknown = false) ∨
      ∃ generation result, response = .ok (generation, result) ∧ result.stopped.isSome = true)
    (later : Later (withFence parties) state final) :
    ¬ RunToThere request target final.store.find ∧
      ownRunToCommand request target ∉ final.waiting := by
  have leaves := meets_iff.mp (runToAddress_leaves exclusive others start) _ _ runs
  have absent : Absent (ownRunToCommand request target) (RunToThere request target) state := by
    rcases clean with ⟨error, failed, known⟩ | ⟨stamp, result, told, stopped⟩
    · exact leaves.1 error failed known
    · exact leaves.2 stamp result told stopped
  exact absent_later exclusive absent later

end RunTo

/-- Where it is set, and what is made there. -/
def runToSite : Site where
  type := .normal
  address := 0x402000
  set := ownRunToCommand sampleRequest 0x402000
  clear := clearCommand 0x402000
  made := { plainRecord true with
    addr := 0x402000
    singleshoot := true
    name := utf8 (runToBreakpointName sampleRequest.operationId) ++ [0] }
  own := by decide
  apart := by decide

/-- The request carried out by a debugger that takes every command. -/
def runToRun : RunToResponse × Debugger :=
  (runToAddress 1 sampleRequest 0x402000 7).follow runToSite.answer emptyDebugger

/-- The debuggee ran and stopped, and the breakpoint was cleared behind it. -/
theorem runToRun_told : runToRun.1 =
    .ok (8, ⟨false, true, some ({}, 0x10), some "unknown"⟩) := by
  rfl

theorem runToAddress_residue_stopped :
    ¬ RunToThere sampleRequest 0x402000 runToRun.2.store.find ∧
      ownRunToCommand sampleRequest 0x402000 ∉ runToRun.2.waiting := by
  refine runToAddress_residue ?_ ?_ ?_ (runs_follow runToSite.answers _ emptyDebugger)
    (.inr ⟨_, _, runToRun_told, rfl⟩) .refl
  · apply Site.exclusive
    · rintro table ⟨current, found, _⟩ absent
      cases found.symm.trans absent
    · rintro before after same ⟨current, found, owned⟩
      exact ⟨current, same.symm.trans found, owned⟩
  · rintro _ rfl
    exact signalled_of_unfenced (by decide)
  · exact ⟨by rintro ⟨_, ⟨⟩, _⟩, unqueued_emptyDebugger _⟩

end X64dbgMcp.Plugin
