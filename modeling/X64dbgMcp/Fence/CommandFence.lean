import Mathlib.Logic.Function.Basic
import X64dbgMcp.Transition.Execution
import X64dbgMcp.Transition.Since

/-!
# The command fence

`CommandFence` tells a request when the command loop of x64dbg has come to the command
behind its own.  Every section under the mutex is one step.  A `Wait` has such a section
when it is called, whenever it is woken, for whatever reason, and when its deadline has
passed, and those of all calls interleave.
-/

namespace X64dbgMcp.Fence

open Transition

/-- How a wait ends. -/
inductive CommandFenceWait where
  | completed
  | timedOut
  | stopped
  deriving DecidableEq

/-- The fence: the token that is waited for, and whether it was signalled. -/
structure CommandFence where
  pending : Option UInt64 := none
  accepting : Bool := false
  completed : Bool := false
  deriving DecidableEq

namespace CommandFence

/-- Accept tokens from now on. -/
def start (fence : CommandFence) : Bool × CommandFence :=
  if fence.accepting || fence.pending.isSome then (false, fence)
  else (true, { fence with accepting := true, completed := false })

/-- Accept no more tokens and let every waiter go. -/
def stop (_ : CommandFence) : CommandFence :=
  { accepting := false, pending := none, completed := false }

/-- Take a token to wait for; there is one at a time. -/
def arm (fence : CommandFence) (token : UInt64) : Bool × CommandFence :=
  if !fence.accepting || token == 0 || fence.pending.isSome then (false, fence)
  else (true, { fence with pending := some token, completed := false })

/-- The token has come by. -/
def signal (fence : CommandFence) (token : UInt64) : Bool × CommandFence :=
  if !fence.accepting || fence.pending != some token then (false, fence)
  else (true, { fence with completed := true })

/-- Give the token up. -/
def cancel (fence : CommandFence) (token : UInt64) : CommandFence :=
  if fence.pending != some token then fence
  else { fence with pending := none, completed := false }

/-- The predicate of `wait_until`. -/
def released (fence : CommandFence) (token : UInt64) : Bool :=
  !fence.accepting || (fence.pending == some token && fence.completed)

/-- `Wait` behind its `wait_until`. -/
def observe (fence : CommandFence) (token : UInt64) (observed : Bool) :
    CommandFenceWait × CommandFence :=
  if !fence.accepting then (.stopped, fence)
  else if !observed || fence.pending != some token || !fence.completed then
    (.timedOut, { fence with
      pending := if fence.pending = some token then none else fence.pending
      completed := false })
  else (.completed, { fence with pending := none, completed := false })

end CommandFence

/-- The fence and the token of every `Wait` that is blocked. -/
structure FenceSystem where
  fence : CommandFence
  waiters : Nat → Option UInt64

/-- A new fence, before any call. -/
def FenceSystem.initial : FenceSystem :=
  ⟨{}, fun _ => none⟩

/-- The calls that a fence takes. -/
inductive FenceCall where
  | start
  | stop
  | arm (token : UInt64)
  | signal (token : UInt64)
  | cancel (token : UInt64)
  | wait (waiter : Nat) (token : UInt64)
  /-- A notification or a spurious wakeup. -/
  | wake (waiter : Nat)
  /-- The deadline of a blocked `Wait` has passed. -/
  | expire (waiter : Nat)

/-- What a section did, with its result. -/
inductive FenceEvent where
  | started (result : Bool)
  | stopped
  | armed (token : UInt64) (result : Bool)
  | signalled (token : UInt64) (result : Bool)
  | cancelled (token : UInt64)
  | blocked (token : UInt64)
  | waited (token : UInt64) (result : CommandFenceWait)
  deriving DecidableEq

/-- A section of a `Wait`: it ends when the predicate holds or the deadline has passed. -/
def FenceSystem.waitSection (system : FenceSystem) (waiter : Nat) (token : UInt64)
    (late : Bool) : FenceEvent × FenceSystem :=
  let observed := system.fence.released token
  if observed || late then
    let (result, fence) := system.fence.observe token observed
    (.waited token result, ⟨fence, Function.update system.waiters waiter none⟩)
  else (.blocked token, { system with waiters := Function.update system.waiters waiter token })

/-- One call of the fence, or one look of a waiter. -/
def fenceNext : Step FenceSystem FenceCall FenceEvent := fun system call =>
  match call with
  | .start =>
      let (result, fence) := system.fence.start
      some (.started result, { system with fence })
  | .stop => some (.stopped, { system with fence := system.fence.stop })
  | .arm token =>
      let (result, fence) := system.fence.arm token
      some (.armed token result, { system with fence })
  | .signal token =>
      let (result, fence) := system.fence.signal token
      some (.signalled token result, { system with fence })
  | .cancel token => some (.cancelled token, { system with fence := system.fence.cancel token })
  | .wait waiter token =>
      if (system.waiters waiter).isSome then none
      else some (system.waitSection waiter token false)
  | .wake waiter =>
      (system.waiters waiter).map fun token => system.waitSection waiter token false
  | .expire waiter =>
      (system.waiters waiter).map fun token => system.waitSection waiter token true

/-! ## What a section does to the fence -/

/-- What each event makes of the fence. -/
inductive Effect (fence : CommandFence) : FenceEvent → CommandFence → Prop where
  | start (idle : fence.accepting = false) (free : fence.pending = none) :
      Effect fence (.started true) ⟨none, true, false⟩
  | refusedStart : Effect fence (.started false) fence
  | stop : Effect fence .stopped ⟨none, false, false⟩
  | arm {token : UInt64} (accepting : fence.accepting = true) (free : fence.pending = none) :
      Effect fence (.armed token true) ⟨some token, true, false⟩
  | refusedArm {token : UInt64} : Effect fence (.armed token false) fence
  | signal {token : UInt64} (accepting : fence.accepting = true)
      (pending : fence.pending = some token) :
      Effect fence (.signalled token true) ⟨some token, true, true⟩
  | refusedSignal {token : UInt64} : Effect fence (.signalled token false) fence
  | cancel {token : UInt64} (pending : fence.pending = some token) :
      Effect fence (.cancelled token) ⟨none, fence.accepting, false⟩
  | otherCancel {token : UInt64} (other : fence.pending ≠ some token) :
      Effect fence (.cancelled token) fence
  | block {token : UInt64} : Effect fence (.blocked token) fence
  | complete {token : UInt64} (accepting : fence.accepting = true)
      (pending : fence.pending = some token) (completed : fence.completed = true) :
      Effect fence (.waited token .completed) ⟨none, true, false⟩
  | expire {token : UInt64} (accepting : fence.accepting = true)
      (pending : fence.pending = some token) (waiting : fence.completed = false) :
      Effect fence (.waited token .timedOut) ⟨none, true, false⟩
  /-- The flag of the pending token is cleared too. -/
  | otherExpire {token : UInt64} (accepting : fence.accepting = true)
      (other : fence.pending ≠ some token) :
      Effect fence (.waited token .timedOut) ⟨fence.pending, true, false⟩
  | shutDown {token : UInt64} (idle : fence.accepting = false) :
      Effect fence (.waited token .stopped) fence

variable {fence : CommandFence}

theorem start_effect : Effect fence (.started fence.start.1) fence.start.2 := by
  rcases fence with ⟨pending, accepting, completed⟩
  unfold CommandFence.start
  split_ifs with refused
  · exact .refusedStart
  · simp only [Bool.or_eq_true, not_or, Bool.not_eq_true, Option.isSome_eq_false_iff,
      Option.isNone_iff_eq_none] at refused
    rcases refused with ⟨rfl, rfl⟩
    exact .start rfl rfl

theorem arm_effect (token : UInt64) :
    Effect fence (.armed token (fence.arm token).1) (fence.arm token).2 := by
  rcases fence with ⟨pending, accepting, completed⟩
  unfold CommandFence.arm
  split_ifs with refused
  · exact .refusedArm
  · simp only [Bool.or_eq_true, not_or, Bool.not_eq_true, Option.isSome_eq_false_iff,
      Option.isNone_iff_eq_none, Bool.not_eq_false'] at refused
    rcases refused with ⟨⟨rfl, -⟩, rfl⟩
    exact .arm rfl rfl

theorem signal_effect (token : UInt64) :
    Effect fence (.signalled token (fence.signal token).1) (fence.signal token).2 := by
  rcases fence with ⟨pending, accepting, completed⟩
  unfold CommandFence.signal
  split_ifs with refused
  · exact .refusedSignal
  · simp only [Bool.or_eq_true, not_or, Bool.not_eq_true, Bool.not_eq_false', bne_eq_false_iff_eq]
      at refused
    rcases refused with ⟨rfl, rfl⟩
    exact .signal rfl rfl

theorem cancel_effect (token : UInt64) :
    Effect fence (.cancelled token) (fence.cancel token) := by
  unfold CommandFence.cancel
  split_ifs with other
  · exact .otherCancel (bne_iff_ne.mp other)
  · exact .cancel (not_not.mp (mt bne_iff_ne.mpr other))

theorem observe_effect (token : UInt64) (late : Bool)
    (ends : (fence.released token || late) = true) :
    Effect fence (.waited token (fence.observe token (fence.released token)).1)
      (fence.observe token (fence.released token)).2 := by
  rcases fence with ⟨pending, accepting, completed⟩
  cases accepting with
  | false => exact .shutDown rfl
  | true =>
      by_cases same : pending = some token
      · subst same
        cases completed with
        | false =>
            have expired := @Effect.expire ⟨some token, true, false⟩ token rfl rfl rfl
            simpa [CommandFence.observe, CommandFence.released] using expired
        | true =>
            have done := @Effect.complete ⟨some token, true, true⟩ token rfl rfl rfl
            simpa [CommandFence.observe, CommandFence.released] using done
      · have expired := @Effect.otherExpire ⟨pending, true, completed⟩ token rfl same
        simpa [CommandFence.observe, CommandFence.released, same] using expired

theorem waitSection_effect (system : FenceSystem) (waiter : Nat) (token : UInt64) (late : Bool) :
    Effect system.fence (system.waitSection waiter token late).1
      (system.waitSection waiter token late).2.fence := by
  simp only [FenceSystem.waitSection]
  split_ifs with ends
  · exact observe_effect token late ends
  · exact .block

theorem fenceNext_effect {system after : FenceSystem} {call : FenceCall} {event : FenceEvent}
    (stepped : fenceNext system call = some (event, after)) :
    Effect system.fence event after.fence := by
  cases call with
  | start =>
      cases stepped
      exact start_effect
  | stop =>
      cases stepped
      exact .stop
  | arm token =>
      cases stepped
      exact arm_effect token
  | signal token =>
      cases stepped
      exact signal_effect token
  | cancel token =>
      cases stepped
      exact cancel_effect token
  | wait waiter token =>
      simp only [fenceNext] at stepped
      split_ifs at stepped with busy
      have effect := waitSection_effect system waiter token false
      rwa [Option.some.inj stepped] at effect
  | wake waiter =>
      rcases Option.map_eq_some_iff.mp stepped with ⟨token, -, same⟩
      have effect := waitSection_effect system waiter token false
      rwa [same] at effect
  | expire waiter =>
      rcases Option.map_eq_some_iff.mp stepped with ⟨token, -, same⟩
      have effect := waitSection_effect system waiter token true
      rwa [same] at effect

end X64dbgMcp.Fence
