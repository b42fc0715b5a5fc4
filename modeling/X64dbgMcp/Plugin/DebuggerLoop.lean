import X64dbgMcp.Plugin.BreakpointOutcomes
import X64dbgMcp.Plugin.NativeHistory
import X64dbgMcp.Transition.CommandLoop

/-!
# The debugger that parties share

The debugger runs the queued commands of all parties one by one, and other parties change
its breakpoints meanwhile.  A handler whose command is followed by a fence knows when the
command has run.  The rules here carry a condition through a handler while others move.
-/

namespace X64dbgMcp.Plugin

open Fence Text Transition Dialogue CommandLoop

/-- The breakpoints by type and address. -/
abbrev BreakpointTable :=
  BreakpointType → Nat → Option BridgeBreakpoint

/-- The fence of the plugin, and the breakpoints of the debugger. -/
structure DebuggerStore where
  fence : CommandFence
  find : BreakpointTable

/-- x64dbg with the commands that wait in it. -/
abbrev Debugger :=
  CommandLoop (List UInt8) DebuggerStore

/-- `CommandFenceCallback`, with the one argument of its command. -/
def commandFenceCallback (argument : List UInt8) : Option UInt64 :=
  if argument.length = 16 then
    (fromCharsAll 16 (2 ^ 64) argument).bind fun token =>
      if token = 0 then none else some (UInt64.ofNat token)
  else none

/-- The token that the run of a command signals; the argument is what follows the name. -/
def signalled (command : List UInt8) : Option UInt64 :=
  if isFence command then commandFenceCallback (command.drop fencePrefix.length) else none

/-- The debugger's own commands and the other parties do what `parties` says to its
breakpoints.  The fence is signalled by its command, and started and stopped by the plugin. -/
def withFence (parties : Parties (List UInt8) BreakpointTable) :
    Parties (List UInt8) DebuggerStore where
  runs command store after := parties.runs command store.find after.find ∧
    after.fence = (signalled command).elim store.fence fun token => (store.fence.signal token).2
  submits := parties.submits
  meddles store after := parties.meddles store.find after.find ∧
    (after.fence = store.fence ∨ after.fence = store.fence.start.2 ∨ after.fence = store.fence.stop)

/-- How the debugger answers. -/
def AnsweredBy (parties : Parties (List UInt8) BreakpointTable) (loop : Debugger) :
    (call : NativeCall) → call.Answer → Debugger → Prop
  | .getBridgeBp type address, found, after => found = loop.store.find type address ∧ after = loop
  | .cmdExec command, accepted, after =>
      after = if accepted then ⟨loop.store, loop.waiting ++ [command]⟩ else loop
  | .cmdExecDirect command, _, after => after.waiting = loop.waiting ∧
      parties.runs command loop.store.find after.store.find ∧ after.store.fence = loop.store.fence
  | .bpSetFieldText .., _, after | .bpSetFieldNumber .., _, after =>
      after.waiting = loop.waiting ∧ after.store.fence = loop.store.fence
  | .arm token, armed, after => (armed, after.store.fence) = loop.store.fence.arm token ∧
      after.store.find = loop.store.find ∧ after.waiting = loop.waiting
  | .cancel token, _, after => after.store.fence = loop.store.fence.cancel token ∧
      after.store.find = loop.store.find ∧ after.waiting = loop.waiting
  | .wait token, ended, after =>
      (ended, after.store.fence) =
        loop.store.fence.observe token (loop.store.fence.released token) ∧
      after.store.find = loop.store.find ∧ after.waiting = loop.waiting
  -- 64 random bits: the token of a fence that still waits is not drawn again
  | .random, token, after => after = loop ∧
      (token = 0 ∨ ∀ command ∈ loop.waiting, signalled command ≠ some token)
  | _, _, after => after = loop

/-- The debugger moves on by itself before it answers. -/
def debugger (parties : Parties (List UInt8) BreakpointTable) :
    Environment Debugger NativeCall NativeCall.Answer :=
  fun loop call answer target => ∃ middle, Later (withFence parties) loop middle ∧
    AnsweredBy parties middle call answer target

/-! ## Tokens -/

theorem ofDigits_zeros (count : Nat) (digits : List UInt8) :
    ofDigits 16 (List.replicate count 0x30 ++ digits) = ofDigits 16 digits := by
  induction count with
  | zero => rfl
  | succ count ih => exact ih

/-- The command that a request queues signals its own token. -/
theorem signalled_fenceCommand (token : UInt64) :
    signalled (fenceCommand token) = if token = 0 then none else some token := by
  have short : (hexadecimal token.toNat).length ≤ 16 :=
    length_hexadecimal_le (by decide) token.toNat_lt
  have digits : ∀ byte ∈ List.replicate (16 - (hexadecimal token.toNat).length) 0x30 ++
      hexadecimal token.toNat, isLowerHex byte = true := by
    intro byte member
    rcases List.mem_append.mp member with zero | digit
    · rw [List.eq_of_mem_replicate zero]
      decide
    · exact isLowerHex_of_mem_hexadecimal digit
  have read : fromCharsAll 16 (2 ^ 64) (List.replicate (16 - (hexadecimal token.toNat).length)
      0x30 ++ hexadecimal token.toNat) = some token.toNat := by
    rw [fromCharsAll_of_digits (by simp [hexadecimal_ne_nil]) ?_ ?_, ofDigits_zeros,
      ofDigits_hexadecimal]
    · intro byte member
      exact isDigit_of_isLowerHex (digits byte member)
    · rw [ofDigits_zeros, ofDigits_hexadecimal]
      exact token.toNat_lt
  have length : (List.replicate (16 - (hexadecimal token.toNat).length) 0x30 ++
      hexadecimal token.toNat).length = 16 := by
    rw [List.length_append, List.length_replicate]
    omega
  have zero : token.toNat = 0 ↔ token = 0 := by
    rw [← UInt64.toNat_inj]
    rfl
  rw [signalled, if_pos (isFence_fenceCommand token), fenceCommand, List.drop_left,
    commandFenceCallback, if_pos length, read, Option.bind_some, UInt64.ofNat_toNat]
  simp only [zero]

/-! ## Conditions that others keep -/

section Rules

variable {α : Type} {parties : Parties (List UInt8) BreakpointTable} {command : List UInt8}
  {effect : BreakpointTable → Prop} {loop : Debugger} {holds : Debugger → Prop}

variable (parties) in
/-- No move ends the condition, and it does not depend on the fence. -/
structure Lasting (holds : Debugger → Prop) : Prop where
  moves : ∀ ⦃loop target⦄, holds loop → Move (withFence parties) loop target → holds target
  same : ∀ ⦃loop target : Debugger⦄, holds loop → target.store.find = loop.store.find →
    target.waiting = loop.waiting → holds target

theorem Lasting.reads (lasting : Lasting parties holds) (start : holds loop) {call : NativeCall}
    {answer : call.Answer} {target : Debugger} (reads : call.mutates = false)
    (answered : debugger parties loop call answer target) : holds target := by
  rcases answered with ⟨middle, later, answers⟩
  have held := later.keeps lasting.moves start
  cases call with
  | arm token => exact lasting.same held answers.2.1 answers.2.2
  | cancel token => exact lasting.same held answers.2.1 answers.2.2
  | wait token => exact lasting.same held answers.2.1 answers.2.2
  | getBridgeBp type address =>
      rcases answers with ⟨-, rfl⟩
      exact held
  | random =>
      rcases answers with ⟨rfl, -⟩
      exact held
  | cmdExec => cases reads
  | cmdExecDirect => cases reads
  | bpSetFieldText => cases reads
  | bpSetFieldNumber => cases reads
  | setThreadContext => cases reads
  | interrupt => cases reads
  | _ =>
      cases answers
      exact held

variable {ends : α → Debugger → Prop}

/-- Reading rule: whatever comes back, the rest starts where the condition still holds. -/
theorem Lasting.ask (lasting : Lasting parties holds) {call : NativeCall}
    {rest : call.Answer → Handler α} (start : holds loop) (reads : call.mutates = false)
    (onward : ∀ answer target, holds target →
      (rest answer).Meets (debugger parties) ends target) :
    (native call >>= rest).Meets (debugger parties) ends loop := by
  rw [meets_bind, meets_put]
  intro answer target answered
  exact onward answer target (lasting.reads start reads answered)

/-- Looking rule: the rest starts where the table is what the look has found. -/
theorem Lasting.look (lasting : Lasting parties holds) {type : BreakpointType} {address : Nat}
    {rest : Option BridgeBreakpoint → Handler α} (start : holds loop)
    (onward : ∀ found target, holds target → found = target.store.find type address →
      (rest found).Meets (debugger parties) ends target) :
    (native (.getBridgeBp type address) >>= rest).Meets (debugger parties) ends loop := by
  rw [meets_bind, meets_put]
  rintro found target ⟨middle, later, told, rfl⟩
  exact onward found target (later.keeps lasting.moves start) told

/-- Queue rule: the condition must be kept by the command that is appended. -/
theorem Lasting.queue (lasting : Lasting parties holds) {other : List UInt8}
    {rest : Bool → Handler α} (start : holds loop)
    (appended : ∀ loop : Debugger, holds loop → holds ⟨loop.store, loop.waiting ++ [other]⟩)
    (onward : ∀ accepted target, holds target →
      (rest accepted).Meets (debugger parties) ends target) :
    (native (.cmdExec other) >>= rest).Meets (debugger parties) ends loop := by
  rw [meets_bind, meets_put]
  rintro (_ | _) target ⟨middle, later, answers⟩
  · cases answers
    exact onward false _ (later.keeps lasting.moves start)
  · cases answers
    exact onward true _ (appended middle (later.keeps lasting.moves start))

/-- The command does not wait. -/
def Unqueued (command : List UInt8) (loop : Debugger) : Prop :=
  command ∉ loop.waiting

theorem lasting_unqueued (others : ¬ parties.submits command) :
    Lasting parties (Unqueued command) where
  moves := by
    intro loop target gone moved
    cases moved with
    | run ran => exact (List.ne_and_not_mem_of_not_mem_cons gone).2
    | submit submitted =>
        apply not_mem_append gone
        rintro rfl
        exact others submitted
    | meddle meddled => exact gone
  same := by
    intro loop target gone _ waiting
    rw [Unqueued, waiting]
    exact gone

/-- Writing rule: a field that is written queues nothing. -/
theorem lasting_unqueued_write (others : ¬ parties.submits command) {call : NativeCall}
    {rest : call.Answer → Handler α} (start : Unqueued command loop)
    (unqueued : ∀ middle answer target, AnsweredBy parties middle call answer target →
      target.waiting = middle.waiting)
    (onward : ∀ answer target, Unqueued command target →
      (rest answer).Meets (debugger parties) ends target) :
    (native call >>= rest).Meets (debugger parties) ends loop := by
  rw [meets_bind, meets_put]
  rintro answer target ⟨middle, later, answers⟩
  apply onward answer target
  rw [Unqueued, unqueued middle answer target answers]
  exact later.keeps (lasting_unqueued others).moves start

/-- The breakpoint is not there, and the command that would set it does not wait. -/
abbrev Absent (command : List UInt8) (effect : BreakpointTable → Prop) : Debugger → Prop :=
  Free command fun store => effect store.find

theorem exclusive_withFence (exclusive : Exclusive parties command effect) :
    Exclusive (withFence parties) command fun store => effect store.find where
  runs := fun _ _ _ different ran absent => exclusive.runs different ran.1 absent
  meddles := fun _ _ meddled absent => exclusive.meddles meddled.1 absent
  submits := exclusive.submits

theorem lasting_absent (exclusive : Exclusive parties command effect) :
    Lasting parties (Absent command effect) where
  moves := fun _ _ free moved => free.move (exclusive_withFence exclusive) moved
  same := by
    intro loop target free find waiting
    constructor
    · rw [find]
      exact free.absent
    · rw [waiting]
      exact free.gone

theorem unqueued_append {other : List UInt8} (different : other ≠ command) (loop : Debugger)
    (gone : Unqueued command loop) : Unqueued command ⟨loop.store, loop.waiting ++ [other]⟩ :=
  not_mem_append gone different

/-! ## Fenced commands -/

/-- The fence has seen its token. -/
def Reached (token : UInt64) (store : DebuggerStore) : Prop :=
  store.fence.pending = some token ∧ store.fence.completed = true

theorem signal_unreached {fence : CommandFence} {token other : UInt64} (different : other ≠ token)
    (unreached : ¬ (fence.pending = some token ∧ fence.completed = true)) :
    ¬ ((fence.signal other).2.pending = some token ∧ (fence.signal other).2.completed = true) := by
  rw [CommandFence.signal]
  split_ifs with refused
  · exact unreached
  · simp only [Bool.or_eq_true, not_or, Bool.not_eq_true, Bool.not_eq_false', bne_eq_false_iff_eq]
      at refused
    rintro ⟨pending, -⟩
    rw [refused.2] at pending
    exact different (Option.some.inj pending)

theorem unreached_run {token : UInt64} {other : List UInt8} {store after : DebuggerStore}
    (silent : signalled other ≠ some token) (ran : (withFence parties).runs other store after)
    (unreached : ¬ Reached token store) : ¬ Reached token after := by
  rw [Reached, ran.2]
  cases told : signalled other with
  | none => exact unreached
  | some own =>
      apply signal_unreached _ unreached
      rintro rfl
      exact silent told

theorem unreached_meddle {token : UInt64} {store after : DebuggerStore}
    (meddled : (withFence parties).meddles store after) (unreached : ¬ Reached token store) :
    ¬ Reached token after := by
  rcases meddled with ⟨-, same | started | stopped⟩
  · rw [Reached, same]
    exact unreached
  · rw [Reached, started, CommandFence.start]
    split_ifs
    · exact unreached
    · simp
  · rw [Reached, stopped, CommandFence.stop]
    simp

theorem guards (others : ¬ parties.submits command) (token : UInt64) :
    Guards (withFence parties) command (fun other => signalled other = some token)
      (Reached token) where
  runs := fun _ _ _ => unreached_run
  meddles := fun _ _ => unreached_meddle
  submits := others

theorem arm_unreached {fence after : CommandFence} {token : UInt64}
    (armed : (true, after) = fence.arm token) :
    ¬ (after.pending = some token ∧ after.completed = true) := by
  rw [CommandFence.arm] at armed
  split_ifs at armed
  · cases armed
  · cases armed
    simp

theorem reached_of_completed {fence after : CommandFence} {token : UInt64}
    (ended : (CommandFenceWait.completed, after) = fence.observe token (fence.released token)) :
    fence.pending = some token ∧ fence.completed = true := by
  rw [CommandFence.observe] at ended
  by_cases closed : (!fence.accepting) = true
  · rw [if_pos closed] at ended
    cases ended
  rw [if_neg closed] at ended
  by_cases late : (!fence.released token || fence.pending != some token ||
      !fence.completed) = true
  · rw [if_pos late] at ended
    cases ended
  · simp only [Bool.or_eq_true, not_or, bne_iff_ne, ne_eq, not_not, Bool.not_eq_true,
      Bool.not_eq_false'] at late
    exact ⟨late.1.2, late.2⟩

/-- No waiting command signals the token. -/
def Fresh (token : UInt64) (loop : Debugger) : Prop :=
  ∀ other ∈ loop.waiting, signalled other ≠ some token

theorem lasting_fresh {token : UInt64}
    (others : ∀ other, parties.submits other → signalled other = none) :
    Lasting parties (Fresh token) where
  moves := by
    intro loop target fresh moved
    cases moved with
    | run ran => exact fun other member => fresh other (List.mem_cons_of_mem _ member)
    | submit submitted =>
        intro other member
        rcases List.mem_append.mp member with earlier | last
        · exact fresh other earlier
        · rw [List.mem_singleton.mp last, others _ submitted]
          exact Option.some_ne_none _ |>.symm
    | meddle meddled => exact fresh
  same := by
    intro loop target fresh _ waiting
    rw [Fresh, waiting]
    exact fresh

theorem waits_move {token : UInt64}
    (others : ∀ other, parties.submits other → signalled other = none) {target : Debugger}
    (waits : Fresh token loop ∧ ¬ Reached token loop.store)
    (moved : Move (withFence parties) loop target) :
    Fresh token target ∧ ¬ Reached token target.store := by
  refine ⟨(lasting_fresh others).moves waits.1 moved, ?_⟩
  cases moved with
  | run ran => exact unreached_run (waits.1 _ List.mem_cons_self) ran waits.2
  | submit _ => exact waits.2
  | meddle meddled => exact unreached_meddle meddled waits.2

theorem drawToken_fresh (lasting : Lasting parties holds) (attempts : Nat) (start : holds loop) :
    (drawToken attempts).Meets (debugger parties)
      (fun token target => holds target ∧ (token = 0 ∨ Fresh token target)) loop := by
  induction attempts generalizing loop with
  | zero => exact ⟨start, .inl rfl⟩
  | succ attempts ih =>
      rw [drawToken, meets_bind]
      apply meets_put.mpr
      rintro token target ⟨middle, later, rfl, fresh⟩
      have held := later.keeps lasting.moves start
      rw [meets_ite]
      exact ⟨fun _ => ih held, fun _ => ⟨held, fresh⟩⟩

theorem signalled_of_unfenced (unfenced : isFence command = false) : signalled command = none := by
  rw [signalled, unfenced]
  rfl

/-- Fenced commands: one that was not accepted has set nothing, and one whose fence was seen
does not wait any more. -/
theorem submitFenced_absent (exclusive : Exclusive parties command effect)
    (others : ∀ other, parties.submits other → signalled other = none)
    (unfenced : isFence command = false) (start : Absent command effect loop) :
    (submitFenced command).Meets (debugger parties)
      (fun progress target => (progress.status = .rejected → Absent command effect target) ∧
        (progress = .completed → Unqueued command target)) loop := by
  have lasting := lasting_absent exclusive
  rw [submitFenced, meets_bind]
  apply (drawToken_fresh lasting 4 start).mono
  rintro token drawn ⟨absent, fresh⟩
  rw [meets_ite]
  refine ⟨fun _ => ⟨fun _ => absent, by rintro ⟨⟩⟩, fun nonzero => ?_⟩
  have fresh := fresh.resolve_left nonzero
  rw [meets_bind, meets_put]
  rintro (_ | _) armed ⟨middle, later, answers⟩
  · exact ⟨fun _ => lasting.same (later.keeps lasting.moves absent) answers.2.1 answers.2.2,
      by rintro ⟨⟩⟩
  have absent := lasting.same (later.keeps lasting.moves absent) answers.2.1 answers.2.2
  have waits : Fresh token armed ∧ ¬ Reached token armed.store :=
    ⟨(lasting_fresh others).same (later.keeps (lasting_fresh others).moves fresh) answers.2.1
      answers.2.2, arm_unreached answers.1⟩
  rw [meets_ite]
  refine ⟨by rintro ⟨⟩, fun _ => ?_⟩
  rw [meets_bind, meets_put]
  rintro (_ | _) queued ⟨middle, later, answers⟩
  · cases answers
    apply lasting.ask (later.keeps lasting.moves absent) rfl
    intro _ target absent
    exact ⟨fun _ => absent, by rintro ⟨⟩⟩
  cases answers
  have waits : Fresh token ⟨middle.store, middle.waiting ++ [command]⟩ ∧
      ¬ Reached token middle.store := by
    rcases later.keeps (fun _ _ => waits_move others) waits with ⟨fresh, unreached⟩
    refine ⟨?_, unreached⟩
    intro other member
    rcases List.mem_append.mp member with earlier | last
    · exact fresh other earlier
    · rw [List.mem_singleton.mp last, signalled_of_unfenced unfenced]
      rintro ⟨⟩
  rw [meets_ite]
  refine ⟨by rintro ⟨⟩, fun _ => ?_⟩
  rw [meets_bind, meets_put]
  rintro (_ | _) fenced ⟨before, later, answers⟩
  · cases answers
    rw [meets_ite]
    refine ⟨fun _ => ?_, fun accepted => absurd rfl accepted⟩
    rw [meets_bind, meets_put]
    intro _ target _
    exact ⟨by rintro ⟨⟩, by rintro ⟨⟩⟩
  cases answers
  have waits := later.keeps (fun _ _ => waits_move others) waits
  have fenced : Fenced command (fun other => signalled other = some token) (Reached token)
      ⟨before.store, before.waiting ++ [fenceCommand token]⟩ := fenced_append waits.2 waits.1
  rw [meets_ite]
  refine ⟨by rintro ⟨⟩, fun _ => ?_⟩
  rw [meets_bind, meets_put]
  rintro ended target ⟨last, later, answers⟩
  have gone := fenced.later (guards exclusive.submits token) later
  cases ended with
  | completed =>
      refine ⟨by rintro ⟨⟩, fun _ => ?_⟩
      rw [Unqueued, answers.2.2]
      exact gone.gone (reached_of_completed answers.1)
  | timedOut => exact ⟨by rintro ⟨⟩, by rintro ⟨⟩⟩
  | stopped => exact ⟨by rintro ⟨⟩, by rintro ⟨⟩⟩

theorem fenceCommand_ne (unfenced : isFence command = false) (token : UInt64) :
    fenceCommand token ≠ command := by
  rintro rfl
  rw [isFence_fenceCommand] at unfenced
  cases unfenced

/-- Another command of the request does not bring the first one back. -/
theorem submitFencedCommand_unqueued {other : List UInt8} (different : other ≠ command)
    (submits : ¬ parties.submits command) (unfenced : isFence command = false)
    (start : Unqueued command loop) :
    (submitFencedCommand other).Meets (debugger parties) (fun _ => Unqueued command) loop := by
  have lasting := lasting_unqueued submits
  rw [submitFencedCommand, meets_bind, submitFenced, meets_bind]
  apply (drawToken_fresh lasting 4 start).mono
  rintro token drawn ⟨gone, -⟩
  rw [meets_ite]
  refine ⟨fun _ => gone, fun _ => ?_⟩
  apply lasting.ask gone rfl
  rintro (_ | _) armed gone
  · exact gone
  apply lasting.queue gone (unqueued_append different)
  rintro (_ | _) queued gone
  · exact lasting.ask gone rfl fun _ _ gone => gone
  apply lasting.queue gone (unqueued_append (fenceCommand_ne unfenced token))
  rintro (_ | _) fenced gone
  · exact lasting.ask gone rfl fun _ _ gone => gone
  apply lasting.ask gone rfl
  rintro (_ | _ | _) target gone <;> exact gone

/-! ## Cleanups -/

theorem not_there {type : BreakpointType} {address : Nat} {created : BridgeBreakpoint → Bool}
    {table : BreakpointTable}
    (foreign : ∀ current, table type address = some current → created current = false) :
    ¬ ∃ current, table type address = some current ∧ created current = true := by
  rintro ⟨current, found, own⟩
  rw [foreign current found] at own
  cases own

/-- Cleanup rule: unless the status is open, nothing of the request is left. -/
theorem cleanup_absent {type : BreakpointType} {address : Nat}
    {created : BridgeBreakpoint → Bool} {clear : List UInt8} (different : clear ≠ command)
    (submits : ¬ parties.submits command) (unfenced : isFence command = false)
    (shows : ∀ table : BreakpointTable, (∀ current, table type address = some current →
      created current = false) → ¬ effect table) (start : Unqueued command loop) :
    (cleanup type address created clear).Meets (debugger parties)
      (fun status target => status ≠ .unconfirmed → Absent command effect target) loop := by
  have lasting := lasting_unqueued submits
  have nothing : ∀ target : Debugger, Unqueued command target →
      none = target.store.find type address → Absent command effect target := by
    intro target gone told
    refine ⟨shows _ ?_, gone⟩
    intro current found
    rw [← told] at found
    cases found
  rw [cleanup]
  apply lasting.look start
  rintro (_ | current) target gone told
  · exact fun _ => nothing target gone told
  dsimp only
  rw [meets_ite]
  refine ⟨fun foreign _ => ⟨shows _ ?_, gone⟩, fun _ => ?_⟩
  · intro other found
    rw [← told] at found
    cases found
    exact Bool.not_eq_true' _ ▸ foreign
  rw [meets_bind]
  apply (submitFencedCommand_unqueued different submits unfenced gone).mono
  intro status target gone
  rw [meets_ite]
  refine ⟨fun _ unsure => absurd rfl unsure, fun _ => ?_⟩
  apply lasting.look gone
  rintro (_ | remaining) target gone told
  · exact fun _ => nothing target gone told
  · exact fun unsure => absurd rfl unsure

/-- The breakpoint is there only when the answer says so. -/
def LeavesNothing {β : Type} (command : List UInt8) (effect : BreakpointTable → Prop)
    (response : Except ErrorResponse β) (target : Debugger) : Prop :=
  ∀ error, response = .error error → error.unknown = false → Absent command effect target

theorem absent_later {target final : Debugger} (exclusive : Exclusive parties command effect)
    (absent : Absent command effect target) (later : Later (withFence parties) target final) :
    ¬ effect final.store.find ∧ command ∉ final.waiting := by
  have last := Free.later (exclusive_withFence exclusive) absent later
  exact ⟨last.absent, last.gone⟩

/-- Residue rule: a known error of such a handler stays true, whatever others do. -/
theorem residue_of_leavesNothing {β : Type} {handler : Handler (Except ErrorResponse β)}
    {response : Except ErrorResponse β} {target final : Debugger} {error : ErrorResponse}
    (exclusive : Exclusive parties command effect)
    (leaves : handler.Meets (debugger parties) (LeavesNothing command effect) loop)
    (runs : handler.Runs (debugger parties) loop response target)
    (failed : response = .error error) (known : error.unknown = false)
    (later : Later (withFence parties) target final) :
    ¬ effect final.store.find ∧ command ∉ final.waiting := by
  have absent := meets_iff.mp leaves _ _ runs error failed known
  exact absent_later exclusive absent later

theorem abandoned_leavesNothing {β : Type} {message : String} {status : CleanupStatus}
    {target : Debugger} (absent : status ≠ .unconfirmed → Absent command effect target) :
    LeavesNothing command effect (.error (abandoned message status) : Except ErrorResponse β)
      target := by
  rintro _ ⟨⟩ known
  exact absent (of_decide_eq_false known)

theorem cleanup_leavesNothing {β : Type} {message : String} {type : BreakpointType} {address : Nat}
    {created : BridgeBreakpoint → Bool} {clear : List UInt8} (different : clear ≠ command)
    (submits : ¬ parties.submits command) (unfenced : isFence command = false)
    (shows : ∀ table : BreakpointTable, (∀ current, table type address = some current →
      created current = false) → ¬ effect table) (start : Unqueued command loop) :
    (do return .error (abandoned message (← cleanup type address created clear)) :
        Handler (Except ErrorResponse β)).Meets (debugger parties)
      (LeavesNothing command effect) loop := by
  rw [meets_bind]
  apply (cleanup_absent different submits unfenced shows start).mono
  intro status target absent
  exact abandoned_leavesNothing absent

theorem submitting_leavesNothing {rejected unconfirmed : String} {rest : Handler BreakpointResponse}
    (exclusive : Exclusive parties command effect)
    (others : ∀ other, parties.submits other → signalled other = none)
    (unfenced : isFence command = false) (start : Absent command effect loop)
    (onward : ∀ target, Unqueued command target →
      rest.Meets (debugger parties) (LeavesNothing command effect) target) :
    (submitting command rejected unconfirmed rest).Meets (debugger parties)
      (LeavesNothing command effect) loop := by
  rw [submitting, meets_bind, submitFencedCommand, meets_bind]
  apply (submitFenced_absent exclusive others unfenced start).mono
  rintro progress target ⟨absent, gone⟩
  cases progress with
  | unarmed => exact fun _ _ _ => absent rfl
  | refused => exact fun _ _ _ => absent rfl
  | unfenced => rintro _ ⟨⟩ ⟨⟩
  | unconfirmed => rintro _ ⟨⟩ ⟨⟩
  | completed => exact onward target (gone rfl)

end Rules

/-- Two words that differ begin different commands. -/
theorem utf8_append_ne {first second : String} {left right : List UInt8} (index : Nat)
    (short : index < (utf8 first).length ∧ index < (utf8 second).length)
    (differs : (utf8 first)[index]? ≠ (utf8 second)[index]?) :
    utf8 first ++ left ≠ utf8 second ++ right := by
  intro same
  have at_index := congrArg (·[index]?) same
  simp only [List.getElem?_append_left short.1, List.getElem?_append_left short.2] at at_index
  exact differs at_index

/-! ## A debugger with a neighbour -/

/-- A table with another record at one address. -/
def putRecord (type : BreakpointType) (address : Nat) (found : Option BridgeBreakpoint)
    (table : BreakpointTable) : BreakpointTable :=
  fun kind place => if kind = type ∧ place = address then found else table kind place

theorem putRecord_same {type : BreakpointType} {address : Nat} {found : Option BridgeBreakpoint}
    {table : BreakpointTable} : putRecord type address found table type address = found :=
  if_pos ⟨rfl, rfl⟩

theorem putRecord_other {type kind : BreakpointType} {address place : Nat}
    {found : Option BridgeBreakpoint} {table : BreakpointTable} (elsewhere : place ≠ address) :
    putRecord type address found table kind place = table kind place :=
  if_neg fun same => elsewhere same.2

/-- The command that another party submits. -/
def neighbourCommand : List UInt8 :=
  utf8 "bp 403000"

/-- One breakpoint with the commands that set and clear it; the neighbour is elsewhere. -/
structure Site where
  type : BreakpointType
  address : Nat
  set : List UInt8
  clear : List UInt8
  made : BridgeBreakpoint
  own : set ≠ neighbourCommand
  apart : address ∉ [0x403000, 0x405000]

namespace Site

variable (site : Site)

/-- What a command does to the table. -/
def run (table : BreakpointTable) (command : List UInt8) : BreakpointTable :=
  if command = site.set then putRecord site.type site.address (some site.made) table
  else if command = site.clear then putRecord site.type site.address none table
  else if command = neighbourCommand then putRecord .normal 0x403000 (some (plainRecord true)) table
  else table

/-- The neighbour submits its own command, and changes a breakpoint of its own. -/
def parties : Parties (List UInt8) BreakpointTable where
  runs command before after := after = site.run before command
  submits command := command = neighbourCommand
  meddles before after := ∃ found, after = putRecord .normal 0x405000 found before

variable {site}

/-- Only the command of the site makes what is said of its record. -/
theorem exclusive {effect : BreakpointTable → Prop}
    (there : ∀ table, effect table → table site.type site.address ≠ none)
    (frame : ∀ before after, after site.type site.address = before site.type site.address →
      effect after → effect before) : Exclusive site.parties site.set effect where
  runs := by
    rintro command before _ different rfl absent present
    have apart := site.apart
    simp only [List.mem_cons, List.not_mem_nil, or_false, not_or] at apart
    rw [run, if_neg different] at present
    split_ifs at present with clears neighbours
    · exact there _ present putRecord_same
    · exact absent (frame _ _ (putRecord_other apart.1) present)
    · exact absent present
  meddles := by
    rintro before _ ⟨found, rfl⟩ absent present
    have apart := site.apart
    simp only [List.mem_cons, List.not_mem_nil, or_false, not_or] at apart
    exact absent (frame _ _ (putRecord_other apart.2) present)
  submits := site.own

variable (site)

/-- What it does to the table and to the fences. -/
def runStore (store : DebuggerStore) (command : List UInt8) : DebuggerStore :=
  ⟨(signalled command).elim store.fence fun token => (store.fence.signal token).2,
    site.run store.find command⟩

/-- The neighbour moves, and then the debugger works off its line. -/
def settle (loop : Debugger) : Debugger :=
  ⟨(loop.waiting ++ [neighbourCommand]).foldl site.runStore
    ⟨loop.store.fence, putRecord .normal 0x405000 (some (plainRecord false)) loop.store.find⟩, []⟩

theorem settle_later (loop : Debugger) :
    Later (withFence site.parties) loop (site.settle loop) := by
  rcases loop with ⟨store, waiting⟩
  have meddled : (withFence site.parties).meddles store
      ⟨store.fence, putRecord .normal 0x405000 (some (plainRecord false)) store.find⟩ :=
    ⟨⟨_, rfl⟩, .inl rfl⟩
  refine .head (.meddle meddled) (.head (.submit rfl) ?_)
  have runs : ∀ store command,
      (withFence site.parties).runs command store (site.runStore store command) :=
    fun _ _ => ⟨rfl, rfl⟩
  exact later_foldl runs _ _

end Site

/-- A token that no waiting command signals. -/
def nextToken (loop : Debugger) : UInt64 :=
  if loop.waiting.all fun other => signalled other != some 1 then 1 else 0

theorem nextToken_fresh (loop : Debugger) :
    nextToken loop = 0 ∨ ∀ other ∈ loop.waiting, signalled other ≠ some (nextToken loop) := by
  rw [nextToken]
  split_ifs with fresh
  · right
    intro other member
    exact bne_iff_ne.mp (List.all_eq_true.mp fresh other member)
  · exact .inl rfl

/-- A debugger that accepts every command and writes no field.  It works off its line whenever
it is looked at or waited for, and the neighbour moves first. -/
def Site.answer (site : Site) (loop : Debugger) : (call : NativeCall) → call.Answer × Debugger
  | .getBridgeBp type address => ((site.settle loop).store.find type address, site.settle loop)
  | .cmdExec command => (true, ⟨loop.store, loop.waiting ++ [command]⟩)
  | .cmdExecDirect command =>
      (false, ⟨⟨loop.store.fence, site.run loop.store.find command⟩, loop.waiting⟩)
  | .bpSetFieldText .. | .bpSetFieldNumber .. => (false, loop)
  | .arm token => ((loop.store.fence.arm token).1,
      ⟨⟨(loop.store.fence.arm token).2, loop.store.find⟩, loop.waiting⟩)
  | .cancel token => ((), ⟨⟨loop.store.fence.cancel token, loop.store.find⟩, loop.waiting⟩)
  | .wait token =>
      let settled := (site.settle loop).store
      let ended := settled.fence.observe token (settled.fence.released token)
      (ended.1, ⟨⟨ended.2, settled.find⟩, []⟩)
  | .random => (nextToken loop, loop)
  | call => (agreeable [] call, loop)

theorem Site.answers (site : Site) (loop : Debugger) (call : NativeCall) :
    debugger site.parties loop call (site.answer loop call).1 (site.answer loop call).2 := by
  cases call with
  | getBridgeBp => exact ⟨site.settle loop, site.settle_later loop, rfl, rfl⟩
  | wait => exact ⟨site.settle loop, site.settle_later loop, rfl, rfl, rfl⟩
  | random => exact ⟨loop, .refl, rfl, nextToken_fresh loop⟩
  | cmdExecDirect => exact ⟨loop, .refl, rfl, rfl, rfl⟩
  | bpSetFieldText => exact ⟨loop, .refl, rfl, rfl⟩
  | bpSetFieldNumber => exact ⟨loop, .refl, rfl, rfl⟩
  | arm => exact ⟨loop, .refl, rfl, rfl, rfl⟩
  | cancel => exact ⟨loop, .refl, rfl, rfl, rfl⟩
  | _ => exact ⟨loop, .refl, rfl⟩

/-- No breakpoint and no command. -/
def emptyDebugger : Debugger :=
  ⟨⟨{ accepting := true }, fun _ _ => none⟩, []⟩

theorem unqueued_emptyDebugger (command : List UInt8) : Unqueued command emptyDebugger :=
  List.not_mem_nil

end X64dbgMcp.Plugin
