import X64dbgMcp.Plugin.NativeCalls
import X64dbgMcp.Transition.Since

/-!
# Histories of native calls

What a handler has asked so far, with the answers.  A call that may have changed something
in the debugger is told apart from one that only reads; what holds of a history is proved
call by call.
-/

namespace X64dbgMcp.Plugin

open Fence Text Transition Dialogue

/-- A native call with what came back. -/
abbrev NativeRecord :=
  Exchange NativeCall NativeCall.Answer

/-- The command only signals a fence. -/
def isFence (command : List UInt8) : Bool :=
  fencePrefix.isPrefixOf command

/-- No other command begins with an `x`. -/
theorem isFence_append {word : String} (rest : List UInt8)
    (start : (utf8 word).head?.any (· != 0x78) = true) : isFence (utf8 word ++ rest) = false := by
  cases letters : utf8 word with
  | nil =>
      rw [letters] at start
      cases start
  | cons first others =>
      rw [letters, List.head?_cons, Option.any_some, bne_iff_ne] at start
      have head : fencePrefix = 0x78 :: fencePrefix.tail := by decide
      rw [isFence, head, List.cons_append, List.isPrefixOf_cons_cons, beq_false_of_ne start.symm,
        Bool.false_and]

namespace NativeRecord

/-- The call may have changed something in the debugger. -/
def changes : NativeRecord → Bool
  | ⟨.cmdExec command, accepted⟩ => accepted && !isFence command
  | ⟨.cmdExecDirect _, _⟩ | ⟨.bpSetFieldText .., _⟩ | ⟨.bpSetFieldNumber .., _⟩ => true
  | ⟨.setThreadContext .., written⟩ => written
  | ⟨.interrupt, created⟩ => created
  | _ => false

end NativeRecord

/-- The call may change the debuggee or the debugger. -/
def NativeCall.mutates : NativeCall → Bool
  | .cmdExec _ | .cmdExecDirect _ | .bpSetFieldText .. | .bpSetFieldNumber ..
  | .setThreadContext .. | .interrupt => true
  | _ => false

theorem NativeRecord.changes_of_reads {call : NativeCall} (reads : call.mutates = false)
    (answer : call.Answer) : NativeRecord.changes ⟨call, answer⟩ = false := by
  cases call <;> first | rfl | cases reads

/-- A record of this kind has come, and nothing was changed behind it. -/
abbrev SeenBy (mark : NativeRecord → Prop) : List NativeRecord → Prop :=
  Since mark fun later => later.changes = true

/-- No call has changed anything. -/
def Quiet (history : List NativeRecord) : Prop :=
  ∀ record ∈ history, record.changes = false

@[simp]
theorem quiet_nil : Quiet [] := by
  simp [Quiet]

@[simp]
theorem quiet_concat {history : List NativeRecord} {record : NativeRecord} :
    Quiet (history ++ [record]) ↔ Quiet history ∧ record.changes = false := by
  simp only [Quiet, List.mem_append, List.mem_singleton]
  constructor
  · intro all
    exact ⟨fun earlier member => all earlier (.inl member), all record (.inr rfl)⟩
  · rintro ⟨earlier, last⟩ each (member | rfl)
    · exact earlier each member
    · exact last

/-! ## Conditions that reading keeps -/

/-- Calls that change nothing keep the condition. -/
def KeptByReads (holds : List NativeRecord → Prop) : Prop :=
  ∀ ⦃past record⦄, holds past → record.changes = false → holds (past ++ [record])

theorem keptByReads_quiet : KeptByReads Quiet :=
  fun _ _ quiet reads => quiet_concat.mpr ⟨quiet, reads⟩

theorem keptByReads_seenBy (mark : NativeRecord → Prop) : KeptByReads (SeenBy mark) := by
  intro past record seen reads
  exact since_concat.mpr (.inr ⟨seen, by simp [reads]⟩)

theorem not_quiet_concat {history : List NativeRecord} {record : NativeRecord}
    (loud : ¬ Quiet history) : ¬ Quiet (history ++ [record]) :=
  fun quiet => loud (quiet_concat.mp quiet).1

theorem KeptByReads.and {first second : List NativeRecord → Prop} (left : KeptByReads first)
    (right : KeptByReads second) : KeptByReads fun past => first past ∧ second past :=
  fun _ _ both reads => ⟨left both.1 reads, right both.2 reads⟩

section Rules

variable {α : Type} {ends : α → List NativeRecord → Prop} {past : List NativeRecord}

/-- Reading rule: whatever comes back, the rest starts where the condition still holds. -/
theorem KeptByReads.ask {holds : List NativeRecord → Prop} (kept : KeptByReads holds)
    {call : NativeCall} {rest : call.Answer → Handler α} (start : holds past)
    (reads : call.mutates = false)
    (onward : ∀ answer later, holds later → later = past ++ [⟨call, answer⟩] →
      (rest answer).Meets recording ends later) :
    (native call >>= rest).Meets recording ends past := by
  rw [meets_bind, meets_put_recording]
  intro answer
  exact onward answer _ (kept start (NativeRecord.changes_of_reads reads answer)) rfl

theorem meets_native {call : NativeCall} {rest : call.Answer → Handler α}
    (onward : ∀ answer, (rest answer).Meets recording ends (past ++ [⟨call, answer⟩])) :
    (native call >>= rest).Meets recording ends past := by
  rw [meets_bind, meets_put_recording]
  exact onward

theorem drawToken_keeps {holds : List NativeRecord → Prop} (kept : KeptByReads holds)
    (attempts : Nat) (start : holds past) :
    (drawToken attempts).Meets recording (fun _ => holds) past := by
  induction attempts generalizing past with
  | zero => exact start
  | succ attempts ih =>
      apply kept.ask start rfl
      intro token later holds _
      rw [meets_ite]
      exact ⟨fun _ => ih holds, fun _ => holds⟩

theorem isFence_fenceCommand (token : UInt64) : isFence (fenceCommand token) = true :=
  List.isPrefixOf_iff_prefix.mpr (List.prefix_append _ _)

/-- Fenced commands: what held before still holds when the command was not accepted, and
otherwise what the accepted command leads to. -/
theorem submitFenced_spec {before behind : List NativeRecord → Prop}
    {command : List UInt8} (keptBefore : KeptByReads before) (keptBehind : KeptByReads behind)
    (accepted : ∀ history, before history → behind (history ++ [⟨.cmdExec command, true⟩]))
    (start : before past) :
    (submitFenced command).Meets recording
      (fun progress later => (progress.status = .rejected → before later) ∧
        (progress.status ≠ .rejected → behind later)) past := by
  rw [submitFenced, meets_bind]
  apply (drawToken_keeps keptBefore 4 start).mono
  intro token later holds
  rw [meets_ite]
  refine ⟨fun _ => ⟨fun _ => holds, fun other => absurd rfl other⟩, fun _ => ?_⟩
  apply keptBefore.ask holds rfl
  rintro (_ | _) later holds -
  · exact ⟨fun _ => holds, fun other => absurd rfl other⟩
  apply meets_native
  rintro (_ | _)
  · apply keptBefore.ask (keptBefore holds rfl) rfl
    intro _ later holds _
    exact ⟨fun _ => holds, fun other => absurd rfl other⟩
  have reached := accepted later holds
  apply meets_native
  rintro (_ | _)
  · apply keptBehind.ask (keptBehind reached rfl) rfl
    intro _ later holds _
    exact ⟨by simp [FencedProgress.status], fun _ => holds⟩
  refine keptBehind.ask (keptBehind reached ?_) rfl ?_
  · simp [NativeRecord.changes, isFence_fenceCommand]
  · intro answer later holds _
    cases answer <;> exact ⟨by simp [FencedProgress.status], fun _ => holds⟩

theorem submitFencedCommand_spec {before behind : List NativeRecord → Prop}
    {command : List UInt8} (keptBefore : KeptByReads before) (keptBehind : KeptByReads behind)
    (accepted : ∀ history, before history → behind (history ++ [⟨.cmdExec command, true⟩]))
    (start : before past) :
    (submitFencedCommand command).Meets recording
      (fun status later =>
        (status = .rejected → before later) ∧ (status ≠ .rejected → behind later)) past := by
  rw [submitFencedCommand, meets_bind]
  exact (submitFenced_spec keptBefore keptBehind accepted start).mono fun _ _ ends => ends

end Rules

/-- A dialogue only adds to the history. -/
theorem meets_extends {α : Type} {past : List NativeRecord} (dialogue : Handler α) :
    dialogue.Meets recording (fun _ later => past <+: later) past := by
  refine meets_of_preserved ?_ dialogue List.prefix_rfl
  rintro state question answer target reached rfl
  exact reached.trans (List.prefix_append _ _)

/-- Address rule: the rest starts where nothing was changed and the address is known. -/
theorem resolvedLocation_rule {α : Type} {request : Request} {past : List NativeRecord}
    {handle : (address generation : Nat) → Handler (Except ErrorResponse α)}
    {ends : Except ErrorResponse α → List NativeRecord → Prop} (quiet : Quiet past)
    (refuses : ∀ error later, Quiet later → error.unknown = false → ends (.error error) later)
    (onward : ∀ address generation later, Quiet later →
      (⟨.resolveAddress request.address, .ok address⟩ : NativeRecord) ∈ later →
      (handle address generation).Meets recording ends later) :
    (resolvedLocation request handle).Meets recording ends past := by
  rw [resolvedLocation]
  apply keptByReads_quiet.ask quiet rfl
  rintro (_ | generation) later quiet -
  · exact refuses _ later quiet rfl
  apply keptByReads_quiet.ask quiet rfl
  rintro (_ | _) later quiet -
  · exact refuses _ later quiet rfl
  apply keptByReads_quiet.ask quiet rfl
  rintro (failure | address) later quiet resolved
  · exact refuses _ later quiet rfl
  have member : (⟨.resolveAddress request.address, .ok address⟩ : NativeRecord) ∈ later := by
    simp [resolved]
  apply keptByReads_quiet.ask quiet rfl
  rintro (_ | _) last quiet extended
  · exact refuses _ last quiet rfl
  · apply onward address generation last quiet
    rw [extended]
    exact List.mem_append_left _ member

/-! ## Looks -/

/-- The look at a breakpoint, with what it found. -/
abbrev look (type : BreakpointType) (address : Nat) (found : Option BridgeBreakpoint) :
    NativeRecord :=
  ⟨.getBridgeBp type address, found⟩

/-- A look that found a record of this kind. -/
def Found (type : BreakpointType) (address : Nat) (kind : BridgeBreakpoint → Prop)
    (record : NativeRecord) : Prop :=
  ∃ found, record = look type address (some found) ∧ kind found

/-- What the last look has found is seen. -/
theorem seenBy_last {mark : NativeRecord → Prop} {history : List NativeRecord}
    {record : NativeRecord} (marked : mark record) :
    SeenBy mark (history ++ [record]) :=
  since_concat.mpr (.inl marked)

/-- A debugger with a paused debuggee that accepts every command, holds no breakpoint record
and refuses to write fields. -/
def agreeable (_ : List NativeRecord) : (call : NativeCall) → call.Answer
  | .beginPausedSnapshot => some 7
  | .generation => (7 : Nat)
  | .resolveAddress reference => .ok reference.absolute
  | .getBridgeBp .. => none
  | .getBpxTypeAt address => address == 0x401000
  | .hardwareBreakpoints => some []
  | .memBpSize _ => (4 : Nat)
  | .memFindBaseAddr _ => (0, 0x1000000)
  | .random => (1 : UInt64)
  | .wait _ => CommandFenceWait.completed
  | .registers => some (0x10, 0x20)
  | .disasmAt _ => (1, utf8 "ret")
  | .latestPause => { hasThreadId := true, threadId := 5 }
  | .pausedObservation => (8, {})
  | .debuggeeState => X64dbgMcp.Runtime.DebuggeeState.paused
  | .observedGeneration _ => (8 : Nat)
  | .sessionOrigin => X64dbgMcp.Runtime.SessionOrigin.launched
  | .confirmedPause _ => none
  | .waitForRunEnd _ => ⟨true, true, .paused, 8, 0, {}⟩
  | .threadId | .takeSelectedThread => (5 : UInt32)
  | .threadList | .getThreadContext _ => none
  | .cancel _ | .bpRefException _ | .reconcileLiveness | .releaseInterrupt | .keepSelectedThread =>
      ()
  | .bpSetFieldText .. | .bpSetFieldNumber .. | .initializing _ | .ownedPauseException
  | .claimInterrupt => false
  | .pausedSnapshotCurrent _ | .isDebugging | .offers _ | .inTime | .arm _ | .cmdExec _
  | .cmdExecDirect _ | .bpRefVa _ | .bpRefExists _ | .pauseObservationCurrent ..
  | .waitForState .. | .waitForPauseReason .. | .setThreadContext .. | .interrupt => true

end X64dbgMcp.Plugin
