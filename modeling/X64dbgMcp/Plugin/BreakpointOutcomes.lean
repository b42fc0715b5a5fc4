import X64dbgMcp.Plugin.BreakpointMutations
import X64dbgMcp.Plugin.NativeHistory

/-!
# What the answers of the breakpoint handlers say

Whatever the debugger answers, three things hold of a request.  An error that does not say
that the outcome is unknown means that the debugger accepted no change, or that the handler
has seen behind the last one that nothing of its own is left.  A success means that the
handler has seen the promised state behind the last change, in the pause that it names.  And
every command was submitted on the strength of a look behind the last change before it.
-/

namespace X64dbgMcp.Plugin

open Fence Text Transition Dialogue

/-! ## Promises -/

variable (build : Build) (types : NativeTypes)

/-- What must have been seen when a result is told. -/
def BreakpointResult.marks : BreakpointResult → List (NativeRecord → Prop)
  | .exceptionToggled code chance managedId enabled _ =>
      [Found .exception code.toNat fun after => after.enabled = enabled ∧
        exceptionBreakpointOwned types.exceptionChance after code chance managedId = true]
  | .exceptionPresent code chance managedId true =>
      [Found .exception code.toNat fun installed =>
        exceptionBreakpointMatches types installed code chance managedId = true]
  | .exceptionPresent code _ _ false => [(· = look .exception code.toNat none)]
  | .toggled _ address enabled _ =>
      [Found .normal address fun after => after.enabled = enabled ∧
        plainSoftwareBreakpointSelectable after address = true]
  | .hardwareToggled address access size slot enabled _ =>
      [Found .hardware address fun after => after.enabled = enabled ∧
        hardwareBreakpointMatches build types after access size enabled = true ∧
        slot = if enabled then some after.slot else none]
  | .memoryToggled address mode size enabled _ =>
      [Found .memory address fun after => after.enabled = enabled ∧
        memoryBreakpointMatches types after mode size size enabled = true,
        (· = ⟨.memBpSize address, size⟩)]
  | .conditionalToggled address managedId expression fastResume enabled _ =>
      [Found .normal address fun after => after.enabled = enabled ∧
        conditionalBreakpointOwned after address managedId = true ∧
        expression = after.breakCondition.take (strnlen after.breakCondition) ∧
        fastResume = after.fastResume]
  | .conditionalSet address managedId _ expression =>
      [Found .normal address fun installed =>
        conditionalBreakpointMatches installed address managedId expression = true]
  | .conditionalRemoved address _ => [(· = look .normal address none)]
  | .software address present => [(· = ⟨.getBpxTypeAt address, present⟩)]
  | .hardware address access size slot true =>
      [Found .hardware address fun current =>
        hardwareBreakpointMatches build types current access size true = true ∧
          slot = current.slot]
  | .hardware address _ _ _ false => [(· = look .hardware address none)]
  | .memory address mode size true =>
      [Found .memory address fun current =>
        memoryBreakpointMatches types current mode size size true = true,
        (· = ⟨.memBpSize address, size⟩)]
  | .memory address _ _ false => [(· = look .memory address none)]

/-- A result is about what the request asked for; `place` is the address that was resolved. -/
def BreakpointResult.Answers (request : Request) (place : Option Nat) :
    BreakpointMethod → BreakpointResult → Prop
  | .toggle enable, .exceptionToggled code chance managedId enabled _ =>
      place = none ∧ enabled = enable ∧ code = UInt32.ofNat request.exceptionCode ∧
        parseExceptionChance request.exceptionChance = some chance ∧
        managedId = request.managedBreakpointId
  | .exception setting, .exceptionPresent code chance managedId present =>
      place = none ∧ present = setting ∧ code = UInt32.ofNat request.exceptionCode ∧
        parseExceptionChance request.exceptionChance = some chance ∧
        managedId = request.managedBreakpointId
  | .toggle enable, .toggled kind address enabled _ =>
      place = some address ∧ enabled = enable ∧ kind = request.breakpointKind ∧
        transitionKind request = some .software
  | .toggle enable, .hardwareToggled address access size _ enabled _ =>
      place = some address ∧ enabled = enable ∧ transitionKind request = some .hardware ∧
        parseHardwareAccess request.breakpointAccess = some access ∧
        size = request.breakpointSize
  | .toggle enable, .memoryToggled address mode size enabled _ =>
      place = some address ∧ enabled = enable ∧ transitionKind request = some .memory ∧
        parseMemoryAccess request.breakpointAccess = some mode ∧ size = request.breakpointSize
  | .toggle enable, .conditionalToggled address managedId _ _ enabled _ =>
      place = some address ∧ enabled = enable ∧ transitionKind request = some .conditional ∧
        managedId = request.managedBreakpointId
  | .conditional setting, .conditionalSet address managedId condition expression =>
      place = some address ∧ setting = true ∧ managedId = request.managedBreakpointId ∧
        condition = request.conditionalSpec ∧ expression = request.conditionalExpression
  | .conditional setting, .conditionalRemoved address managedId =>
      place = some address ∧ setting = false ∧ managedId = request.managedBreakpointId
  | .software setting, .software address present => place = some address ∧ present = setting
  | .hardware setting, .hardware address access size _ present =>
      place = some address ∧ present = setting ∧
        parseHardwareAccess request.breakpointAccess = some access ∧
        size = request.breakpointSize
  | .memory setting, .memory address mode size present =>
      place = some address ∧ present = setting ∧
        parseMemoryAccess request.breakpointAccess = some mode ∧ size = request.breakpointSize
  | _, _ => False

/-- The result of a transition says whether it changed anything. -/
def BreakpointResult.changed? : BreakpointResult → Option Bool
  | .exceptionToggled _ _ _ _ changed | .toggled _ _ _ changed | .hardwareToggled _ _ _ _ _ changed
  | .memoryToggled _ _ _ _ changed | .conditionalToggled _ _ _ _ _ changed => some changed
  | _ => none

/-- Software breakpoints are set and removed without a last look at the snapshot. -/
def BreakpointResult.checksSnapshot : BreakpointResult → Bool
  | .software .. => false
  | _ => true

/-- The result that a request was given is borne out by what was seen. -/
structure BorneOut (request : Request) (method : BreakpointMethod) (place : Option Nat)
    (generation : Nat) (result : BreakpointResult) (history : List NativeRecord) : Prop where
  answers : result.Answers request place method
  seen : ∀ mark ∈ result.marks build types, SeenBy mark history
  changed : ∀ changed, result.changed? = some changed → (changed = false ↔ Quiet history)
  paused : result.checksSnapshot = true →
    history.getLast? = some ⟨.pausedSnapshotCurrent generation, true⟩

/-- A look that shows that nothing which the request may have made is left. -/
inductive Gone (request : Request) : BreakpointMethod → Option Nat → NativeRecord → Prop
  | exception {chance : ExceptionChance} {found : Option BridgeBreakpoint}
      (parsed : parseExceptionChance request.exceptionChance = some chance)
      (foreign : ∀ current, found = some current → exceptionBreakpointCreated types current
        (UInt32.ofNat request.exceptionCode) chance
        (managedBreakpointName "exception" request.managedBreakpointId) = false) :
      Gone request (.exception true) none
        (look .exception (UInt32.ofNat request.exceptionCode).toNat found)
  | conditional {address : Nat} {found : Option BridgeBreakpoint}
      (foreign : ∀ current, found = some current →
        conditionalBreakpointOwned current address request.managedBreakpointId = false) :
      Gone request (.conditional true) (some address) (look .normal address found)

/-- What the looks behind the last change must have shown for a command of the request to be
submitted: nothing where it sets, and the record that the request selects where it toggles or
deletes. -/
inductive Warrants (request : Request) (past : List NativeRecord) :
    BreakpointMethod → Option Nat → List UInt8 → Prop
  | toggleException {chance : ExceptionChance} {before : BridgeBreakpoint} {enable : Bool}
      (kind : request.breakpointKind = "exception")
      (parsed : parseExceptionChance request.exceptionChance = some chance)
      (looked : SeenBy (· = look .exception (UInt32.ofNat request.exceptionCode).toNat
        (some before)) past)
      (owned : exceptionBreakpointOwned types.exceptionChance before
        (UInt32.ofNat request.exceptionCode) chance request.managedBreakpointId = true)
      (differs : before.enabled ≠ enable) :
      Warrants request past (.toggle enable) none (breakpointToggleCommand .exception
        (UInt32.ofNat request.exceptionCode).toNat enable)
  | toggleSoftware {address : Nat} {before : BridgeBreakpoint} {enable : Bool}
      (kind : transitionKind request = some .software)
      (looked : SeenBy (· = look .normal address (some before)) past)
      (plain : plainSoftwareBreakpointSelectable before address = true)
      (differs : before.enabled ≠ enable) :
      Warrants request past (.toggle enable) (some address)
        (breakpointToggleCommand .software address enable)
  | toggleConditional {address : Nat} {before : BridgeBreakpoint} {enable : Bool}
      (kind : transitionKind request = some .conditional)
      (looked : SeenBy (· = look .normal address (some before)) past)
      (owned : conditionalBreakpointOwned before address request.managedBreakpointId = true)
      (differs : before.enabled ≠ enable) :
      Warrants request past (.toggle enable) (some address)
        (breakpointToggleCommand .conditional address enable)
  | toggleHardware {address : Nat} {access : HardwareAccess} {before : BridgeBreakpoint}
      {enable : Bool} (kind : transitionKind request = some .hardware)
      (parsed : parseHardwareAccess request.breakpointAccess = some access)
      (valid : hardwareRequestValid build types access request.breakpointSize address = true)
      (looked : SeenBy (· = look .hardware address (some before)) past)
      (selected : hardwareBreakpointMatches build types before access request.breakpointSize
        false = true) (differs : before.enabled ≠ enable) :
      Warrants request past (.toggle enable) (some address)
        (breakpointToggleCommand .hardware address enable)
  | toggleMemory {address size : Nat} {mode : MemoryAccess} {before : BridgeBreakpoint}
      {enable : Bool} (kind : transitionKind request = some .memory)
      (parsed : parseMemoryAccess request.breakpointAccess = some mode)
      (looked : SeenBy (· = look .memory address (some before)) past)
      (sized : SeenBy (· = ⟨.memBpSize address, size⟩) past)
      (selected : memoryBreakpointMatches types before mode request.breakpointSize size
        false = true) (differs : before.enabled ≠ enable) :
      Warrants request past (.toggle enable) (some address)
        (breakpointToggleCommand .memory address enable)
  | setException {chance : ExceptionChance}
      (parsed : parseExceptionChance request.exceptionChance = some chance)
      (looked : SeenBy (· = look .exception (UInt32.ofNat request.exceptionCode).toNat none)
        past) :
      Warrants request past (.exception true) none
        (setExceptionCommand (UInt32.ofNat request.exceptionCode) chance)
  | cleanException {chance : ExceptionChance} {created : BridgeBreakpoint}
      (parsed : parseExceptionChance request.exceptionChance = some chance)
      (looked : SeenBy (· = look .exception (UInt32.ofNat request.exceptionCode).toNat
        (some created)) past)
      (own : exceptionBreakpointCreated types created (UInt32.ofNat request.exceptionCode) chance
        (managedBreakpointName "exception" request.managedBreakpointId) = true) :
      Warrants request past (.exception true) none
        (deleteExceptionCommand (UInt32.ofNat request.exceptionCode))
  | deleteException {chance : ExceptionChance} {before : BridgeBreakpoint}
      (parsed : parseExceptionChance request.exceptionChance = some chance)
      (looked : SeenBy (· = look .exception (UInt32.ofNat request.exceptionCode).toNat
        (some before)) past)
      (selected : exceptionBreakpointMatches types before (UInt32.ofNat request.exceptionCode)
        chance request.managedBreakpointId = true) :
      Warrants request past (.exception false) none
        (deleteExceptionCommand (UInt32.ofNat request.exceptionCode))
  | setConditional {address : Nat} (looked : SeenBy (· = look .normal address none) past) :
      Warrants request past (.conditional true) (some address) (setConditionalCommand address
        (managedBreakpointName "conditional" request.managedBreakpointId))
  | clearConditional {address : Nat} {before : BridgeBreakpoint} {setting : Bool}
      (looked : SeenBy (· = look .normal address (some before)) past)
      (owned : conditionalBreakpointOwned before address request.managedBreakpointId = true) :
      Warrants request past (.conditional setting) (some address) (clearCommand address)
  | setHardware {address : Nat} {access : HardwareAccess}
      (parsed : parseHardwareAccess request.breakpointAccess = some access)
      (valid : hardwareRequestValid build types access request.breakpointSize address = true)
      (looked : SeenBy (· = look .hardware address none) past) :
      Warrants request past (.hardware true) (some address)
        (setHardwareCommand address access request.breakpointSize)
  | clearHardware {address : Nat} {access : HardwareAccess} {before : BridgeBreakpoint}
      (parsed : parseHardwareAccess request.breakpointAccess = some access)
      (valid : hardwareRequestValid build types access request.breakpointSize address = true)
      (looked : SeenBy (· = look .hardware address (some before)) past)
      (selected : hardwareBreakpointMatches build types before access request.breakpointSize
        false = true) :
      Warrants request past (.hardware false) (some address) (clearHardwareCommand address)
  | setMemory {address : Nat} {mode : MemoryAccess}
      (parsed : parseMemoryAccess request.breakpointAccess = some mode)
      (looked : SeenBy (· = look .memory address none) past) :
      Warrants request past (.memory true) (some address)
        (setMemoryCommand address mode request.breakpointSize)
  | clearMemory {address size : Nat} {mode : MemoryAccess} {before : BridgeBreakpoint}
      (parsed : parseMemoryAccess request.breakpointAccess = some mode)
      (looked : SeenBy (· = look .memory address (some before)) past)
      (sized : SeenBy (· = ⟨.memBpSize address, size⟩) past)
      (selected : memoryBreakpointMatches types before mode request.breakpointSize size
        false = true) :
      Warrants request past (.memory false) (some address) (clearMemoryCommand address)

/-- Every command that the queue accepted rests on looks behind the last change. -/
def Warranted (request : Request) (method : BreakpointMethod) (place : Option Nat)
    (history : List NativeRecord) : Prop :=
  ∀ before command after, history = before ++ ⟨.cmdExec command, true⟩ :: after →
    isFence command = false → Warrants build types request before method place command

/-- What an answer stands for. -/
structure Outcome (request : Request) (method : BreakpointMethod) (place : Option Nat)
    (response : BreakpointResponse) (history : List NativeRecord) : Prop where
  truthful : ∀ error, response = .error error → error.unknown = false →
    Quiet history ∨ SeenBy (Gone types request method place) history
  confirmed : ∀ generation result, response = .ok (generation, result) →
    BorneOut build types request method place generation result history
  warranted : Warranted build types request method place history

/-! ## Keeping the promises -/

section Steps

variable {build types} {request : Request} {method : BreakpointMethod} {place : Option Nat}
  {history past : List NativeRecord}

theorem warranted_concat {record : NativeRecord} :
    Warranted build types request method place (history ++ [record]) ↔
      Warranted build types request method place history ∧
        ∀ command, record = ⟨.cmdExec command, true⟩ → isFence command = false →
          Warrants build types request history method place command := by
  constructor
  · intro warranted
    constructor
    · rintro before command after rfl
      exact warranted before command (after ++ [record]) (by simp)
    · rintro command rfl
      exact warranted history command [] rfl
  · rintro ⟨warranted, last⟩ before command after split
    rcases List.eq_nil_or_concat after with rfl | ⟨middle, final, rfl⟩
    · rcases List.append_inj' split rfl with ⟨rfl, same⟩
      cases same
      exact last command rfl
    · rw [List.concat_eq_append, ← List.cons_append, ← List.append_assoc] at split
      rcases List.append_inj' split rfl with ⟨rfl, -⟩
      exact warranted before command middle rfl

theorem keptByReads_warrants {command : List UInt8} :
    KeptByReads fun past => Warrants build types request past method place command := by
  intro past record warrants reads
  have kept : ∀ {mark : NativeRecord → Prop}, SeenBy mark past → SeenBy mark (past ++ [record]) :=
    fun seen => keptByReads_seenBy _ seen reads
  cases warrants with
  | toggleException kind parsed looked owned differs =>
      exact .toggleException kind parsed (kept looked) owned differs
  | toggleSoftware kind looked plain differs =>
      exact .toggleSoftware kind (kept looked) plain differs
  | toggleConditional kind looked owned differs =>
      exact .toggleConditional kind (kept looked) owned differs
  | toggleHardware kind parsed valid looked selected differs =>
      exact .toggleHardware kind parsed valid (kept looked) selected differs
  | toggleMemory kind parsed looked sized selected differs =>
      exact .toggleMemory kind parsed (kept looked) (kept sized) selected differs
  | setException parsed looked => exact .setException parsed (kept looked)
  | cleanException parsed looked own => exact .cleanException parsed (kept looked) own
  | deleteException parsed looked selected => exact .deleteException parsed (kept looked) selected
  | setConditional looked => exact .setConditional (kept looked)
  | clearConditional looked owned => exact .clearConditional (kept looked) owned
  | setHardware parsed valid looked => exact .setHardware parsed valid (kept looked)
  | clearHardware parsed valid looked selected =>
      exact .clearHardware parsed valid (kept looked) selected
  | setMemory parsed looked => exact .setMemory parsed (kept looked)
  | clearMemory parsed looked sized selected =>
      exact .clearMemory parsed (kept looked) (kept sized) selected

theorem keptByReads_warranted :
    KeptByReads (Warranted build types request method place) := by
  intro past record warranted reads
  refine warranted_concat.mpr ⟨warranted, ?_⟩
  rintro command rfl unfenced
  simp [NativeRecord.changes, unfenced] at reads

theorem Quiet.warranted (quiet : Quiet history) :
    Warranted build types request method place history := by
  rintro before command after rfl unfenced
  have unchanged := quiet ⟨.cmdExec command, true⟩ (by simp)
  simp [NativeRecord.changes, unfenced] at unchanged

variable (build types request method place) in
/-- A change was submitted on a warrant. -/
def Submitted (history : List NativeRecord) : Prop :=
  Warranted build types request method place history ∧ ¬ Quiet history

theorem keptByReads_submitted : KeptByReads (Submitted build types request method place) :=
  fun _ _ submitted reads =>
    ⟨keptByReads_warranted submitted.1 reads, not_quiet_concat submitted.2⟩

/-- What was not submitted through the queue needs no warrant. -/
theorem Submitted.concat {record : NativeRecord}
    (submitted : Submitted build types request method place history)
    (unqueued : ∀ command, record ≠ ⟨.cmdExec command, true⟩) :
    Submitted build types request method place (history ++ [record]) :=
  ⟨warranted_concat.mpr ⟨submitted.1, fun command same => absurd same (unqueued command)⟩,
    not_quiet_concat submitted.2⟩

theorem submitted_concat {command : List UInt8}
    (warranted : Warranted build types request method place history)
    (warrant : Warrants build types request history method place command)
    (unfenced : isFence command = false) :
    Submitted build types request method place (history ++ [⟨.cmdExec command, true⟩]) := by
  constructor
  · refine warranted_concat.mpr ⟨warranted, ?_⟩
    rintro other ⟨⟩ _
    exact warrant
  · rw [quiet_concat]
    simp [NativeRecord.changes, unfenced]

theorem isFence_toggle (kind : BreakpointTransitionKind) (identity : Nat) (enable : Bool) :
    isFence (breakpointToggleCommand kind identity enable) = false := by
  apply isFence_append _
  cases kind <;> cases enable <;> decide

/-- An error of a request that has changed nothing. -/
theorem Quiet.refuses (quiet : Quiet history) (error : ErrorResponse) :
    Outcome build types request method place (.error error) history where
  truthful := fun _ _ _ => .inl quiet
  confirmed := by rintro _ _ ⟨⟩
  warranted := quiet.warranted

/-- An error that admits that the outcome is unknown. -/
theorem Submitted.admits (submitted : Submitted build types request method place history)
    {error : ErrorResponse} (unknown : error.unknown = true) :
    Outcome build types request method place (.error error) history where
  truthful := by
    rintro _ ⟨⟩ known
    cases unknown.symm.trans known
  confirmed := by rintro _ _ ⟨⟩
  warranted := submitted.1

/-- Queue rule: the rest starts where its command was submitted. -/
theorem submitting_spec {command : List UInt8} {rejected unconfirmed : String}
    {rest : Handler BreakpointResponse} (quiet : Quiet past)
    (warrant : Warrants build types request past method place command)
    (unfenced : isFence command = false)
    (onward : ∀ later, Submitted build types request method place later →
      rest.Meets recording (Outcome build types request method place) later) :
    (submitting command rejected unconfirmed rest).Meets recording
      (Outcome build types request method place) past := by
  rw [submitting, meets_bind]
  refine (submitFencedCommand_spec (keptByReads_quiet.and keptByReads_warrants)
    keptByReads_submitted (fun _ holds => submitted_concat holds.1.warranted holds.2 unfenced)
    ⟨quiet, warrant⟩).mono ?_
  rintro (_ | _ | _) later ⟨refused, reached⟩
  · exact onward later (reached (by simp))
  · exact (refused rfl).1.refuses _
  · exact (reached (by simp)).admits rfl

variable (build types request method place) in
/-- Something was changed, on a warrant, exactly when `changed` says so. -/
def Stands (changed : Bool) (history : List NativeRecord) : Prop :=
  if changed then Submitted build types request method place history else Quiet history

theorem keptByReads_stands (changed : Bool) :
    KeptByReads (Stands build types request method place changed) := by
  cases changed with
  | false => exact keptByReads_quiet
  | true => exact keptByReads_submitted

theorem Stands.warranted {changed : Bool}
    (stands : Stands build types request method place changed history) :
    Warranted build types request method place history := by
  cases changed with
  | false => exact Quiet.warranted stands
  | true => exact stands.1

theorem Stands.quiet_iff {changed : Bool}
    (stands : Stands build types request method place changed history) :
    changed = false ↔ Quiet history := by
  cases changed with
  | false => exact iff_of_true rfl stands
  | true => exact iff_of_false (by simp) stands.2

/-- An error whose outcome is unknown exactly when something was changed. -/
theorem Stands.fails {changed : Bool}
    (stands : Stands build types request method place changed history)
    {error : ErrorResponse} (unknown : error.unknown = changed) :
    Outcome build types request method place (.error error) history := by
  cases changed with
  | false => exact Quiet.refuses stands error
  | true => exact Submitted.admits stands unknown

theorem transition_spec {changed : Bool} {command : List UInt8} {rest : Handler BreakpointResponse}
    (quiet : Quiet past)
    (warrant : changed = true → Warrants build types request past method place command)
    (unfenced : isFence command = false)
    (onward : ∀ later, Stands build types request method place changed later →
      rest.Meets recording (Outcome build types request method place) later) :
    (transition changed command rest).Meets recording
      (Outcome build types request method place) past := by
  cases changed with
  | false => exact onward past quiet
  | true => exact submitting_spec quiet (warrant rfl) unfenced onward

/-- Cleanup rule: unless the status is open, the handler has seen that nothing is left. -/
theorem cleanup_spec {type : BreakpointType} {address : Nat} {created : BridgeBreakpoint → Bool}
    {command : List UInt8} (submitted : Submitted build types request method place past)
    (unfenced : isFence command = false)
    (warrants : ∀ current later, created current = true →
      SeenBy (· = look type address (some current)) later →
      Warrants build types request later method place command)
    (gone : ∀ found, (∀ current, found = some current → created current = false) →
      Gone types request method place (look type address found)) :
    (cleanup type address created command).Meets recording
      (fun status later => Submitted build types request method place later ∧
        (status ≠ .unconfirmed → SeenBy (Gone types request method place) later)) past := by
  rw [cleanup]
  apply keptByReads_submitted.ask submitted rfl
  rintro (_ | current) later submitted rfl
  · exact ⟨submitted, fun _ => seenBy_last (gone none (by simp))⟩
  cases own : created current with
  | false =>
      simp only [own, Bool.not_false, if_true, meets_pure]
      refine ⟨submitted, fun _ => seenBy_last (gone _ ?_)⟩
      rintro _ ⟨⟩
      exact own
  | true =>
      simp only [own, Bool.not_true, Bool.false_eq_true, if_false, meets_bind]
      refine (submitFencedCommand_spec
        (keptByReads_submitted.and keptByReads_warrants) keptByReads_submitted
        (fun _ holds => submitted_concat holds.1.1 holds.2 unfenced)
        ⟨submitted, warrants current _ own (seenBy_last rfl)⟩).mono ?_
      rintro status later ⟨refused, reached⟩
      have submitted : Submitted build types request method place later := by
        by_cases rejected : status = .rejected
        · exact (refused rejected).1
        · exact reached rejected
      rw [meets_ite]
      refine ⟨fun _ => ⟨submitted, fun other => absurd rfl other⟩, fun _ => ?_⟩
      apply keptByReads_submitted.ask submitted rfl
      rintro (_ | remaining) last submitted rfl
      · exact ⟨submitted, fun _ => seenBy_last (gone none (by simp))⟩
      · exact ⟨submitted, fun other => absurd rfl other⟩

/-- A request that gives up behind its cleanup. -/
theorem abandoned_spec {message : String} {status : CleanupStatus}
    (submitted : Submitted build types request method place history)
    (seen : status ≠ .unconfirmed → SeenBy (Gone types request method place) history) :
    Outcome build types request method place (.error (abandoned message status)) history where
  truthful := by
    rintro _ ⟨⟩ known
    exact .inr (seen (of_decide_eq_false known))
  confirmed := by rintro _ _ ⟨⟩
  warranted := submitted.1

/-! ### Exception breakpoints -/

theorem isFence_setException (code : UInt32) (chance : ExceptionChance) :
    isFence (setExceptionCommand code chance) = false := by
  rw [setExceptionCommand, List.append_assoc, List.append_assoc]
  exact isFence_append _ (by decide)

theorem isFence_deleteException (code : UInt32) : isFence (deleteExceptionCommand code) = false :=
  isFence_append _ (by decide)

theorem confirmException_spec {enable changed : Bool} {snapshot : Nat} {chance : ExceptionChance}
    {before : BridgeBreakpoint}
    (stands : Stands build types request (.toggle enable) none changed past)
    (parsed : parseExceptionChance request.exceptionChance = some chance) :
    (confirmException types request enable snapshot (UInt32.ofNat request.exceptionCode) chance
      before changed).Meets recording
      (Outcome build types request (.toggle enable) none) past := by
  rw [confirmException]
  apply (keptByReads_stands changed).ask stands rfl
  rintro (_ | after) later stands found
  · exact stands.fails rfl
  dsimp only
  rw [meets_ite]
  refine ⟨fun _ => stands.fails rfl, fun selected => ?_⟩
  simp only [Bool.or_eq_true, bne_iff_ne, Bool.not_eq_true', not_or, not_not,
    Bool.not_eq_false] at selected
  apply meets_native
  rintro (_ | _)
  · exact (keptByReads_stands changed stands rfl).fails rfl
  refine ⟨by rintro _ ⟨⟩, ?_, (keptByReads_stands changed stands rfl).warranted⟩
  rintro _ _ ⟨⟩
  refine ⟨⟨rfl, rfl, rfl, parsed, rfl⟩, ?_, ?_, fun _ => List.getLast?_concat⟩
  · intro mark member
    rw [List.mem_singleton.mp member, found]
    exact keptByReads_seenBy _
      (seenBy_last ⟨after, rfl, selected.1.1, selected.1.2⟩) rfl
  · rintro _ ⟨⟩
    exact (keptByReads_stands changed stands rfl).quiet_iff

theorem toggleException_spec {enable : Bool} (kind : request.breakpointKind = "exception")
    (quiet : Quiet past) :
    (toggleException types request enable).Meets recording
      (Outcome build types request (.toggle enable) none) past := by
  rw [toggleException]
  apply keptByReads_quiet.ask quiet rfl
  rintro (_ | snapshot) later quiet -
  · exact quiet.refuses _
  apply keptByReads_quiet.ask quiet rfl
  rintro (_ | _) later quiet -
  · exact quiet.refuses _
  cases parsed : parseExceptionChance request.exceptionChance with
  | none => exact quiet.refuses _
  | some chance =>
      apply keptByReads_quiet.ask quiet rfl
      rintro (_ | _) later quiet -
      · exact quiet.refuses _
      apply keptByReads_quiet.ask quiet rfl
      rintro (_ | before) later quiet found
      · exact quiet.refuses _
      dsimp only
      rw [meets_ite]
      refine ⟨fun _ => quiet.refuses _, fun owned => ?_⟩
      rw [Bool.not_eq_true', Bool.not_eq_false] at owned
      refine transition_spec quiet ?_ (isFence_toggle _ _ _)
        fun later stands => confirmException_spec stands parsed
      intro changed
      rw [found]
      exact .toggleException kind parsed (seenBy_last rfl) owned (bne_iff_ne.mp changed)

theorem exceptionAnswer_spec {setting : Bool} {snapshot : Nat} {chance : ExceptionChance}
    (submitted : Submitted build types request (.exception setting) none past)
    (parsed : parseExceptionChance request.exceptionChance = some chance)
    (seen : ∀ mark ∈ (BreakpointResult.exceptionPresent (UInt32.ofNat request.exceptionCode) chance
      request.managedBreakpointId setting).marks build types, SeenBy mark past) :
    (exceptionAnswer request snapshot (UInt32.ofNat request.exceptionCode) chance
      setting).Meets recording (Outcome build types request (.exception setting) none) past := by
  rw [exceptionAnswer]
  apply meets_native
  rintro (_ | _)
  · exact (keptByReads_submitted submitted rfl).admits rfl
  refine ⟨by rintro _ ⟨⟩, ?_, (keptByReads_submitted submitted rfl).1⟩
  rintro _ _ ⟨⟩
  refine ⟨⟨rfl, rfl, rfl, parsed, rfl⟩, ?_, by rintro _ ⟨⟩, fun _ => List.getLast?_concat⟩
  exact fun mark member => keptByReads_seenBy mark (seen mark member) rfl

theorem exceptionCleanup_spec {message : String} {chance : ExceptionChance}
    (submitted : Submitted build types request (.exception true) none past)
    (parsed : parseExceptionChance request.exceptionChance = some chance) :
    (exceptionCleanup types (UInt32.ofNat request.exceptionCode) chance
      (managedBreakpointName "exception" request.managedBreakpointId) >>= fun status =>
        (pure (.error (abandoned message status)) : Handler BreakpointResponse)).Meets recording
      (Outcome build types request (.exception true) none) past := by
  rw [meets_bind]
  refine (cleanup_spec submitted (isFence_deleteException _)
    (fun _ _ own looked => .cleanException parsed looked own)
    (fun _ foreign => .exception parsed foreign)).mono ?_
  exact fun status later ends => abandoned_spec ends.1 ends.2

theorem finishException_spec {snapshot : Nat} {chance : ExceptionChance}
    (submitted : Submitted build types request (.exception true) none past)
    (parsed : parseExceptionChance request.exceptionChance = some chance) :
    (finishException types request snapshot (UInt32.ofNat request.exceptionCode)
      chance).Meets recording (Outcome build types request (.exception true) none) past := by
  rw [finishException]
  apply keptByReads_submitted.ask submitted rfl
  intro _ later submitted _
  apply keptByReads_submitted.ask submitted rfl
  rintro (_ | _) later submitted -
  · exact exceptionCleanup_spec submitted parsed
  apply meets_native
  have named : ∀ answer, Submitted build types request (.exception true) none (later ++
      [⟨.bpSetFieldText ⟨.exception, (UInt32.ofNat request.exceptionCode).toNat⟩ .name
        (utf8 (managedBreakpointName "exception" request.managedBreakpointId)), answer⟩]) :=
    fun _ => submitted.concat (by simp)
  rintro (_ | _)
  · exact exceptionCleanup_spec (named false) parsed
  apply keptByReads_submitted.ask (named true) rfl
  rintro (_ | installed) later submitted found
  · exact exceptionCleanup_spec submitted parsed
  dsimp only
  rw [meets_ite]
  refine ⟨fun _ => exceptionCleanup_spec submitted parsed, fun matched => ?_⟩
  rw [Bool.not_eq_true', Bool.not_eq_false] at matched
  apply exceptionAnswer_spec submitted parsed
  intro mark member
  rw [List.mem_singleton.mp member, found]
  exact seenBy_last ⟨installed, rfl, matched⟩

theorem mutateException_spec {setting : Bool} (quiet : Quiet past) :
    (mutateException types request setting).Meets recording
      (Outcome build types request (.exception setting) none) past := by
  rw [mutateException]
  apply keptByReads_quiet.ask quiet rfl
  rintro (_ | snapshot) later quiet -
  · exact quiet.refuses _
  apply keptByReads_quiet.ask quiet rfl
  rintro (_ | _) later quiet -
  · exact quiet.refuses _
  cases parsed : parseExceptionChance request.exceptionChance with
  | none => exact quiet.refuses _
  | some chance =>
      apply keptByReads_quiet.ask quiet rfl
      rintro (_ | _) later quiet -
      · exact quiet.refuses _
      apply keptByReads_quiet.ask quiet rfl
      rintro (_ | _) later quiet -
      · exact quiet.refuses _
      apply keptByReads_quiet.ask quiet rfl
      intro before later quiet found
      cases setting with
      | true =>
          cases before with
          | some before => exact quiet.refuses _
          | none =>
              rw [found] at quiet ⊢
              exact submitting_spec quiet (.setException parsed (seenBy_last rfl))
                (isFence_setException _ _) fun later submitted =>
                  finishException_spec submitted parsed
      | false =>
          cases before with
          | none => exact quiet.refuses _
          | some before =>
              dsimp only
              rw [if_neg Bool.false_ne_true, meets_ite]
              refine ⟨fun _ => quiet.refuses _, fun matched => ?_⟩
              rw [Bool.not_eq_true', Bool.not_eq_false] at matched
              rw [found] at quiet ⊢
              refine submitting_spec quiet (.deleteException parsed (seenBy_last rfl) matched)
                (isFence_deleteException _) ?_
              intro later submitted
              apply keptByReads_submitted.ask submitted rfl
              rintro (_ | remaining) last submitted found
              · apply exceptionAnswer_spec submitted parsed
                intro mark member
                rw [List.mem_singleton.mp member, found]
                exact seenBy_last rfl
              · exact submitted.admits rfl

/-! ### Transitions at an address -/

variable {address generation : Nat}

/-- What a selector says of the request and of the record before the transition. -/
inductive Selects (build : Build) (types : NativeTypes) (request : Request) (address : Nat)
    (before : BridgeBreakpoint) (past : List NativeRecord) :
    BreakpointTransitionKind → BreakpointSelector → Prop
  | software (plain : plainSoftwareBreakpointSelectable before address = true) :
      Selects build types request address before past .software .software
  | conditional
      (owned : conditionalBreakpointOwned before address request.managedBreakpointId = true) :
      Selects build types request address before past .conditional .conditional
  | hardware {access : HardwareAccess}
      (parsed : parseHardwareAccess request.breakpointAccess = some access)
      (valid : hardwareRequestValid build types access request.breakpointSize address = true)
      (selected : hardwareBreakpointMatches build types before access request.breakpointSize
        false = true) :
      Selects build types request address before past .hardware (.hardware access)
  | memory {mode : MemoryAccess} {size : Nat}
      (parsed : parseMemoryAccess request.breakpointAccess = some mode)
      (sized : SeenBy (· = ⟨.memBpSize address, size⟩) past)
      (selected : memoryBreakpointMatches types before mode request.breakpointSize size
        false = true) :
      Selects build types request address before past .memory (.memory mode)

theorem keptByReads_selects {before : BridgeBreakpoint} {kind : BreakpointTransitionKind}
    {selector : BreakpointSelector} :
    KeptByReads fun past => Selects build types request address before past kind selector := by
  intro past record selects reads
  cases selects with
  | software plain => exact .software plain
  | conditional owned => exact .conditional owned
  | hardware parsed valid selected => exact .hardware parsed valid selected
  | memory parsed sized selected =>
      exact .memory parsed (keptByReads_seenBy _ sized reads) selected

theorem Selects.warrants {before : BridgeBreakpoint} {kind : BreakpointTransitionKind}
    {selector : BreakpointSelector} {enable : Bool}
    (selects : Selects build types request address before past kind selector)
    (kindEq : transitionKind request = some kind)
    (looked : SeenBy (· = look kind.type address (some before)) past)
    (differs : before.enabled ≠ enable) :
    Warrants build types request past (.toggle enable) (some address)
      (breakpointToggleCommand kind address enable) := by
  cases selects with
  | software plain => exact .toggleSoftware kindEq looked plain differs
  | conditional owned => exact .toggleConditional kindEq looked owned differs
  | hardware parsed valid selected =>
      exact .toggleHardware kindEq parsed valid looked selected differs
  | memory parsed sized selected =>
      exact .toggleMemory kindEq parsed looked sized selected differs

theorem selectBefore_spec {holds : List NativeRecord → Prop} (kept : KeptByReads holds)
    {before : BridgeBreakpoint} {kind : BreakpointTransitionKind} (start : holds past)
    (located : kind ≠ .exception) :
    (selectBefore build types request address before kind).Meets recording
      (fun selected later => holds later ∧ ∀ selector, selected = .ok selector →
        Selects build types request address before later kind selector) past := by
  have refused : holds past ∧ ∀ selector, Except.error selectorForeign = .ok selector →
      Selects build types request address before past kind selector := ⟨start, by rintro _ ⟨⟩⟩
  cases kind with
  | software =>
      rw [selectBefore, meets_ite]
      refine ⟨fun plain => ⟨start, ?_⟩, fun _ => refused⟩
      rintro _ ⟨⟩
      exact .software plain
  | conditional =>
      rw [selectBefore, meets_ite]
      refine ⟨fun owned => ⟨start, ?_⟩, fun _ => refused⟩
      rintro _ ⟨⟩
      exact .conditional owned
  | hardware =>
      rw [selectBefore]
      cases parsed : parseHardwareAccess request.breakpointAccess with
      | none => exact refused
      | some access =>
          dsimp only
          rw [meets_ite]
          refine ⟨fun selected => ⟨start, ?_⟩, fun _ => refused⟩
          rintro _ ⟨⟩
          rw [Bool.and_eq_true] at selected
          exact .hardware parsed selected.1 selected.2
  | exception => exact absurd rfl located
  | memory =>
      rw [selectBefore]
      · apply kept.ask start rfl
        rintro (_ | _) later holds -
        · exact ⟨holds, by rintro _ ⟨⟩⟩
        apply kept.ask holds rfl
        intro size later holds reached
        cases parsed : parseMemoryAccess request.breakpointAccess with
        | none => exact ⟨holds, by rintro _ ⟨⟩⟩
        | some mode =>
            dsimp only
            rw [meets_ite]
            refine ⟨fun selected => ⟨holds, ?_⟩, fun _ => ⟨holds, by rintro _ ⟨⟩⟩⟩
            rintro _ ⟨⟩
            rw [reached]
            exact .memory parsed (seenBy_last rfl) selected
      all_goals rintro ⟨⟩

theorem hardwareBreakpointMatches_of_enabled {breakpoint : BridgeBreakpoint}
    {access : HardwareAccess} {size : Nat} {requireEnabled : Bool}
    (matched : hardwareBreakpointMatches build types breakpoint access size false = true)
    (enabled : requireEnabled = true → breakpoint.enabled = true ∧ breakpoint.slot < 4) :
    hardwareBreakpointMatches build types breakpoint access size requireEnabled = true := by
  cases requireEnabled with
  | false => exact matched
  | true =>
      rw [hardwareBreakpointMatches] at matched ⊢
      cases native : nativeHardwareSize build types size with
      | none =>
          rw [native] at matched
          cases matched
      | some nativeSize =>
          rw [native] at matched
          simpa [enabled rfl] using matched

/-- The last look of a transition bears its result out. -/
theorem selectsAfter_spec {enable changed : Bool} {kind : BreakpointTransitionKind}
    {selector : BreakpointSelector} {before after : BridgeBreakpoint}
    (selects : Selects build types request address before history kind selector)
    (enabled : after.enabled = enable)
    (stands : Stands build types request method place changed past)
    (found : SeenBy (· = look selector.type address (some after)) past) :
    (selectsAfter build types request address after enable selector).Meets recording
      (fun selected later => Stands build types request method place changed later ∧
        (selected = true → ∀ mark ∈ (toggledResult request address after enable changed
          selector).marks build types, SeenBy mark later)) past := by
  have looked : ∀ {kind : BridgeBreakpoint → Prop}, kind after →
      SeenBy (Found selector.type address kind) past := by
    intro kind holds
    exact found.mono fun record same => ⟨after, same, holds⟩
  cases selects with
  | software plain =>
      refine ⟨stands, ?_⟩
      intro selected mark member
      rw [List.mem_singleton.mp member]
      exact looked ⟨enabled, selected⟩
  | conditional owned =>
      refine ⟨stands, ?_⟩
      intro selected mark member
      rw [List.mem_singleton.mp member]
      exact looked ⟨enabled, selected, rfl, rfl⟩
  | @hardware access parsed valid selected =>
      refine ⟨stands, ?_⟩
      intro selected mark member
      rw [List.mem_singleton.mp member]
      simp only [Bool.and_eq_true, Bool.or_eq_true, Bool.not_eq_true', decide_eq_true_eq]
        at selected
      have slotted : enable = true → after.enabled = true ∧ after.slot < 4 := by
        rintro rfl
        exact ⟨enabled, selected.2.resolve_left (by simp)⟩
      refine looked ⟨enabled, hardwareBreakpointMatches_of_enabled selected.1 slotted, ?_⟩
      cases enable with
      | false => simp [enabled]
      | true => simp [slotted rfl]
  | @memory mode size parsed sized selected =>
      apply ((keptByReads_stands changed).and (keptByReads_seenBy _)).ask ⟨stands, found⟩ rfl
      rintro observed later ⟨stands, found⟩ rfl
      refine ⟨stands, ?_⟩
      intro selected mark member
      simp only [memoryBreakpointMatches, Bool.not_false, Bool.true_or, Bool.and_true,
        Bool.and_eq_true, beq_iff_eq] at selected
      rcases selected with ⟨⟨type, mode⟩, rfl⟩
      rcases List.mem_cons.mp member with rfl | member
      · refine found.mono fun record same => ⟨after, same, enabled, ?_⟩
        cases enable <;> simp [memoryBreakpointMatches, type, mode, enabled]
      · rw [List.mem_singleton.mp member]
        exact seenBy_last rfl

theorem toggledResult_answers {enable changed : Bool} {kind : BreakpointTransitionKind}
    {selector : BreakpointSelector} {before after : BridgeBreakpoint}
    (selects : Selects build types request address before history kind selector)
    (kindEq : transitionKind request = some kind) :
    (toggledResult request address after enable changed selector).Answers request (some address)
        (.toggle enable) ∧
      (toggledResult request address after enable changed selector).changed? = some changed ∧
      (toggledResult request address after enable changed selector).checksSnapshot = true := by
  cases selects with
  | software plain => exact ⟨⟨rfl, rfl, rfl, kindEq⟩, rfl, rfl⟩
  | conditional owned => exact ⟨⟨rfl, rfl, kindEq, rfl⟩, rfl, rfl⟩
  | hardware parsed valid selected => exact ⟨⟨rfl, rfl, kindEq, parsed, rfl⟩, rfl, rfl⟩
  | memory parsed sized selected => exact ⟨⟨rfl, rfl, kindEq, parsed, rfl⟩, rfl, rfl⟩

theorem confirmTransition_spec {enable changed : Bool} {kind : BreakpointTransitionKind}
    {selector : BreakpointSelector} {before : BridgeBreakpoint}
    (stands : Stands build types request (.toggle enable) (some address) changed past)
    (selects : Selects build types request address before history kind selector)
    (kindEq : transitionKind request = some kind) :
    (confirmTransition build types request enable address generation selector before
      changed).Meets recording
      (Outcome build types request (.toggle enable) (some address)) past := by
  rw [confirmTransition]
  apply (keptByReads_stands changed).ask stands rfl
  rintro (_ | after) later stands found
  · exact stands.fails rfl
  dsimp only
  rw [meets_ite]
  refine ⟨fun _ => stands.fails rfl, fun unchanged => ?_⟩
  simp only [Bool.or_eq_true, bne_iff_ne, Bool.not_eq_true', not_or, not_not,
    Bool.not_eq_false] at unchanged
  rw [meets_bind]
  have seen : SeenBy (· = look selector.type address (some after)) later := by
    rw [found]
    exact seenBy_last rfl
  apply (selectsAfter_spec selects unchanged.1 stands seen).mono
  rintro (_ | _) last ⟨stands, shown⟩
  · exact stands.fails rfl
  apply meets_native
  rintro (_ | _)
  · exact (keptByReads_stands changed stands rfl).fails rfl
  refine ⟨by rintro _ ⟨⟩, ?_, (keptByReads_stands changed stands rfl).warranted⟩
  rintro _ _ ⟨⟩
  rcases toggledResult_answers selects kindEq with ⟨answers, changedEq, -⟩
  refine ⟨answers, ?_, ?_, fun _ => List.getLast?_concat⟩
  · exact fun mark member => keptByReads_seenBy mark (shown rfl mark member) rfl
  · intro other otherEq
    rw [changedEq] at otherEq
    cases otherEq
    exact (keptByReads_stands changed stands rfl).quiet_iff

/-- Guard rule: a full set of slots is refused, and looking at them changes nothing. -/
theorem hardwareSlotFree_spec {holds : List NativeRecord → Prop} (kept : KeptByReads holds)
    (quietly : ∀ history, holds history → Quiet history) {exhausted : String}
    {rest : Handler BreakpointResponse} (start : holds past)
    (onward : ∀ later, holds later →
      rest.Meets recording (Outcome build types request method place) later) :
    (hardwareSlotFree exhausted rest).Meets recording
      (Outcome build types request method place) past := by
  rw [hardwareSlotFree]
  apply kept.ask start rfl
  rintro (_ | breakpoints) later holds -
  · exact (quietly later holds).refuses _
  dsimp only
  rw [meets_ite]
  exact ⟨fun _ => (quietly later holds).refuses _, fun _ => onward later holds⟩

theorem slotFor_spec {holds : List NativeRecord → Prop} (kept : KeptByReads holds)
    (quietly : ∀ history, holds history → Quiet history) {takes : Bool}
    {rest : Handler BreakpointResponse} (start : holds past)
    (onward : ∀ later, holds later →
      rest.Meets recording (Outcome build types request method place) later) :
    (slotFor generation takes rest).Meets recording
      (Outcome build types request method place) past := by
  rw [slotFor, meets_ite]
  refine ⟨fun _ => ?_, fun _ => onward past start⟩
  apply kept.ask start rfl
  intro starting later holds _
  rw [meets_ite]
  exact ⟨fun _ => (quietly later holds).refuses _,
    fun _ => hardwareSlotFree_spec kept quietly holds onward⟩

theorem transitionKind_ne {kind : BreakpointTransitionKind}
    (kindEq : transitionKind request = some kind) : kind ≠ .exception := by
  rintro rfl
  rw [transitionKind] at kindEq
  split_ifs at kindEq <;> cases kindEq

theorem toggleAt_spec {enable : Bool} (quiet : Quiet past) :
    (toggleAt build types request enable address generation).Meets recording
      (Outcome build types request (.toggle enable) (some address)) past := by
  rw [toggleAt]
  apply keptByReads_quiet.ask quiet rfl
  rintro (_ | _) later quiet -
  · exact quiet.refuses _
  cases kindEq : transitionKind request with
  | none => exact quiet.refuses _
  | some kind =>
      apply keptByReads_quiet.ask quiet rfl
      rintro (_ | _) later quiet -
      · exact quiet.refuses _
      apply keptByReads_quiet.ask quiet rfl
      rintro (_ | before) later quiet found
      · exact quiet.refuses _
      dsimp only
      rw [meets_bind]
      have seen : SeenBy (· = look kind.type address (some before)) later := by
        rw [found]
        exact seenBy_last rfl
      have kept := keptByReads_quiet.and (keptByReads_seenBy (· = look kind.type address
        (some before)))
      apply (selectBefore_spec kept ⟨quiet, seen⟩ (transitionKind_ne kindEq)).mono
      rintro (response | selector) last ⟨holds, selected⟩
      · exact holds.1.refuses _
      refine slotFor_spec (kept.and keptByReads_selects) (fun _ all => all.1.1)
        ⟨holds, selected selector rfl⟩ ?_
      rintro final ⟨⟨quiet, looked⟩, selects⟩
      refine transition_spec quiet ?_ (isFence_toggle _ _ _)
        fun _ stands => confirmTransition_spec stands selects kindEq
      intro changed
      exact selects.warrants kindEq looked (bne_iff_ne.mp changed)

/-! ### Conditional breakpoints -/

theorem isFence_setConditional (address : Nat) (ownedName : String) :
    isFence (setConditionalCommand address ownedName) = false := by
  rw [setConditionalCommand, List.append_assoc, List.append_assoc, List.append_assoc]
  exact isFence_append _ (by decide)

theorem isFence_clear (address : Nat) : isFence (clearCommand address) = false :=
  isFence_append _ (by decide)

theorem conditionalAnswer_spec {setting : Bool} {result : BreakpointResult}
    (submitted : Submitted build types request (.conditional setting) (some address) past)
    (answers : result.Answers request (some address) (.conditional setting))
    (silent : result.changed? = none)
    (seen : ∀ mark ∈ result.marks build types, SeenBy mark past) :
    (conditionalAnswer generation result).Meets recording
      (Outcome build types request (.conditional setting) (some address)) past := by
  rw [conditionalAnswer]
  apply meets_native
  rintro (_ | _)
  · exact (keptByReads_submitted submitted rfl).admits rfl
  refine ⟨by rintro _ ⟨⟩, ?_, (keptByReads_submitted submitted rfl).1⟩
  rintro _ _ ⟨⟩
  refine ⟨answers, ?_, ?_, fun _ => List.getLast?_concat⟩
  · exact fun mark member => keptByReads_seenBy mark (seen mark member) rfl
  · intro changed changedEq
    cases silent.symm.trans changedEq

theorem conditionalCleanup_spec {message : String}
    (submitted : Submitted build types request (.conditional true) (some address) past) :
    (conditionalCleanup request address >>= fun status =>
        (pure (.error (abandoned message status)) : Handler BreakpointResponse)).Meets recording
      (Outcome build types request (.conditional true) (some address)) past := by
  rw [meets_bind]
  refine (cleanup_spec submitted (isFence_clear address)
    (fun _ _ owned looked => .clearConditional looked owned)
    (fun _ foreign => .conditional foreign)).mono ?_
  exact fun status later ends => abandoned_spec ends.1 ends.2

theorem finishConditional_spec
    (submitted : Submitted build types request (.conditional true) (some address) past) :
    (finishConditional request address generation).Meets recording
      (Outcome build types request (.conditional true) (some address)) past := by
  rw [finishConditional]
  apply keptByReads_submitted.ask submitted rfl
  rintro (_ | _) later submitted -
  · exact conditionalCleanup_spec submitted
  apply keptByReads_submitted.ask submitted rfl
  rintro (_ | _) later submitted -
  · exact conditionalCleanup_spec submitted
  apply meets_native
  intro written
  have submitted : Submitted build types request (.conditional true) (some address) (later ++
      [⟨.bpSetFieldText ⟨.normal, address⟩ .breakCondition (utf8 request.conditionalExpression),
        written⟩]) := submitted.concat (by simp)
  rcases written with _ | _
  · exact conditionalCleanup_spec submitted
  apply meets_native
  intro written
  have submitted : Submitted build types request (.conditional true) (some address) (_ ++
      [⟨.bpSetFieldNumber ⟨.normal, address⟩ .fastResume 1, written⟩]) :=
    submitted.concat (by simp)
  rcases written with _ | _
  · exact conditionalCleanup_spec submitted
  apply keptByReads_submitted.ask submitted rfl
  rintro (_ | installed) last submitted found
  · exact conditionalCleanup_spec submitted
  dsimp only
  rw [meets_ite]
  refine ⟨fun _ => conditionalCleanup_spec submitted, fun matched => ?_⟩
  rw [Bool.not_eq_true', Bool.not_eq_false] at matched
  refine conditionalAnswer_spec submitted ⟨rfl, rfl, rfl, rfl, rfl⟩ rfl ?_
  intro mark member
  rw [List.mem_singleton.mp member, found]
  exact seenBy_last ⟨installed, rfl, matched⟩

theorem mutateConditional_spec {setting : Bool} (quiet : Quiet past) :
    (mutateConditional request setting address generation).Meets recording
      (Outcome build types request (.conditional setting) (some address)) past := by
  rw [mutateConditional, meets_ite]
  refine ⟨fun _ => quiet.refuses _, fun _ => ?_⟩
  apply keptByReads_quiet.ask quiet rfl
  rintro (_ | _) later quiet -
  · exact quiet.refuses _
  apply keptByReads_quiet.ask quiet rfl
  rintro (_ | _) later quiet -
  · exact quiet.refuses _
  apply keptByReads_quiet.ask quiet rfl
  intro before later quiet found
  cases setting with
  | true =>
      cases before with
      | some before => exact quiet.refuses _
      | none =>
          rw [found] at quiet ⊢
          exact submitting_spec quiet (.setConditional (seenBy_last rfl))
            (isFence_setConditional _ _) fun later submitted => finishConditional_spec submitted
  | false =>
      cases before with
      | none => exact quiet.refuses _
      | some before =>
          dsimp only
          rw [if_neg Bool.false_ne_true, meets_ite]
          refine ⟨fun _ => quiet.refuses _, fun owned => ?_⟩
          rw [Bool.not_eq_true', Bool.not_eq_false] at owned
          rw [found] at quiet ⊢
          apply submitting_spec quiet (.clearConditional (seenBy_last rfl) owned)
            (isFence_clear _)
          intro later submitted
          apply keptByReads_submitted.ask submitted rfl
          rintro (_ | remaining) last submitted found
          · refine conditionalAnswer_spec submitted ⟨rfl, rfl, rfl⟩ rfl ?_
            intro mark member
            rw [List.mem_singleton.mp member, found]
            exact seenBy_last rfl
          · exact submitted.admits rfl

/-! ### Software breakpoints -/

theorem unknown_spec {error : ErrorResponse}
    (warranted : Warranted build types request method place history)
    (unknown : error.unknown = true) :
    Outcome build types request method place (.error error) history where
  truthful := by
    rintro _ ⟨⟩ known
    cases unknown.symm.trans known
  confirmed := by rintro _ _ ⟨⟩
  warranted := warranted

theorem confirmSoftware_spec {setting : Bool}
    (warranted : Warranted build types request (.software setting) (some address) past) :
    (confirmSoftware setting address).Meets recording
      (Outcome build types request (.software setting) (some address)) past := by
  rw [confirmSoftware]
  apply keptByReads_warranted.ask warranted rfl
  intro present later warranted found
  rw [meets_ite]
  refine ⟨fun _ => unknown_spec warranted rfl, fun confirmed => ?_⟩
  rw [bne_iff_ne, not_not] at confirmed
  apply keptByReads_warranted.ask warranted rfl
  rintro reached last warranted rfl
  refine ⟨by rintro _ ⟨⟩, ?_, warranted⟩
  rintro _ _ ⟨⟩
  refine ⟨⟨rfl, rfl⟩, ?_, by rintro _ ⟨⟩, by rintro ⟨⟩⟩
  intro mark member
  rw [List.mem_singleton.mp member, found, confirmed]
  exact keptByReads_seenBy _ (seenBy_last rfl) rfl

theorem warranted_direct {command : List UInt8} {succeeded : Bool}
    (warranted : Warranted build types request method place history) :
    Warranted build types request method place (history ++ [⟨.cmdExecDirect command, succeeded⟩]) :=
  warranted_concat.mpr ⟨warranted, by rintro _ ⟨⟩⟩

theorem mutateSoftware_spec {setting : Bool} (quiet : Quiet past) :
    (mutateSoftware setting address generation).Meets recording
      (Outcome build types request (.software setting) (some address)) past := by
  rw [mutateSoftware]
  apply keptByReads_quiet.ask quiet rfl
  rintro (_ | _) later quiet -
  · exact quiet.refuses _
  cases setting with
  | true =>
      apply meets_native
      rintro (_ | _)
      · exact unknown_spec (warranted_direct quiet.warranted) rfl
      · exact confirmSoftware_spec (warranted_direct quiet.warranted)
  | false =>
      apply keptByReads_quiet.ask quiet rfl
      rintro (_ | _) later quiet -
      · exact confirmSoftware_spec quiet.warranted
      apply meets_native
      rintro (_ | _)
      · exact unknown_spec (warranted_direct quiet.warranted) rfl
      · exact confirmSoftware_spec (warranted_direct quiet.warranted)

/-! ### Hardware and memory breakpoints -/

/-- Polling rule: what the loop reports was seen behind the command. -/
theorem observe_spec {holds : List NativeRecord → Prop} (kept : KeptByReads holds)
    {type : BreakpointType} {setting : Bool} {matched : BridgeBreakpoint → Handler Bool}
    {slot rounds : Nat} (confirmed : Nat → List NativeRecord → Prop)
    (absent : ∀ history, setting = false → holds history →
      confirmed slot (history ++ [look type address none]))
    (present : ∀ history current, setting = true → holds history →
      (matched current).Meets recording (fun same later => holds later ∧
        (same = true → confirmed current.slot later))
        (history ++ [look type address (some current)])) (start : holds past) :
    (observe rounds type address setting matched slot).Meets recording
      (fun result later => holds later ∧
        ∀ found, result = some found → confirmed found later) past := by
  rw [observe, meets_bind]
  refine meets_repeatUpTo ?_ (fun state holds => ⟨holds, by rintro _ ⟨⟩⟩) rounds start
  intro history start
  rw [observeRound]
  apply kept.ask start rfl
  rintro (_ | _) later holds -
  · exact ⟨by rintro ⟨⟩, fun _ => ⟨holds, by rintro _ ⟨⟩⟩⟩
  apply meets_native
  rintro (_ | current)
  · cases setting with
    | true => exact ⟨fun _ => kept holds rfl, by rintro ⟨⟩⟩
    | false =>
        refine ⟨by rintro ⟨⟩, fun _ => ⟨kept holds rfl, ?_⟩⟩
        rintro _ ⟨⟩
        exact absent later rfl holds
  · cases setting with
    | false => exact ⟨fun _ => kept holds rfl, by rintro ⟨⟩⟩
    | true =>
        dsimp only
        rw [if_pos rfl, meets_bind]
        apply (present later current rfl holds).mono
        rintro (_ | _) last ⟨holds, seen⟩
        · exact ⟨fun _ => holds, by rintro ⟨⟩⟩
        · refine ⟨by rintro ⟨⟩, fun _ => ⟨holds, ?_⟩⟩
          rintro _ ⟨⟩
          exact seen rfl

theorem submittingObserved_spec {rounds : Nat} {command : List UInt8} {type : BreakpointType}
    {setting : Bool} {matched : BridgeBreakpoint → Handler Bool} {slot : Nat}
    {unconfirmed : String} {result : Nat → BreakpointResult}
    (quiet : Quiet past) (warrant : Warrants build types request past method place command)
    (unfenced : isFence command = false)
    (absent : setting = false → ∀ mark ∈ (result slot).marks build types,
      mark (look type address none))
    (present : ∀ history current, setting = true →
      Submitted build types request method place history →
      (matched current).Meets recording
        (fun same later => Submitted build types request method place later ∧
          (same = true → ∀ mark ∈ (result current.slot).marks build types, SeenBy mark later))
        (history ++ [look type address (some current)]))
    (answers : ∀ found, (result found).Answers request place method ∧
      (result found).changed? = none) :
    (submittingObserved rounds command type address generation setting matched slot unconfirmed
      result).Meets recording (Outcome build types request method place) past := by
  rw [submittingObserved]
  apply meets_native
  rintro (_ | _)
  · exact (keptByReads_quiet quiet rfl).refuses _
  have submitted := submitted_concat quiet.warranted warrant unfenced
  rw [if_neg (by simp), meets_bind]
  refine (observe_spec keptByReads_submitted
    (fun found later => ∀ mark ∈ (result found).marks build types, SeenBy mark later) ?_ present
    submitted).mono ?_
  · intro history unset _ mark member
    exact seenBy_last (absent unset mark member)
  rintro (_ | found) later ⟨submitted, seen⟩
  · exact submitted.admits rfl
  apply meets_native
  rintro (_ | _)
  · exact (keptByReads_submitted submitted rfl).admits rfl
  refine ⟨by rintro _ ⟨⟩, ?_, (keptByReads_submitted submitted rfl).1⟩
  rintro _ _ ⟨⟩
  refine ⟨(answers found).1, ?_, ?_, fun _ => List.getLast?_concat⟩
  · exact fun mark member => keptByReads_seenBy mark (seen found rfl mark member) rfl
  · intro changed changedEq
    cases (answers found).2.symm.trans changedEq

theorem isFence_setHardware (address : Nat) (access : HardwareAccess) (size : Nat) :
    isFence (setHardwareCommand address access size) = false := by
  simp only [setHardwareCommand, List.append_assoc]
  exact isFence_append _ (by decide)

theorem isFence_clearHardware (address : Nat) : isFence (clearHardwareCommand address) = false :=
  isFence_append _ (by decide)

theorem isFence_setMemory (address : Nat) (mode : MemoryAccess) (size : Nat) :
    isFence (setMemoryCommand address mode size) = false := by
  simp only [setMemoryCommand, List.append_assoc]
  exact isFence_append _ (by decide)

theorem isFence_clearMemory (address : Nat) : isFence (clearMemoryCommand address) = false :=
  isFence_append _ (by decide)

theorem mutateHardware_spec {rounds : Nat} {setting : Bool} (quiet : Quiet past) :
    (mutateHardware build types rounds request setting address generation).Meets recording
      (Outcome build types request (.hardware setting) (some address)) past := by
  rw [mutateHardware]
  cases parsed : parseHardwareAccess request.breakpointAccess with
  | none => exact quiet.refuses _
  | some access =>
      dsimp only
      rw [meets_ite]
      refine ⟨fun _ => quiet.refuses _, fun valid => ?_⟩
      rw [Bool.not_eq_true', Bool.not_eq_false] at valid
      apply keptByReads_quiet.ask quiet rfl
      intro starting later quiet _
      rw [meets_ite]
      refine ⟨fun _ => quiet.refuses _, fun _ => ?_⟩
      apply keptByReads_quiet.ask quiet rfl
      rintro (_ | _) later quiet -
      · exact quiet.refuses _
      apply keptByReads_quiet.ask quiet rfl
      rintro (_ | _) later quiet -
      · exact quiet.refuses _
      apply keptByReads_quiet.ask quiet rfl
      intro before later quiet found
      cases setting with
      | true =>
          cases before with
          | some before => exact quiet.refuses _
          | none =>
              have seen : SeenBy (· = look .hardware address none) later := by
                rw [found]
                exact seenBy_last rfl
              refine hardwareSlotFree_spec (keptByReads_quiet.and (keptByReads_seenBy _))
                (fun _ both => both.1) ⟨quiet, seen⟩ ?_
              rintro last ⟨quiet, seen⟩
              refine submittingObserved_spec quiet (.setHardware parsed valid seen)
                (isFence_setHardware _ _ _) (by rintro ⟨⟩) ?_
                fun slot => ⟨⟨rfl, rfl, parsed, rfl⟩, rfl⟩
              intro history current _ submitted
              refine ⟨keptByReads_submitted submitted rfl, ?_⟩
              intro same mark member
              rw [List.mem_singleton.mp member]
              exact seenBy_last ⟨current, rfl, same, rfl⟩
      | false =>
          cases before with
          | none => exact quiet.refuses _
          | some before =>
              dsimp only
              rw [if_neg Bool.false_ne_true, meets_ite]
              refine ⟨fun _ => quiet.refuses _, fun selected => ?_⟩
              rw [Bool.not_eq_true', Bool.not_eq_false] at selected
              rw [found] at quiet ⊢
              refine submittingObserved_spec quiet
                (.clearHardware parsed valid (seenBy_last rfl) selected)
                (isFence_clearHardware _) ?_ (by rintro _ _ ⟨⟩)
                fun slot => ⟨⟨rfl, rfl, parsed, rfl⟩, rfl⟩
              intro _ mark member
              rw [List.mem_singleton.mp member]

theorem mutateMemory_spec {rounds : Nat} {setting : Bool} (quiet : Quiet past) :
    (mutateMemory types rounds request setting address generation).Meets recording
      (Outcome build types request (.memory setting) (some address)) past := by
  rw [mutateMemory]
  cases parsed : parseMemoryAccess request.breakpointAccess with
  | none => exact quiet.refuses _
  | some mode =>
      apply keptByReads_quiet.ask quiet rfl
      rintro (_ | _) later quiet -
      · exact quiet.refuses _
      apply keptByReads_quiet.ask quiet rfl
      rintro (_ | _) later quiet -
      · exact quiet.refuses _
      cases setting with
      | true =>
          apply keptByReads_quiet.ask quiet rfl
          intro region later quiet _
          rw [meets_ite]
          refine ⟨fun _ => quiet.refuses _, fun _ => ?_⟩
          apply keptByReads_quiet.ask quiet rfl
          rintro (_ | before) later quiet found
          · rw [found] at quiet ⊢
            refine submittingObserved_spec quiet (.setMemory parsed (seenBy_last rfl))
              (isFence_setMemory _ _ _) (by rintro ⟨⟩) ?_
              fun slot => ⟨⟨rfl, rfl, parsed, rfl⟩, rfl⟩
            intro history current _ submitted
            have seen : SeenBy (· = look .memory address (some current))
                (history ++ [look .memory address (some current)]) := seenBy_last rfl
            refine (keptByReads_submitted.and (keptByReads_seenBy _)).ask
              ⟨keptByReads_submitted submitted rfl, seen⟩ rfl ?_
            rintro observed later ⟨submitted, seen⟩ reached
            rw [reached] at submitted seen ⊢
            refine ⟨submitted, ?_⟩
            intro same mark member
            have sized := same
            simp only [memoryBreakpointMatches, Bool.and_eq_true, beq_iff_eq] at sized
            rw [sized.2] at same seen ⊢
            rcases List.mem_cons.mp member with rfl | member
            · apply seen.mono
              rintro _ rfl
              exact ⟨current, rfl, same⟩
            · rw [List.mem_singleton.mp member]
              exact seenBy_last rfl
          · exact quiet.refuses _
      | false =>
          apply keptByReads_quiet.ask quiet rfl
          rintro (_ | before) later quiet found
          · exact quiet.refuses _
          have seen : SeenBy (· = look .memory address (some before)) later := by
            rw [found]
            exact seenBy_last rfl
          apply (keptByReads_quiet.and (keptByReads_seenBy _)).ask ⟨quiet, seen⟩ rfl
          rintro observed last ⟨quiet, seen⟩ reached
          rw [meets_ite]
          refine ⟨fun _ => quiet.refuses _, fun selected => ?_⟩
          rw [Bool.not_eq_true', Bool.not_eq_false] at selected
          have sized : SeenBy (· = ⟨.memBpSize address, observed⟩) last := by
            rw [reached]
            exact seenBy_last rfl
          refine submittingObserved_spec quiet (.clearMemory parsed seen sized selected)
            (isFence_clearMemory _) ?_ (by rintro _ _ ⟨⟩)
            fun slot => ⟨⟨rfl, rfl, parsed, rfl⟩, rfl⟩
          intro _ mark member
          rw [List.mem_singleton.mp member]

/-! ### All methods -/

variable (build types request method) in
/-- An outcome whose place is the address that was resolved. -/
def OutcomeAt (response : BreakpointResponse) (history : List NativeRecord) : Prop :=
  ∃ place, Outcome build types request method place response history ∧
    ∀ address, place = some address →
      (⟨.resolveAddress request.address, .ok address⟩ : NativeRecord) ∈ history

theorem Outcome.nowhere {response : BreakpointResponse}
    (outcome : Outcome build types request method none response history) :
    OutcomeAt build types request method response history :=
  ⟨none, outcome, by rintro _ ⟨⟩⟩

theorem resolvedLocation_spec {handle : (address generation : Nat) → Handler BreakpointResponse}
    (quiet : Quiet past)
    (onward : ∀ address generation later, Quiet later → (handle address generation).Meets recording
      (Outcome build types request method (some address)) later) :
    (resolvedLocation request handle).Meets recording
      (OutcomeAt build types request method) past := by
  refine resolvedLocation_rule quiet (fun error later quiet _ => (quiet.refuses error).nowhere) ?_
  intro address generation later quiet resolved
  apply ((onward address generation later quiet).and (meets_extends _)).mono
  rintro response last ⟨outcome, extended⟩
  refine ⟨some address, outcome, ?_⟩
  rintro _ ⟨⟩
  exact extended.subset resolved

/-- Every handler keeps the promises. -/
theorem mutateBreakpoint_spec {rounds : Nat} :
    (mutateBreakpoint build types rounds request method).Meets recording
      (OutcomeAt build types request method) [] := by
  cases method with
  | toggle enable =>
      rw [mutateBreakpoint, meets_ite]
      constructor
      · intro kind
        exact (toggleException_spec kind quiet_nil).mono fun _ _ => Outcome.nowhere
      · intro _
        exact resolvedLocation_spec quiet_nil fun _ _ _ => toggleAt_spec
  | exception setting =>
      exact (mutateException_spec quiet_nil).mono fun _ _ => Outcome.nowhere
  | conditional setting =>
      exact resolvedLocation_spec quiet_nil fun _ _ _ => mutateConditional_spec
  | software setting => exact resolvedLocation_spec quiet_nil fun _ _ _ => mutateSoftware_spec
  | hardware setting => exact resolvedLocation_spec quiet_nil fun _ _ _ => mutateHardware_spec
  | memory setting => exact resolvedLocation_spec quiet_nil fun _ _ _ => mutateMemory_spec

end Steps

/-! ## What every run says -/

/-- A request that every handler reads. -/
def sampleRequest : Request where
  requestId := "00000000-0000-4000-8000-000000000000"
  method := ""
  deadlineUnixMs := 0
  mutation := true
  address := { absolute := 0x401000 }
  exceptionCode := 0xc0000005
  exceptionChance := "first"
  managedBreakpointId := "00000000-0000-4000-8000-000000000001"

/-- The numbers of x64dbg in the samples. -/
def sampleTypes : NativeTypes where
  exceptionChance
    | .first => 0
    | .second => 1
    | .both => 2
  hardwareAccess
    | .execute => 2
    | .write => 1
    | .readWrite => 0
  memoryAccess
    | .access => 0
    | .read => 1
    | .write => 2
    | .execute => 3
  hwByte := 0
  hwWord := 1
  hwDword := 2
  hwQword := 3

section Runs

variable {build types} {rounds : Nat} {request : Request} {method : BreakpointMethod}
  {response : BreakpointResponse} {history : List NativeRecord}

/-- An error that does not call the outcome unknown leaves nothing behind: no change was
accepted, or the record of the request was seen to be gone behind the last one. -/
theorem mutateBreakpoint_error
    (runs : (mutateBreakpoint build types rounds request method).Runs recording [] response history)
    {error : ErrorResponse} (failed : response = .error error) (known : error.unknown = false) :
    Quiet history ∨ ∃ place, SeenBy (Gone types request method place) history ∧
      ∀ address, place = some address →
        (⟨.resolveAddress request.address, .ok address⟩ : NativeRecord) ∈ history := by
  rcases meets_iff.mp mutateBreakpoint_spec _ _ runs with ⟨place, outcome, resolved⟩
  rcases outcome.truthful error failed known with quiet | gone
  · exact .inl quiet
  · exact .inr ⟨place, gone, resolved⟩

/-- A success is borne out by looks behind the last change. -/
theorem mutateBreakpoint_ok
    (runs : (mutateBreakpoint build types rounds request method).Runs recording [] response history)
    {generation : Nat} {result : BreakpointResult} (told : response = .ok (generation, result)) :
    ∃ place, BorneOut build types request method place generation result history ∧
      ∀ address, place = some address →
        (⟨.resolveAddress request.address, .ok address⟩ : NativeRecord) ∈ history := by
  rcases meets_iff.mp mutateBreakpoint_spec _ _ runs with ⟨place, outcome, resolved⟩
  exact ⟨place, outcome.confirmed generation result told, resolved⟩

end Runs

/-! ### Runs against a debugger that refuses names -/

/-- The run of the sample request, under each method. -/
def sampleRun (method : BreakpointMethod) : BreakpointResponse × List NativeRecord :=
  (mutateBreakpoint ⟨8, 256⟩ sampleTypes 1 sampleRequest method).play agreeable []

theorem sampleRun_runs (method : BreakpointMethod) :
    (mutateBreakpoint ⟨8, 256⟩ sampleTypes 1 sampleRequest method).Runs recording []
      (sampleRun method).1 (sampleRun method).2 :=
  runs_play agreeable _ []

/-- The name was refused, and the new record is gone. -/
theorem mutateBreakpoint_error_unnamed :
    Quiet (sampleRun (.exception true)).2 ∨
      ∃ place, SeenBy (Gone sampleTypes sampleRequest (.exception true) place)
          (sampleRun (.exception true)).2 ∧
        ∀ address, place = some address →
          (⟨.resolveAddress sampleRequest.address, .ok address⟩ : NativeRecord) ∈
            (sampleRun (.exception true)).2 :=
  mutateBreakpoint_error (sampleRun_runs _)
    (show (sampleRun (.exception true)).1 = .error
      (abandoned "exception breakpoint ownership could not be assigned" .absent) by rfl) rfl

/-- The sample request, for a breakpoint of software. -/
def softwareRequest : Request :=
  { sampleRequest with breakpointKind := "software" }

/-- The record of a plain breakpoint of software. -/
def plainRecord (enabled : Bool) : BridgeBreakpoint where
  type := .normal
  addr := 0x401000
  enabled := enabled
  singleshoot := false
  active := true
  name := [0]
  mod := [0]
  slot := 0
  typeEx := 0
  hwSize := 0
  hitCount := 0
  fastResume := false
  silent := false
  breakCondition := [0]
  logText := [0]
  logCondition := [0]
  commandText := [0]
  commandCondition := [0]

/-- A debugger whose one breakpoint is enabled until a command is accepted. -/
def holding (past : List NativeRecord) : (call : NativeCall) → call.Answer
  | .getBridgeBp .normal _ => some (plainRecord (past.all fun record => !record.changes))
  | call => agreeable past call

/-- A disable whose debuggee holds the breakpoint. -/
def disabledRun : BreakpointResponse × List NativeRecord :=
  (mutateBreakpoint ⟨8, 256⟩ sampleTypes 1 softwareRequest (.toggle false)).play holding []

/-- The breakpoint was found enabled, a command was accepted, and the breakpoint was found
disabled behind it. -/
theorem mutateBreakpoint_ok_disabled :
    ∃ place, BorneOut ⟨8, 256⟩ sampleTypes softwareRequest (.toggle false) place 7
        (.toggled "software" 0x401000 false true) disabledRun.2 ∧
      ∀ address, place = some address →
        (⟨.resolveAddress softwareRequest.address, .ok address⟩ : NativeRecord) ∈ disabledRun.2 :=
  mutateBreakpoint_ok (runs_play holding _ [])
    (show disabledRun.1 = .ok (7, .toggled "software" 0x401000 false true) by rfl)

end X64dbgMcp.Plugin
