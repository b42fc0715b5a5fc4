import X64dbgMcp.Plugin.DebuggerLoop

/-!
# What breakpoint requests leave in the debugger

An answer that does not call the outcome unknown means that the breakpoint of the request is
not there and never will be, or, where no fence is used, that its command does not wait.
-/

namespace X64dbgMcp.Plugin

open Text Transition Dialogue CommandLoop

/-! ## Commands without a fence -/

/-- A breakpoint of the type is at the address. -/
def Occupied (type : BreakpointType) (address : Nat) (table : BreakpointTable) : Prop :=
  ∃ current, table type address = some current

section Observed

variable {parties : Parties (List UInt8) BreakpointTable} {command : List UInt8}
  {type : BreakpointType} {address generation slot rounds : Nat} {loop : Debugger}
  {matched : BridgeBreakpoint → Handler Bool}

/-- A command whose effect is looked for is a fence of its own. -/
theorem guards_self (exclusive : Exclusive parties command (Occupied type address)) :
    Guards (withFence parties) command (· = command)
      fun store => Occupied type address store.find where
  runs := fun _ _ _ different ran absent => exclusive.runs different ran.1 absent
  meddles := fun _ _ meddled absent => exclusive.meddles meddled.1 absent
  submits := exclusive.submits

/-- The command waits at most once, and then its effect is still to come. -/
abbrev Foretold (command : List UInt8) (type : BreakpointType) (address : Nat) :
    Debugger → Prop :=
  Fenced command (· = command) fun store => Occupied type address store.find

theorem lasting_foretold (exclusive : Exclusive parties command (Occupied type address)) :
    Lasting parties (Foretold command type address) where
  moves := fun _ _ foretold moved => foretold.move (guards_self exclusive) moved
  same := by
    intro loop target foretold find waiting
    rw [Foretold, Fenced, find, waiting]
    exact foretold

theorem observe_unqueued (exclusive : Exclusive parties command (Occupied type address))
    (reads : ∀ current state, Unqueued command state →
      (matched current).Meets (debugger parties) (fun _ => Unqueued command) state)
    (start : Foretold command type address loop) :
    (observe rounds type address true matched slot).Meets (debugger parties)
      (fun found target => found.isSome = true → Unqueued command target) loop := by
  have lasting := lasting_foretold exclusive
  rw [observe, meets_bind]
  refine meets_repeatUpTo ?_ (fun _ _ => by rintro ⟨⟩) rounds start
  intro state foretold
  rw [observeRound]
  apply lasting.ask foretold rfl
  rintro (_ | _) state foretold
  · exact ⟨by rintro ⟨⟩, fun _ => by rintro ⟨⟩⟩
  apply lasting.look foretold
  rintro (_ | current) state foretold told
  · exact ⟨fun _ => foretold, by rintro ⟨⟩⟩
  have gone : Unqueued command state := foretold.gone ⟨current, told.symm⟩
  dsimp only
  rw [if_pos rfl, meets_bind]
  apply (reads current state gone).mono
  rintro (_ | _) last gone
  · exact ⟨fun _ => .inl gone, by rintro ⟨⟩⟩
  · exact ⟨by rintro ⟨⟩, fun _ _ => gone⟩

/-- Unless the answer calls the outcome unknown, the command does not wait. -/
def LeavesUnqueued (command : List UInt8) (response : BreakpointResponse) (target : Debugger) :
    Prop :=
  (∀ error, response = .error error → error.unknown = false) → Unqueued command target

theorem submittingObserved_leavesUnqueued {unconfirmed : String}
    {result : Nat → BreakpointResult}
    (exclusive : Exclusive parties command (Occupied type address))
    (reads : ∀ current state, Unqueued command state →
      (matched current).Meets (debugger parties) (fun _ => Unqueued command) state)
    (start : Absent command (Occupied type address) loop) :
    (submittingObserved rounds command type address generation true matched slot unconfirmed
      result).Meets (debugger parties) (LeavesUnqueued command) loop := by
  rw [submittingObserved, meets_bind, meets_put]
  rintro (_ | _) state ⟨middle, later, answers⟩
  · cases answers
    have free := later.keeps (lasting_absent exclusive).moves start
    exact fun _ => free.gone
  cases answers
  have free := later.keeps (lasting_absent exclusive).moves start
  have foretold : Foretold command type address ⟨middle.store, middle.waiting ++ [command]⟩ := by
    apply fenced_append free.absent
    rintro other member rfl
    exact free.gone member
  rw [meets_ite]
  refine ⟨by rintro ⟨⟩, fun _ => ?_⟩
  rw [meets_bind]
  apply (observe_unqueued exclusive reads foretold).mono
  rintro (_ | confirmed) state gone
  · intro sure
    cases sure _ rfl
  apply (lasting_unqueued exclusive.submits).ask (gone rfl) rfl
  rintro (_ | _) state gone
  · intro sure
    cases sure _ rfl
  · exact fun _ => gone

end Observed

section Unfenced

variable {parties : Parties (List UInt8) BreakpointTable} {build : Build} {types : NativeTypes}
  {request : Request} {address generation rounds : Nat} {loop target final : Debugger}
  {response : BreakpointResponse}

theorem absent_of_unoccupied {command : List UInt8} {type : BreakpointType} {state : Debugger}
    (gone : Unqueued command state) (told : none = state.store.find type address) :
    Absent command (Occupied type address) state := by
  refine ⟨?_, gone⟩
  rintro ⟨current, found⟩
  rw [← told] at found
  cases found

theorem mutateHardware_leavesUnqueued {access : HardwareAccess}
    (asked : parseHardwareAccess request.breakpointAccess = some access)
    (exclusive : Exclusive parties (setHardwareCommand address access request.breakpointSize)
      (Occupied .hardware address))
    (start : Unqueued (setHardwareCommand address access request.breakpointSize) loop) :
    (mutateHardware build types rounds request true address generation).Meets (debugger parties)
      (LeavesUnqueued (setHardwareCommand address access request.breakpointSize)) loop := by
  have lasting := lasting_unqueued exclusive.submits
  rw [mutateHardware, asked]
  dsimp only
  rw [meets_ite]
  refine ⟨fun _ _ => start, fun _ => ?_⟩
  apply lasting.ask start rfl
  intro starting state gone
  rw [meets_ite]
  refine ⟨fun _ _ => gone, fun _ => ?_⟩
  apply lasting.ask gone rfl
  rintro (_ | _) state gone
  · exact fun _ => gone
  apply lasting.ask gone rfl
  rintro (_ | _) state gone
  · exact fun _ => gone
  apply lasting.look gone
  rintro (_ | before) state gone told
  · have lasting := lasting_absent exclusive
    rw [if_pos rfl, hardwareSlotFree]
    apply lasting.ask (absent_of_unoccupied gone told) rfl
    rintro (_ | breakpoints) state absent
    · exact fun _ => absent.gone
    dsimp only
    rw [meets_ite]
    refine ⟨fun _ _ => absent.gone, fun _ => ?_⟩
    exact submittingObserved_leavesUnqueued exclusive (fun _ _ gone => gone) absent
  · exact fun _ => gone

theorem mutateMemory_leavesUnqueued {mode : MemoryAccess}
    (asked : parseMemoryAccess request.breakpointAccess = some mode)
    (exclusive : Exclusive parties (setMemoryCommand address mode request.breakpointSize)
      (Occupied .memory address))
    (start : Unqueued (setMemoryCommand address mode request.breakpointSize) loop) :
    (mutateMemory types rounds request true address generation).Meets (debugger parties)
      (LeavesUnqueued (setMemoryCommand address mode request.breakpointSize)) loop := by
  have lasting := lasting_unqueued exclusive.submits
  rw [mutateMemory, asked]
  apply lasting.ask start rfl
  rintro (_ | _) state gone
  · exact fun _ => gone
  apply lasting.ask gone rfl
  rintro (_ | _) state gone
  · exact fun _ => gone
  apply lasting.ask gone rfl
  intro region state gone
  rw [meets_ite]
  refine ⟨fun _ _ => gone, fun _ => ?_⟩
  apply lasting.look gone
  rintro (_ | before) state gone told
  · refine submittingObserved_leavesUnqueued exclusive ?_ (absent_of_unoccupied gone told)
    intro current state gone
    exact lasting.ask gone rfl fun _ _ gone => gone
  · exact fun _ => gone

/-- Whatever the other parties do: unless setting a hardware breakpoint ends in an outcome that
is called unknown, its command does not wait to set the breakpoint again. -/
theorem mutateHardware_residue {access : HardwareAccess}
    (asked : parseHardwareAccess request.breakpointAccess = some access)
    (exclusive : Exclusive parties (setHardwareCommand address access request.breakpointSize)
      (Occupied .hardware address))
    (start : Unqueued (setHardwareCommand address access request.breakpointSize) loop)
    (runs : (mutateHardware build types rounds request true address generation).Runs
      (debugger parties) loop response target)
    (sure : ∀ error, response = .error error → error.unknown = false)
    (later : Later (withFence parties) target final) :
    setHardwareCommand address access request.breakpointSize ∉ final.waiting := by
  have leaves := meets_iff.mp (mutateHardware_leavesUnqueued asked exclusive start) _ _ runs
  exact later.keeps (lasting_unqueued exclusive.submits).moves (leaves sure)

/-- A request for a hardware breakpoint. -/
def hardwareRequest : Request :=
  { sampleRequest with breakpointAccess := "execute", breakpointSize := 1 }

/-- Where it is set, and what is made there. -/
def hardwareSite : Site where
  type := .hardware
  address := 0x401000
  set := setHardwareCommand 0x401000 .execute hardwareRequest.breakpointSize
  clear := clearHardwareCommand 0x401000
  made := { plainRecord true with type := .hardware, typeEx := 2 }
  own := by decide
  apart := by decide

/-- The request carried out by a debugger that takes every command. -/
def hardwareRun : BreakpointResponse × Debugger :=
  (mutateHardware ⟨8, 256⟩ sampleTypes 1 hardwareRequest true 0x401000 7).follow
    hardwareSite.answer emptyDebugger

/-- The command was queued, ran, and was seen to have set the breakpoint. -/
theorem hardwareRun_told : hardwareRun.1 = .ok (7, .hardware 0x401000 .execute 1 0 true) := by
  rfl

theorem exclusive_occupied (site : Site) :
    Exclusive site.parties site.set (Occupied site.type site.address) := by
  apply Site.exclusive
  · rintro table ⟨current, found⟩ absent
    rw [absent] at found
    cases found
  · rintro before after same ⟨current, found⟩
    exact ⟨current, same ▸ found⟩

theorem mutateHardware_residue_set : hardwareSite.set ∉ hardwareRun.2.waiting := by
  refine mutateHardware_residue (by rfl) (exclusive_occupied hardwareSite)
    (unqueued_emptyDebugger _) (runs_follow hardwareSite.answers _ emptyDebugger) ?_ .refl
  change ∀ error, hardwareRun.1 = .error error → error.unknown = false
  rw [hardwareRun_told]
  rintro _ ⟨⟩

/-- The same of memory breakpoints. -/
theorem mutateMemory_residue {mode : MemoryAccess}
    (asked : parseMemoryAccess request.breakpointAccess = some mode)
    (exclusive : Exclusive parties (setMemoryCommand address mode request.breakpointSize)
      (Occupied .memory address))
    (start : Unqueued (setMemoryCommand address mode request.breakpointSize) loop)
    (runs : (mutateMemory types rounds request true address generation).Runs (debugger parties)
      loop response target)
    (sure : ∀ error, response = .error error → error.unknown = false)
    (later : Later (withFence parties) target final) :
    setMemoryCommand address mode request.breakpointSize ∉ final.waiting := by
  have leaves := meets_iff.mp (mutateMemory_leavesUnqueued asked exclusive start) _ _ runs
  exact later.keeps (lasting_unqueued exclusive.submits).moves (leaves sure)

/-- A request for a memory breakpoint. -/
def memoryRequest : Request :=
  { sampleRequest with breakpointAccess := "write", breakpointSize := 4 }

/-- Where it is set, and what is made there. -/
def memorySite : Site where
  type := .memory
  address := 0x401000
  set := setMemoryCommand 0x401000 .write memoryRequest.breakpointSize
  clear := clearMemoryCommand 0x401000
  made := { plainRecord true with type := .memory, typeEx := 2 }
  own := by decide
  apart := by decide

/-- The request carried out by a debugger that takes every command. -/
def memoryRun : BreakpointResponse × Debugger :=
  (mutateMemory sampleTypes 1 memoryRequest true 0x401000 7).follow memorySite.answer emptyDebugger

theorem memoryRun_told : memoryRun.1 = .ok (7, .memory 0x401000 .write 4 true) := by
  rfl

theorem mutateMemory_residue_set : memorySite.set ∉ memoryRun.2.waiting := by
  refine mutateMemory_residue (by rfl) (exclusive_occupied memorySite)
    (unqueued_emptyDebugger _) (runs_follow memorySite.answers _ emptyDebugger) ?_ .refl
  change ∀ error, memoryRun.1 = .error error → error.unknown = false
  rw [memoryRun_told]
  rintro _ ⟨⟩

end Unfenced

/-! ## Conditional breakpoints -/

section Requests

variable {parties : Parties (List UInt8) BreakpointTable} {types : NativeTypes}
  {request : Request} {loop : Debugger}

/-- The conditional breakpoint of a request is there. -/
def ConditionalThere (request : Request) (address : Nat) (table : BreakpointTable) : Prop :=
  ∃ current, table .normal address = some current ∧
    conditionalBreakpointOwned current address request.managedBreakpointId = true

/-- The command that makes the breakpoint of a request. -/
abbrev ownConditionalCommand (request : Request) (address : Nat) : List UInt8 :=
  setConditionalCommand address (managedBreakpointName "conditional" request.managedBreakpointId)

theorem isFence_ownConditional (address : Nat) :
    isFence (ownConditionalCommand request address) = false := by
  simp only [ownConditionalCommand, setConditionalCommand, List.append_assoc]
  exact isFence_append _ (by decide)

theorem clear_ne_ownConditional (address : Nat) :
    clearCommand address ≠ ownConditionalCommand request address := by
  simp only [clearCommand, ownConditionalCommand, setConditionalCommand, List.append_assoc]
  exact utf8_append_ne 1 (by decide) (by decide)

theorem finishConditional_leavesNothing {address generation : Nat}
    (submits : ¬ parties.submits (ownConditionalCommand request address))
    (start : Unqueued (ownConditionalCommand request address) loop) :
    (finishConditional request address generation).Meets (debugger parties)
      (LeavesNothing (ownConditionalCommand request address) (ConditionalThere request address))
      loop := by
  have lasting := lasting_unqueued submits
  have abandons : ∀ (message : String) (target : Debugger),
      Unqueued (ownConditionalCommand request address) target →
      (do return .error (abandoned message (← conditionalCleanup request address)) :
          Handler BreakpointResponse).Meets (debugger parties)
        (LeavesNothing (ownConditionalCommand request address) (ConditionalThere request address))
        target := by
    intro message target gone
    exact cleanup_leavesNothing (clear_ne_ownConditional address) submits
      (isFence_ownConditional address) (fun _ => not_there) gone
  rw [finishConditional]
  apply lasting.ask start rfl
  rintro (_ | _) target gone
  · exact abandons _ target gone
  apply lasting.ask gone rfl
  rintro (_ | _) target gone
  · exact abandons _ target gone
  rw [meets_ite]
  refine ⟨by rintro ⟨⟩, fun _ => ?_⟩
  refine lasting_unqueued_write submits gone (fun _ _ _ answers => answers.1) ?_
  rintro (_ | _) target gone
  · exact abandons _ target gone
  rw [meets_ite]
  refine ⟨by rintro ⟨⟩, fun _ => ?_⟩
  refine lasting_unqueued_write submits gone (fun _ _ _ answers => answers.1) ?_
  rintro (_ | _) target gone
  · exact abandons _ target gone
  rw [meets_ite]
  refine ⟨by rintro ⟨⟩, fun _ => ?_⟩
  apply lasting.ask gone rfl
  rintro (_ | installed) target gone
  · exact abandons _ target gone
  dsimp only
  rw [meets_ite]
  refine ⟨fun _ => abandons _ target gone, fun _ => ?_⟩
  rw [conditionalAnswer]
  apply lasting.ask gone rfl
  rintro (_ | _) target gone
  · rintro _ ⟨⟩ ⟨⟩
  · rintro _ ⟨⟩

theorem mutateConditional_leavesNothing {address generation : Nat}
    (exclusive : Exclusive parties (ownConditionalCommand request address)
      (ConditionalThere request address))
    (others : ∀ other, parties.submits other → signalled other = none)
    (start : Absent (ownConditionalCommand request address) (ConditionalThere request address) loop) :
    (mutateConditional request true address generation).Meets (debugger parties)
      (LeavesNothing (ownConditionalCommand request address) (ConditionalThere request address))
      loop := by
  have lasting := lasting_absent exclusive
  rw [mutateConditional, meets_ite]
  refine ⟨fun _ _ _ _ => start, fun _ => ?_⟩
  apply lasting.ask start rfl
  rintro (_ | _) target absent
  · exact fun _ _ _ => absent
  apply lasting.ask absent rfl
  rintro (_ | _) target absent
  · exact fun _ _ _ => absent
  apply lasting.ask absent rfl
  rintro (_ | before) target absent
  · exact submitting_leavesNothing exclusive others (isFence_ownConditional address) absent
      fun _ gone => finishConditional_leavesNothing exclusive.submits gone
  · exact fun _ _ _ => absent

/-- Whatever the other parties do: when setting a conditional breakpoint fails and the
outcome is not called unknown, the breakpoint is not there then, and never will be. -/
theorem mutateConditional_residue {address generation : Nat} {response : BreakpointResponse}
    {target final : Debugger} {error : ErrorResponse}
    (exclusive : Exclusive parties (ownConditionalCommand request address)
      (ConditionalThere request address))
    (others : ∀ other, parties.submits other → signalled other = none)
    (start : Absent (ownConditionalCommand request address) (ConditionalThere request address) loop)
    (runs : (mutateConditional request true address generation).Runs (debugger parties) loop
      response target)
    (failed : response = .error error) (known : error.unknown = false)
    (later : Later (withFence parties) target final) :
    ¬ ConditionalThere request address final.store.find ∧
      ownConditionalCommand request address ∉ final.waiting := by
  apply residue_of_leavesNothing exclusive _ runs failed known later
  exact mutateConditional_leavesNothing exclusive others start

/-- Where a conditional breakpoint is set, and what is made there. -/
def conditionalSite : Site where
  type := .normal
  address := 0x401000
  set := ownConditionalCommand sampleRequest 0x401000
  clear := clearCommand 0x401000
  made := { plainRecord true with
    name := utf8 (managedBreakpointName "conditional" sampleRequest.managedBreakpointId) ++ [0] }
  own := by decide
  apart := by decide

/-- A request whose breakpoint is made, and then lost a field. -/
def conditionalRun : BreakpointResponse × Debugger :=
  (mutateConditional sampleRequest true 0x401000 7).follow conditionalSite.answer emptyDebugger

/-- The command ran, the condition could not be written, and the breakpoint was cleared. -/
theorem conditionalRun_told : conditionalRun.1 =
    .error (abandoned "conditional breakpoint fields could not be assigned" .absent) := by
  rfl

theorem mutateConditional_residue_cleared :
    ¬ ConditionalThere sampleRequest 0x401000 conditionalRun.2.store.find ∧
      ownConditionalCommand sampleRequest 0x401000 ∉ conditionalRun.2.waiting := by
  refine mutateConditional_residue ?_ ?_ ?_
    (runs_follow conditionalSite.answers _ emptyDebugger) conditionalRun_told rfl .refl
  · apply Site.exclusive
    · rintro table ⟨current, found, _⟩ absent
      cases found.symm.trans absent
    · rintro before after same ⟨current, found, owned⟩
      exact ⟨current, same.symm.trans found, owned⟩
  · rintro _ rfl
    exact signalled_of_unfenced (by decide)
  · exact ⟨by rintro ⟨_, ⟨⟩, _⟩, unqueued_emptyDebugger _⟩

/-! ## Exception breakpoints -/

/-- The exception breakpoint of a request is there, with its name or still without one. -/
def ExceptionThere (types : NativeTypes) (request : Request) (chance : ExceptionChance)
    (table : BreakpointTable) : Prop :=
  ∃ current, table .exception (UInt32.ofNat request.exceptionCode).toNat = some current ∧
    exceptionBreakpointCreated types current (UInt32.ofNat request.exceptionCode) chance
      (managedBreakpointName "exception" request.managedBreakpointId) = true

/-- The command that makes the exception breakpoint of a request. -/
abbrev ownExceptionCommand (request : Request) (chance : ExceptionChance) : List UInt8 :=
  setExceptionCommand (UInt32.ofNat request.exceptionCode) chance

theorem isFence_ownException (chance : ExceptionChance) :
    isFence (ownExceptionCommand request chance) = false := by
  simp only [ownExceptionCommand, setExceptionCommand, List.append_assoc]
  exact isFence_append _ (by decide)

theorem delete_ne_ownException (chance : ExceptionChance) :
    deleteExceptionCommand (UInt32.ofNat request.exceptionCode) ≠
      ownExceptionCommand request chance := by
  simp only [deleteExceptionCommand, ownExceptionCommand, setExceptionCommand, List.append_assoc]
  exact utf8_append_ne 0 (by decide) (by decide)

theorem finishException_leavesNothing {snapshot : Nat} {chance : ExceptionChance}
    (submits : ¬ parties.submits (ownExceptionCommand request chance))
    (start : Unqueued (ownExceptionCommand request chance) loop) :
    (finishException types request snapshot (UInt32.ofNat request.exceptionCode) chance).Meets
      (debugger parties)
      (LeavesNothing (ownExceptionCommand request chance) (ExceptionThere types request chance))
      loop := by
  have lasting := lasting_unqueued submits
  have abandons : ∀ (message : String) (target : Debugger),
      Unqueued (ownExceptionCommand request chance) target →
      (do return .error (abandoned message (← exceptionCleanup types
            (UInt32.ofNat request.exceptionCode) chance
            (managedBreakpointName "exception" request.managedBreakpointId))) :
          Handler BreakpointResponse).Meets (debugger parties)
        (LeavesNothing (ownExceptionCommand request chance) (ExceptionThere types request chance))
        target := by
    intro message target gone
    exact cleanup_leavesNothing (delete_ne_ownException chance) submits
      (isFence_ownException chance) (fun _ => not_there) gone
  rw [finishException]
  apply lasting.ask start rfl
  intro _ target gone
  apply lasting.ask gone rfl
  rintro (_ | _) target gone
  · exact abandons _ target gone
  rw [meets_ite]
  refine ⟨by rintro ⟨⟩, fun _ => ?_⟩
  refine lasting_unqueued_write submits gone (fun _ _ _ answers => answers.1) ?_
  rintro (_ | _) target gone
  · exact abandons _ target gone
  rw [meets_ite]
  refine ⟨by rintro ⟨⟩, fun _ => ?_⟩
  apply lasting.ask gone rfl
  rintro (_ | installed) target gone
  · exact abandons _ target gone
  dsimp only
  rw [meets_ite]
  refine ⟨fun _ => abandons _ target gone, fun _ => ?_⟩
  rw [exceptionAnswer]
  apply lasting.ask gone rfl
  rintro (_ | _) target gone
  · rintro _ ⟨⟩ ⟨⟩
  · rintro _ ⟨⟩

theorem mutateException_leavesNothing {chance : ExceptionChance}
    (asked : parseExceptionChance request.exceptionChance = some chance)
    (exclusive : Exclusive parties (ownExceptionCommand request chance)
      (ExceptionThere types request chance))
    (others : ∀ other, parties.submits other → signalled other = none)
    (start : Absent (ownExceptionCommand request chance)
      (ExceptionThere types request chance) loop) :
    (mutateException types request true).Meets (debugger parties)
      (LeavesNothing (ownExceptionCommand request chance) (ExceptionThere types request chance))
      loop := by
  have lasting := lasting_absent exclusive
  rw [mutateException, asked]
  apply lasting.ask start rfl
  rintro (_ | snapshot) target absent
  · exact fun _ _ _ => absent
  apply lasting.ask absent rfl
  rintro (_ | _) target absent
  · exact fun _ _ _ => absent
  apply lasting.ask absent rfl
  rintro (_ | _) target absent
  · exact fun _ _ _ => absent
  apply lasting.ask absent rfl
  rintro (_ | _) target absent
  · exact fun _ _ _ => absent
  apply lasting.ask absent rfl
  rintro (_ | before) target absent
  · exact submitting_leavesNothing exclusive others (isFence_ownException chance) absent
      fun _ gone => finishException_leavesNothing exclusive.submits gone
  · exact fun _ _ _ => absent

/-- The same of exception breakpoints, where a record without a name counts as the own one
until it is named. -/
theorem mutateException_residue {chance : ExceptionChance} {response : BreakpointResponse}
    {target final : Debugger} {error : ErrorResponse}
    (asked : parseExceptionChance request.exceptionChance = some chance)
    (exclusive : Exclusive parties (ownExceptionCommand request chance)
      (ExceptionThere types request chance))
    (others : ∀ other, parties.submits other → signalled other = none)
    (start : Absent (ownExceptionCommand request chance)
      (ExceptionThere types request chance) loop)
    (runs : (mutateException types request true).Runs (debugger parties) loop response target)
    (failed : response = .error error) (known : error.unknown = false)
    (later : Later (withFence parties) target final) :
    ¬ ExceptionThere types request chance final.store.find ∧
      ownExceptionCommand request chance ∉ final.waiting := by
  apply residue_of_leavesNothing exclusive _ runs failed known later
  exact mutateException_leavesNothing asked exclusive others start

/-- Where an exception breakpoint is set, and what is made there. -/
def exceptionSite : Site where
  type := .exception
  address := (UInt32.ofNat sampleRequest.exceptionCode).toNat
  set := ownExceptionCommand sampleRequest .first
  clear := deleteExceptionCommand (UInt32.ofNat sampleRequest.exceptionCode)
  made := { plainRecord true with type := .exception, addr := 0xc0000005 }
  own := by decide
  apart := by decide

/-- A request whose breakpoint is made otherwise than asked. -/
def exceptionRun : BreakpointResponse × Debugger :=
  (mutateException sampleTypes sampleRequest true).follow exceptionSite.answer emptyDebugger

/-- The command ran, the record could not be named, and it was deleted. -/
theorem exceptionRun_told : exceptionRun.1 =
    .error (abandoned "exception breakpoint ownership could not be assigned" .absent) := by
  rfl

theorem mutateException_residue_deleted :
    ¬ ExceptionThere sampleTypes sampleRequest .first exceptionRun.2.store.find ∧
      ownExceptionCommand sampleRequest .first ∉ exceptionRun.2.waiting := by
  refine mutateException_residue (by rfl) ?_ ?_ ?_
    (runs_follow exceptionSite.answers _ emptyDebugger) exceptionRun_told rfl .refl
  · apply Site.exclusive
    · rintro table ⟨current, found, _⟩ absent
      cases found.symm.trans absent
    · rintro before after same ⟨current, found, created⟩
      exact ⟨current, same.symm.trans found, created⟩
  · rintro _ rfl
    exact signalled_of_unfenced (by decide)
  · exact ⟨by rintro ⟨_, ⟨⟩, _⟩, unqueued_emptyDebugger _⟩

end Requests

end X64dbgMcp.Plugin
