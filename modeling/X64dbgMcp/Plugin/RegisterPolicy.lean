import Mathlib.Data.List.Nodup
import Mathlib.Tactic.SplitIfs
import X64dbgMcp.Plugin.Policy
import X64dbgMcp.Plugin.Request

/-!
# Register assignments

The 64-bit build.  Four tables name the registers of a thread: the widths, the writes to
a thread context, the copy of a context to a register dump, and the names of the dump.
-/

namespace X64dbgMcp.Plugin

/-- The registers of `Script::Register::RegisterEnum` that can be written. -/
inductive RegisterEnum where
  | rax
  | rbx
  | rcx
  | rdx
  | rsi
  | rdi
  | rbp
  | rsp
  | rip
  | r8
  | r9
  | r10
  | r11
  | r12
  | r13
  | r14
  | r15
  | cflags
  deriving DecidableEq

/-- A register that may be written. -/
structure WritableRegister where
  id : RegisterEnum
  bits : Nat

/-- The part of `CONTEXT` that holds these registers. -/
structure ThreadContext where
  rax : UInt64
  rbx : UInt64
  rcx : UInt64
  rdx : UInt64
  rsi : UInt64
  rdi : UInt64
  rbp : UInt64
  rsp : UInt64
  rip : UInt64
  r8 : UInt64
  r9 : UInt64
  r10 : UInt64
  r11 : UInt64
  r12 : UInt64
  r13 : UInt64
  r14 : UInt64
  r15 : UInt64
  eFlags : UInt32
  deriving DecidableEq

/-- The part of `REGISTERCONTEXT_AVX512` that holds these registers. -/
structure RegisterContext where
  cax : UInt64
  ccx : UInt64
  cdx : UInt64
  cbx : UInt64
  csp : UInt64
  cbp : UInt64
  csi : UInt64
  cdi : UInt64
  r8 : UInt64
  r9 : UInt64
  r10 : UInt64
  r11 : UInt64
  r12 : UInt64
  r13 : UInt64
  r14 : UInt64
  r15 : UInt64
  cip : UInt64
  eflags : UInt64

/-- The register of this name. -/
def findWritableRegister (name : String) : Option WritableRegister :=
  match name with
  | "rax" => some ⟨.rax, 64⟩
  | "rbx" => some ⟨.rbx, 64⟩
  | "rcx" => some ⟨.rcx, 64⟩
  | "rdx" => some ⟨.rdx, 64⟩
  | "rsi" => some ⟨.rsi, 64⟩
  | "rdi" => some ⟨.rdi, 64⟩
  | "rbp" => some ⟨.rbp, 64⟩
  | "rsp" => some ⟨.rsp, 64⟩
  | "rip" => some ⟨.rip, 64⟩
  | "r8" => some ⟨.r8, 64⟩
  | "r9" => some ⟨.r9, 64⟩
  | "r10" => some ⟨.r10, 64⟩
  | "r11" => some ⟨.r11, 64⟩
  | "r12" => some ⟨.r12, 64⟩
  | "r13" => some ⟨.r13, 64⟩
  | "r14" => some ⟨.r14, 64⟩
  | "r15" => some ⟨.r15, 64⟩
  | "eflags" => some ⟨.cflags, 32⟩
  | _ => none

/-- What both loops check of an assignment behind the earlier ones. -/
def assignmentAccepted (earlier : List RegisterAssignment) (assignment : RegisterAssignment) :
    Bool :=
  match findWritableRegister assignment.name with
  | none => false
  | some spec =>
      !(spec.bits < 64 && 2 ^ spec.bits ≤ assignment.value) &&
        !earlier.any fun other => other.name == assignment.name

/-- `std::to_chars` of base 16 into a buffer of 16 characters. -/
def encodedValue (value : Nat) : Option String :=
  let digits := Nat.toDigits 16 value
  if digits.length ≤ 16 then some (String.ofList digits) else none

/-- The loop over the assignments, with the command so far. -/
def exceptionMoves (earlier : List RegisterAssignment) (command : String) :
    List RegisterAssignment → Option String
  | [] => some command
  | assignment :: rest => do
      require (assignmentAccepted earlier assignment)
      let encoded ← encodedValue assignment.value
      exceptionMoves (earlier ++ [assignment])
        (command ++ "mov " ++ assignment.name ++ ", 0x" ++ encoded ++ ";") rest

/-- The command that writes registers and continues. -/
def buildExceptionContinueCommand (assignments : List RegisterAssignment) (handled : Bool) :
    Option String := do
  require (assignments.length ≤ 4)
  let command ← exceptionMoves [] "" assignments
  return command ++ if handled then "serun" else "erun"

/-- Write one register of a context. -/
def assignRegister (context : ThreadContext) (assignment : RegisterAssignment) :
    Option ThreadContext :=
  match assignment.name with
  | "rax" => some { context with rax := UInt64.ofNat assignment.value }
  | "rbx" => some { context with rbx := UInt64.ofNat assignment.value }
  | "rcx" => some { context with rcx := UInt64.ofNat assignment.value }
  | "rdx" => some { context with rdx := UInt64.ofNat assignment.value }
  | "rsi" => some { context with rsi := UInt64.ofNat assignment.value }
  | "rdi" => some { context with rdi := UInt64.ofNat assignment.value }
  | "rbp" => some { context with rbp := UInt64.ofNat assignment.value }
  | "rsp" => some { context with rsp := UInt64.ofNat assignment.value }
  | "rip" => some { context with rip := UInt64.ofNat assignment.value }
  | "r8" => some { context with r8 := UInt64.ofNat assignment.value }
  | "r9" => some { context with r9 := UInt64.ofNat assignment.value }
  | "r10" => some { context with r10 := UInt64.ofNat assignment.value }
  | "r11" => some { context with r11 := UInt64.ofNat assignment.value }
  | "r12" => some { context with r12 := UInt64.ofNat assignment.value }
  | "r13" => some { context with r13 := UInt64.ofNat assignment.value }
  | "r14" => some { context with r14 := UInt64.ofNat assignment.value }
  | "r15" => some { context with r15 := UInt64.ofNat assignment.value }
  | "eflags" => some { context with eFlags := UInt32.ofNat assignment.value }
  | _ => none

/-- The loop over the assignments; a refusal leaves the context with the writes before
it. -/
def applyAssignments (context : ThreadContext) (earlier : List RegisterAssignment) :
    List RegisterAssignment → Bool × ThreadContext
  | [] => (true, context)
  | assignment :: rest =>
      if assignmentAccepted earlier assignment then
        match assignRegister context assignment with
        | none => (false, context)
        | some written => applyAssignments written (earlier ++ [assignment]) rest
      else (false, context)

/-- Write several registers of a context. -/
def applyRegisterAssignments (context : ThreadContext) (assignments : List RegisterAssignment) :
    Bool × ThreadContext :=
  if assignments.length = 0 ∨ 4 < assignments.length then (false, context)
  else applyAssignments context [] assignments

/-- The registers that every snapshot shows. -/
def coreRegisterContext (context : ThreadContext) : RegisterContext where
  cax := context.rax
  ccx := context.rcx
  cdx := context.rdx
  cbx := context.rbx
  csp := context.rsp
  cbp := context.rbp
  csi := context.rsi
  cdi := context.rdi
  r8 := context.r8
  r9 := context.r9
  r10 := context.r10
  r11 := context.r11
  r12 := context.r12
  r13 := context.r13
  r14 := context.r14
  r15 := context.r15
  cip := context.rip
  eflags := context.eFlags.toUInt64

/-- The register of this name in a snapshot. -/
def registerValue (context : RegisterContext) (name : String) : Option UInt64 :=
  match name with
  | "cip" => some context.cip
  | "csp" => some context.csp
  | "cbp" => some context.cbp
  | "eflags" => some context.eflags
  | "rax" => some context.cax
  | "rbx" => some context.cbx
  | "rcx" => some context.ccx
  | "rdx" => some context.cdx
  | "rsp" => some context.csp
  | "rbp" => some context.cbp
  | "rsi" => some context.csi
  | "rdi" => some context.cdi
  | "rip" => some context.cip
  | "r8" => some context.r8
  | "r9" => some context.r9
  | "r10" => some context.r10
  | "r11" => some context.r11
  | "r12" => some context.r12
  | "r13" => some context.r13
  | "r14" => some context.r14
  | "r15" => some context.r15
  | _ => none

/-! ## A context as a table of registers -/

namespace RegisterEnum

/-- The name of a register. -/
def name : RegisterEnum → String
  | .rax => "rax"
  | .rbx => "rbx"
  | .rcx => "rcx"
  | .rdx => "rdx"
  | .rsi => "rsi"
  | .rdi => "rdi"
  | .rbp => "rbp"
  | .rsp => "rsp"
  | .rip => "rip"
  | .r8 => "r8"
  | .r9 => "r9"
  | .r10 => "r10"
  | .r11 => "r11"
  | .r12 => "r12"
  | .r13 => "r13"
  | .r14 => "r14"
  | .r15 => "r15"
  | .cflags => "eflags"

/-- The width of a register. -/
def bits : RegisterEnum → Nat
  | .cflags => 32
  | _ => 64

end RegisterEnum

namespace ThreadContext

/-- The value of a register in a context. -/
def get (context : ThreadContext) : RegisterEnum → UInt64
  | .rax => context.rax
  | .rbx => context.rbx
  | .rcx => context.rcx
  | .rdx => context.rdx
  | .rsi => context.rsi
  | .rdi => context.rdi
  | .rbp => context.rbp
  | .rsp => context.rsp
  | .rip => context.rip
  | .r8 => context.r8
  | .r9 => context.r9
  | .r10 => context.r10
  | .r11 => context.r11
  | .r12 => context.r12
  | .r13 => context.r13
  | .r14 => context.r14
  | .r15 => context.r15
  | .cflags => context.eFlags.toUInt64

/-- A context with another value of the register. -/
def set (context : ThreadContext) (register : RegisterEnum) (value : Nat) : ThreadContext :=
  match register with
  | .rax => { context with rax := UInt64.ofNat value }
  | .rbx => { context with rbx := UInt64.ofNat value }
  | .rcx => { context with rcx := UInt64.ofNat value }
  | .rdx => { context with rdx := UInt64.ofNat value }
  | .rsi => { context with rsi := UInt64.ofNat value }
  | .rdi => { context with rdi := UInt64.ofNat value }
  | .rbp => { context with rbp := UInt64.ofNat value }
  | .rsp => { context with rsp := UInt64.ofNat value }
  | .rip => { context with rip := UInt64.ofNat value }
  | .r8 => { context with r8 := UInt64.ofNat value }
  | .r9 => { context with r9 := UInt64.ofNat value }
  | .r10 => { context with r10 := UInt64.ofNat value }
  | .r11 => { context with r11 := UInt64.ofNat value }
  | .r12 => { context with r12 := UInt64.ofNat value }
  | .r13 => { context with r13 := UInt64.ofNat value }
  | .r14 => { context with r14 := UInt64.ofNat value }
  | .r15 => { context with r15 := UInt64.ofNat value }
  | .cflags => { context with eFlags := UInt32.ofNat value }

theorem get_set_of_ne {register other : RegisterEnum} (different : other ≠ register)
    (context : ThreadContext) (value : Nat) :
    (context.set register value).get other = context.get other := by
  cases register <;> cases other <;> first | rfl | exact absurd rfl different

theorem toNat_get_set {register : RegisterEnum} {value : Nat} (fits : value < 2 ^ register.bits)
    (context : ThreadContext) : ((context.set register value).get register).toNat = value := by
  have wide : ∀ number : Nat, number < 2 ^ 64 → (UInt64.ofNat number).toNat = number :=
    fun number small => UInt64.toNat_ofNat_of_lt' small
  have narrow : ∀ number : Nat, number < 2 ^ 32 → (UInt32.ofNat number).toNat = number :=
    fun number small => UInt32.toNat_ofNat_of_lt' small
  cases register with
  | cflags => exact narrow value fits
  | _ => exact wide value fits

end ThreadContext

/-! ## The tables agree -/

theorem findWritableRegister_name (register : RegisterEnum) :
    findWritableRegister register.name = some ⟨register, register.bits⟩ := by
  cases register <;> rfl

theorem name_of_findWritableRegister {name : String} {spec : WritableRegister}
    (found : findWritableRegister name = some spec) :
    name = spec.id.name ∧ spec.bits = spec.id.bits := by
  unfold findWritableRegister at found
  split at found <;> cases found <;> exact ⟨rfl, rfl⟩

theorem name_injective : Function.Injective RegisterEnum.name := by
  intro first second same
  have found := congrArg findWritableRegister same
  rw [findWritableRegister_name, findWritableRegister_name] at found
  cases found
  rfl

theorem assignRegister_name (context : ThreadContext) (register : RegisterEnum) (value : Nat) :
    assignRegister context ⟨register.name, value⟩ = some (context.set register value) := by
  cases register <;> rfl

theorem registerValue_name (context : ThreadContext) (register : RegisterEnum) :
    registerValue (coreRegisterContext context) register.name = some (context.get register) := by
  cases register <;> rfl

/-! ## The loops -/

/-- What is asked of a list of assignments. -/
structure Assignable (assignments : List RegisterAssignment) : Prop where
  count : 1 ≤ assignments.length ∧ assignments.length ≤ 4
  known : ∀ assignment ∈ assignments, ∃ spec,
    findWritableRegister assignment.name = some spec ∧ assignment.value < 2 ^ spec.bits
  distinct : (assignments.map RegisterAssignment.name).Nodup

theorem assignmentAccepted_iff {earlier : List RegisterAssignment}
    {assignment : RegisterAssignment} (wide : assignment.value < 2 ^ 64) :
    assignmentAccepted earlier assignment = true ↔
      (∃ spec, findWritableRegister assignment.name = some spec ∧
        assignment.value < 2 ^ spec.bits) ∧
      assignment.name ∉ earlier.map RegisterAssignment.name := by
  unfold assignmentAccepted
  cases found : findWritableRegister assignment.name with
  | none => simp
  | some spec =>
      have bits : spec.bits = 64 ∨ spec.bits = 32 := by
        rw [(name_of_findWritableRegister found).2]
        cases spec.id with
        | cflags => exact .inr rfl
        | _ => exact .inl rfl
      have fits : (!(decide (spec.bits < 64) && decide (2 ^ spec.bits ≤ assignment.value))) = true ↔
          assignment.value < 2 ^ spec.bits := by
        rcases bits with sixtyFour | thirtyTwo
        · rw [sixtyFour]
          exact iff_of_true rfl wide
        · simp [thirtyTwo]
      have other : (!earlier.any fun other => other.name == assignment.name) = true ↔
          assignment.name ∉ earlier.map RegisterAssignment.name := by
        simp [List.mem_map]
      simp only [Bool.and_eq_true, fits, other, Option.some.injEq, exists_eq_left']

/-- Every assignment is accepted behind the ones before it. -/
def allAccepted (earlier : List RegisterAssignment) : List RegisterAssignment → Bool
  | [] => true
  | assignment :: rest =>
      assignmentAccepted earlier assignment && allAccepted (earlier ++ [assignment]) rest

theorem allAccepted_iff {assignments : List RegisterAssignment}
    (wide : ∀ assignment ∈ assignments, assignment.value < 2 ^ 64)
    (earlier : List RegisterAssignment) :
    allAccepted earlier assignments = true ↔
      (∀ assignment ∈ assignments, ∃ spec,
        findWritableRegister assignment.name = some spec ∧ assignment.value < 2 ^ spec.bits) ∧
      (assignments.map RegisterAssignment.name).Nodup ∧
      ∀ assignment ∈ assignments, assignment.name ∉ earlier.map RegisterAssignment.name := by
  induction assignments generalizing earlier with
  | nil => simp [allAccepted]
  | cons assignment rest ih =>
      rw [List.forall_mem_cons] at wide
      rw [allAccepted, Bool.and_eq_true, assignmentAccepted_iff wide.1, ih wide.2,
        List.forall_mem_cons, List.forall_mem_cons, List.map_cons, List.nodup_cons]
      have apart : (∀ other ∈ rest,
          other.name ∉ (earlier ++ [assignment]).map RegisterAssignment.name) ↔
          assignment.name ∉ rest.map RegisterAssignment.name ∧
            ∀ other ∈ rest, other.name ∉ earlier.map RegisterAssignment.name := by
        simp only [List.map_append, List.map_cons, List.map_nil, List.mem_append,
          List.mem_singleton, not_or, List.mem_map]
        constructor
        · intro every
          refine ⟨?_, fun other member => (every other member).1⟩
          rintro ⟨other, member, same⟩
          exact (every other member).2 same
        · rintro ⟨fresh, every⟩ other member
          exact ⟨every other member, fun same => fresh ⟨other, member, same⟩⟩
      rw [apart]
      constructor
      · rintro ⟨⟨known, first⟩, others, distinct, fresh, every⟩
        exact ⟨⟨known, others⟩, ⟨fresh, distinct⟩, first, every⟩
      · rintro ⟨⟨known, others⟩, ⟨fresh, distinct⟩, first, every⟩
        exact ⟨⟨known, first⟩, others, distinct, fresh, every⟩

theorem encodedValue_isSome {value : Nat} (wide : value < 2 ^ 64) :
    (encodedValue value).isSome = true := by
  have digits : (Nat.toDigits 16 value).length ≤ 16 :=
    (Nat.length_toDigits_le_iff (by decide) (by decide)).mpr wide
  simp only [encodedValue]
  rw [if_pos digits]
  rfl

theorem exceptionMoves_isSome {assignments : List RegisterAssignment}
    (wide : ∀ assignment ∈ assignments, assignment.value < 2 ^ 64)
    (earlier : List RegisterAssignment) (command : String) :
    (exceptionMoves earlier command assignments).isSome = allAccepted earlier assignments := by
  induction assignments generalizing earlier command with
  | nil => rfl
  | cons assignment rest ih =>
      rw [List.forall_mem_cons] at wide
      rcases Option.isSome_iff_exists.mp (encodedValue_isSome wide.1) with ⟨encoded, written⟩
      rw [exceptionMoves, allAccepted, written]
      cases accepted : assignmentAccepted earlier assignment with
      | false => rfl
      | true => exact ih wide.2 _ _

/-- An accepted list is written register by register. -/
theorem applyAssignments_spec {assignments : List RegisterAssignment}
    (wide : ∀ assignment ∈ assignments, assignment.value < 2 ^ 64) (context : ThreadContext)
    (earlier : List RegisterAssignment) :
    (applyAssignments context earlier assignments).1 = allAccepted earlier assignments ∧
    (allAccepted earlier assignments = true → ∀ register : RegisterEnum,
      ((applyAssignments context earlier assignments).2.get register).toNat =
        match assignments.find? (·.name = register.name) with
        | some assignment => assignment.value
        | none => (context.get register).toNat) := by
  induction assignments generalizing context earlier with
  | nil => exact ⟨rfl, fun _ _ => rfl⟩
  | cons assignment rest ih =>
      rw [List.forall_mem_cons] at wide
      rw [applyAssignments, allAccepted]
      cases accepted : assignmentAccepted earlier assignment with
      | false => exact ⟨rfl, fun accepts => nomatch accepts⟩
      | true =>
          rcases ((assignmentAccepted_iff wide.1).mp accepted).1 with ⟨spec, found, fits⟩
          rcases name_of_findWritableRegister found with ⟨named, bits⟩
          rw [bits] at fits
          have written : assignRegister context assignment =
              some (context.set spec.id assignment.value) := by
            have write := assignRegister_name context spec.id assignment.value
            rwa [← named] at write
          rw [if_pos rfl, written, Bool.true_and]
          rcases ih wide.2 (context.set spec.id assignment.value) (earlier ++ [assignment]) with
            ⟨decides, reads⟩
          refine ⟨decides, fun accepts register => ?_⟩
          have later := reads accepts register
          rw [later]
          rcases Decidable.em (register = spec.id) with rfl | different
          · have others := ((allAccepted_iff wide.2 _).mp accepts).2.2
            have fresh : rest.find? (·.name = spec.id.name) = none := by
              rw [List.find?_eq_none]
              intro other member same
              apply others other member
              rw [of_decide_eq_true same, ← named]
              simp
            rw [fresh, List.find?_cons_of_pos (by simp [named])]
            exact ThreadContext.toNat_get_set fits context
          · have unequal : assignment.name ≠ register.name := by
              rw [named]
              exact fun same => different (name_injective same).symm
            rw [List.find?_cons_of_neg (by simp [unequal]),
              ThreadContext.get_set_of_ne different]

theorem applyRegisterAssignments_iff {assignments : List RegisterAssignment}
    (wide : ∀ assignment ∈ assignments, assignment.value < 2 ^ 64) (context : ThreadContext) :
    (applyRegisterAssignments context assignments).1 = true ↔ Assignable assignments := by
  rw [applyRegisterAssignments]
  split_ifs with count
  · refine iff_of_false not_false fun assignable => ?_
    have bounds := assignable.count
    omega
  rw [(applyAssignments_spec wide context []).1, allAccepted_iff wide]
  constructor
  · rintro ⟨known, distinct, -⟩
    exact ⟨by omega, known, distinct⟩
  · rintro ⟨-, known, distinct⟩
    exact ⟨known, distinct, fun _ _ => List.not_mem_nil⟩

theorem buildExceptionContinueCommand_iff {assignments : List RegisterAssignment}
    (wide : ∀ assignment ∈ assignments, assignment.value < 2 ^ 64) (some : assignments ≠ [])
    (handled : Bool) :
    (buildExceptionContinueCommand assignments handled).isSome = true ↔
      Assignable assignments := by
  have positive : 1 ≤ assignments.length := List.length_pos_iff.mpr some
  have built : (buildExceptionContinueCommand assignments handled).isSome =
      (decide (assignments.length ≤ 4) && allAccepted [] assignments) := by
    rw [← exceptionMoves_isSome wide [] "", buildExceptionContinueCommand]
    by_cases few : assignments.length ≤ 4
    · rw [require, if_pos few, decide_eq_true few, Bool.true_and]
      cases exceptionMoves [] "" assignments <;> rfl
    · rw [require, if_neg few, decide_eq_false few]
      rfl
  rw [built, Bool.and_eq_true, decide_eq_true_eq, allAccepted_iff wide]
  constructor
  · rintro ⟨few, known, distinct, -⟩
    exact ⟨⟨positive, few⟩, known, distinct⟩
  · rintro ⟨⟨-, few⟩, known, distinct⟩
    exact ⟨few, known, distinct, fun _ _ => List.not_mem_nil⟩

/-- For values of 64 bits: the assignments are applied exactly where their list has one to
four entries with known names, each once, and values that fit, and the same lists, when
not empty, have a command.  Then every register that can be written reads as assigned, or
as before when it was not. -/
theorem registerAssignments_applied (assignments : List RegisterAssignment)
    (wide : ∀ assignment ∈ assignments, assignment.value < 2 ^ 64) (context : ThreadContext) :
    ((applyRegisterAssignments context assignments).1 = true ↔ Assignable assignments) ∧
    (assignments ≠ [] → ∀ handled,
      (buildExceptionContinueCommand assignments handled).isSome = true ↔
        Assignable assignments) ∧
    ((applyRegisterAssignments context assignments).1 = true → ∀ name,
      (findWritableRegister name).isSome = true →
        (registerValue (coreRegisterContext (applyRegisterAssignments context assignments).2)
          name).map UInt64.toNat =
        match assignments.find? (·.name = name) with
        | some assignment => some assignment.value
        | none => (registerValue (coreRegisterContext context) name).map UInt64.toNat) := by
  refine ⟨applyRegisterAssignments_iff wide context,
    fun some handled => buildExceptionContinueCommand_iff wide some handled, ?_⟩
  intro applied name known
  rcases Option.isSome_iff_exists.mp known with ⟨spec, found⟩
  rw [(name_of_findWritableRegister found).1]
  have assignable := (applyRegisterAssignments_iff wide context).mp applied
  have accepts : allAccepted [] assignments = true :=
    (allAccepted_iff wide []).mpr
      ⟨assignable.known, assignable.distinct, fun _ _ => List.not_mem_nil⟩
  have count := assignable.count
  have reads := (applyAssignments_spec wide context []).2 accepts spec.id
  rw [registerValue_name, registerValue_name, Option.map_some, Option.map_some,
    applyRegisterAssignments, if_neg (by omega), reads]
  cases assignments.find? (·.name = spec.id.name) <;> rfl

/-- Two assignments, and a register beside them. -/
theorem registerAssignments_applied_two :
    (applyRegisterAssignments ⟨0, 0, 0, 0, 0, 0, 0, 0, 7, 0, 0, 0, 0, 0, 0, 0, 0, 2⟩
      [⟨"rax", 2 ^ 64 - 1⟩, ⟨"eflags", 0x246⟩]).1 = true ∧
    (registerValue (coreRegisterContext (applyRegisterAssignments
      ⟨0, 0, 0, 0, 0, 0, 0, 0, 7, 0, 0, 0, 0, 0, 0, 0, 0, 2⟩
      [⟨"rax", 2 ^ 64 - 1⟩, ⟨"eflags", 0x246⟩]).2) "rip").map UInt64.toNat = some 7 := by
  have spec := registerAssignments_applied [⟨"rax", 2 ^ 64 - 1⟩, ⟨"eflags", 0x246⟩]
    (by simp) ⟨0, 0, 0, 0, 0, 0, 0, 0, 7, 0, 0, 0, 0, 0, 0, 0, 0, 2⟩
  have assignable : Assignable [⟨"rax", 2 ^ 64 - 1⟩, ⟨"eflags", 0x246⟩] :=
    ⟨by decide, by simp [findWritableRegister], by decide⟩
  have applied := spec.1.mpr assignable
  exact ⟨applied, spec.2.2 applied "rip" rfl⟩

end X64dbgMcp.Plugin
