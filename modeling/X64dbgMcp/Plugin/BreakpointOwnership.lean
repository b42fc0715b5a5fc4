import X64dbgMcp.Plugin.Policy

/-!
# Whose breakpoint a record is

A breakpoint record of the debugger holds its texts in arrays of a fixed size.  Ownership
is written in the name; a text that fills its array without a terminator is no name.
-/

namespace X64dbgMcp.Plugin

open Text

/-- `BPXTYPE`. -/
inductive BreakpointType where
  | none
  | normal
  | hardware
  | memory
  | dll
  | exception
  deriving DecidableEq

/-- `BRIDGEBP`; an array is the list of its bytes. -/
structure BridgeBreakpoint where
  type : BreakpointType
  addr : Nat
  enabled : Bool
  singleshoot : Bool
  active : Bool
  name : List UInt8
  mod : List UInt8
  slot : Nat
  typeEx : UInt8
  hwSize : UInt8
  hitCount : Nat
  fastResume : Bool
  silent : Bool
  breakCondition : List UInt8
  logText : List UInt8
  logCondition : List UInt8
  commandText : List UInt8
  commandCondition : List UInt8

/-! ## Fields -/

/-- The bytes of a field before its end. -/
def strnlen (field : List UInt8) : Nat :=
  (field.takeWhile (· != 0)).length

/-- A terminated field holds exactly this text. -/
def boundedFieldEquals (field : List UInt8) (expected : String) : Bool :=
  strnlen field < field.length && field.take (strnlen field) == utf8 expected

/-- `field[0] == '\0'` -/
def startsWithNul (field : List UInt8) : Bool :=
  field.getD 0 0 == 0

/-- The breakpoint logs nothing and runs nothing. -/
def emptyActionFields (breakpoint : BridgeBreakpoint) : Bool :=
  startsWithNul breakpoint.logText && startsWithNul breakpoint.logCondition &&
    startsWithNul breakpoint.commandText && startsWithNul breakpoint.commandCondition

/-- Two terminated fields hold the same text. -/
def sameField (left right : List UInt8) : Bool :=
  strnlen left < left.length && strnlen right < right.length &&
    strnlen left == strnlen right && left.take (strnlen left) == right.take (strnlen right)

/-! ## Owners -/

/-- The identifier in the name of a breakpoint of this family. -/
def managedBreakpointId (breakpoint : BridgeBreakpoint) (family : String) :
    Option (List UInt8) :=
  let start := utf8 ("__x64dbg_mcp_" ++ family ++ "_")
  let length := strnlen breakpoint.name
  if breakpoint.name.length ≤ length then none
  else
    let name := breakpoint.name.take length
    if !start.isPrefixOf name then none
    else
      let id := name.drop start.length
      if !isUuid id then none else some id

/-- The debugger's own constants for the chances are a parameter. -/
def exceptionBreakpointOwned (nativeExceptionChance : ExceptionChance → UInt8)
    (breakpoint : BridgeBreakpoint) (code : UInt32) (chance : ExceptionChance)
    (managedId : String) : Bool :=
  let expectedName := managedBreakpointName "exception" managedId
  expectedName != "" && breakpoint.type == .exception && breakpoint.addr == code.toNat &&
    breakpoint.typeEx == nativeExceptionChance chance &&
    boundedFieldEquals breakpoint.name expectedName &&
    startsWithNul breakpoint.breakCondition && emptyActionFields breakpoint

/-- The plugin made the conditional breakpoint under this identifier. -/
def conditionalBreakpointOwned (breakpoint : BridgeBreakpoint) (address : Nat)
    (managedId : String) : Bool :=
  let expectedName := managedBreakpointName "conditional" managedId
  expectedName != "" && breakpoint.type == .normal && breakpoint.addr == address &&
    boundedFieldEquals breakpoint.name expectedName

/-- The name of the breakpoint that an operation runs to. -/
def runToBreakpointName (operationId : String) : String :=
  "__x64dbg_mcp_run_to_" ++ operationId

/-- The breakpoint is the one that an operation made to run to. -/
def runToBreakpointOwned (breakpoint : BridgeBreakpoint) (target : Nat) (expectedName : String) :
    Bool :=
  breakpoint.type == .normal && breakpoint.addr == target && breakpoint.singleshoot &&
    boundedFieldEquals breakpoint.name expectedName

/-- A software breakpoint without anything special about it. -/
def plainSoftwareBreakpointSelectable (breakpoint : BridgeBreakpoint) (address : Nat) : Bool :=
  breakpoint.type == .normal && breakpoint.addr == address && !breakpoint.singleshoot &&
    !breakpoint.fastResume && !breakpoint.silent && startsWithNul breakpoint.breakCondition &&
    emptyActionFields breakpoint && (managedBreakpointId breakpoint "conditional").isNone

/-- Two looks at a breakpoint found it configured alike. -/
def breakpointConfigurationUnchanged (before after : BridgeBreakpoint) (allowSlotChange : Bool) :
    Bool :=
  before.type == after.type && before.addr == after.addr &&
    before.singleshoot == after.singleshoot && before.active == after.active &&
    (allowSlotChange || before.slot == after.slot) && before.typeEx == after.typeEx &&
    before.hwSize == after.hwSize && before.hitCount == after.hitCount &&
    before.fastResume == after.fastResume && before.silent == after.silent &&
    sameField before.name after.name && sameField before.mod after.mod &&
    sameField before.breakCondition after.breakCondition &&
    sameField before.logText after.logText &&
    sameField before.logCondition after.logCondition &&
    sameField before.commandText after.commandText &&
    sameField before.commandCondition after.commandCondition

/-! ## Texts in arrays -/

/-- The text of a field that has a terminator. -/
def fieldText (field : List UInt8) : Option (List UInt8) :=
  if strnlen field < field.length then some (field.take (strnlen field)) else none

theorem boundedFieldEquals_iff (field : List UInt8) (expected : String) :
    boundedFieldEquals field expected = true ↔ fieldText field = some (utf8 expected) := by
  rw [boundedFieldEquals, fieldText, Bool.and_eq_true, decide_eq_true_eq, beq_iff_eq]
  by_cases terminated : strnlen field < field.length <;> simp [terminated]

theorem startsWithNul_iff (field : List UInt8) : startsWithNul field = true ↔ strnlen field = 0 := by
  cases field with
  | nil => exact iff_of_true rfl rfl
  | cons byte rest =>
      by_cases nul : byte = 0 <;> simp [startsWithNul, strnlen, nul]

theorem sameField_spec {left right : List UInt8} (same : sameField left right = true) :
    fieldText left = fieldText right ∧ startsWithNul left = startsWithNul right := by
  simp only [sameField, Bool.and_eq_true, decide_eq_true_eq, beq_iff_eq] at same
  rcases same with ⟨⟨⟨leftEnds, rightEnds⟩, lengths⟩, texts⟩
  rw [fieldText, fieldText, if_pos leftEnds, if_pos rightEnds, texts, Bool.eq_iff_iff,
    startsWithNul_iff, startsWithNul_iff, lengths]
  exact ⟨rfl, Iff.rfl⟩

/-- The id is the end of the name. -/
theorem managedBreakpointId_eq_some (breakpoint : BridgeBreakpoint) (family : String)
    (id : List UInt8) :
    managedBreakpointId breakpoint family = some id ↔
      fieldText breakpoint.name = some (utf8 ("__x64dbg_mcp_" ++ family ++ "_") ++ id) ∧
        isUuid id = true := by
  rw [managedBreakpointId, fieldText]
  by_cases terminated : strnlen breakpoint.name < breakpoint.name.length
  · rw [if_neg (Nat.not_le.mpr terminated), if_pos terminated, Option.some.injEq]
    generalize breakpoint.name.take (strnlen breakpoint.name) = name
    generalize utf8 ("__x64dbg_mcp_" ++ family ++ "_") = start
    dsimp only
    cases begins : start.isPrefixOf name with
    | false =>
        rw [Bool.not_false, if_pos rfl]
        refine iff_of_false (fun found => nomatch found) ?_
        rintro ⟨rfl, -⟩
        rw [List.isPrefixOf_iff_prefix.mpr (List.prefix_append _ _)] at begins
        cases begins
    | true =>
        rcases List.isPrefixOf_iff_prefix.mp begins with ⟨rest, rfl⟩
        rw [Bool.not_true, if_neg Bool.false_ne_true, List.drop_left, List.append_cancel_left_eq]
        cases canonical : isUuid rest with
        | false =>
            rw [Bool.not_false, if_pos rfl]
            refine iff_of_false (fun found => nomatch found) ?_
            rintro ⟨rfl, valid⟩
            rw [canonical] at valid
            cases valid
        | true =>
            rw [Bool.not_true, if_neg Bool.false_ne_true]
            constructor
            · intro found
              cases found
              exact ⟨rfl, canonical⟩
            · rintro ⟨rfl, -⟩
              rfl
  · rw [if_pos (Nat.le_of_not_lt terminated), if_neg terminated]
    exact iff_of_false (fun found => nomatch found) (fun found => nomatch found.1)

/-! ## Names -/

theorem managedBreakpointName_eq {family managedId : String}
    (named : managedBreakpointName family managedId ≠ "") :
    managedBreakpointName family managedId = "__x64dbg_mcp_" ++ family ++ "_" ++ managedId ∧
      isUuid (utf8 managedId) = true := by
  rw [managedBreakpointName] at named ⊢
  split_ifs at named ⊢ with refused
  · exact absurd rfl named
  · simp only [not_or, Bool.not_eq_true', Bool.not_eq_false] at refused
    exact ⟨rfl, refused.2⟩

theorem length_of_isUuid {id : List UInt8} (canonical : isUuid id = true) : id.length = 36 := by
  rw [isUuid, Bool.and_eq_true, beq_iff_eq] at canonical
  exact canonical.1

/-- A canonical name is one of one family and one id. -/
theorem managedName_injective {family other : String} {id otherId : List UInt8}
    (canonical : isUuid id = true) (otherCanonical : isUuid otherId = true)
    (same : utf8 ("__x64dbg_mcp_" ++ family ++ "_") ++ id =
      utf8 ("__x64dbg_mcp_" ++ other ++ "_") ++ otherId) : family = other ∧ id = otherId := by
  have size := length_of_isUuid canonical
  have otherSize := length_of_isUuid otherCanonical
  rcases List.append_inj' same (size.trans otherSize.symm) with ⟨starts, ids⟩
  refine ⟨?_, ids⟩
  rw [utf8_append, utf8_append, utf8_append, utf8_append] at starts
  exact utf8_injective (List.append_cancel_left (List.append_cancel_right starts))

/-- A record with a managed name. -/
theorem fieldText_of_managedName {field : List UInt8} {family managedId : String}
    (named : managedBreakpointName family managedId ≠ "")
    (equals : boundedFieldEquals field (managedBreakpointName family managedId) = true) :
    fieldText field = some (utf8 ("__x64dbg_mcp_" ++ family ++ "_") ++ utf8 managedId) ∧
      isUuid (utf8 managedId) = true := by
  rcases managedBreakpointName_eq named with ⟨name, canonical⟩
  rw [boundedFieldEquals_iff, name, utf8_append] at equals
  exact ⟨equals, canonical⟩

theorem managedBreakpointId_of_managedName {breakpoint : BridgeBreakpoint}
    {family managedId : String} (named : managedBreakpointName family managedId ≠ "")
    (equals :
      boundedFieldEquals breakpoint.name (managedBreakpointName family managedId) = true) :
    managedBreakpointId breakpoint family = some (utf8 managedId) ∧
      ∀ other, other ≠ family → managedBreakpointId breakpoint other = none := by
  have text := fieldText_of_managedName named equals
  refine ⟨(managedBreakpointId_eq_some _ _ _).mpr text, fun other different => ?_⟩
  rw [Option.eq_none_iff_forall_ne_some]
  intro id found
  rcases (managedBreakpointId_eq_some _ _ _).mp found with ⟨otherText, canonical⟩
  rw [text.1, Option.some.injEq] at otherText
  exact different (managedName_injective text.2 canonical otherText).1.symm

theorem managedBreakpointId_of_emptyName {breakpoint : BridgeBreakpoint}
    (equals : boundedFieldEquals breakpoint.name "" = true) (family : String) :
    managedBreakpointId breakpoint family = none := by
  rw [Option.eq_none_iff_forall_ne_some]
  intro id found
  rw [boundedFieldEquals_iff] at equals
  rw [managedBreakpointId_eq_some, equals, Option.some.injEq] at found
  have canonical := length_of_isUuid found.2
  have lengths := congrArg List.length found.1
  rw [List.length_append, canonical] at lengths
  exact absurd lengths (Nat.ne_of_lt (by simp [utf8]))

/-! ## Classes of records -/

theorem conditionalBreakpointOwned_iff (breakpoint : BridgeBreakpoint) (address : Nat)
    (managedId : String) :
    conditionalBreakpointOwned breakpoint address managedId = true ↔
      managedBreakpointName "conditional" managedId ≠ "" ∧ breakpoint.type = .normal ∧
        breakpoint.addr = address ∧ boundedFieldEquals breakpoint.name
          (managedBreakpointName "conditional" managedId) = true := by
  simp only [conditionalBreakpointOwned, Bool.and_eq_true, bne_iff_ne, beq_iff_eq, and_assoc]

theorem exceptionBreakpointOwned_name {nativeExceptionChance : ExceptionChance → UInt8}
    {breakpoint : BridgeBreakpoint} {code : UInt32} {chance : ExceptionChance}
    {managedId : String}
    (owned : exceptionBreakpointOwned nativeExceptionChance breakpoint code chance managedId =
      true) :
    managedBreakpointName "exception" managedId ≠ "" ∧
      boundedFieldEquals breakpoint.name (managedBreakpointName "exception" managedId) = true := by
  simp only [exceptionBreakpointOwned, Bool.and_eq_true, bne_iff_ne, beq_iff_eq, and_assoc]
    at owned
  exact ⟨owned.1, owned.2.2.2.2.1⟩

theorem runToBreakpointOwned_iff (breakpoint : BridgeBreakpoint) (target : Nat)
    (expectedName : String) :
    runToBreakpointOwned breakpoint target expectedName = true ↔
      breakpoint.type = .normal ∧ breakpoint.addr = target ∧ breakpoint.singleshoot = true ∧
        boundedFieldEquals breakpoint.name expectedName = true := by
  simp only [runToBreakpointOwned, Bool.and_eq_true, beq_iff_eq, and_assoc]

theorem not_selectable_of_conditional {breakpoint : BridgeBreakpoint} {address : Nat}
    {managedId : String} (owned : conditionalBreakpointOwned breakpoint address managedId = true)
    (other : Nat) : plainSoftwareBreakpointSelectable breakpoint other = false := by
  rcases (conditionalBreakpointOwned_iff _ _ _).mp owned with ⟨named, -, -, equals⟩
  rw [plainSoftwareBreakpointSelectable, (managedBreakpointId_of_managedName named equals).1]
  exact Bool.and_false _

theorem not_selectable_of_runTo {breakpoint : BridgeBreakpoint} {target : Nat}
    {expectedName : String} (owned : runToBreakpointOwned breakpoint target expectedName = true)
    (address : Nat) : plainSoftwareBreakpointSelectable breakpoint address = false := by
  rcases (runToBreakpointOwned_iff _ _ _).mp owned with ⟨-, -, singleshoot, -⟩
  simp [plainSoftwareBreakpointSelectable, singleshoot]

theorem utf8_runToBreakpointName (operationId : String) :
    utf8 (runToBreakpointName operationId) = utf8 "__x64dbg_mcp_run_to_" ++ utf8 operationId :=
  utf8_append _ _

/-- The two names differ behind their common beginning. -/
theorem conditional_ne_runTo {field : List UInt8} {managedId operationId : String}
    (named : managedBreakpointName "conditional" managedId ≠ "")
    (conditional :
      boundedFieldEquals field (managedBreakpointName "conditional" managedId) = true) :
    boundedFieldEquals field (runToBreakpointName operationId) = false := by
  rw [Bool.eq_false_iff]
  intro runTo
  rw [boundedFieldEquals_iff, utf8_runToBreakpointName,
    (fieldText_of_managedName named conditional).1, Option.some.injEq] at runTo
  have family := congrArg (·[13]?) runTo
  rw [List.getElem?_append_left (by decide +kernel), List.getElem?_append_left (by decide +kernel)]
    at family
  exact absurd family (by decide +kernel)

/-- A name is the name of one id. -/
theorem managedId_unique {field : List UInt8} {family managedId otherId : String}
    (named : managedBreakpointName family managedId ≠ "")
    (otherNamed : managedBreakpointName family otherId ≠ "")
    (equals : boundedFieldEquals field (managedBreakpointName family managedId) = true)
    (otherEquals : boundedFieldEquals field (managedBreakpointName family otherId) = true) :
    managedId = otherId := by
  have text := fieldText_of_managedName named equals
  have otherText := fieldText_of_managedName otherNamed otherEquals
  rw [text.1, Option.some.injEq] at otherText
  exact utf8_injective (managedName_injective text.2 otherText.2 otherText.1).2

theorem operationId_unique {field : List UInt8} {operationId otherId : String}
    (equals : boundedFieldEquals field (runToBreakpointName operationId) = true)
    (otherEquals : boundedFieldEquals field (runToBreakpointName otherId) = true) :
    operationId = otherId := by
  rw [boundedFieldEquals_iff, utf8_runToBreakpointName] at equals otherEquals
  rw [equals, Option.some.injEq] at otherEquals
  exact utf8_injective (List.append_cancel_left otherEquals)

/-! ## A configuration that stays -/

/-- What the classes read of a record. -/
structure SameClasses (before after : BridgeBreakpoint) : Prop where
  type : before.type = after.type
  addr : before.addr = after.addr
  singleshoot : before.singleshoot = after.singleshoot
  typeEx : before.typeEx = after.typeEx
  fastResume : before.fastResume = after.fastResume
  silent : before.silent = after.silent
  name : fieldText before.name = fieldText after.name
  breakCondition : startsWithNul before.breakCondition = startsWithNul after.breakCondition
  actions : emptyActionFields before = emptyActionFields after

theorem sameClasses_of_unchanged {before after : BridgeBreakpoint} {allowSlotChange : Bool}
    (unchanged : breakpointConfigurationUnchanged before after allowSlotChange = true) :
    SameClasses before after := by
  simp only [breakpointConfigurationUnchanged, Bool.and_eq_true, beq_iff_eq, and_assoc]
    at unchanged
  rcases unchanged with ⟨type, addr, singleshoot, -, -, typeEx, -, -, fastResume, silent, name, -,
    breakCondition, logText, logCondition, commandText, commandCondition⟩
  refine ⟨type, addr, singleshoot, typeEx, fastResume, silent, (sameField_spec name).1,
    (sameField_spec breakCondition).2, ?_⟩
  rw [emptyActionFields, emptyActionFields, (sameField_spec logText).2,
    (sameField_spec logCondition).2, (sameField_spec commandText).2,
    (sameField_spec commandCondition).2]

namespace SameClasses

variable {before after : BridgeBreakpoint}

theorem boundedFieldEquals (same : SameClasses before after) (expected : String) :
    Plugin.boundedFieldEquals before.name expected =
      Plugin.boundedFieldEquals after.name expected := by
  rw [Bool.eq_iff_iff, boundedFieldEquals_iff, boundedFieldEquals_iff, same.name]

theorem managedBreakpointId (same : SameClasses before after) (family : String) :
    Plugin.managedBreakpointId before family = Plugin.managedBreakpointId after family := by
  apply Option.ext
  intro id
  rw [managedBreakpointId_eq_some, managedBreakpointId_eq_some, same.name]

theorem exceptionBreakpointOwned (same : SameClasses before after)
    (nativeExceptionChance : ExceptionChance → UInt8) (code : UInt32) (chance : ExceptionChance) (managedId : String) :
    Plugin.exceptionBreakpointOwned nativeExceptionChance before code chance managedId =
      Plugin.exceptionBreakpointOwned nativeExceptionChance after code chance managedId := by
  simp only [Plugin.exceptionBreakpointOwned, same.type, same.addr, same.typeEx,
    same.boundedFieldEquals, same.breakCondition, same.actions]

theorem conditionalBreakpointOwned (same : SameClasses before after) (address : Nat)
    (managedId : String) :
    Plugin.conditionalBreakpointOwned before address managedId =
      Plugin.conditionalBreakpointOwned after address managedId := by
  simp only [Plugin.conditionalBreakpointOwned, same.type, same.addr, same.boundedFieldEquals]

theorem runToBreakpointOwned (same : SameClasses before after) (target : Nat)
    (expectedName : String) :
    Plugin.runToBreakpointOwned before target expectedName =
      Plugin.runToBreakpointOwned after target expectedName := by
  simp only [Plugin.runToBreakpointOwned, same.type, same.addr, same.singleshoot,
    same.boundedFieldEquals]

theorem plainSoftwareBreakpointSelectable (same : SameClasses before after) (address : Nat) :
    Plugin.plainSoftwareBreakpointSelectable before address =
      Plugin.plainSoftwareBreakpointSelectable after address := by
  simp only [Plugin.plainSoftwareBreakpointSelectable, same.type, same.addr, same.singleshoot,
    same.fastResume, same.silent, same.breakCondition, same.actions, same.managedBreakpointId]

end SameClasses

/-- For every record, whatever its arrays hold, and all ids and addresses: a managed name
gives its id for its own family only, and a refused name none; what is owned for a
condition or a run is no breakpoint that can be selected; the two do not meet; in every
family a record has one owner at most; and a record whose configuration is unchanged stays
in its classes. -/
theorem breakpointClasses_apart (nativeExceptionChance : ExceptionChance → UInt8) :
    (∀ (breakpoint : BridgeBreakpoint) (family managedId : String),
      boundedFieldEquals breakpoint.name (managedBreakpointName family managedId) = true →
        if managedBreakpointName family managedId = "" then
          ∀ other, managedBreakpointId breakpoint other = none
        else
          managedBreakpointId breakpoint family = some (utf8 managedId) ∧
            ∀ other, other ≠ family → managedBreakpointId breakpoint other = none) ∧
    (∀ (breakpoint : BridgeBreakpoint) (address other : Nat) (id : String),
      conditionalBreakpointOwned breakpoint address id = true ∨
        runToBreakpointOwned breakpoint address id = true →
          plainSoftwareBreakpointSelectable breakpoint other = false) ∧
    (∀ (breakpoint : BridgeBreakpoint) (address target : Nat) (managedId operationId : String),
      ¬ (conditionalBreakpointOwned breakpoint address managedId = true ∧
        runToBreakpointOwned breakpoint target (runToBreakpointName operationId) = true)) ∧
    (∀ (breakpoint : BridgeBreakpoint) (managedId otherId : String),
      (∀ code chance otherCode otherChance,
        exceptionBreakpointOwned nativeExceptionChance breakpoint code chance managedId = true →
        exceptionBreakpointOwned nativeExceptionChance breakpoint otherCode otherChance otherId =
          true → managedId = otherId) ∧
      (∀ address other, conditionalBreakpointOwned breakpoint address managedId = true →
        conditionalBreakpointOwned breakpoint other otherId = true → managedId = otherId) ∧
      ∀ target other, runToBreakpointOwned breakpoint target (runToBreakpointName managedId) =
          true →
        runToBreakpointOwned breakpoint other (runToBreakpointName otherId) = true →
          managedId = otherId) ∧
    ∀ (before after : BridgeBreakpoint) (allowSlotChange : Bool),
      breakpointConfigurationUnchanged before after allowSlotChange = true →
      (∀ family, managedBreakpointId before family = managedBreakpointId after family) ∧
      (∀ code chance managedId,
        exceptionBreakpointOwned nativeExceptionChance before code chance managedId =
          exceptionBreakpointOwned nativeExceptionChance after code chance managedId) ∧
      (∀ address managedId, conditionalBreakpointOwned before address managedId =
        conditionalBreakpointOwned after address managedId) ∧
      (∀ target expectedName, runToBreakpointOwned before target expectedName =
        runToBreakpointOwned after target expectedName) ∧
      ∀ address, plainSoftwareBreakpointSelectable before address =
        plainSoftwareBreakpointSelectable after address := by
  refine ⟨?names, ?selectable, ?apart, ?owners, ?unchanged⟩
  case names =>
    intro breakpoint family managedId equals
    split_ifs with refused
    · rw [refused] at equals
      exact managedBreakpointId_of_emptyName equals
    · exact managedBreakpointId_of_managedName refused equals
  case selectable =>
    rintro breakpoint address other id (conditional | runTo)
    · exact not_selectable_of_conditional conditional other
    · exact not_selectable_of_runTo runTo other
  case apart =>
    rintro breakpoint address target managedId operationId ⟨conditional, runTo⟩
    rcases (conditionalBreakpointOwned_iff _ _ _).mp conditional with ⟨named, -, -, equals⟩
    rcases (runToBreakpointOwned_iff _ _ _).mp runTo with ⟨-, -, -, runToEquals⟩
    rw [conditional_ne_runTo named equals] at runToEquals
    cases runToEquals
  case owners =>
    intro breakpoint managedId otherId
    refine ⟨?_, ?_, ?_⟩
    · intro code chance otherCode otherChance owned otherOwned
      rcases exceptionBreakpointOwned_name owned with ⟨named, equals⟩
      rcases exceptionBreakpointOwned_name otherOwned with ⟨otherNamed, otherEquals⟩
      exact managedId_unique named otherNamed equals otherEquals
    · intro address other owned otherOwned
      rcases (conditionalBreakpointOwned_iff _ _ _).mp owned with ⟨named, -, -, equals⟩
      rcases (conditionalBreakpointOwned_iff _ _ _).mp otherOwned with
        ⟨otherNamed, -, -, otherEquals⟩
      exact managedId_unique named otherNamed equals otherEquals
    · intro target other owned otherOwned
      exact operationId_unique ((runToBreakpointOwned_iff _ _ _).mp owned).2.2.2
        ((runToBreakpointOwned_iff _ _ _).mp otherOwned).2.2.2
  case unchanged =>
    intro before after allowSlotChange unchanged
    have same := sameClasses_of_unchanged unchanged
    exact ⟨same.managedBreakpointId, same.exceptionBreakpointOwned nativeExceptionChance,
      same.conditionalBreakpointOwned, same.runToBreakpointOwned,
      same.plainSoftwareBreakpointSelectable⟩

/-- A record with a conditional name in an array of 64 bytes. -/
def conditionalRecord : BridgeBreakpoint where
  type := .normal
  addr := 0x1234
  enabled := true
  singleshoot := false
  active := true
  name := utf8 "__x64dbg_mcp_conditional_01234567-89ab-4cde-8fab-0123456789ab" ++ [0, 0, 0]
  mod := [0]
  slot := 0
  typeEx := 0
  hwSize := 0
  hitCount := 0
  fastResume := true
  silent := false
  breakCondition := [0]
  logText := [0]
  logCondition := [0]
  commandText := [0]
  commandCondition := [0]

theorem breakpointClasses_apart_conditional :
    conditionalBreakpointOwned conditionalRecord 0x1234
      "01234567-89ab-4cde-8fab-0123456789ab" = true ∧
    plainSoftwareBreakpointSelectable conditionalRecord 0x1234 = false := by
  have owned : conditionalBreakpointOwned conditionalRecord 0x1234
      "01234567-89ab-4cde-8fab-0123456789ab" = true := by
    decide +kernel
  exact ⟨owned, (breakpointClasses_apart fun _ => 0).2.1 conditionalRecord 0x1234 0x1234 _
    (.inl owned)⟩

end X64dbgMcp.Plugin
