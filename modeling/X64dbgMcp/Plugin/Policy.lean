import X64dbgMcp.Plugin.Cursor
import X64dbgMcp.Text.JsonWriter

/-!
# Policies that the plugin applies to single arguments

Access modes, exception chances, conditions, patch bytes, search patterns and
launch arguments, as the plugin's policy files read them.
-/

namespace X64dbgMcp.Plugin

open Text

/-- An early return of nothing unless the condition holds. -/
def require (condition : Prop) [Decidable condition] : Option Unit :=
  if condition then some () else none

@[simp]
theorem require_eq_some {condition : Prop} [Decidable condition] {value : Unit} :
    require condition = some value ↔ condition := by
  simp [require]

/-- What a hardware breakpoint watches for. -/
inductive HardwareAccess where
  | execute
  | write
  | readWrite
  deriving DecidableEq

/-- Read the access of a hardware breakpoint. -/
def parseHardwareAccess (value : String) : Option HardwareAccess :=
  if value = "execute" then some .execute
  else if value = "write" then some .write
  else if value = "read_write" then some .readWrite
  else none

/-- What a memory breakpoint watches for. -/
inductive MemoryAccess where
  | access
  | read
  | write
  | execute
  deriving DecidableEq

/-- Read the access of a memory breakpoint. -/
def parseMemoryAccess (value : String) : Option MemoryAccess :=
  if value = "access" then some .access
  else if value = "read" then some .read
  else if value = "write" then some .write
  else if value = "execute" then some .execute
  else none

/-- The chance that an exception is caught at. -/
inductive ExceptionChance where
  | first
  | second
  | both
  deriving DecidableEq

/-- Read the chance of an exception. -/
def parseExceptionChance (value : String) : Option ExceptionChance :=
  if value = "first" then some .first
  else if value = "second" then some .second
  else if value = "both" then some .both
  else none

/-- How predicates are joined. -/
inductive ConditionalMode where
  | all
  | any
  deriving DecidableEq

/-- What a predicate looks at. -/
inductive ConditionalSource where
  | registerValue
  | threadId
  | hitCount
  deriving DecidableEq

/-- How a predicate compares. -/
inductive ConditionalOperator where
  | equal
  | notEqual
  | less
  | lessEqual
  | greater
  | greaterEqual
  | multipleOf
  deriving DecidableEq

/-- A comparison with a number. -/
structure ConditionalPredicate where
  source : ConditionalSource := .hitCount
  operation : ConditionalOperator := .equal
  registerName : String := ""
  value : Nat := 0
  deriving DecidableEq

/-- The condition of a breakpoint. -/
structure ConditionalSpec where
  mode : ConditionalMode := .all
  predicates : List ConditionalPredicate := []
  deriving DecidableEq

/-- Read how a predicate compares. -/
def parseConditionalOperator (value : String) : Option ConditionalOperator :=
  if value = "eq" then some .equal
  else if value = "ne" then some .notEqual
  else if value = "lt" then some .less
  else if value = "le" then some .lessEqual
  else if value = "gt" then some .greater
  else if value = "ge" then some .greaterEqual
  else if value = "multiple_of" then some .multipleOf
  else none

/-- The comparison as it is written. -/
def conditionalOperatorToken : ConditionalOperator → String
  | .equal => "=="
  | .notEqual => "!="
  | .less => "<"
  | .lessEqual => "<="
  | .greater => ">"
  | .greaterEqual => ">="
  | .multipleOf => "%"

/-- A register that a predicate may look at. -/
def portableConditionalRegister (value : String) : Bool :=
  ["cax", "cbx", "ccx", "cdx", "csi", "cdi", "cbp", "csp", "cip"].contains value

/-- A number as it is written. -/
def hexConstant (value : Nat) : String :=
  "0x" ++ String.ofList (Nat.toDigits 16 value)

/-- The operand of a predicate, when its source allows the operator and the value. -/
def conditionalOperand (build : Build) (predicate : ConditionalPredicate) : Option String :=
  match predicate.source with
  | .registerValue =>
      if !portableConditionalRegister predicate.registerName ∨
          predicate.operation = .multipleOf ∨ build.limit ≤ predicate.value then none
      else some predicate.registerName
  | .threadId =>
      if predicate.registerName ≠ "" ∨
          (predicate.operation ≠ .equal ∧ predicate.operation ≠ .notEqual) ∨
          2 ^ 32 ≤ predicate.value then none
      else some "tid()"
  | .hitCount =>
      if predicate.registerName ≠ "" ∨ predicate.value = 0 ∨ 2 ^ 32 ≤ predicate.value then none
      else some "$breakpointcounter"

/-- A predicate as it is written. -/
def conditionalTerm (source : String) (predicate : ConditionalPredicate) : String :=
  let value := hexConstant predicate.value
  if predicate.operation = .multipleOf then "((" ++ source ++ "%" ++ value ++ ")==0)"
  else "(" ++ source ++ conditionalOperatorToken predicate.operation ++ value ++ ")"

/-- The loop over the predicates, with the expression so far; the separator is
written before every predicate but the first. -/
def compilePredicates (build : Build) (mode : ConditionalMode) (first : Bool)
    (expression : String) : List ConditionalPredicate → Option String
  | [] => some expression
  | predicate :: rest => do
      let separated := if first then expression
        else expression ++ (if mode = .all then "&&" else "||")
      let source ← conditionalOperand build predicate
      let extended := separated ++ conditionalTerm source predicate
      require ((utf8 extended).length < build.maxConditionalExprSize)
      compilePredicates build mode false extended rest

/-- A condition as x64dbg reads it. -/
def compileConditionalExpression (build : Build) (condition : ConditionalSpec) : Option String :=
  if condition.predicates.isEmpty ∨ 4 < condition.predicates.length then none
  else compilePredicates build condition.mode true "" condition.predicates

/-- `CanonicalManagedId`; the check is that of `IsUuid`. -/
def canonicalManagedId (value : String) : Bool :=
  isUuid (utf8 value)

/-- The empty name stands for a refusal. -/
def managedBreakpointName (family managedId : String) : String :=
  if (family ≠ "exception" ∧ family ≠ "conditional") ∨ !canonicalManagedId managedId then ""
  else "__x64dbg_mcp_" ++ family ++ "_" ++ managedId

/-- The instruction cannot hold a second command. -/
def safeInstruction (value : String) : Bool :=
  !(utf8 value).isEmpty && (utf8 value).length ≤ 128 &&
    (utf8 value).all fun byte => !(byte < 0x20 || 0x7e < byte || byte == 0x3b)

/-- The loop over pairs of digits; `strict` also refuses upper-case digits. -/
def parseHexPairs (strict : Bool) : List UInt8 → Option (List UInt8)
  | [] => some []
  | [_] => none
  | high :: low :: rest => do
      require (strict → isLowerHex high ∧ isLowerHex low)
      let byte ← fromCharsAll 16 (2 ^ 32) [high, low]
      require (byte ≤ 0xff)
      let bytes ← parseHexPairs strict rest
      pure (UInt8.ofNat byte :: bytes)

/-- Read the bytes of a patch. -/
def parsePatchBytes (value : String) : Option (List UInt8) := do
  require ((utf8 value).length ≠ 0 ∧ (utf8 value).length ≤ 32 ∧ (utf8 value).length % 2 = 0)
  parseHexPairs true (utf8 value)

/-- Bytes to search for, and which of them count. -/
structure MemoryPattern where
  bytes : List UInt8 := []
  exact : List UInt8 := []
  deriving DecidableEq

/-- Read a pattern with its mask. -/
def parseMemoryPattern (patternHex mask : String) : Option MemoryPattern := do
  require ((utf8 patternHex).length ≠ 0 ∧ (utf8 patternHex).length ≤ 128 ∧
    (utf8 patternHex).length % 2 = 0 ∧ (utf8 mask).length = (utf8 patternHex).length / 2 ∧
    (utf8 mask).length ≠ 0 ∧ (utf8 mask).length ≤ 64 ∧ (utf8 mask).contains 0x78 ∧
    (utf8 mask).all fun byte => byte == 0x78 || byte == 0x3f)
  let bytes ← parseHexPairs true (utf8 patternHex)
  pure { bytes := bytes
         exact := (utf8 mask).map fun byte => if byte = 0x78 then 1 else 0 }

/-- The UTF-16 units of a character. -/
def utf16 (character : Char) : List Nat :=
  if character.toNat < 0x10000 then [character.toNat]
  else [0xd800 + (character.toNat - 0x10000) / 0x400, 0xdc00 + (character.toNat - 0x10000) % 0x400]

/-- The most arguments of a launch. -/
def maxLaunchArguments : Nat := 32

/-- The longest argument. -/
def maxLaunchArgumentBytes : Nat := 256

/-- The length of all of them. -/
def maxLaunchArgumentTotalBytes : Nat := 512

/-- A text is decoded to UTF-16 units, and no unit may be a control character. -/
def validLaunchArgumentText (value : String) : Bool :=
  (utf8 value).length ≤ maxLaunchArgumentBytes &&
    (value.toList.flatMap utf16).all fun unit => !(unit ≤ 0x1f || (0x7f ≤ unit && unit ≤ 0x9f))

end X64dbgMcp.Plugin
