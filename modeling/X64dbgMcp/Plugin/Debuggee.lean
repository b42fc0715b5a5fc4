import X64dbgMcp.Plugin.Request
import X64dbgMcp.Plugin.Response

/-!
# The debuggee as one request sees it

A handler that only reads takes a snapshot of the paused debuggee and asks x64dbg for
its modules and its memory.  These answers are parameters, and so are the comparison
of names, the clock and the test that the snapshot is still the current one.
-/

namespace X64dbgMcp.Plugin

open Text

/-- A loaded module. -/
structure ModuleRecord where
  base : Nat
  size : Nat
  name : List UInt8
  deriving DecidableEq

/-- What a native call leaves in a `ListInfo`: nothing when it fails, and something
malformed when the sizes and the pointer do not fit together. -/
inductive NativeList (α : Type) where
  | unavailable
  | malformed
  | listed (values : List α)

/-- `kMaxNativeRecords`: the longest list that is taken from x64dbg. -/
def kMaxNativeRecords : Nat :=
  65536

/-- The tests of the deadline and of the snapshot count from the start of the request.
The search for a text gives the place and the length of what it finds. -/
structure Debuggee where
  snapshot : Option Nat
  debugging : Bool
  modules : NativeList ModuleRecord
  equalsIgnoreCase : List UInt8 → List UInt8 → Bool
  findText : List UInt8 → List UInt8 → Option (Nat × Nat)
  memRead : Nat → (length : Nat) → Option (Vector UInt8 length)
  expired : Nat → Bool
  current : Nat → Bool

/-- An address with the module it lies in. -/
structure ResolvedLocation where
  address : Nat
  module : Option (List UInt8) := none
  moduleBase : Option Nat := none
  rva : Option Nat := none
  deriving DecidableEq

/-- `ErrorResponse` of a request that changed nothing. -/
def failure (code message : String) (retryable : Bool) : ErrorResponse where
  code := code
  message := message
  retryable := retryable
  unknown := false

section

variable (build : Build) (debuggee : Debuggee)

/-- The loaded modules, unless there are too many. -/
def captureModuleRecords : Option (List ModuleRecord) :=
  match debuggee.modules with
  | .listed modules => if kMaxNativeRecords < modules.length then none else some modules
  | _ => none

/-- An empty needle is found everywhere. -/
def utf8OrdinalMatchIgnoreCase (haystack needle : List UInt8) : Option (Nat × Nat) :=
  if needle.isEmpty then some (0, 0) else debuggee.findText haystack needle

/-- A text contains another up to case. -/
def utf8OrdinalContainsIgnoreCase (haystack needle : List UInt8) : Bool :=
  (utf8OrdinalMatchIgnoreCase debuggee haystack needle).isSome

/-- The only module of this name. -/
def uniqueModule (modules : List ModuleRecord) (name : List UInt8) : Option ModuleRecord :=
  match modules.filter fun module => debuggee.equalsIgnoreCase module.name name with
  | [match_] => some match_
  | _ => none

/-- The address lies in the module. -/
def ModuleRecord.contains (module : ModuleRecord) (address : Nat) : Bool :=
  module.base ≤ address && address - module.base < module.size

/-- The address as a place in the module. -/
def ModuleRecord.locate (module : ModuleRecord) (address : Nat) : ResolvedLocation where
  address := address
  module := some module.name
  moduleBase := some module.base
  rva := some (address - module.base)

/-- The location of an address among these modules. -/
def locationFromModules (address : Nat) (modules : List ModuleRecord) : ResolvedLocation :=
  match modules.filter fun module => module.contains address with
  | [match_] => match_.locate address
  | _ => { address := address }

/-- The location that a reference means. -/
def resolveAddress (reference : AddressReference) : Except ErrorResponse ResolvedLocation :=
  if !reference.pointerWidthValid then
    .error (failure "INVALID_ARGUMENT" "address exceeds debugger pointer width" false)
  else
    match reference.kind, debuggee.modules, captureModuleRecords debuggee with
    | .absolute, _, some modules => .ok (locationFromModules reference.absolute modules)
    | .absolute, _, none => .ok { address := reference.absolute }
    | .moduleRva, .unavailable, _ =>
        .error (failure "INTERNAL" "module list is unavailable" true)
    | .moduleRva, _, none => .error (failure "INTERNAL" "module list is invalid" false)
    | .moduleRva, _, some modules =>
        match modules.filter fun module =>
            debuggee.equalsIgnoreCase module.name (utf8 reference.module) with
        | [] => .error (failure "INVALID_ARGUMENT" "module is not loaded" false)
        | [match_] =>
            if match_.size ≤ reference.rva then
              .error (failure "INVALID_ARGUMENT" "rva is outside the module" false)
            else if build.limit - 1 - reference.rva < match_.base then
              .error (failure "INVALID_ARGUMENT" "module-relative address overflows" false)
            else .ok (match_.locate (match_.base + reference.rva))
        | _ => .error (failure "INVALID_ARGUMENT" "module name is ambiguous" false)

end

@[simp]
theorem locationFromModules_address (address : Nat) (modules : List ModuleRecord) :
    (locationFromModules address modules).address = address := by
  rw [locationFromModules]
  split <;> rfl

end X64dbgMcp.Plugin
