import Mathlib.Data.Nat.Basic
import Mathlib.Algebra.GroupWithZero.Nat

/-!
# Backends

The plugin is built for a 32-bit and for a 64-bit debugger.
-/

namespace X64dbgMcp.Plugin

/-- The plugin is built twice. -/
inductive Backend where
  | x32
  | x64

/-- The width of `duint`. -/
def Backend.sizeBits : Backend → Nat
  | .x32 => 32
  | .x64 => 64

/-- Subtraction of `std::size_t`. -/
def Backend.sizeSub (backend : Backend) (left right : Nat) : Nat :=
  (left + 2 ^ backend.sizeBits - right) % 2 ^ backend.sizeBits

/-- `duint` -/
abbrev Duint (backend : Backend) : Type :=
  BitVec backend.sizeBits

theorem Backend.le_sizeBits (backend : Backend) : 32 ≤ backend.sizeBits := by
  cases backend <;> decide

/-- Sixty-four thousand is little in either build. -/
theorem Backend.lt_two_pow {size : Nat} (few : size ≤ 65536) (backend : Backend) :
    size < 2 ^ backend.sizeBits :=
  calc
    size < 2 ^ 32 := by omega
    _ ≤ 2 ^ backend.sizeBits := Nat.pow_le_pow_right (by decide) backend.le_sizeBits

end X64dbgMcp.Plugin
