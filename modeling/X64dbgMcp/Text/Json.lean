import Mathlib.Data.List.Basic

/-!
# JSON values

The value type of the sidecar.  Objects are association lists whose keys are
meant to be distinct; lookups take the first occurrence.  Integers keep the two
machine ranges of the sidecar's number type, and a fractional number is only its
bit pattern.
-/

namespace X64dbgMcp.Text

/-- A number of JSON. -/
inductive Number where
  | posInt (value : UInt64)
  | negInt (value : Int64)
  | float (bits : UInt64)
  deriving DecidableEq

/-- A value of JSON. -/
inductive Json where
  | null
  | bool (value : Bool)
  | number (value : Number)
  | string (value : String)
  | array (items : List Json)
  | object (fields : List (String × Json))

namespace Json

instance : Inhabited Json := ⟨.null⟩

/-- The fields of an object. -/
def asObject : Json → Option (List (String × Json))
  | .object fields => some fields
  | _ => none

/-- The items of an array. -/
def asArray : Json → Option (List Json)
  | .array items => some items
  | _ => none

/-- The text of a string. -/
def asStr : Json → Option String
  | .string value => some value
  | _ => none

/-- The value of a boolean. -/
def asBool : Json → Option Bool
  | .bool value => some value
  | _ => none

/-- The value of a number that is not negative. -/
def asU64 : Json → Option UInt64
  | .number (.posInt value) => some value
  | _ => none

/-- The field of an object. -/
def get (value : Json) (key : String) : Option Json :=
  value.asObject.bind fun fields => fields.lookup key

/-- Indexing: a missing field reads as null. -/
def index (value : Json) (key : String) : Json :=
  (value.get key).getD .null

@[simp]
theorem get_object (fields : List (String × Json)) (key : String) :
    (object fields).get key = fields.lookup key :=
  rfl

end Json

end X64dbgMcp.Text
