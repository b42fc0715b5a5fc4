import X64dbgMcp.Text.Json
import X64dbgMcp.Text.Numeral

/-!
# Writing JSON

The compact writer of the sidecar, its length, and the properties of a value that
decide whether the plugin's reader takes what was written.  The text of a
fractional number is a parameter.
-/

namespace X64dbgMcp.Text

/-- One lower-case hexadecimal digit. -/
def hexDigit (value : UInt8) : UInt8 :=
  if value < 10 then 0x30 + value else 0x57 + value

/-- A byte of a text between the quotes. -/
def escapeByte (byte : UInt8) : List UInt8 :=
  if byte = 0x22 then [0x5c, 0x22]
  else if byte = 0x5c then [0x5c, 0x5c]
  else if byte = 0x08 then [0x5c, 0x62]
  else if byte = 0x0c then [0x5c, 0x66]
  else if byte = 0x0a then [0x5c, 0x6e]
  else if byte = 0x0d then [0x5c, 0x72]
  else if byte = 0x09 then [0x5c, 0x74]
  else if byte < 0x20 then [0x5c, 0x75, 0x30, 0x30, hexDigit (byte / 16), hexDigit (byte % 16)]
  else [byte]

/-- A string as it is written. -/
def writeString (text : String) : List UInt8 :=
  [0x22] ++ (utf8 text).flatMap escapeByte ++ [0x22]

theorem length_writeString_le (text : String) :
    (writeString text).length ≤ 6 * (utf8 text).length + 2 := by
  have each : ∀ byte, (escapeByte byte).length ≤ 6 := by
    intro byte
    unfold escapeByte
    split_ifs <;> simp
  have body : ∀ bytes : List UInt8, (bytes.flatMap escapeByte).length ≤ 6 * bytes.length := by
    intro bytes
    induction bytes with
    | nil => simp
    | cons byte rest ih =>
        have head := each byte
        rw [List.flatMap_cons, List.length_append, List.length_cons]
        omega
  have bounded := body (utf8 text)
  simp only [writeString, List.length_append, List.length_singleton]
  omega

namespace Json

section Writer

variable (floatText : UInt64 → List UInt8)

/-- A number as it is written. -/
def writeNumber : Number → List UInt8
  | .posInt value => decimal value.toNat
  | .negInt value => 0x2d :: decimal value.toInt.natAbs
  | .float bits => floatText bits

/-- The separator before an element that is not the first. -/
def separator (first : Bool) : List UInt8 :=
  if first then [] else [0x2c]

mutual

/-- A value as it is written. -/
def write : Json → List UInt8
  | .null => utf8 "null"
  | .bool value => utf8 (if value then "true" else "false")
  | .number value => writeNumber floatText value
  | .string value => writeString value
  | .array items => [0x5b] ++ writeItems true items ++ [0x5d]
  | .object fields => [0x7b] ++ writeFields true fields ++ [0x7d]

/-- The items of an array as they are written. -/
def writeItems (first : Bool) : List Json → List UInt8
  | [] => []
  | item :: rest => separator first ++ write item ++ writeItems false rest

/-- The fields of an object as they are written. -/
def writeFields (first : Bool) : List (String × Json) → List UInt8
  | [] => []
  | (key, value) :: rest =>
      separator first ++ writeString key ++ [0x3a] ++ write value ++ writeFields false rest

end

theorem length_separator_le (first : Bool) : (separator first).length ≤ 1 := by
  cases first <;> simp [separator]

theorem length_writeItems_le (first : Bool) (items : List Json) :
    (writeItems floatText first items).length ≤
      (items.map fun item => (write floatText item).length + 1).sum := by
  induction items generalizing first with
  | nil => simp [writeItems]
  | cons item rest ih =>
      have before := length_separator_le first
      have after := ih false
      simp only [writeItems, List.length_append, List.map_cons, List.sum_cons]
      omega

theorem length_writeFields_le (first : Bool) (fields : List (String × Json)) :
    (writeFields floatText first fields).length ≤
      (fields.map fun field =>
        6 * (utf8 field.1).length + (write floatText field.2).length + 4).sum := by
  induction fields generalizing first with
  | nil => simp [writeFields]
  | cons field rest ih =>
      have before := length_separator_le first
      have name := length_writeString_le field.1
      have after := ih false
      simp only [writeFields, List.length_append, List.map_cons, List.sum_cons,
        List.length_singleton]
      omega

end Writer

section Every

variable (text : String → Bool) (number : Number → Bool) (keys : List String → Bool)

mutual

/-- A condition on all the texts, numbers and lists of keys of a value. -/
def every : Json → Bool
  | .null | .bool _ => true
  | .number value => number value
  | .string value => text value
  | .array items => everyItem items
  | .object fields => keys (fields.map Prod.fst) && everyField fields

/-- So does every item. -/
def everyItem : List Json → Bool
  | [] => true
  | item :: rest => every item && everyItem rest

/-- So does every field. -/
def everyField : List (String × Json) → Bool
  | [] => true
  | (_, value) :: rest => every value && everyField rest

end

variable {text number keys}

theorem every_array {items : List Json} :
    every text number keys (.array items) = true ↔
      ∀ item ∈ items, every text number keys item = true := by
  rw [every]
  induction items with
  | nil => simp [everyItem]
  | cons item rest ih => simp [everyItem, ih]

theorem everyField_iff {fields : List (String × Json)} :
    everyField text number keys fields = true ↔
      ∀ field ∈ fields, every text number keys field.2 = true := by
  induction fields with
  | nil => simp [everyField]
  | cons field rest ih => simp [everyField, ih]

theorem every_object {fields : List (String × Json)} :
    every text number keys (.object fields) = true ↔
      keys (fields.map Prod.fst) = true ∧
        ∀ field ∈ fields, every text number keys field.2 = true := by
  rw [every, Bool.and_eq_true, everyField_iff]

end Every

/-- No text and no key contains U+0000. -/
def nulFree : Json → Bool :=
  every (fun value => !value.toList.contains '\x00') (fun _ => true)
    (fun keys => keys.all fun key => !key.toList.contains '\x00')

/-- The keys of every object are distinct, as the sidecar's map type has them. -/
def distinct : Json → Bool :=
  every (fun _ => true) (fun _ => true) (fun keys => decide keys.Nodup)

/-- The integers fit the reader's signed 64-bit type. -/
def fits : Json → Bool :=
  every (fun _ => true)
    (fun
      | .posInt value => value.toNat < 2 ^ 63
      | _ => true)
    (fun _ => true)

mutual

/-- How deep values are nested; a scalar is one deep. -/
def depth : Json → Nat
  | .array items => depthItems items + 1
  | .object fields => depthFields fields + 1
  | _ => 1

/-- The depth of the items. -/
def depthItems : List Json → Nat
  | [] => 0
  | item :: rest => max (depth item) (depthItems rest)

/-- The depth of the fields. -/
def depthFields : List (String × Json) → Nat
  | [] => 0
  | (_, value) :: rest => max (depth value) (depthFields rest)

end

theorem depthFields_le {bound : Nat} {fields : List (String × Json)} :
    depthFields fields ≤ bound ↔ ∀ field ∈ fields, field.2.depth ≤ bound := by
  induction fields with
  | nil => simp [depthFields]
  | cons field rest ih => simp [depthFields, ih]

section Within

variable {floatText : UInt64 → List UInt8} {bound : Nat}

/-- A value that is written in at most `bound` bytes and whose integers fit. -/
structure Within (floatText : UInt64 → List UInt8) (bound : Nat) (value : Json) : Prop where
  short : (write floatText value).length ≤ bound
  integers : value.fits = true

namespace Within

theorem mono {value : Json} {larger : Nat} (within : Within floatText bound value)
    (le : bound ≤ larger) : Within floatText larger value :=
  ⟨le_trans within.short le, within.integers⟩

theorem bool {flag : Bool} (room : 5 ≤ bound) : Within floatText bound (.bool flag) := by
  refine ⟨le_trans ?_ room, rfl⟩
  cases flag
  · exact le_of_eq rfl
  · exact Nat.le_succ 4

theorem integer {number : UInt64} (small : number.toNat < 2 ^ 63) (room : 20 ≤ bound) :
    Within floatText bound (.number (.posInt number)) := by
  refine ⟨le_trans (length_decimal_le (number.toNat_lt)) room, ?_⟩
  simpa [fits, every] using small

theorem string {text : String} (room : 6 * (utf8 text).length + 2 ≤ bound) :
    Within floatText bound (.string text) :=
  ⟨le_trans (length_writeString_le text) room, rfl⟩

/-- A list of texts of bounded number and total length. -/
theorem strings {texts : List String} (total : Nat)
    (few : (texts.map fun text => (utf8 text).length).sum ≤ total)
    (room : 6 * total + 3 * texts.length + 2 ≤ bound) :
    Within floatText bound (.array (texts.map .string)) := by
  constructor
  · have items := length_writeItems_le floatText true (texts.map .string)
    have each : ∀ texts : List String,
        ((texts.map Json.string).map fun item => (write floatText item).length + 1).sum ≤
          6 * (texts.map fun text => (utf8 text).length).sum + 3 * texts.length := by
      intro texts
      induction texts with
      | nil => simp
      | cons text rest ih =>
          have head := length_writeString_le text
          simp only [List.map_cons, List.sum_cons, List.length_cons, write] at ih ⊢
          omega
    have summed := each texts
    simp only [write, List.length_append, List.length_singleton]
    omega
  · rw [fits, every_array]
    intro item member
    obtain ⟨text, _, rfl⟩ := List.mem_map.mp member
    rfl

/-- Items of one bound. -/
theorem array {items : List Json} (each : Nat)
    (within : ∀ item ∈ items, Within floatText each item)
    (room : items.length * (each + 1) + 2 ≤ bound) : Within floatText bound (.array items) := by
  constructor
  · have written := length_writeItems_le floatText true items
    have total := List.sum_le_card_nsmul
      (items.map fun item => (write floatText item).length + 1) (each + 1)
      (by
        rw [List.forall_mem_map]
        intro item member
        exact Nat.succ_le_succ (within item member).short)
    simp only [List.length_map, nsmul_eq_mul, Nat.cast_id] at total
    simp only [write, List.length_append, List.length_singleton]
    omega
  · rw [fits, every_array]
    exact fun item member => (within item member).integers

/-- Fields of one bound, with short keys. -/
theorem object {fields : List (String × Json)} (key each : Nat)
    (keys : ∀ field ∈ fields, (utf8 field.1).length ≤ key)
    (within : ∀ field ∈ fields, Within floatText each field.2)
    (room : fields.length * (6 * key + each + 4) + 2 ≤ bound) :
    Within floatText bound (.object fields) := by
  constructor
  · have written := length_writeFields_le floatText true fields
    have total := List.sum_le_card_nsmul
      (fields.map fun field => 6 * (utf8 field.1).length + (write floatText field.2).length + 4)
      (6 * key + each + 4)
      (by
        rw [List.forall_mem_map]
        intro field member
        have name := keys field member
        have value := (within field member).short
        omega)
    simp only [List.length_map, nsmul_eq_mul, Nat.cast_id] at total
    simp only [write, List.length_append, List.length_singleton]
    omega
  · rw [fits, every_object]
    exact ⟨rfl, fun field member => (within field member).integers⟩

end Within

end Within

end Json

end X64dbgMcp.Text
