import X64dbgMcp.Text.Json
import X64dbgMcp.Text.Replace
import X64dbgMcp.Text.Utf8

/-!
# Credentials in audit records

`AuditLog::scrub` replaces the configured secrets in every text of a record, and the
whole value behind a key that names a credential.  The keys themselves are kept as they
are.
-/

namespace X64dbgMcp.Audit

open Text

/-- What stands in place of a secret. -/
def redacted : String := "[REDACTED]"

/-- Lower case of the ASCII letters; other characters stay. -/
def toAsciiLowercase (text : String) : String :=
  String.ofList (text.toList.map Char.toLower)

/-- The keys whose values are never written. -/
def isCredentialKey (key : String) : Bool :=
  ["authorization", "bearer_token", "nonce", "ipc_nonce"].contains (toAsciiLowercase key)

/-- `str::replace` of a nonempty text. -/
def replaceText (text pattern replacement : String) : String :=
  String.ofList (replace pattern.toList replacement.toList text.toList)

/-- A text with every secret replaced, one after the other. -/
def scrubText (secrets : List String) (text : String) : String :=
  secrets.foldl (fun text secret =>
    if secret.isEmpty then text else replaceText text secret redacted) text

section Scrub

variable (secrets : List String)

mutual

/-- The record as it is written: `scrub` over every value. -/
def scrub : Json → Json
  | .string text => .string (scrubText secrets text)
  | .array values => .array (scrubItems values)
  | .object values => .object (scrubFields values)
  | .null => .null
  | .bool value => .bool value
  | .number value => .number value

/-- `scrub` over the items of an array. -/
def scrubItems : List Json → List Json
  | [] => []
  | value :: rest => scrub value :: scrubItems rest

/-- `scrub` over the fields of an object, where credentials are left out. -/
def scrubFields : List (String × Json) → List (String × Json)
  | [] => []
  | (key, value) :: rest =>
      (key, if isCredentialKey key then .string redacted else scrub value) :: scrubFields rest

end

attribute [grind =] scrub scrubItems scrubFields

end Scrub

/-! ## What redaction is for -/

/-- A secret as the configuration has them. -/
structure Secret (secret : String) : Prop where
  long : 32 ≤ (utf8 secret).length
  bracketFree : '[' ∉ secret.toList ∧ ']' ∉ secret.toList

/-- A text without any of the secrets. -/
def Free (secrets : List String) (text : String) : Prop :=
  ∀ secret ∈ secrets, ¬ secret.toList <:+: text.toList

/-- A value is a part of itself and of everything that holds it. -/
inductive Part (part : Json) : Json → Prop where
  | self : Part part part
  | item {items : List Json} {item : Json} (member : item ∈ items) (inside : Part part item) :
      Part part (.array items)
  | field {fields : List (String × Json)} {key : String} {value : Json}
      (member : (key, value) ∈ fields) (inside : Part part value) : Part part (.object fields)

/-- The parts that are not behind a key that names a credential. -/
inductive Exposed (part : Json) : Json → Prop where
  | self : Exposed part part
  | item {items : List Json} {item : Json} (member : item ∈ items) (inside : Exposed part item) :
      Exposed part (.array items)
  | field {fields : List (String × Json)} {key : String} {value : Json}
      (member : (key, value) ∈ fields) (ordinary : isCredentialKey key = false)
      (inside : Exposed part value) : Exposed part (.object fields)

section Redacts

variable (secrets : List String)

mutual

/-- Two records that differ in replaced places of texts and replaced values only. -/
inductive Redacts : Json → Json → Prop where
  | null : Redacts .null .null
  | bool (value : Bool) : Redacts (.bool value) (.bool value)
  | number (value : Number) : Redacts (.number value) (.number value)
  | string {text result : String} (places : Substituted (secrets.map String.toList)
      redacted.toList text.toList result.toList) : Redacts (.string text) (.string result)
  | array {items results : List Json} (each : RedactsItems items results) :
      Redacts (.array items) (.array results)
  | object {fields results : List (String × Json)} (each : RedactsFields fields results) :
      Redacts (.object fields) (.object results)

/-- Redaction, item by item. -/
inductive RedactsItems : List Json → List Json → Prop where
  | nil : RedactsItems [] []
  | cons {item result : Json} {items results : List Json} (head : Redacts item result)
      (tail : RedactsItems items results) : RedactsItems (item :: items) (result :: results)

/-- Redaction, field by field. -/
inductive RedactsFields : List (String × Json) → List (String × Json) → Prop where
  | nil : RedactsFields [] []
  | credential {key : String} {value : Json} {fields results : List (String × Json)}
      (named : isCredentialKey key = true) (tail : RedactsFields fields results) :
      RedactsFields ((key, value) :: fields) ((key, .string redacted) :: results)
  | field {key : String} {value result : Json} {fields results : List (String × Json)}
      (ordinary : isCredentialKey key = false) (head : Redacts value result)
      (tail : RedactsFields fields results) :
      RedactsFields ((key, value) :: fields) ((key, result) :: results)

end

end Redacts

/-- No text and no key has a secret, every credential is replaced, and the rest is kept. -/
structure RedactionComplete (secrets : List String) (record scrubbed : Json) : Prop where
  texts : ∀ text, Part (.string text) scrubbed → Free secrets text
  keys : ∀ fields, Part (.object fields) scrubbed → ∀ field ∈ fields, Free secrets field.1
  credentials : ∀ fields, Part (.object fields) scrubbed → ∀ field ∈ fields,
    isCredentialKey field.1 = true → field.2 = .string redacted
  kept : Redacts secrets record scrubbed

/-! ## Texts -/

/-- Between the brackets there is no room for a secret. -/
theorem Secret.separates {secret : String} (valid : Secret secret) :
    Separates redacted.toList secret.toList := by
  have shape : redacted.toList = '[' :: "REDACTED".toList ++ [']'] := by decide
  rw [shape]
  apply separates_enclosed valid.bracketFree.1 valid.bracketFree.2
  rintro ⟨front, back, inside⟩
  have bytes := congrArg (fun text => (text.flatMap String.utf8EncodeChar).length) inside
  have total : (("REDACTED".toList).flatMap String.utf8EncodeChar).length = 8 := by decide
  simp only [List.flatMap_append, List.length_append, total] at bytes
  have long : 32 ≤ (secret.toList.flatMap String.utf8EncodeChar).length := valid.long
  omega

theorem Secret.nonempty {secret : String} (valid : Secret secret) : secret.toList ≠ [] := by
  intro empty
  have long := valid.long
  rw [utf8, empty] at long
  contradiction

/-- The marker has no secret. -/
theorem free_redacted {secrets : List String} (valid : ∀ secret ∈ secrets, Secret secret) :
    Free secrets redacted := by
  intro secret member inside
  have separated : secret.toList <:+: [] ∨ secret.toList <:+: [] :=
    (valid secret member).separates.inside (by simpa using inside)
  have empty : secret.toList = [] := by simpa using separated
  exact (valid secret member).nonempty empty

theorem scrubText_cons {secret : String} (valid : Secret secret) (rest : List String)
    (text : String) :
    scrubText (secret :: rest) text = scrubText rest (replaceText text secret redacted) := by
  have present : secret.isEmpty = false := by
    rw [Bool.eq_false_iff]
    intro empty
    exact valid.nonempty (by rw [String.isEmpty_iff.mp empty]; rfl)
  rw [scrubText, List.foldl_cons, if_neg (by rw [present]; exact Bool.false_ne_true)]
  rfl

theorem replaced_replaceText {secret : String} (valid : Secret secret) (text : String) :
    Replaced secret.toList redacted.toList text.toList
      (replaceText text secret redacted).toList := by
  rw [replaceText, String.toList_ofList]
  exact replaced_replace valid.nonempty redacted.toList text.toList

/-- A secret that is not in a text does not appear while others are replaced. -/
theorem absent_scrubText {secrets : List String} (valid : ∀ secret ∈ secrets, Secret secret)
    {other text : String} (validOther : Secret other) (absent : ¬ other.toList <:+: text.toList) :
    ¬ other.toList <:+: (scrubText secrets text).toList := by
  induction secrets generalizing text with
  | nil => exact absent
  | cons secret rest ih =>
      have validHere := valid secret List.mem_cons_self
      rw [scrubText_cons validHere]
      refine ih (fun next member => valid next (List.mem_cons_of_mem secret member)) ?_
      intro appears
      have replaced := replaced_replaceText validHere text
      exact absent (replaced.inside_of_inside validOther.separates appears)

theorem free_scrubText {secrets : List String} (valid : ∀ secret ∈ secrets, Secret secret)
    (text : String) : Free secrets (scrubText secrets text) := by
  induction secrets generalizing text with
  | nil => exact nofun
  | cons secret rest ih =>
      have validHere := valid secret List.mem_cons_self
      have validRest : ∀ next ∈ rest, Secret next :=
        fun next member => valid next (List.mem_cons_of_mem secret member)
      rw [scrubText_cons validHere]
      rintro next (_ | ⟨_, member⟩)
      · exact absent_scrubText validRest validHere
          ((replaced_replaceText validHere text).gone validHere.separates)
      · exact ih validRest _ next member

/-- Only places that held a secret in the original text are replaced, although the
secrets are replaced one after another. -/
theorem substituted_scrubText {secrets all : List String} (valid : ∀ secret ∈ all, Secret secret)
    (among : secrets ⊆ all) {original text : String}
    (before : Substituted (all.map String.toList) redacted.toList original.toList text.toList) :
    Substituted (all.map String.toList) redacted.toList original.toList
      (scrubText secrets text).toList := by
  induction secrets generalizing text with
  | nil => exact before
  | cons secret rest ih =>
      have member : secret ∈ all := among List.mem_cons_self
      rw [scrubText_cons (valid secret member)]
      refine ih (fun _ later => among (List.mem_cons_of_mem secret later)) ?_
      exact before.replaced (List.mem_map_of_mem member) (valid secret member).separates
        (replaced_replaceText (valid secret member) text)

/-! ## Records -/

variable {secrets : List String}

theorem mem_scrubItems {result : Json} {items : List Json} :
    result ∈ scrubItems secrets items ↔ ∃ item ∈ items, scrub secrets item = result := by
  induction items with
  | nil => simp [scrubItems]
  | cons item rest ih => simp [scrubItems, ih, eq_comm]

/-- What stands behind a key after scrubbing. -/
def scrubField (secrets : List String) (field : String × Json) : Json :=
  if isCredentialKey field.1 then .string redacted else scrub secrets field.2

theorem mem_scrubFields {result : String × Json} {fields : List (String × Json)} :
    result ∈ scrubFields secrets fields ↔
      ∃ field ∈ fields, (field.1, scrubField secrets field) = result := by
  induction fields with
  | nil => simp [scrubFields]
  | cons field rest ih =>
      obtain ⟨key, value⟩ := field
      rw [scrubFields, List.mem_cons, ih]
      simp only [List.exists_mem_cons_iff, scrubField]
      exact or_congr_left eq_comm

mutual

theorem redacts_scrub (valid : ∀ secret ∈ secrets, Secret secret) :
    ∀ record, Redacts secrets record (scrub secrets record)
  | .null => .null
  | .bool value => .bool value
  | .number value => .number value
  | .string text =>
      .string (substituted_scrubText valid (List.Subset.refl secrets) (.kept text.toList))
  | .array items => .array (redacts_scrubItems valid items)
  | .object fields => .object (redacts_scrubFields valid fields)

theorem redacts_scrubItems (valid : ∀ secret ∈ secrets, Secret secret) :
    ∀ items, RedactsItems secrets items (scrubItems secrets items)
  | [] => .nil
  | item :: rest => .cons (redacts_scrub valid item) (redacts_scrubItems valid rest)

theorem redacts_scrubFields (valid : ∀ secret ∈ secrets, Secret secret) :
    ∀ fields, RedactsFields secrets fields (scrubFields secrets fields)
  | [] => .nil
  | (key, value) :: rest => by
      rw [scrubFields]
      cases named : isCredentialKey key with
      | true => exact .credential named (redacts_scrubFields valid rest)
      | false => exact .field named (redacts_scrub valid value) (redacts_scrubFields valid rest)

end

/-- The parts of a scrubbed record are markers and scrubbed parts of the record. -/
theorem part_scrub {part record : Json} (inside : Part part (scrub secrets record)) :
    part = .string redacted ∨ ∃ source, Exposed source record ∧ part = scrub secrets source := by
  generalize equal : scrub secrets record = scrubbed at inside
  induction inside generalizing record with
  | self => exact .inr ⟨record, .self, equal.symm⟩
  | @item items item member _ ih =>
      cases record with
      | array values =>
          rw [scrub, Json.array.injEq] at equal
          rw [← equal] at member
          obtain ⟨value, valueMember, rfl⟩ := mem_scrubItems.mp member
          rcases ih rfl with marker | ⟨source, exposed, same⟩
          · exact .inl marker
          · exact .inr ⟨source, .item valueMember exposed, same⟩
      | null | bool | number | string | object => simp [scrub] at equal
  | @field fields key value member inside ih =>
      cases record with
      | object values =>
          rw [scrub, Json.object.injEq] at equal
          rw [← equal] at member
          obtain ⟨⟨name, original⟩, valueMember, same⟩ := mem_scrubFields.mp member
          rw [Prod.mk.injEq] at same
          obtain ⟨rfl, rfl⟩ := same
          cases named : isCredentialKey name with
          | true =>
              simp only [scrubField, named, if_true] at inside
              cases inside
              exact .inl rfl
          | false =>
              simp only [scrubField, named, Bool.false_eq_true, if_false] at ih
              rcases ih rfl with marker | ⟨source, exposed, same⟩
              · exact .inl marker
              · exact .inr ⟨source, .field valueMember named exposed, same⟩
      | null | bool | number | string | array => simp [scrub] at equal

/-- An exposed part is scrubbed where it stands. -/
theorem Exposed.part_scrub {source record : Json} (exposed : Exposed source record) :
    Part (scrub secrets source) (scrub secrets record) := by
  induction exposed with
  | self => exact .self
  | item member _ ih =>
      rw [scrub]
      exact .item (mem_scrubItems.mpr ⟨_, member, rfl⟩) ih
  | @field fields key value member ordinary _ ih =>
      rw [scrub]
      refine .field (mem_scrubFields.mpr ⟨(key, value), member, rfl⟩) ?_
      simpa only [scrubField, ordinary, Bool.false_eq_true, if_false] using ih

/-- Scrubbing is complete exactly when no key has a secret, apart from the keys that
vanish behind a credential. -/
theorem scrub_complete_iff (valid : ∀ secret ∈ secrets, Secret secret) (record : Json) :
    RedactionComplete secrets record (scrub secrets record) ↔
      ∀ fields, Exposed (.object fields) record → ∀ field ∈ fields, Free secrets field.1 := by
  constructor
  · intro complete fields exposed field member
    have inside : Part (.object (scrubFields secrets fields)) (scrub secrets record) :=
      exposed.part_scrub
    exact complete.keys _ inside (field.1, scrubField secrets field)
      (mem_scrubFields.mpr ⟨field, member, rfl⟩)
  · intro free
    -- An object of the scrubbed record is a scrubbed object of the record.
    have objects : ∀ results, Part (.object results) (scrub secrets record) →
        ∃ fields, Exposed (.object fields) record ∧ results = scrubFields secrets fields := by
      intro results inside
      rcases part_scrub inside with marker | ⟨source, exposed, same⟩
      · cases marker
      · cases source with
        | object fields =>
            rw [scrub, Json.object.injEq] at same
            exact ⟨fields, exposed, same⟩
        | null | bool | number | string | array => simp [scrub] at same
    refine ⟨?_, ?_, ?_, redacts_scrub valid record⟩
    · intro text inside
      rcases part_scrub inside with marker | ⟨source, _, same⟩
      · cases marker
        exact free_redacted valid
      · cases source with
        | string original =>
            rw [scrub, Json.string.injEq] at same
            rw [same]
            exact free_scrubText valid original
        | null | bool | number | array | object => simp [scrub] at same
    · intro results inside result member
      obtain ⟨fields, exposed, rfl⟩ := objects results inside
      obtain ⟨field, fieldMember, rfl⟩ := mem_scrubFields.mp member
      exact free fields exposed field fieldMember
    · intro results inside result member named
      obtain ⟨fields, _, rfl⟩ := objects results inside
      obtain ⟨field, _, rfl⟩ := mem_scrubFields.mp member
      exact if_pos named

/-- A bearer token of 32 bytes. -/
def bearerToken : String := "0123456789abcdef0123456789abcdef"

theorem secret_bearerToken : Secret bearerToken :=
  ⟨by decide, by decide, by decide⟩

/-- A request whose argument says the token. -/
def quotingRecord : Json :=
  .object [("payload", .string ("Bearer " ++ bearerToken)), ("nonce", .bool true)]

theorem scrub_complete_quoting :
    RedactionComplete [bearerToken] quotingRecord (scrub [bearerToken] quotingRecord) := by
  have valid : ∀ secret ∈ [bearerToken], Secret secret := by
    rintro _ (_ | ⟨_, none⟩)
    · exact secret_bearerToken
    · cases none
  refine (scrub_complete_iff valid quotingRecord).mpr ?_
  rintro fields exposed field member secret (_ | ⟨_, none⟩)
  · cases exposed with
    | self =>
        rcases List.mem_pair.mp member with rfl | rfl <;> decide
    | field within _ inside =>
        rcases List.mem_pair.mp within with same | same <;> cases same <;> cases inside
  · cases none

/-- A request whose arguments have the token for a key. -/
def keyedRecord : Json :=
  .object [("payload", .object [(bearerToken, .null)])]

/-- The token stays in the log. -/
theorem scrub_incomplete :
    Secret bearerToken ∧
      ¬ RedactionComplete [bearerToken] keyedRecord (scrub [bearerToken] keyedRecord) := by
  refine ⟨secret_bearerToken, ?_⟩
  intro complete
  have payload : Part (.object [(bearerToken, .null)]) (scrub [bearerToken] keyedRecord) :=
    .field List.mem_cons_self .self
  exact complete.keys _ payload _ List.mem_cons_self bearerToken List.mem_cons_self
    (List.infix_refl _)

end X64dbgMcp.Audit
