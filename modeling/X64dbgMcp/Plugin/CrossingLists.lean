import Mathlib.Data.List.Dedup
import X64dbgMcp.Plugin.Crossing

/-!
# Lists and nested objects across the pipe

The two sides walk the same lists with different accumulators.  Each induction
relates the accumulators and follows the loop.
-/

namespace X64dbgMcp.Plugin

open Text Tools Ipc Collection
open Json (Within)
open Transition (bind_eq_ok)

variable {floatText : UInt64 → List UInt8} {object : Object} {parseUuid : String → Option Uuid}

section EventTypes

theorem parseEventKind_of_mem {name : String} (listed : name ∈ eventTypes) :
    ∃ kind, parseEventKind name = some kind ∧ eventKindName kind = name ∧
      (utf8 name).length ≤ 32 := by
  simp only [eventTypes, List.mem_cons, List.not_mem_nil, or_false] at listed
  rcases listed with rfl | rfl | rfl | rfl | rfl | rfl | rfl | rfl | rfl | rfl | rfl | rfl | rfl |
    rfl | rfl | rfl | rfl | rfl | rfl <;> exact ⟨_, rfl, rfl, by decide⟩

/-- The names the sidecar has seen cover the kinds the plugin has read. -/
theorem parseEventTypes_of_valid (known : List Runtime.EventKind) {values : List Json}
    {seen : List String} (covers : ∀ kind ∈ known, eventKindName kind ∈ seen)
    (valid : validateEventTypes seen values = .ok ()) :
    (∃ kinds, parseEventTypes known values = some kinds) ∧
      ∀ value ∈ values, Within floatText 194 value := by
  induction values generalizing seen known with
  | nil => exact ⟨⟨known, rfl⟩, by simp⟩
  | cons value rest ih =>
      simp only [validateEventTypes, bind_eq_ok, okOr_eq_ok, Option.filter_eq_some_iff,
        asStr_eq_some, ensure_eq_ok, Bool.not_eq_true',
        List.contains_eq_mem, decide_eq_false_iff_not, decide_eq_true_eq] at valid
      obtain ⟨name, ⟨rfl, listed⟩, _, fresh, valid⟩ := valid
      obtain ⟨kind, parses, named, short⟩ := parseEventKind_of_mem listed
      have new : kind ∉ known := fun member => fresh (named ▸ covers kind member)
      obtain ⟨⟨kinds, restParses⟩, within⟩ := ih (known ++ [kind]) (by
        intro other member
        rcases List.mem_append.mp member with old | last
        · exact List.mem_cons_of_mem _ (covers other old)
        · rw [List.mem_singleton.mp last, named]
          exact List.mem_cons_self) valid
      refine ⟨⟨kinds, ?_⟩, List.forall_mem_cons.mpr ⟨.string (by omega), within⟩⟩
      simp [parseEventTypes, Json.asStr, parses, require, new, restParses]

variable (floatText) in
theorem parseTypes_of_valid (valid : optionalTypes object = .ok ()) :
    (∃ kinds, parseTypes (object.lookup "types") = some kinds) ∧
      Compact floatText object "types" := by
  unfold optionalTypes at valid
  cases found : object.lookup "types" with
  | none => exact ⟨⟨[], rfl⟩, fun value held => by simp [found] at held⟩
  | some types =>
      simp only [found, bind_eq_ok, okOr_eq_ok, Option.filter_eq_some_iff, asArray_eq_some,
        Bool.and_eq_true, Bool.not_eq_true', decide_eq_true_eq] at valid
      obtain ⟨values, ⟨rfl, nonempty, few⟩, valid⟩ := valid
      obtain ⟨⟨kinds, parses⟩, within⟩ := parseEventTypes_of_valid [] (by simp) valid
      have some_value : 1 ≤ values.length := by
        rw [List.isEmpty_eq_false_iff] at nonempty
        exact List.length_pos_iff.mpr nonempty
      refine ⟨⟨kinds, ?_⟩, .of_found found (.array 194 within ?_)⟩
      · simp [parseTypes, unlessMissing, Json.asArray, require, some_value, few, parses]
      · unfold fieldBytes
        omega

end EventTypes

section RegisterNames

/-- A list of names that passes is a list of distinct short texts. -/
theorem exists_texts_of_names {values : List Json} (names : values.all isRegisterName = true)
    (unique : uniqueStrings values = true) :
    ∃ texts : List String, values = texts.map .string ∧ texts.Nodup ∧
      ∀ text ∈ texts, 1 ≤ (utf8 text).length ∧ (utf8 text).length ≤ 32 := by
  have isText : ∀ values : List Json, values.all isRegisterName = true →
      values = (values.filterMap Json.asStr).map .string ∧
        ∀ text ∈ values.filterMap Json.asStr,
          1 ≤ (utf8 text).length ∧ (utf8 text).length ≤ 32 := by
    intro values
    induction values with
    | nil => simp
    | cons value rest ih =>
        intro all
        rw [List.all_cons, Bool.and_eq_true] at all
        obtain ⟨name, reads, bounds⟩ := (Option.any_eq_true _ _).mp all.1
        obtain ⟨restTexts, restBounds⟩ := ih all.2
        simp only [Bool.and_eq_true, Bool.not_eq_true', List.isEmpty_eq_false_iff,
          decide_eq_true_eq] at bounds
        rw [List.filterMap_cons_some reads, List.map_cons, ← restTexts]
        exact ⟨by rw [asStr_eq_some.mp reads], List.forall_mem_cons.mpr
          ⟨⟨List.length_pos_iff.mpr bounds.1, bounds.2⟩, restBounds⟩⟩
  obtain ⟨texts, bounds⟩ := isText values names
  refine ⟨values.filterMap Json.asStr, texts, ?_, bounds⟩
  have sameLength : (values.filterMap Json.asStr).length = values.length := by
    conv_rhs => rw [texts, List.length_map]
  rw [uniqueStrings, beq_iff_eq, ← sameLength] at unique
  rw [← (List.dedup_sublist _).eq_of_length unique]
  exact List.nodup_dedup _

theorem parseRegisterNames_of_texts (known : List String) {texts : List String} (distinct : texts.Nodup)
    (fresh : ∀ text ∈ texts, text ∉ known)
    (bounds : ∀ text ∈ texts, 1 ≤ (utf8 text).length ∧ (utf8 text).length ≤ 32) :
    ∃ names, parseRegisterNames known (texts.map .string) = some names := by
  induction texts generalizing known with
  | nil => exact ⟨known, rfl⟩
  | cons text rest ih =>
      rw [List.nodup_cons] at distinct
      rw [List.forall_mem_cons] at fresh bounds
      obtain ⟨names, parses⟩ := ih (known ++ [text]) distinct.2 (by
        intro other member
        rw [List.mem_append, List.mem_singleton, not_or]
        exact ⟨fresh.2 other member, fun same => distinct.1 (same ▸ member)⟩) bounds.2
      refine ⟨names, ?_⟩
      simp [parseRegisterNames, textIn, textOf, Json.asStr, require, bounds.1, fresh.1, parses]

theorem within_texts {texts : List String} {count : Nat} (few : texts.length ≤ count)
    (bounds : ∀ text ∈ texts, 1 ≤ (utf8 text).length ∧ (utf8 text).length ≤ 32)
    (room : count * 195 + 2 ≤ fieldBytes) :
    Within floatText fieldBytes (.array (texts.map .string)) := by
  refine .array 194 ?_ ?_
  · rw [List.forall_mem_map]
    intro text member
    exact .string (by have := (bounds text member).2; omega)
  · have scaled := Nat.mul_le_mul_right 195 few
    rw [List.length_map]
    omega

variable (floatText) in
theorem parseNames_of_registers (valid : optionalSnapshotRegisters object = .ok ()) :
    (∃ names, parseNames (object.lookup "registers") 1 16 = some names) ∧
      Compact floatText object "registers" := by
  unfold optionalSnapshotRegisters at valid
  cases found : object.lookup "registers" with
  | none => exact ⟨⟨[], rfl⟩, fun value held => by simp [found] at held⟩
  | some registers =>
      simp only [found, bind_eq_ok, okOr_eq_ok, Option.filter_eq_some_iff, asArray_eq_some,
        Bool.and_eq_true, decide_eq_true_eq, ensure_eq_ok] at valid
      obtain ⟨values, ⟨rfl, some_value, few⟩, _, names, unique⟩ := valid
      obtain ⟨texts, rfl, distinct, bounds⟩ := exists_texts_of_names names unique
      obtain ⟨parsed, parses⟩ :=
        parseRegisterNames_of_texts [] distinct (by simp) bounds
      rw [List.length_map] at some_value few
      refine ⟨⟨parsed, ?_⟩, .of_found found (within_texts few bounds (by decide))⟩
      simp [parseNames, unlessMissing, Json.asArray, require, some_value, few, parses]

variable (floatText) in
theorem parseNames_of_names (valid : optionalRegisterNames object = .ok ()) :
    (∃ names, parseNames (object.lookup "names") 0 64 = some names) ∧
      Compact floatText object "names" := by
  unfold optionalRegisterNames at valid
  cases found : object.lookup "names" with
  | none => exact ⟨⟨[], rfl⟩, fun value held => by simp [found] at held⟩
  | some registers =>
      simp only [found, bind_eq_ok, okOr_eq_ok, asArray_eq_some, Bool.and_eq_true,
        decide_eq_true_eq, ensure_eq_ok] at valid
      obtain ⟨values, rfl, _, ⟨few, names⟩, unique⟩ := valid
      obtain ⟨texts, rfl, distinct, bounds⟩ := exists_texts_of_names names unique
      obtain ⟨parsed, parses⟩ :=
        parseRegisterNames_of_texts [] distinct (by simp) bounds
      rw [List.length_map] at few
      refine ⟨⟨parsed, ?_⟩, .of_found found (within_texts few bounds (by decide))⟩
      simp [parseNames, unlessMissing, Json.asArray, require, few, parses]

end RegisterNames

section Objects

/-- The keys of an object with distinct keys, and the values below it. -/
theorem distinct_object {fields : Object} (distinct : (Json.object fields).distinct = true) :
    (fields.map Prod.fst).Nodup ∧ ∀ field ∈ fields, field.2.distinct = true := by
  rw [Json.distinct, Json.every_object, decide_eq_true_eq] at distinct
  exact distinct

theorem distinct_array {items : List Json} (distinct : (Json.array items).distinct = true) :
    ∀ item ∈ items, item.distinct = true := by
  rw [Json.distinct, Json.every_array] at distinct
  exact distinct

theorem distinct_lookup {fields : Object} {key : String} {value : Json}
    (distinct : ∀ field ∈ fields, field.2.distinct = true)
    (found : fields.lookup key = some value) : value.distinct = true :=
  distinct (key, value) (mem_of_lookup found)

/-- An object without optional fields has as many fields as required ones. -/
theorem length_of_exact {fields : Object} {required : List String}
    (exact : Exact fields required []) (distinct : (fields.map Prod.fst).Nodup)
    (names : required.Nodup) : fields.length = required.length := by
  simpa using exact.length_eq distinct (by simpa using names)

/-- An object with one optional field has one field more when it is there. -/
theorem length_of_exact_one {fields : Object} {required : List String} {name : String}
    (exact : Exact fields required [name]) (distinct : (fields.map Prod.fst).Nodup)
    (names : (required ++ [name]).Nodup) :
    fields.length =
      if (fields.lookup name).isNone then required.length else required.length + 1 := by
  rw [exact.length_eq distinct names, List.map_singleton, List.sum_singleton]
  cases fields.lookup name <;> rfl

/-- An object of short fields. -/
theorem within_of_exact {fields : Object} {required : List String} (key each : Nat)
    {bound : Nat} (exact : Exact fields required []) (distinct : (fields.map Prod.fst).Nodup)
    (names : required.Nodup) (short : ∀ name ∈ required, (utf8 name).length ≤ key)
    (within : ∀ name ∈ required, ∀ value, fields.lookup name = some value →
      Within floatText each value)
    (room : required.length * (6 * key + each + 4) + 2 ≤ bound) :
    Within floatText bound (.object fields) := by
  refine .object key each ?_ ?_ ?_
  · intro field member
    exact (exact.known field member).elim (short field.1) (by simp)
  · exact exact.forall_mem distinct (by simpa using within)
  · rw [length_of_exact exact distinct names]
    exact room

end Objects

section Overrides

theorem parseOverrides_of_valid (known : List RegisterAssignment) {values : List Json}
    {seen : List String} (distinct : ∀ value ∈ values, value.distinct = true)
    (covers : ∀ assignment ∈ known, assignment.name ∈ seen)
    (valid : validateOverrides seen values = .ok ()) :
    (∃ assignments, parseOverrides known values = some assignments) ∧
      ∀ value ∈ values, Within floatText 1024 value := by
  induction values generalizing seen known with
  | nil => exact ⟨⟨known, rfl⟩, by simp⟩
  | cons value rest ih =>
      rw [List.forall_mem_cons] at distinct
      simp only [validateOverrides, bind_eq_ok, okOr_eq_ok, asObject_eq_some, exactKeys_eq_ok,
        string_eq_ok, ensure_eq_ok, Bool.not_eq_true', List.contains_eq_mem,
        decide_eq_false_iff_not, decide_eq_true_eq] at valid
      obtain ⟨override, rfl, _, exact, name, ⟨nameFound, nameLow, nameHigh⟩, _, listed, _, fresh,
        text, ⟨textFound, low, high⟩, _, hex, valid⟩ := valid
      have keys := (distinct_object distinct.1).1
      have size : override.length = 2 := length_of_exact exact keys (by decide)
      have reads := parseCanonicalHex64_of_isHex ⟨hex, low, high⟩
      have new : ∀ assignment ∈ known, assignment.name ≠ name := fun assignment member same =>
        fresh (same ▸ covers assignment member)
      obtain ⟨⟨assignments, restParses⟩, within⟩ :=
        ih (known ++ [⟨name, ofDigits 16 ((utf8 text).drop 2)⟩]) distinct.2 (by
          intro assignment member
          rcases List.mem_append.mp member with old | last
          · exact List.mem_cons_of_mem _ (covers assignment old)
          · rw [List.mem_singleton.mp last]
            exact List.mem_cons_self) valid
      refine ⟨⟨assignments, ?_⟩, List.forall_mem_cons.mpr ⟨?_, within⟩⟩
      · simp [parseOverrides, Json.asObject, size, textIn, textOf, nameFound, textFound, Json.asStr,
          reads, require, nameLow, nameHigh, if_pos new, restParses]
      · refine within_of_exact 5 110 exact keys (by decide) (by decide) ?_ (by decide)
        simp only [List.forall_mem_cons, nameFound, textFound, Option.some.injEq, forall_eq']
        exact ⟨.string (by omega), .string (by omega), by simp⟩

variable (floatText) in
theorem optionalOverrides_crosses (distinct : ∀ field ∈ object, field.2.distinct = true)
    (valid : optionalOverrides object = .ok ()) :
    (∃ assignments, unlessMissing (object.lookup "register_overrides") [] (do
        let values ← (object.lookup "register_overrides").bind Json.asArray
        require (1 ≤ values.length ∧ values.length ≤ 4)
        parseOverrides [] values) = some assignments) ∧
      Compact floatText object "register_overrides" := by
  unfold optionalOverrides at valid
  cases found : object.lookup "register_overrides" with
  | none => exact ⟨⟨[], rfl⟩, fun value held => by simp [found] at held⟩
  | some overrides =>
      simp only [found, bind_eq_ok, okOr_eq_ok, Option.filter_eq_some_iff, asArray_eq_some,
        Bool.and_eq_true, decide_eq_true_eq] at valid
      obtain ⟨values, ⟨rfl, low, high⟩, valid⟩ := valid
      obtain ⟨⟨assignments, parses⟩, within⟩ := parseOverrides_of_valid []
        (distinct_array (distinct_lookup distinct found)) (by simp) valid
      refine ⟨⟨assignments, ?_⟩, .of_found found (.array 1024 within ?_)⟩
      · simp [unlessMissing, Json.asArray, require, low, high, parses]
      · unfold fieldBytes
        omega

end Overrides

section LaunchArguments

/-- Surrogates are no control characters, so the units of a text have none either. -/
theorem validLaunchArgumentText_of_plain {text : String} (short : (utf8 text).length ≤ 256)
    (plain : hasControl text = false) : validLaunchArgumentText text = true := by
  rw [hasControl, List.any_eq_false] at plain
  rw [validLaunchArgumentText, Bool.and_eq_true, decide_eq_true_eq, List.all_eq_true]
  refine ⟨short, ?_⟩
  intro unit inUnits
  obtain ⟨character, member, encoded⟩ := List.mem_flatMap.mp inUnits
  have visible := plain character member
  simp only [isControl, Bool.or_eq_true, Bool.and_eq_true, decide_eq_true_eq, not_or,
    not_and] at visible
  simp only [Bool.not_eq_true', Bool.or_eq_false_iff, Bool.and_eq_false_iff,
    decide_eq_false_iff_not]
  unfold utf16 at encoded
  split_ifs at encoded with basic
  · rw [List.mem_singleton] at encoded
    omega
  · have surrogate : 0xd800 ≤ unit := by
      simp only [List.mem_cons, List.not_mem_nil, or_false] at encoded
      rcases encoded with upper | lower
      · rw [upper]
        exact Nat.le_add_right _ _
      · rw [lower]
        exact le_trans (by decide : 0xd800 ≤ 0xdc00) (Nat.le_add_right 0xdc00 _)
    omega

theorem le_of_validateLaunchArguments {values : List Json} {total sum : Nat}
    (valid : validateLaunchArguments total values = .ok sum) : total ≤ sum := by
  induction values generalizing total with
  | nil => simp_all [validateLaunchArguments]
  | cons value rest ih =>
      simp only [validateLaunchArguments, bind_eq_ok] at valid
      obtain ⟨text, _, _, _, valid⟩ := valid
      have := ih valid
      omega

theorem parseLaunchArguments_of_valid {values : List Json} {total sum : Nat} (room : sum ≤ 512)
    (valid : validateLaunchArguments total values = .ok sum) :
    (∃ arguments, parseLaunchArguments total values = some arguments) ∧
      ∀ value ∈ values, Within floatText 1538 value := by
  induction values generalizing total with
  | nil => exact ⟨⟨[], rfl⟩, by simp⟩
  | cons value rest ih =>
      simp only [validateLaunchArguments, bind_eq_ok, okOr_eq_ok, asStr_eq_some, ensure_eq_ok,
        Bool.and_eq_true, decide_eq_true_eq, Bool.not_eq_true'] at valid
      obtain ⟨text, rfl, _, ⟨short, plain⟩, valid⟩ := valid
      have below := le_of_validateLaunchArguments valid
      obtain ⟨⟨arguments, parses⟩, within⟩ := ih valid
      refine ⟨⟨text :: arguments, ?_⟩, List.forall_mem_cons.mpr ⟨.string (by omega), within⟩⟩
      have left : (utf8 text).length ≤ maxLaunchArgumentTotalBytes - total := by
        unfold maxLaunchArgumentTotalBytes
        omega
      simp [parseLaunchArguments, Json.asStr, require, validLaunchArgumentText_of_plain short plain,
        left, parses]

variable (floatText) in
theorem optionalLaunchArguments_crosses (valid : optionalLaunchArguments object = .ok ()) :
    (∃ arguments, unlessMissing (object.lookup "arguments") [] (do
        let values ← (object.lookup "arguments").bind Json.asArray
        require (values.length ≤ maxLaunchArguments)
        parseLaunchArguments 0 values) = some arguments) ∧
      Compact floatText object "arguments" := by
  unfold optionalLaunchArguments at valid
  cases found : object.lookup "arguments" with
  | none => exact ⟨⟨[], rfl⟩, fun value held => by simp [found] at held⟩
  | some arguments =>
      simp only [found, bind_eq_ok, okOr_eq_ok, Option.filter_eq_some_iff, asArray_eq_some,
        decide_eq_true_eq, ensure_eq_ok] at valid
      obtain ⟨values, ⟨rfl, few⟩, sum, valid, room⟩ := valid
      obtain ⟨⟨parsed, parses⟩, within⟩ := parseLaunchArguments_of_valid room valid
      refine ⟨⟨parsed, ?_⟩, .of_found found (.array 1538 within ?_)⟩
      · simp [unlessMissing, Json.asArray, require, maxLaunchArguments, few, parses]
      · unfold fieldBytes
        omega

end LaunchArguments

section Expressions

/-- The expressions that pass, with their lengths added to the total so far. -/
theorem parseExpressions_of_valid {values : List Json} {total sum : Nat} (room : sum ≤ 8192)
    (valid : validateExpressions total values = .ok sum) :
    (∃ expressions, parseExpressions total values = some expressions) ∧
      ∃ texts : List String, values = texts.map .string ∧
        total + (texts.map fun text => (utf8 text).length).sum = sum := by
  induction values generalizing total with
  | nil =>
      simp only [validateExpressions, Except.ok.injEq] at valid
      exact ⟨⟨[], rfl⟩, [], rfl, by simpa using valid⟩
  | cons value rest ih =>
      simp only [validateExpressions, bind_eq_ok, okOr_eq_ok, Option.filter_eq_some_iff,
        asStr_eq_some, Bool.and_eq_true, Bool.not_eq_true', decide_eq_true_eq,
        ensure_eq_ok] at valid
      obtain ⟨text, ⟨rfl, nonempty, short⟩, _, plain, valid⟩ := valid
      obtain ⟨⟨expressions, parses⟩, texts, rfl, counted⟩ := ih valid
      rw [List.isEmpty_eq_false_iff] at nonempty
      have some_byte : 1 ≤ (utf8 text).length := List.length_pos_iff.mpr nonempty
      have left : (utf8 text).length ≤ 8192 - total := by omega
      refine ⟨⟨text :: expressions, ?_⟩, text :: texts, rfl, ?_⟩
      · simp [parseExpressions, textIn, textOf, Json.asStr, require, some_byte, short,
          isPlain_of_hasControl plain, left, parses]
      · rw [List.map_cons, List.sum_cons]
        omega

variable (floatText) in
theorem validateExpressionBatch_crosses (valid : validateExpressionBatch object = .ok ()) :
    (∃ values expressions, (object.lookup "expressions").bind Json.asArray = some values ∧
        1 ≤ values.length ∧ values.length ≤ 32 ∧ parseExpressions 0 values = some expressions) ∧
      Compact floatText object "expressions" := by
  simp only [validateExpressionBatch, bind_eq_ok, okOr_eq_ok, Option.filter_eq_some_iff,
    Option.bind_eq_some_iff, asArray_eq_some, Bool.and_eq_true, Bool.not_eq_true',
    decide_eq_true_eq, ensure_eq_ok] at valid
  obtain ⟨values, ⟨⟨_, found, rfl⟩, nonempty, few⟩, sum, valid, room⟩ := valid
  obtain ⟨⟨expressions, parses⟩, texts, rfl, counted⟩ := parseExpressions_of_valid room valid
  rw [List.isEmpty_eq_false_iff] at nonempty
  refine ⟨⟨_, expressions, by rw [found]; rfl, List.length_pos_iff.mpr nonempty, few, parses⟩,
    .of_found found (.strings 8192 (by omega) ?_)⟩
  rw [List.length_map] at few
  unfold fieldBytes
  omega

end Expressions

section Conditions

theorem parseConditionalOperator_of_mem {text : String}
    (listed : text ∈ ["eq", "ne", "lt", "le", "gt", "ge", "multiple_of"]) :
    ∃ operation, parseConditionalOperator text = some operation := by
  simp only [List.mem_cons, List.not_mem_nil, or_false] at listed
  rcases listed with rfl | rfl | rfl | rfl | rfl | rfl | rfl <;> exact ⟨_, rfl⟩

theorem parsePredicate_of_valid {value : Json} (distinct : value.distinct = true)
    (valid : validatePredicate value = .ok ()) :
    (∃ predicate, parsePredicate value = some predicate) ∧ Within floatText 2048 value := by
  simp only [validatePredicate, bind_eq_ok, okOr_eq_ok, asObject_eq_some, string_eq_ok] at valid
  obtain ⟨fields, rfl, source, ⟨sourceFound, _, sourceShort⟩, valid⟩ := valid
  have keys := (distinct_object distinct).1
  have sourceWithin : Within floatText 194 (.string source) := .string (by omega)
  split_ifs at valid with register thread hit
  · simp only [bind_eq_ok, exactKeys_eq_ok] at valid
    obtain ⟨_, exact, _, registerIs, _, operatorIs, number⟩ := valid
    obtain ⟨name, nameFound, _, nameShort⟩ := oneOf_eq_ok registerIs
    obtain ⟨operator, operatorFound, listed, operatorShort⟩ := oneOf_eq_ok operatorIs
    have has := validateBoundedHexField_eq_ok number
    obtain ⟨parsed, reads⟩ := parseCanonicalHex64_of_hasHex has
    obtain ⟨text, textFound, hex, _⟩ := has
    obtain ⟨operation, operates⟩ := parseConditionalOperator_of_mem
      (List.mem_append_left ["multiple_of"] listed)
    have size : fields.length = 4 := length_of_exact exact keys (by decide)
    constructor
    · simp [parsePredicate, Json.asObject, textOf, sourceFound, operatorFound, Json.asStr, operates,
        register, require, size, nameFound, reads]
    · refine within_of_exact 8 194 exact keys (by decide) (by decide) ?_ (by decide)
      simp only [List.forall_mem_cons, sourceFound, nameFound, operatorFound, textFound,
        Option.some.injEq, forall_eq']
      exact ⟨sourceWithin, .string (by omega), .string (by omega),
        .string (by have := hex.2.2; omega), by simp⟩
  · simp only [bind_eq_ok, exactKeys_eq_ok] at valid
    obtain ⟨_, exact, _, operatorIs, number⟩ := valid
    obtain ⟨operator, operatorFound, listed, operatorShort⟩ := oneOf_eq_ok operatorIs
    have has := validateBoundedHexField_eq_ok number
    obtain ⟨parsed, reads⟩ := parseCanonicalHex64_of_hasHex has
    obtain ⟨text, textFound, hex, _⟩ := has
    obtain ⟨operation, operates⟩ := parseConditionalOperator_of_mem
      (List.mem_append_left ["lt", "le", "gt", "ge", "multiple_of"] listed)
    have size : fields.length = 3 := length_of_exact exact keys (by decide)
    constructor
    · simp [parsePredicate, Json.asObject, textOf, sourceFound, operatorFound, Json.asStr, operates,
        thread, require, size, reads]
    · refine within_of_exact 8 194 exact keys (by decide) (by decide) ?_ (by decide)
      simp only [List.forall_mem_cons, sourceFound, operatorFound, textFound, Option.some.injEq,
        forall_eq']
      exact ⟨sourceWithin, .string (by omega), .string (by have := hex.2.2; omega), by simp⟩
  · simp only [bind_eq_ok, exactKeys_eq_ok, integer_eq_ok] at valid
    obtain ⟨_, exact, _, operatorIs, has⟩ := valid
    obtain ⟨operator, operatorFound, listed, operatorShort⟩ := oneOf_eq_ok operatorIs
    obtain ⟨parsed, reads⟩ := integerIn_of_hasInteger has
    obtain ⟨number, numberFound, _, small⟩ := has
    obtain ⟨operation, operates⟩ := parseConditionalOperator_of_mem listed
    have size : fields.length = 3 := length_of_exact exact keys (by decide)
    constructor
    · simp [parsePredicate, Json.asObject, textOf, sourceFound, operatorFound, Json.asStr, operates,
        hit, require, size, reads]
    · refine within_of_exact 8 194 exact keys (by decide) (by decide) ?_ (by decide)
      simp only [List.forall_mem_cons, sourceFound, operatorFound, numberFound,
        Option.some.injEq, forall_eq']
      exact ⟨sourceWithin, .string (by omega), .integer (by omega) (by decide), by simp⟩

theorem parsePredicates_of_valid {values : List Json}
    (distinct : ∀ value ∈ values, value.distinct = true)
    (valid : validatePredicates values = .ok ()) :
    (∃ predicates, parsePredicates values = some predicates) ∧
      ∀ value ∈ values, Within floatText 2048 value := by
  induction values with
  | nil => exact ⟨⟨[], rfl⟩, by simp⟩
  | cons value rest ih =>
      rw [List.forall_mem_cons] at distinct
      simp only [validatePredicates, bind_eq_ok] at valid
      obtain ⟨_, valid, restValid⟩ := valid
      obtain ⟨⟨predicate, parses⟩, within⟩ := parsePredicate_of_valid distinct.1 valid
      obtain ⟨⟨predicates, restParses⟩, restWithin⟩ := ih distinct.2 restValid
      refine ⟨⟨predicate :: predicates, ?_⟩, List.forall_mem_cons.mpr ⟨within, restWithin⟩⟩
      simp [parsePredicates, parses, restParses]

variable (floatText) in
theorem parseCondition_of_valid (distinct : ∀ field ∈ object, field.2.distinct = true)
    (valid : validateConditionalSpec object = .ok ()) :
    (∃ condition, parseCondition (object.lookup "condition") = some condition) ∧
      Compact floatText object "condition" := by
  simp only [validateConditionalSpec, bind_eq_ok, okOr_eq_ok, Option.bind_eq_some_iff,
    asObject_eq_some, exactKeys_eq_ok, Option.filter_eq_some_iff, asArray_eq_some,
    Bool.and_eq_true, decide_eq_true_eq] at valid
  obtain ⟨condition, ⟨_, found, rfl⟩, _, exact, _, modeIs, values,
    ⟨⟨_, valuesFound, rfl⟩, low, high⟩, valid⟩ := valid
  obtain ⟨keys, below⟩ := distinct_object (distinct_lookup distinct found)
  obtain ⟨text, modeFound, listed, modeShort⟩ := oneOf_eq_ok modeIs
  obtain ⟨⟨predicates, parses⟩, within⟩ := parsePredicates_of_valid
    (distinct_array (distinct_lookup below valuesFound)) valid
  have size : condition.length = 2 := length_of_exact exact keys (by decide)
  obtain ⟨mode, readsMode⟩ : ∃ mode, parseConditionalMode text = some mode := by
    simp only [List.mem_cons, List.not_mem_nil, or_false] at listed
    rcases listed with rfl | rfl <;> exact ⟨_, rfl⟩
  constructor
  · simp [parseCondition, found, Json.asObject, require, size, textOf, modeFound, Json.asStr,
      valuesFound, Json.asArray, low, high, readsMode, parses]
  · refine .of_found found (within_of_exact 10 8200 exact keys (by decide) (by decide) ?_
      (by decide))
    simp only [List.forall_mem_cons, modeFound, valuesFound, Option.some.injEq, forall_eq']
    exact ⟨.string (by omega), .array 2048 within (by omega), by simp⟩

end Conditions

section Selectors

variable (floatText) in
/-- The scope of a search. -/
theorem parseScope_of_valid (build : Build)
    (distinct : ∀ field ∈ object, field.2.distinct = true)
    (valid : validateScope object = .ok ()) :
    (∀ request, ∃ ranged, parseScope build request (object.lookup "scope") = some ranged) ∧
      Compact floatText object "scope" := by
  simp only [validateScope, bind_eq_ok, okOr_eq_ok, Option.bind_eq_some_iff,
    asObject_eq_some] at valid
  obtain ⟨scope, ⟨_, found, rfl⟩, valid⟩ := valid
  have keys := (distinct_object (distinct_lookup distinct found)).1
  split_ifs at valid with named
  · simp only [bind_eq_ok, exactKeys_eq_ok] at valid
    obtain ⟨_, exact, valid⟩ := valid
    obtain ⟨value, moduleFound, isName⟩ := validateModuleName_eq_ok valid
    obtain ⟨name, parses⟩ := parseModuleName_of_isModuleName isName
    have size : scope.length = 1 := length_of_exact exact keys (by decide)
    constructor
    · intro request
      simp [parseScope, found, Json.asObject, moduleFound, require, size, parses]
    · refine .of_found found (within_of_exact 6 1562 exact keys (by decide) (by decide) ?_
        (by decide))
      simp only [List.forall_mem_cons, moduleFound, Option.some.injEq, forall_eq']
      exact ⟨within_isModuleName isName, by simp⟩
  · simp only [bind_eq_ok, exactKeys_eq_ok, integer_eq_ok] at valid
    obtain ⟨_, exact, _, start, length⟩ := valid
    have startIs := validateAddressRef_eq_ok start
    obtain ⟨reference, parses⟩ := parseAddressReference_of_field build startIs
    obtain ⟨count, reads⟩ := integerIn_of_hasInteger length
    have size : scope.length = 2 := length_of_exact exact keys (by decide)
    have anonymous : (scope.lookup "module").isSome = false :=
      Bool.eq_false_iff.mpr named
    constructor
    · intro request
      simp only [parseScope, found, Json.asObject, Option.bind_some, Option.bind_eq_bind, anonymous,
        Bool.false_eq_true, if_false, size, parses, reads]
      simp [require]
    · obtain ⟨value, startFound, address⟩ := startIs
      obtain ⟨number, lengthFound, _, small⟩ := length
      refine .of_found found (within_of_exact 6 4096 exact keys (by decide) (by decide) ?_
        (by decide))
      simp only [List.forall_mem_cons, startFound, lengthFound, Option.some.injEq, forall_eq']
      exact ⟨within_isAddress address, .integer (by omega) (by decide), by simp⟩

/-- The address, access and size of a watched range. -/
theorem parseWatch_of_fields (build : Build) {fields : Object} {accepted : List String}
    (bounds : ∀ text ∈ accepted, 4 ≤ (utf8 text).length ∧ (utf8 text).length ≤ 10)
    (address : ∃ value, fields.lookup "address" = some value ∧ IsAddress value)
    (access : HasOneOf fields "access" accepted) (size : HasInteger fields "size" 1 65536)
    (request : Request) :
    ∃ watched, parseWatch build request fields = some watched ∧
      watched.breakpointAccess ∈ accepted ∧
      integerIn (fields.lookup "size") 1 65536 = some watched.breakpointSize := by
  obtain ⟨reference, parses⟩ := parseAddressReference_of_field build address
  obtain ⟨text, found, listed, _⟩ := access
  obtain ⟨count, reads⟩ := integerIn_of_hasInteger size
  have short := bounds text listed
  refine ⟨{ request with address := reference, breakpointAccess := text, breakpointSize := count },
    ?_, listed, reads⟩
  simp [parseWatch, parses, textIn, textOf, found, Json.asStr, require, short, reads]

theorem hasInteger_of_oneOf {fields : Object}
    (has : ∃ number : UInt64, fields.lookup "size" = some (.number (.posInt number)) ∧
      number.toNat ∈ [1, 2, 4, 8]) :
    HasInteger fields "size" 1 65536 ∧
      ∀ count, integerIn (fields.lookup "size") 1 65536 = some count → count ≤ 8 := by
  obtain ⟨number, found, listed⟩ := has
  simp only [List.mem_cons, List.not_mem_nil, or_false] at listed
  refine ⟨⟨number, found, by omega, by omega⟩, ?_⟩
  intro count reads
  simp only [found, integerIn, integerOf] at reads
  split_ifs at reads
  rw [Option.some.injEq, Int.toNat_natCast] at reads
  omega

end Selectors

end X64dbgMcp.Plugin
