import X64dbgMcp.Plugin.Policy
import X64dbgMcp.Tools.Validated

/-!
# Which conditions are permitted

The rules of a predicate's source, and the server's check of the same predicate in JSON.
-/

namespace X64dbgMcp.Plugin

open Text Collection Tools
open Transition (bind_eq_ok)

/-- The rules of each source. -/
def ConditionalPredicate.Permitted (predicate : ConditionalPredicate) : Prop :=
  match predicate.source with
  | .registerValue =>
      portableConditionalRegister predicate.registerName = true ∧
        predicate.operation ≠ .multipleOf ∧ predicate.value < 2 ^ 64
  | .threadId =>
      predicate.registerName = "" ∧
        (predicate.operation = .equal ∨ predicate.operation = .notEqual) ∧
        predicate.value < 2 ^ 32
  | .hitCount =>
      predicate.registerName = "" ∧ 1 ≤ predicate.value ∧ predicate.value < 2 ^ 32

/-- One predicate or more, and four at most, each by the rules of its source. -/
structure ConditionalSpec.Permitted (condition : ConditionalSpec) : Prop where
  count : 1 ≤ condition.predicates.length ∧ condition.predicates.length ≤ 4
  each : ∀ predicate ∈ condition.predicates, predicate.Permitted

/-! ## A condition in JSON -/

/-- A comparison as a request names it. -/
def operatorName : ConditionalOperator → String
  | .equal => "eq"
  | .notEqual => "ne"
  | .less => "lt"
  | .lessEqual => "le"
  | .greater => "gt"
  | .greaterEqual => "ge"
  | .multipleOf => "multiple_of"

/-- A source as a request names it. -/
def sourceName : ConditionalSource → String
  | .registerValue => "register"
  | .threadId => "thread_id"
  | .hitCount => "hit_count"

/-- A hit count is an integer, and every other value is hexadecimal. -/
def valueJson (predicate : ConditionalPredicate) : Json :=
  if predicate.source = .hitCount then .number (.posInt (UInt64.ofNat predicate.value))
  else .string (hexConstant predicate.value)

/-- The register is named when there is a name. -/
def predicateFields (predicate : ConditionalPredicate) : Object :=
  [("source", .string (sourceName predicate.source))] ++
    (if predicate.registerName = "" then [] else
      [("register", .string predicate.registerName)]) ++
    [("operator", .string (operatorName predicate.operation)), ("value", valueJson predicate)]

/-- A mode as a request names it. -/
def modeName (mode : ConditionalMode) : String :=
  if mode = .all then "all" else "any"

/-- The fields of a condition in a request. -/
def conditionFields (condition : ConditionalSpec) : Object :=
  [("mode", .string (modeName condition.mode)),
    ("predicates", .array (condition.predicates.map fun predicate =>
      .object (predicateFields predicate)))]

/-! ## The server's checks -/

theorem oneOf_iff {object : Object} {field text : String} {accepted : List String}
    (found : object.lookup field = some (.string text)) :
    oneOf object field accepted = .ok () ↔
      1 ≤ (utf8 text).length ∧ (utf8 text).length ≤ 32 ∧ text ∈ accepted := by
  simp only [oneOf, bind_eq_ok, string_eq_ok, ensure_eq_ok, List.contains_iff_mem, found,
    Option.some.injEq, Json.string.injEq]
  constructor
  · rintro ⟨_, ⟨rfl, low, high⟩, member⟩
    exact ⟨low, high, member⟩
  · rintro ⟨low, high, member⟩
    exact ⟨text, ⟨rfl, low, high⟩, member⟩

theorem length_hexadecimal_le_iff {value digits : Nat} (some_digit : 0 < digits) :
    (hexadecimal value).length ≤ digits ↔ value < 16 ^ digits := by
  refine ⟨fun short => ?_, length_hexadecimal_le some_digit⟩
  have small := ofDigits_lt fun byte (member : byte ∈ hexadecimal value) =>
    isDigit_of_isLowerHex (isLowerHex_of_mem_hexadecimal member)
  rw [ofDigits_hexadecimal] at small
  exact Nat.lt_of_lt_of_le small (Nat.pow_le_pow_right (by decide) short)

/-- The digits are read back. -/
theorem fromStrRadix_hexadecimal {value : Nat} (fits : value < 2 ^ 64) :
    fromStrRadix 16 (2 ^ 64) (hexadecimal value) = some value := by
  have digits : ∀ byte ∈ hexadecimal value, isDigit 16 byte = true := fun byte member =>
    isDigit_of_isLowerHex (isLowerHex_of_mem_hexadecimal member)
  have noPlus : (hexadecimal value).head? ≠ some 0x2b := by
    intro plus
    cases isLowerHex_of_mem_hexadecimal (List.mem_of_head? plus)
  have some_digit : (hexadecimal value).isEmpty = false := by
    rw [List.isEmpty_eq_false_iff]
    exact hexadecimal_ne_nil value
  have all : (hexadecimal value).all (isDigit 16) = true := List.all_eq_true.mpr digits
  simp only [fromStrRadix, if_neg noPlus, some_digit, all, ofDigits_hexadecimal,
    Bool.false_eq_true, if_false, Bool.true_and, decide_eq_true_eq, if_pos fits]

/-- Canonical hexadecimal of few digits is a small number. -/
theorem validateBoundedHexField_iff {object : Object} {field : String} {value digits : Nat}
    (some_digit : 0 < digits) (narrow : digits ≤ 16)
    (found : object.lookup field = some (.string (hexConstant value))) :
    validateBoundedHexField object field digits = .ok () ↔ value < 16 ^ digits := by
  have text : utf8 (hexConstant value) = utf8 "0x" ++ hexadecimal value := utf8_append _ _
  have start : (utf8 "0x").length = 2 := rfl
  have positive := List.length_pos_iff.mpr (hexadecimal_ne_nil value)
  have dropped : (utf8 "0x" ++ hexadecimal value).drop 2 = hexadecimal value :=
    List.drop_left' start
  rw [← length_hexadecimal_le_iff some_digit]
  simp only [validateBoundedHexField, bind_eq_ok, string_eq_ok, validateHex_eq_ok, ensure_eq_ok,
    found, Option.some.injEq, Json.string.injEq]
  constructor
  · rintro ⟨_, ⟨rfl, -, high⟩, -⟩
    rw [text, List.length_append, start] at high
    omega
  · intro short
    have fits : value < 2 ^ 64 :=
      (@length_hexadecimal_le_iff value 16 (by decide)).mp (Nat.le_trans short narrow)
    have hex : isHexText (hexConstant value) = true := by
      rw [isHexText, text, dropped, List.take_left' start, Bool.and_eq_true]
      exact ⟨by decide, List.all_eq_true.mpr fun _ => isLowerHex_of_mem_hexadecimal⟩
    have size : (utf8 (hexConstant value)).length = 2 + (hexadecimal value).length := by
      rw [text, List.length_append, start]
    refine ⟨_, ⟨rfl, by omega, by omega⟩, (), ⟨hex, by omega, by omega⟩, ?_⟩
    rw [text, dropped, fromStrRadix_hexadecimal fits]
    rfl

theorem oneOf_operator {object : Object} {operation : ConditionalOperator}
    {accepted : List String}
    (found : object.lookup "operator" = some (.string (operatorName operation))) :
    oneOf object "operator" accepted = .ok () ↔ operatorName operation ∈ accepted := by
  have bounds : 1 ≤ (utf8 (operatorName operation)).length ∧
      (utf8 (operatorName operation)).length ≤ 32 := by
    cases operation <;> decide
  rw [oneOf_iff found]
  exact ⟨fun passed => passed.2.2, fun member => ⟨bounds.1, bounds.2, member⟩⟩

theorem oneOf_register {object : Object} {name : String}
    (found : object.lookup "register" = some (.string name)) :
    oneOf object "register" portableRegisters = .ok () ↔
      portableConditionalRegister name = true := by
  have every : ∀ name ∈ portableRegisters, 1 ≤ (utf8 name).length ∧ (utf8 name).length ≤ 32 := by
    decide
  rw [oneOf_iff found, portableConditionalRegister, List.contains_iff_mem]
  exact ⟨fun passed => passed.2.2,
    fun member => ⟨(every name member).1, (every name member).2, member⟩⟩

theorem exact_without_register (predicate : ConditionalPredicate) :
    Exact (predicateFields predicate) ["source", "operator", "value"] [] ↔
      predicate.registerName = "" := by
  rw [predicateFields]
  split_ifs with unnamed
  · refine iff_of_true ⟨by simp, by simp⟩ unnamed
  · refine iff_of_false (fun exact => ?_) unnamed
    have known := exact.known ("register", .string predicate.registerName) (by simp)
    simp at known

theorem exact_with_register (predicate : ConditionalPredicate) :
    Exact (predicateFields predicate) ["source", "register", "operator", "value"] [] ↔
      predicate.registerName ≠ "" := by
  rw [predicateFields]
  split_ifs with unnamed
  · refine iff_of_false (fun exact => ?_) (not_not_intro unnamed)
    exact absurd (exact.present "register" (by simp)) (by simp [List.lookup_cons])
  · refine iff_of_true ⟨by simp [List.lookup_cons], by simp⟩ unnamed

theorem lookup_register {predicate : ConditionalPredicate} (named : predicate.registerName ≠ "") :
    (predicateFields predicate).lookup "register" = some (.string predicate.registerName) := by
  rw [predicateFields, if_neg named]
  rfl

theorem lookup_operator (predicate : ConditionalPredicate) :
    (predicateFields predicate).lookup "operator" =
      some (.string (operatorName predicate.operation)) := by
  rw [predicateFields]
  split_ifs <;> rfl

theorem lookup_value (predicate : ConditionalPredicate) :
    (predicateFields predicate).lookup "value" = some (valueJson predicate) := by
  rw [predicateFields]
  split_ifs <;> rfl

theorem string_source (predicate : ConditionalPredicate) :
    string (predicateFields predicate) "source" 8 10 = .ok (sourceName predicate.source) := by
  rw [string_eq_ok]
  exact ⟨rfl, by cases predicate.source <;> decide, by cases predicate.source <;> decide⟩

/-- Two checks one behind the other. -/
theorem then_eq_ok {first second : Checked Unit} :
    (first >>= fun _ => second) = .ok () ↔ first = .ok () ∧ second = .ok () := by
  rw [bind_eq_ok]
  exact ⟨fun ⟨_, passed⟩ => passed, fun passed => ⟨(), passed⟩⟩

/-- The server accepts the predicates that are permitted. -/
theorem validatePredicate_iff {predicate : ConditionalPredicate}
    (fits : predicate.value < 2 ^ 64) :
    validatePredicate (.object (predicateFields predicate)) = .ok () ↔ predicate.Permitted := by
  simp only [validatePredicate, bind_eq_ok, okOr_eq_ok, asObject_eq_some, Json.object.injEq,
    exists_eq_left', string_source, Except.ok.injEq]
  have number := lookup_value predicate
  rw [ConditionalPredicate.Permitted]
  cases source : predicate.source with
  | registerValue =>
      rw [valueJson, source, if_neg (by decide)] at number
      have comparison : operatorName predicate.operation ∈ ["eq", "ne", "lt", "le", "gt", "ge"] ↔
          predicate.operation ≠ .multipleOf := by
        cases predicate.operation <;> decide
      rw [if_pos (show sourceName .registerValue = "register" from rfl)]
      simp only [then_eq_ok, exactKeys_eq_ok, exact_with_register, comparison,
        oneOf_operator (lookup_operator predicate),
        validateBoundedHexField_iff (by decide : 0 < 16) (Nat.le_refl 16) number]
      by_cases named : predicate.registerName = ""
      · rw [named]
        exact iff_of_false (fun passed => passed.1 rfl) (fun rules => absurd rules.1 (by decide))
      · rw [oneOf_register (lookup_register named)]
        exact ⟨fun passed => passed.2, fun rules => ⟨named, rules⟩⟩
  | threadId =>
      have equality : operatorName predicate.operation ∈ ["eq", "ne"] ↔
          predicate.operation = .equal ∨ predicate.operation = .notEqual := by
        cases predicate.operation <;> decide
      rw [valueJson, source, if_neg (by decide)] at number
      rw [if_neg (by decide), if_pos (show sourceName .threadId = "thread_id" from rfl)]
      simp only [then_eq_ok, exactKeys_eq_ok, exact_without_register, equality,
        oneOf_operator (lookup_operator predicate),
        validateBoundedHexField_iff (by decide : 0 < 8) (by decide) number]
      exact Iff.rfl
  | hitCount =>
      have every : operatorName predicate.operation ∈
          ["eq", "ne", "lt", "le", "gt", "ge", "multiple_of"] := by
        cases predicate.operation <;> decide
      have word : (UInt64.ofNat predicate.value).toNat = predicate.value :=
        UInt64.toNat_ofNat_of_lt' fits
      have small : predicate.value ≤ 4294967295 ↔ predicate.value < 2 ^ 32 := Nat.lt_succ_iff.symm
      rw [valueJson, if_pos source] at number
      rw [if_neg (by decide), if_neg (by decide),
        if_pos (show sourceName .hitCount = "hit_count" from rfl)]
      simp only [then_eq_ok, exactKeys_eq_ok, exact_without_register, every, true_and,
        oneOf_operator (lookup_operator predicate), integer_eq_ok, HasInteger, number,
        Option.some.injEq, Json.number.injEq, Number.posInt.injEq, exists_eq_left', word, small]

theorem validatePredicates_iff {predicates : List ConditionalPredicate}
    (fits : ∀ predicate ∈ predicates, predicate.value < 2 ^ 64) :
    validatePredicates (predicates.map fun predicate => .object (predicateFields predicate)) =
      .ok () ↔ ∀ predicate ∈ predicates, predicate.Permitted := by
  induction predicates with
  | nil => exact iff_of_true rfl (fun _ member => nomatch member)
  | cons predicate rest ih =>
      rw [List.forall_mem_cons] at fits
      rw [List.map_cons, validatePredicates, then_eq_ok, validatePredicate_iff fits.1, ih fits.2,
        List.forall_mem_cons]

/-- The server accepts the conditions that are permitted. -/
theorem validateConditionalSpec_iff {condition : ConditionalSpec}
    (fits : ∀ predicate ∈ condition.predicates, predicate.value < 2 ^ 64) :
    validateConditionalSpec [("condition", .object (conditionFields condition))] = .ok () ↔
      condition.Permitted := by
  have keys : Exact (conditionFields condition) ["mode", "predicates"] [] := by
    refine ⟨by simp [conditionFields, List.lookup_cons], by simp [conditionFields]⟩
  have mode : oneOf (conditionFields condition) "mode" ["all", "any"] = .ok () := by
    rw [oneOf_iff (show (conditionFields condition).lookup "mode" =
      some (.string (modeName condition.mode)) from rfl), modeName]
    split_ifs <;> decide
  have listed : ((conditionFields condition).lookup "predicates").bind Json.asArray =
      some (condition.predicates.map fun predicate => .object (predicateFields predicate)) :=
    rfl
  have object : (([("condition", Json.object (conditionFields condition))] : Object).lookup
      "condition").bind Json.asObject = some (conditionFields condition) :=
    rfl
  simp only [validateConditionalSpec, bind_eq_ok, okOr_eq_ok, object, Option.some.injEq,
    exists_eq_left', exactKeys_eq_ok, keys, mode, listed, true_and, Option.filter_some,
    List.length_map, Bool.and_eq_true, decide_eq_true_eq]
  constructor
  · rintro ⟨_, _, values, counted, valid⟩
    split_ifs at counted with count
    cases counted
    exact ⟨count, (validatePredicates_iff fits).mp valid⟩
  · rintro ⟨count, each⟩
    exact ⟨(), (), _, if_pos count, (validatePredicates_iff fits).mpr each⟩

end X64dbgMcp.Plugin
