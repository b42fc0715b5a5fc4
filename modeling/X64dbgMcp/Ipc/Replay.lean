import X64dbgMcp.Ipc.ToolError

/-!
# Replayed outcomes

What is recorded of a mutation is read back when its identifier comes again.  Reading
back falls silently to defaults wherever the record has another shape, so every field
of an error and every field of its next actions is followed here through the record.
-/

namespace X64dbgMcp.Ipc

open Text

namespace NextAction

/-- The optional values of an action are not null, for null reads as absent. -/
structure Plain (action : NextAction) : Prop where
  arguments : action.arguments ≠ some .null
  argumentsPatch : action.argumentsPatch ≠ some .null

theorem executionOf_text (execution : ActionExecution) :
    executionOf (.string execution.text) = some execution := by
  cases execution <;> rfl

theorem mapM_asStr (texts : List String) : (texts.map Json.string).mapM Json.asStr = some texts := by
  induction texts with
  | nil => rfl
  | cons text texts ih =>
      rw [List.map_cons, List.mapM_cons, ih]
      rfl

/-- The fields of a recorded action. -/
theorem lookup_toJson (action : NextAction) :
    action.toJson.get "code" = some (.string action.code) ∧
      action.toJson.get "execution" = some (.string action.execution.text) ∧
      action.toJson.get "reason" = some (.string action.reason) ∧
      action.toJson.get "tool" = action.tool.map .string ∧
      action.toJson.get "arguments" = action.arguments ∧
      action.toJson.get "argumentsPatch" = action.argumentsPatch ∧
      action.toJson.get "preserveArguments" =
        if action.preserveArguments.isEmpty then none
        else some (.array (action.preserveArguments.map .string)) := by
  rcases action with ⟨code, execution, reason, tool, arguments, patch, preserved⟩
  cases tool <;> cases arguments <;> cases patch <;> cases preserved <;>
    exact ⟨rfl, rfl, rfl, rfl, rfl, rfl, rfl⟩

theorem optional_of_get {value : Json} {key : String} {field : Option Json}
    (held : value.get key = field) (plain : field ≠ some .null) : optional value key = field := by
  rw [optional, held]
  rcases field with _ | ⟨field⟩
  · rfl
  · cases field with
    | null => exact absurd rfl plain
    | bool _ => rfl
    | number _ => rfl
    | string _ => rfl
    | array _ => rfl
    | object _ => rfl

theorem fromJson_toJson {action : NextAction} (plain : action.Plain) :
    fromJson action.toJson = some action := by
  rcases lookup_toJson action with ⟨code, execution, reason, tool, arguments, patch, preserved⟩
  have tool' : optional action.toJson "tool" = action.tool.map .string :=
    optional_of_get tool (by cases action.tool <;> simp)
  have arguments' := optional_of_get arguments plain.arguments
  have patch' := optional_of_get patch plain.argumentsPatch
  simp only [fromJson, code, execution, reason, tool', arguments', patch', preserved,
    Option.bind_eq_bind, Option.bind_some, Json.asStr, executionOf_text]
  clear plain code execution reason tool arguments patch preserved tool' arguments' patch'
  rcases action with ⟨code, execution, reason, tool, arguments, patch, preserved⟩
  rcases preserved with _ | ⟨first, rest⟩
  · cases tool <;> rfl
  · have texts := mapM_asStr (first :: rest)
    simp only [List.isEmpty_cons, Bool.false_eq_true, if_false, Json.asArray, Option.bind_some, texts]
    cases tool <;> rfl

theorem mapM_fromJson {actions : List NextAction} (plain : ∀ action ∈ actions, action.Plain) :
    (actions.map toJson).mapM fromJson = some actions := by
  induction actions with
  | nil => rfl
  | cons action actions ih =>
      have tail := ih fun other member => plain other (List.mem_cons_of_mem _ member)
      rw [List.map_cons, List.mapM_cons, fromJson_toJson (plain action List.mem_cons_self), tail]
      rfl

end NextAction

/-- A code that a plugin error can have keeps its text. -/
theorem stableErrorCode_text {code : ErrorCode}
    (known : code ∈ ErrorCode.stable ∨ code = .internal) : stableErrorCode code.text = code := by
  rcases known with stable | rfl
  · revert code
    decide
  · decide

theorem stableErrorCode_known (text : String) :
    stableErrorCode text ∈ ErrorCode.stable ∨ stableErrorCode text = .internal := by
  rw [stableErrorCode]
  rcases found : ErrorCode.stable.find? (fun known => known.text == text) with _ | ⟨code⟩
  · rw [found]
    exact .inr rfl
  · rw [found]
    exact .inl (List.mem_of_find?_eq_some found)

/-- What a replay shows of an outcome: everything but the message of an error. -/
def replayed : Outcome → Outcome
  | .ok result => .ok result
  | .error error => .error { error with message := "replayed debugger operation result" }

/-- An error that can be recorded without a loss. -/
structure Recordable (error : ToolError) : Prop where
  code : error.code ∈ ErrorCode.stable ∨ error.code = .internal
  nextActions : ∀ action ∈ error.nextActions, action.Plain

theorem decodeRecorded_error {error : ToolError} (recordable : Recordable error) :
    decodeRecorded (encodeRecorded (.error error)) = replayed (.error error) := by
  rcases error with ⟨code, message, recoverable, safeToRetry, suggestedAction, nextActions, details⟩
  have codeIs := stableErrorCode_text recordable.code
  have actions := NextAction.mapM_fromJson recordable.nextActions
  have suggested : (optionalString suggestedAction).asStr = suggestedAction := by
    cases suggestedAction <;> rfl
  have decoded : decodeRecorded (encodeRecorded (.error
      { code := code
        message := message
        recoverable := recoverable
        safeToRetry := safeToRetry
        suggestedAction := suggestedAction
        nextActions := nextActions
        details := details })) =
      .error
        { code := stableErrorCode code.text
          message := "replayed debugger operation result"
          recoverable := recoverable
          safeToRetry := safeToRetry
          suggestedAction := (optionalString suggestedAction).asStr
          nextActions := ((nextActions.map NextAction.toJson).mapM NextAction.fromJson).getD []
          details := details } :=
    rfl
  rw [decoded, codeIs, suggested, actions]
  rfl

theorem plain_ofTool (code reason tool : String) (execution : ActionExecution) :
    (NextAction.ofTool code execution reason tool (.object [])).Plain :=
  ⟨by simp [NextAction.ofTool], by simp [NextAction.ofTool]⟩

theorem recordable_applyPluginGuidance {error : ToolError} (recordable : Recordable error)
    (name : String) (arguments : Json) (mutation : Bool) :
    Recordable (applyPluginGuidance error name arguments mutation) := by
  rw [applyPluginGuidance]
  split_ifs with launch unknown
  · exact ⟨recordable.code, recordable.nextActions⟩
  · refine ⟨recordable.code, fun action member => ?_⟩
    rw [List.mem_singleton.mp member]
    exact plain_ofTool _ _ _ _
  · split
    · exact ⟨recordable.code, recordable.nextActions⟩
    · exact ⟨recordable.code, recordable.nextActions⟩
    · refine ⟨recordable.code, fun action member => ?_⟩
      rw [List.mem_singleton.mp member]
      exact plain_ofTool _ _ _ _
    · exact recordable

/-- Every outcome that a mutation records is replayed as it was, up to the message of an
error. -/
theorem outcome_replayed (name : String) (arguments : Json) (response : IpcOutcome) :
    decodeRecorded (encodeRecorded (outcomeOf name arguments true response)) =
      replayed (outcomeOf name arguments true response) := by
  cases response with
  | ok result => rfl
  | error error =>
      apply decodeRecorded_error
      apply recordable_applyPluginGuidance
      exact ⟨stableErrorCode_known error.code, by simp⟩

end X64dbgMcp.Ipc
