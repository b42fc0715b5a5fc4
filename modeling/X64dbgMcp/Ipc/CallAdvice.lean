import X64dbgMcp.Ipc.CallStep

/-!
# What a call advises about a retry

Four facts of one mutating call, kept by each of its steps: past its admission
it has one; once its frame may be on the stream every error advises against a
retry; once its exchange failed the error says that the outcome is unknown; and
a call that wrote returns such an error unless it read a response of its own.
-/

namespace X64dbgMcp.Ipc

open Text Tools

/-! ## The errors -/

/-- An outcome that is no advice to retry. -/
def Cautious (outcome : Outcome) : Prop :=
  ∀ error, outcome = .error error → error.safeToRetry = false

theorem cautious_error {error : ToolError} (final : error.safeToRetry = false) :
    Cautious (.error error) := by
  rintro _ ⟨rfl⟩
  exact final

theorem applyPluginGuidance_safeToRetry (error : ToolError) (name : String) (arguments : Json)
    (mutation : Bool) :
    (applyPluginGuidance error name arguments mutation).safeToRetry = error.safeToRetry := by
  unfold applyPluginGuidance
  split
  · rfl
  · split
    · rfl
    · split <;> rfl

/-- Whatever hint the plugin gives, its error on a mutation is no advice to retry. -/
theorem cautious_outcomeOf (name : String) (arguments : Json) (response : IpcOutcome) :
    Cautious (outcomeOf name arguments true response) := by
  cases response with
  | ok result => rintro _ ⟨⟩
  | error error => exact cautious_error (applyPluginGuidance_safeToRetry _ _ _ _)

theorem transportError_safeToRetry (code : ErrorCode) (message : String)
    (safeToRetry guided : Bool) (details : Json) :
    (transportError code message safeToRetry guided details).safeToRetry = safeToRetry := by
  unfold transportError
  dsimp only
  split <;> rfl

theorem transportError_details (code : ErrorCode) (message : String) (safeToRetry guided : Bool)
    (details : Json) :
    (transportError code message safeToRetry guided details).details = details := by
  unfold transportError
  dsimp only
  split <;> rfl

namespace Call

variable {call : Call}

theorem failureError_safeToRetry (mutation : call.mutation = true) (failure : Failure) :
    (call.failureError failure).safeToRetry = false := by
  cases failure <;> simp [failureError, transportError_safeToRetry, mutation]

theorem failureError_details (call : Call) (failure : Failure) :
    (call.failureError failure).details = unknownTransportDetails call.operationId := by
  cases failure <;> simp [failureError, transportError_details]

/-- The failed exchange of an admitted mutation is reported as unknown. -/
theorem failureError_outcomeUnknown (admitted : call.operation.isSome = true)
    (failure : Failure) : (call.failureError failure).outcomeUnknown = true := by
  obtain ⟨⟨operation, fingerprint⟩, operationEq⟩ := Option.isSome_iff_exists.mp admitted
  simp [ToolError.outcomeUnknown, failureError_details, operationId, operationEq,
    unknownTransportDetails, unknownDetails, List.lookup_cons, Json.asStr]

end Call

/-! ## The points -/

/-- Past the admission, where the ledger knows the mutation. -/
def Point.isAdmitted : Point → Bool
  | .admitted | .refused | .waiting _ | .writing _ _ | .reading _ | .exchanged _ | .failed _
  | .marked _ | .flagged _ => true
  | _ => false

/-- From the stream on, no outcome is advice to retry. -/
def Point.Spent : Point → Prop
  | .writing _ _ | .reading _ | .exchanged _ | .failed _ | .marked _ | .flagged _ | .dropping
  | .dropped => True
  | .recording outcome | .returned outcome => Cautious outcome
  | _ => False

/-- The exchange failed, and an error told since then says that the outcome is
unknown. -/
def Point.Unanswered : Point → Prop
  | .failed _ | .marked _ | .flagged _ => True
  | .returned outcome => ∃ error, outcome = .error error ∧ error.outcomeUnknown = true
  | _ => False

namespace Point

variable {point : Point}

theorem isAdmitted_of_onStream (onStream : point.onStream = true) : point.isAdmitted = true := by
  cases point <;> first | rfl | contradiction

theorem spent_of_onStream (onStream : point.onStream = true) : point.Spent := by
  cases point <;> trivial

theorem not_unanswered_of_onStream (onStream : point.onStream = true) : ¬ point.Unanswered := by
  cases point <;> first | exact id | contradiction

end Point

namespace Call

/-- A mutation past its admission has one. -/
def Admitted (call : Call) : Prop :=
  call.mutation = true → call.point.isAdmitted = true → call.operation.isSome = true

/-- The frame of the mutation may have been written. -/
structure Spent (call : Call) : Prop where
  mutation : call.mutation = true
  point : call.point.Spent

/-- The exchange of the mutation ended without a response of its own. -/
structure Unanswered (call : Call) : Prop where
  mutation : call.mutation = true
  admitted : call.operation.isSome = true
  point : call.point.Unanswered

/-- The call wrote nothing before it took the stream, and it returns an outcome on
account of a response of its own, for which `read` stands, or reports the outcome as
unknown. -/
def Explained (read : Prop) (call : Call) : Prop :=
  match call.point with
  | .idle | .entered _ _ | .admitted | .refused | .waiting _ => call.wrote = false
  | .exchanged response => response.requestId = call.requestId → read
  | .recording _ => read
  | .returned outcome =>
      call.wrote = true →
        read ∨ ∃ error, outcome = .error error ∧ error.outcomeUnknown = true
  | _ => True

theorem Explained.mono {read later : Prop} {call : Call} (explained : call.Explained read)
    (implies : read → later) : call.Explained later := by
  simp only [Explained] at explained ⊢
  split at explained
  case h_6 => exact fun own => implies (explained own)
  case h_7 => exact implies explained
  case h_8 => exact fun wrote => (explained wrote).imp_left implies
  all_goals exact explained

end Call

namespace CallStep

variable {before after : Call} {enters : Bool}

theorem admitted (step : CallStep before enters after) (kept : before.Admitted) :
    after.Admitted := by
  intro mutation past
  cases step with
  | entered idle begins =>
      rcases begins with ⟨rfl, reads⟩ | ⟨_, ⟨_, _, rfl⟩ | rfl | rfl⟩
      · simp only [Call.mutation] at mutation
        rw [reads] at mutation
        contradiction
      all_goals simp [Point.isAdmitted] at past
  | started => rfl
  | requested request requestId admitted => exact kept mutation (by rw [admitted]; rfl)
  | refused admitted => exact kept mutation (by rw [admitted]; rfl)
  | acquired frame waiting => exact kept mutation (by rw [waiting]; rfl)
  | wrote point onStream stays => exact kept mutation (Point.isAdmitted_of_onStream onStream)
  | read point onStream stays => exact kept mutation (Point.isAdmitted_of_onStream onStream)
  | failed failure exchanging =>
      rcases exchanging with ⟨_, waiting⟩ | onStream | ⟨_, exchanged⟩
      · exact kept mutation (by rw [waiting]; rfl)
      · exact kept mutation (Point.isAdmitted_of_onStream onStream)
      · exact kept mutation (by rw [exchanged]; rfl)
  | marked failed => exact kept mutation (by rw [failed]; rfl)
  | flagged marked => exact kept mutation (by rw [marked]; rfl)
  | accepted exchanged => exact kept mutation (by rw [exchanged]; rfl)
  | _ => simp [Point.isAdmitted] at past

/-- Once its frame may have been written a mutation never advises a retry. -/
theorem spent (step : CallStep before enters after) (kept : before.Spent) : after.Spent := by
  rcases kept with ⟨mutation, point⟩
  cases step with
  | entered idle => simp [idle, Point.Spent] at point
  | answered outcome entered => simp [entered, Point.Spent] at point
  | started entered => simp [entered, Point.Spent] at point
  | requested request requestId admitted => simp [admitted, Point.Spent] at point
  | refused admitted => simp [admitted, Point.Spent] at point
  | unavailable outcome unsent =>
      rcases unsent with admitted | refused
      · simp [admitted, Point.Spent] at point
      · simp [refused, Point.Spent] at point
  | acquired => exact ⟨mutation, trivial⟩
  | wrote point onStream stays => exact ⟨mutation, Point.spent_of_onStream stays⟩
  | read point onStream stays =>
      rcases stays with stays | ⟨response, rfl⟩
      · exact ⟨mutation, Point.spent_of_onStream stays⟩
      · exact ⟨mutation, trivial⟩
  | failed => exact ⟨mutation, trivial⟩
  | dropping => exact ⟨mutation, trivial⟩
  | dropped => exact ⟨mutation, trivial⟩
  | @accepted response exchanged =>
      have cautious : Cautious
          (outcomeOf before.name before.arguments before.mutation response.outcome) := by
        rw [mutation]
        exact cautious_outcomeOf before.name before.arguments response.outcome
      refine ⟨mutation, ?_⟩
      dsimp only
      split
      · exact cautious
      · exact cautious
  | marked => exact ⟨mutation, trivial⟩
  | flagged => exact ⟨mutation, trivial⟩
  | @finished failure flagged =>
      exact ⟨mutation, cautious_error (Call.failureError_safeToRetry mutation failure)⟩
  | recorded told recording tells =>
      rw [recording] at point
      rcases tells with rfl | rfl
      · exact ⟨mutation, point⟩
      · exact ⟨mutation, cautious_error rfl⟩

/-- Once its exchange failed, a mutation says that its outcome is unknown. -/
theorem unanswered (step : CallStep before enters after) (kept : before.Unanswered) :
    after.Unanswered := by
  rcases kept with ⟨mutation, admitted, point⟩
  cases step with
  | entered idle => simp [idle, Point.Unanswered] at point
  | answered outcome entered => simp [entered, Point.Unanswered] at point
  | started entered => simp [entered, Point.Unanswered] at point
  | requested request requestId admitted => simp [admitted, Point.Unanswered] at point
  | refused admitted => simp [admitted, Point.Unanswered] at point
  | unavailable outcome unsent =>
      rcases unsent with admitted | refused
      · simp [admitted, Point.Unanswered] at point
      · simp [refused, Point.Unanswered] at point
  | acquired frame waiting => simp [waiting, Point.Unanswered] at point
  | wrote _ onStream => exact absurd point (Point.not_unanswered_of_onStream onStream)
  | read _ onStream => exact absurd point (Point.not_unanswered_of_onStream onStream)
  | failed => exact ⟨mutation, admitted, trivial⟩
  | dropping exchanging =>
      rcases exchanging with ⟨_, waiting⟩ | onStream
      · simp [waiting, Point.Unanswered] at point
      · exact absurd point (Point.not_unanswered_of_onStream onStream)
  | dropped dropping => simp [dropping, Point.Unanswered] at point
  | accepted exchanged => simp [exchanged, Point.Unanswered] at point
  | marked => exact ⟨mutation, admitted, trivial⟩
  | flagged => exact ⟨mutation, admitted, trivial⟩
  | @finished failure flagged =>
      exact ⟨mutation, admitted, _, rfl, Call.failureError_outcomeUnknown admitted failure⟩
  | recorded told recording => simp [recording, Point.Unanswered] at point

/-- A call that has just been handed over wrote nothing. -/
theorem explained_entered (step : CallStep before true after) : after.Explained False := by
  cases step with
  | entered idle begins =>
      rcases begins with ⟨rfl, -⟩ | ⟨-, ⟨operation, fingerprint, rfl⟩ | rfl | rfl⟩
      · rfl
      · rfl
      · exact fun wrote => absurd wrote Bool.false_ne_true
      · exact fun wrote => absurd wrote Bool.false_ne_true

/-- A step of a mutation under way explains its outcome, when only a read gives it a
response. -/
theorem explained {read : Prop} (step : CallStep before false after)
    (mutation : before.mutation = true) (admitted : before.Admitted)
    (kept : before.Explained read)
    (received : ∀ response, after.point = .exchanged response →
      response.requestId = after.requestId → read) : after.Explained read := by
  simp only [Call.Explained] at kept ⊢
  cases step with
  | answered outcome entered =>
      rw [entered] at kept
      exact fun wrote => absurd wrote (by simp [kept])
  | started entered => rwa [entered] at kept
  | requested request requestId isAdmitted => rwa [isAdmitted] at kept
  | refused isAdmitted => rwa [isAdmitted] at kept
  | unavailable outcome unsent =>
      have unwritten : before.wrote = false := by
        rcases unsent with isAdmitted | refused
        · rwa [isAdmitted] at kept
        · rwa [refused] at kept
      exact fun wrote => absurd wrote (by simp [unwritten])
  | wrote point onStream stays =>
      cases point <;> trivial
  | read point onStream stays =>
      rcases stays with stays | ⟨response, rfl⟩
      · cases point <;> trivial
      · exact received response rfl
  | accepted exchanged own =>
      rw [exchanged] at kept
      cases before.operation.isSome
      · simp only [Bool.false_eq_true, if_false]
        exact fun _ => .inl (kept own)
      · simp only [if_true]
        exact kept own
  | @finished failure flagged =>
      have operation := admitted mutation (by rw [flagged]; rfl)
      exact fun _ => .inr ⟨_, rfl, Call.failureError_outcomeUnknown operation failure⟩
  | recorded told recording =>
      rw [recording] at kept
      exact fun _ => .inl kept
  | _ => trivial

/-- A byte once written stays written. -/
theorem wrote_kept (step : CallStep before false after) (wrote : before.wrote = true) :
    after.wrote = true := by
  cases step with
  | wrote => rfl
  | _ => exact wrote

/-- A step keeps the tool and the arguments of a call under way. -/
theorem same_mutation (step : CallStep before enters after) (entered : before.point ≠ .idle) :
    after.mutation = before.mutation := by
  cases step with
  | entered idle => exact absurd idle entered
  | _ => rfl

end CallStep

end X64dbgMcp.Ipc
