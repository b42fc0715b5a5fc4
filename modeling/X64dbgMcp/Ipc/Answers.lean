import X64dbgMcp.Ipc.Acceptance
import X64dbgMcp.Ipc.AtMostOnce
import X64dbgMcp.Ipc.CallStep

/-!
# Where an answer comes from

A call returns an error of the adapter itself, the recorded outcome of the call
that was admitted for the same operation, or what its own response says.  A
response is the call's own when the call read the frame that it stands in and it
carries the call's request identifier.  Nothing is assumed of the plugin and of
the other calls.
-/

namespace X64dbgMcp.Ipc

open Text Transition

/-- No outcome is known here. -/
def Point.isOpenEnded : Point → Bool
  | .entered _ _ | .exchanged _ | .recording _ | .returned _ => false
  | _ => true

namespace Call

/-- An answer of the adapter itself, for which no response is read. -/
inductive OwnAnswer (call : Call) : Outcome → Prop where
  | operationIdRequired : OwnAnswer call (.error operationIdRequired)
  | fingerprintFailed : OwnAnswer call (.error fingerprintFailed)
  | alreadyInFlight (operation : Uuid) : OwnAnswer call (.error (alreadyInFlight operation))
  | unknownOutcome (operation : Uuid) : OwnAnswer call (.error (unknownOutcome operation))
  | operationIdConflict (operation : Uuid) :
      OwnAnswer call (.error (operationIdConflict operation))
  | ledgerFull : OwnAnswer call (.error ledgerFull)
  | pluginUnavailable : OwnAnswer call (.error ToolError.pluginUnavailable)
  | failed (failure : Failure) : OwnAnswer call (.error (call.failureError failure))

/-- The operation and the fingerprint that a mutation asks an admission for. -/
def admission (codec : Codec) (call : Call) : Option (Uuid × String) := do
  let text ← (call.arguments.get "operation_id").bind Json.asStr
  let operation ← codec.parseUuid text
  let fingerprint ← codec.fingerprint call.name call.arguments
  some (operation, fingerprint)

end Call

namespace State

/-- In the run `past`, call `id` read the last portion of a frame with this
payload. -/
def HasRead (codec : Codec) (past : List Action) (id : Nat) (payload : Bytes) : Prop :=
  ∃ before count after outputs state buffer, past = before ++ .read id count :: after ∧
    execute (next codec) initial before = some (outputs, state) ∧
    (state.calls id).point = .reading buffer ∧
    readProgress (buffer ++ state.fromPlugin.take count) = .complete payload

/-- The outcome is what the response says that the call read and that carries its
own request identifier. -/
def Responded (codec : Codec) (past : List Action) (id : Nat) (call : Call) (outcome : Outcome) :
    Prop :=
  ∃ payload response, HasRead codec past id payload ∧ codec.fromSlice payload = some response ∧
    response.requestId = call.requestId ∧ call.accepted = some response ∧
    outcome = call.answer response

/-- The outcomes that call `id` may return. -/
inductive Answer (codec : Codec) (past : List Action) (calls : Nat → Call) (id : Nat) :
    Outcome → Prop where
  | own {outcome : Outcome} (adapter : (calls id).OwnAnswer outcome) :
      Answer codec past calls id outcome
  | replayed {first : Nat} {recorded : Outcome} (unwritten : (calls id).wrote = false)
      (returned : (calls first).point = .returned recorded)
      (responded : Responded codec past first (calls first) recorded)
      (same : (calls id).admission codec = (calls first).operation) :
      Answer codec past calls id (decodeRecorded (encodeRecorded recorded))
  | responded {outcome : Outcome} (own : Responded codec past id (calls id) outcome) :
      Answer codec past calls id outcome

/-- What is known of where the outcome of a call comes from. -/
def Supported (codec : Codec) (past : List Action) (calls : Nat → Call) (id : Nat) : Prop :=
  match (calls id).point with
  | .entered operation fingerprint =>
      (calls id).admission codec = some (operation, fingerprint)
  | .exchanged response =>
      ∃ payload, HasRead codec past id payload ∧ codec.fromSlice payload = some response
  | .recording outcome => Responded codec past id (calls id) outcome
  | .returned outcome => Answer codec past calls id outcome
  | _ => True

/-- The invariant of the answers: the recorded ones come from a response, too. -/
structure Sourced (codec : Codec) (past : List Action) (state : State) : Prop where
  supported : ∀ id, Supported codec past state.calls id
  recorded : ∀ operation fingerprint value touched,
    state.ledger.get operation = some ⟨fingerprint, .completed value, touched⟩ →
    ∃ first outcome, (state.calls first).point = .returned outcome ∧
      (state.calls first).operation = some (operation, fingerprint) ∧
      Responded codec past first (state.calls first) outcome ∧ value = encodeRecorded outcome

variable {codec : Codec} {past : List Action} {state target : State} {action : Action}
  {output : Output}

theorem Sourced.responded (sourced : Sourced codec past state) {id : Nat} {outcome : Outcome}
    (recording : (state.calls id).point = .recording outcome) :
    Responded codec past id (state.calls id) outcome := by
  have supported := sourced.supported id
  rwa [Supported, recording] at supported

theorem HasRead.later {id : Nat} {payload : Bytes} (read : HasRead codec past id payload)
    (action : Action) : HasRead codec (past ++ [action]) id payload := by
  rcases read with ⟨before, count, after, outputs, state, buffer, rfl, reads⟩
  exact ⟨before, count, after ++ [action], outputs, state, buffer, by simp, reads⟩

theorem Responded.later {id : Nat} {call : Call} {outcome : Outcome}
    (responded : Responded codec past id call outcome) (action : Action) :
    Responded codec (past ++ [action]) id call outcome := by
  rcases responded with ⟨payload, response, read, decoded⟩
  exact ⟨payload, response, read.later action, decoded⟩

/-- A call that is not moved keeps its support, for the steps do not touch a call that
returned. -/
theorem Supported.later {before after : Nat → Call} {id : Nat}
    (supported : Supported codec past before id) (same : after id = before id)
    (kept : ∀ first outcome, (before first).point = .returned outcome →
      after first = before first) (action : Action) :
    Supported codec (past ++ [action]) after id := by
  simp only [Supported, same] at supported ⊢
  cases point : (before id).point <;> rw [point] at supported <;> simp only at supported ⊢
  case entered => exact supported
  case exchanged =>
    rcases supported with ⟨payload, read, decoded⟩
    exact ⟨payload, read.later action, decoded⟩
  case recording => exact supported.later action
  case returned =>
    cases supported with
    | own adapter => exact .own (by rwa [same])
    | replayed unwritten returned responded admitted =>
        have stays := kept _ _ returned
        have unwrittenAfter : (after id).wrote = false := by rwa [same]
        rw [← stays] at returned responded admitted
        rw [← same] at admitted
        exact .replayed unwrittenAfter returned (responded.later action) admitted
    | responded own =>
        apply Answer.responded
        rw [same]
        exact own.later action

/-- The step of one call, with the support of its new position. -/
theorem supported_moved (supported : ∀ id, Supported codec past state.calls id)
    (stepped : next codec state action = some (output, target)) {id : Nat} {call : Call}
    (calls : target.calls = Function.update state.calls id call)
    (moved : Supported codec (past ++ [action]) target.calls id) :
    ∀ other, Supported codec (past ++ [action]) target.calls other := by
  intro other
  by_cases equal : other = id
  · rwa [equal]
  · refine (supported other).later ?_ (fun _ _ returned => returned_next returned stepped) action
    rw [calls]
    exact Function.update_of_ne equal call state.calls

theorem supported_of_point {calls : Nat → Call} {id : Nat}
    (openEnded : (calls id).point.isOpenEnded = true) : Supported codec past calls id := by
  rw [Supported]
  cases point : (calls id).point <;> rw [point] at openEnded <;> trivial

theorem supported_own {calls : Nat → Call} {id : Nat} {outcome : Outcome}
    (returned : (calls id).point = .returned outcome) (adapter : (calls id).OwnAnswer outcome) :
    Supported codec past calls id := by
  rw [Supported, returned]
  exact .own adapter

theorem supported_enter {name : String} {arguments : Json} {id : Nat} :
    Supported codec past (state.enter codec id name arguments).calls id := by
  simp only [enter]
  split
  · split
    · exact supported_own (by simp [setCall]) .operationIdRequired
    · rename_i operation parsed
      split
      · exact supported_own (by simp [setCall]) .fingerprintFailed
      · rename_i fingerprint printed
        rw [Supported]
        simp only [setCall, Function.update_self]
        obtain ⟨text, textEq, parsedEq⟩ := Option.bind_eq_some_iff.mp parsed
        simp [Call.admission, textEq, parsedEq, printed]
  · exact supported_of_point (by simp [setCall, Point.isOpenEnded])

/-- What a repeated mutation is told. -/
theorem supported_begin (sourced : Sourced codec past state) {id now : Nat} {operation : Uuid}
    {fingerprint : String} (entered : (state.calls id).point = .entered operation fingerprint)
    (unwritten : (state.calls id).wrote = false) :
    Supported codec (past ++ [action]) (state.begin id now operation fingerprint).calls id := by
  have admission := sourced.supported id
  rw [Supported, entered] at admission
  cases found : (state.ledger.expire now).get operation with
  | some entry =>
      rw [begin_of_known found]
      obtain ⟨key, status, touched⟩ := entry
      by_cases same : key = fingerprint
      · subst same
        cases status with
        | inFlight => exact supported_own (by simp [setPoint, setCall, knownAnswer]) (.alreadyInFlight operation)
        | unknown => exact supported_own (by simp [setPoint, setCall, knownAnswer]) (.unknownOutcome operation)
        | completed value =>
            rcases sourced.recorded operation key value touched
              (OperationLedger.get_of_get_expire found) with
              ⟨first, outcome, returned, admitted, responded, rfl⟩
            have distinct : first ≠ id := by
              rintro rfl
              rw [entered] at returned
              contradiction
            rw [Supported]
            simp only [setPoint, setCall, Function.update_self, knownAnswer, ne_eq,
              not_true_eq_false, if_false]
            have stays := Function.update_of_ne distinct { state.calls id with
              point := .returned (decodeRecorded (encodeRecorded outcome)) } state.calls
            rw [← stays] at returned admitted responded
            refine .replayed ?_ returned (responded.later action) ?_
            · rwa [Function.update_self]
            · rw [Function.update_self, admitted]
              exact admission
      · exact supported_own (by simp [setPoint, setCall, knownAnswer, same]) (.operationIdConflict operation)
  | none =>
      simp only [State.begin]
      rcases OperationLedger.begin_of_unknown found with full | ⟨started, inserted⟩
      · rw [full]
        exact supported_own (by simp [setPoint, setCall, refusal]) .ledgerFull
      · rw [started]
        exact supported_of_point (by simp [refusal, setCall, Point.isOpenEnded])

/-- The portion that completes a frame is the one that the call has read. -/
theorem supported_read {id count : Nat} {buffer : Bytes} {outputs : List Output}
    (run : execute (next codec) initial past = some (outputs, state))
    (reading : (state.calls id).point = .reading buffer) :
    Supported codec (past ++ [.read id count]) (state.read codec id count buffer).calls id := by
  simp only [read]
  split
  · exact supported_of_point (by simp [setPoint, setCall, Point.isOpenEnded])
  · exact supported_of_point (by simp [release, setPoint, setCall, Point.isOpenEnded])
  · rename_i payload complete
    simp only [receive]
    split
    · exact supported_of_point (by simp [release, setPoint, setCall, Point.isOpenEnded])
    · rename_i response decoded
      split
      · rw [Supported]
        simp only [release, setPoint, setCall, Function.update_self]
        exact ⟨payload, ⟨past, count, [], outputs, state, buffer, rfl, run, reading, complete⟩,
          decoded⟩
      · exact supported_of_point (by simp [setPoint, setCall, Point.isOpenEnded])

theorem supported_correlate {id : Nat} {response : IpcResponse}
    (supported : Supported codec past state.calls id)
    (exchanged : (state.calls id).point = .exchanged response)
    (own : response.requestId = (state.calls id).requestId) :
    Supported codec (past ++ [action]) (state.correlate id response).calls id := by
  rw [Supported, exchanged] at supported
  rcases supported with ⟨payload, read, decoded⟩
  have responded : Responded codec (past ++ [action]) id
      ((state.correlate id response).calls id) ((state.calls id).answer response) := by
    refine ⟨payload, response, read.later action, decoded, ?_⟩
    simp only [correlate, own, ne_eq, not_true_eq_false, if_false, setCall, Function.update_self,
      true_and]
    rfl
  rw [Supported]
  cases mutation : (state.calls id).operation.isSome
  · have point : ((state.correlate id response).calls id).point =
        .returned ((state.calls id).answer response) := by
      simp [correlate, own, setCall, mutation, Call.answer]
    rw [point]
    exact .responded responded
  · have point : ((state.correlate id response).calls id).point =
        .recording ((state.calls id).answer response) := by
      simp [correlate, own, setCall, mutation, Call.answer]
    rw [point]
    exact responded

/-- A recorded outcome was recorded before, or this step records it. -/
theorem completed_next (admissions : Admissions state.ledger state.calls)
    (stepped : next codec state action = some (output, target)) {operation : Uuid}
    {fingerprint : String} {value : Json} {touched : Nat}
    (found : target.ledger.get operation = some ⟨fingerprint, .completed value, touched⟩) :
    (∃ before, state.ledger.get operation = some ⟨fingerprint, .completed value, before⟩) ∨
      ∃ id outcome, (state.calls id).point = .recording outcome ∧
        (state.calls id).operation = some (operation, fingerprint) ∧
        target.calls id = { state.calls id with point := .returned outcome } ∧
        value = encodeRecorded outcome := by
  cases shape_next stepped with
  | plugin ledger calls => exact .inl ⟨touched, ledger ▸ found⟩
  | moved id call ledger calls moves => exact .inl ⟨touched, ledger ▸ found⟩
  | wrote id call frame sent point ledger calls moves => exact .inl ⟨touched, ledger ▸ found⟩
  | begun id now other key isBegin entered equal =>
      left
      rw [equal] at found
      cases known : (state.ledger.expire now).get other with
      | some entry =>
          rw [begin_of_known known] at found
          simp only [setPoint, setCall, OperationLedger.get_touch] at found
          split at found
          · obtain ⟨⟨foundKey, status, before⟩, foundBefore, equal⟩ :=
              Option.map_eq_some_iff.mp found
            cases equal
            exact ⟨before, OperationLedger.get_of_get_expire foundBefore⟩
          · exact ⟨touched, OperationLedger.get_of_get_expire found⟩
      | none =>
          simp only [State.begin] at found
          rcases OperationLedger.begin_of_unknown known with full | ⟨started, inserted⟩
          · rw [full] at found
            exact ⟨touched, OperationLedger.get_of_get_expire found⟩
          · rw [started] at found
            simp only [refusal, setCall, inserted] at found
            split at found
            · cases found
            · exact ⟨touched, OperationLedger.get_of_get_expire found⟩
  | abandoned id other key refused admission equal =>
      left
      obtain ⟨updated, targetEq, told⟩ := abandon_of_holds admissions
        ⟨admission, by simp [refused, Point.isOpen]⟩
      rw [equal, targetEq] at found
      simp only [setPoint, setCall, told] at found
      split at found
      · cases found
      · exact ⟨touched, found⟩
  | failed id now failure failed equal =>
      left
      rw [equal] at found
      cases admission : (state.calls id).operation with
      | none =>
          simp only [markUnknown, admission] at found
          exact ⟨touched, found⟩
      | some admitted =>
          obtain ⟨updated, targetEq, told⟩ := markUnknown_of_holds admissions
            ⟨admission, by simp [failed, Point.isOpen]⟩
          rw [targetEq] at found
          simp only [setPoint, setCall, told] at found
          split at found
          · cases found
          · exact ⟨touched, found⟩
  | completed id now other key outcome recording admission equal =>
      obtain ⟨updated, targetEq, told⟩ := complete_of_holds admissions
        ⟨admission, by simp [recording, Point.isOpen]⟩
      rw [equal, targetEq] at found ⊢
      simp only [setPoint, setCall, told] at found
      split at found
      · rename_i same
        cases found
        rw [same]
        exact .inr ⟨id, outcome, recording, admission, by simp [setPoint, setCall], rfl⟩
      · exact .inl ⟨touched, found⟩

/-- Step lemma for the calls. -/
theorem supported_next (sourced : Sourced codec past state)
    (admissions : Admissions state.ledger state.calls) {outputs : List Output}
    (run : execute (next codec) initial past = some (outputs, state))
    (stepped : next codec state action = some (output, target)) (id : Nat) :
    Supported codec (past ++ [action]) target.calls id := by
  have moved {id : Nat} {call : Call} (calls : target.calls = Function.update state.calls id call)
      (moves : Supported codec (past ++ [action]) target.calls id) :
      ∀ other, Supported codec (past ++ [action]) target.calls other :=
    supported_moved sourced.supported stepped calls moves
  cases stepped_next stepped with
  | enter idle =>
      obtain ⟨call, calls, -⟩ := callStep_enter idle
      exact moved calls supported_enter id
  | begin entered =>
      obtain ⟨call, calls, -⟩ := callStep_begin entered
      exact moved calls (supported_begin sourced entered
        (admissions.unsent _ (by simp [entered, Point.isUnsent]))) id
  | unavailable admitted unready admission =>
      exact moved rfl (supported_own (by simp [setPoint, setCall]) .pluginUnavailable) id
  | abandon refused admission =>
      obtain ⟨updated, targetEq, -⟩ := abandon_of_holds admissions
        ⟨admission, by simp [refused, Point.isOpen]⟩
      rw [targetEq] at moved ⊢
      exact moved rfl (supported_own (by simp [setPoint, setCall]) .pluginUnavailable) id
  | write writing positive within =>
      refine moved rfl (supported_of_point ?_) id
      simp only [State.write, setCall, Function.update_self]
      split <;> rfl
  | read reading wants positive within available =>
      obtain ⟨call, calls, -⟩ := callStep_read reading
      exact moved calls (supported_read run reading) id
  | accept exchanged own =>
      obtain ⟨call, calls, -⟩ := callStep_correlate exchanged own
      exact moved calls (supported_correlate (sourced.supported _) exchanged own) id
  | markUnknown failed =>
      refine moved (markUnknown_calls state _ _ _) (supported_of_point ?_) id
      simp [markUnknown_calls, Point.isOpenEnded]
  | remember dropping =>
      refine moved rfl (supported_of_point ?_) id
      simp [remember, setPoint, setCall, Point.isOpenEnded]
  | finish flagged =>
      rename_i finished failure
      have adapter : ((state.remember finished (.returned (.error
          ((state.calls finished).failureError failure)))).calls finished).OwnAnswer
          (.error ((state.calls finished).failureError failure)) := by
        simp only [remember, setPoint, setCall, Function.update_self]
        exact .failed failure
      exact moved rfl (supported_own (by simp [remember, setPoint, setCall]) adapter) id
  | complete recording admission =>
      obtain ⟨updated, targetEq, -⟩ := complete_of_holds admissions
        ⟨admission, by simp [recording, Point.isOpen]⟩
      have responded := sourced.responded recording
      rw [targetEq] at moved ⊢
      refine moved rfl ?_ id
      simp only [Supported, setPoint, setCall, Function.update_self]
      apply Answer.responded
      rw [Function.update_self]
      exact responded.later _
  | pluginAnswer complete encoded =>
      exact (sourced.supported id).later rfl (fun _ _ _ => rfl) _
  | pluginSend => exact (sourced.supported id).later rfl (fun _ _ _ => rfl) _
  | _ =>
      refine moved rfl (supported_of_point ?_) id
      simp [setPoint, setCall, release, Point.isOpenEnded]

/-- Step lemma. -/
theorem sourced_next (sourced : Sourced codec past state)
    (admissions : Admissions state.ledger state.calls) {outputs : List Output}
    (run : execute (next codec) initial past = some (outputs, state))
    (stepped : next codec state action = some (output, target)) :
    Sourced codec (past ++ [action]) target where
  supported := supported_next sourced admissions run stepped
  recorded := by
    intro operation fingerprint value touched found
    rcases completed_next admissions stepped found with
      ⟨before, foundBefore⟩ | ⟨id, outcome, recording, admission, moved, valueEq⟩
    · rcases sourced.recorded operation fingerprint value before foundBefore with
        ⟨first, outcome, returned, admission, responded, valueEq⟩
      refine ⟨first, outcome, ?_⟩
      rw [returned_next returned stepped]
      exact ⟨returned, admission, responded.later action, valueEq⟩
    · refine ⟨id, outcome, ?_⟩
      rw [moved]
      exact ⟨rfl, admission, (sourced.responded recording).later action, valueEq⟩

/-- Run lemma. -/
theorem sourced_of_execute {actions : List Action} {outputs : List Output} {reached : State}
    (run : execute (next codec) initial actions = some (outputs, reached)) :
    Sourced codec actions reached := by
  refine execute_past (Sourced codec) ?_ ?_ run
  · intro past earlier state action output target reaches sourced stepped
    exact sourced_next sourced (admissions_of_execute reaches) reaches stepped
  · constructor
    · exact fun id => supported_of_point rfl
    · simp [initial, OperationLedger.get]

end State

end X64dbgMcp.Ipc
