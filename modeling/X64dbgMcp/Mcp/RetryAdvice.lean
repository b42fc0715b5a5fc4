import X64dbgMcp.Ipc.CallAdvice
import X64dbgMcp.Mcp.Sidecar

/-!
# Retry advice

A client may repeat a mutation when its error says so.  A run of `call_tool` is
followed from the call to its reply, whatever the other calls, the ledger, the
stream and the plugin do in between: the advice of the reply never contradicts
what the run may have written, and an exchange that ended without a response is
reported with an unknown outcome.
-/

namespace X64dbgMcp.Mcp

open Collection Ipc Text Tools Transition

/-- The request calls a mutating tool. -/
def Mutating (params : Json) : Prop :=
  ∃ name, (params.get "name").bind Json.asStr = some name ∧
    isMutationCall name ((params.get "arguments").getD .null) = true

/-! ## Replies -/

/-- An error of the reply is no advice to retry. -/
def Reply.Declines (reply : Reply) : Prop :=
  ∀ error, reply = .failure error → error.get "safeToRetry" = some (.bool false)

/-- The reply is an error that says that the outcome is unknown. -/
def Reply.SaysUnknown (reply : Reply) : Prop :=
  ∃ error, reply = .failure error ∧
    ((error.get "details").bind (·.get "outcome")).bind Json.asStr = some "unknown"

section Errors

variable {floatText : UInt64 → List UInt8}

theorem toolFailure_eq (floatText : UInt64 → List UInt8) (error : ReportedError) :
    ∃ value, toolFailure floatText error = .failure value ∧
      value.get "safeToRetry" = some (.bool error.safeToRetry) ∧
      value.get "details" = some error.details := by
  refine ⟨_, rfl, ?_, ?_⟩
  · simp only [Json.get_object, List.cons_append, List.lookup_cons]
    simp
  · simp only [Json.get_object, List.cons_append, List.lookup_cons]
    simp

theorem declines_toolFailure {error : ReportedError} (final : error.safeToRetry = false) :
    (toolFailure floatText error).Declines := by
  rcases toolFailure_eq floatText error with ⟨value, failure, safeToRetry, -⟩
  intro other equal
  cases failure.symm.trans equal
  rw [safeToRetry, final]

theorem saysUnknown_toolFailure {error : ToolError} (outcomeUnknown : error.outcomeUnknown = true) :
    (toolFailure floatText (.ofToolError error)).SaysUnknown := by
  rcases toolFailure_eq floatText (.ofToolError error) with ⟨value, failure, -, details⟩
  refine ⟨value, failure, ?_⟩
  simp only [ToolError.outcomeUnknown] at outcomeUnknown
  split at outcomeUnknown
  · rename_i outcome found
    rw [details, Option.bind_some]
    simp only [ReportedError.ofToolError]
    rw [found, beq_iff_eq.mp outcomeUnknown]
  · contradiction

end Errors

section Presented

variable {config : Config} {name : String} {arguments : Json}

theorem readOnly_of_eq {tool : String} (same : name = tool)
    (reads : isMutationCall tool arguments = false) : isMutationCall name arguments ≠ true := by
  rw [same, reads]
  exact Bool.false_ne_true

/-- The sidecar adds no advice of its own to the outcome of a mutation. -/
theorem declines_present (mutation : isMutationCall name arguments = true) {outcome : Outcome}
    (cautious : Cautious outcome) : (present config name arguments outcome).Declines := by
  cases outcome with
  | error error => exact declines_toolFailure (cautious error rfl)
  | ok value =>
      simp only [present]
      split
      · exact declines_toolFailure rfl
      · split
        · rename_i memory
          exact absurd mutation (readOnly_of_eq memory (by rfl))
        · rintro _ ⟨⟩

theorem saysUnknown_present {error : ToolError} (outcomeUnknown : error.outcomeUnknown = true) :
    (present config name arguments (.error error)).SaysUnknown :=
  saysUnknown_toolFailure outcomeUnknown

end Presented

/-! ## The call -/

/-- Without its instance identifier a mutation is still one. -/
theorem isMutationCall_remove (name : String) (arguments : Json) :
    isMutationCall name (remove arguments "instance_id") = isMutationCall name arguments := by
  cases arguments with
  | object fields =>
      simp only [isMutationCall, remove, Json.get_object]
      rw [lookup_without_of_ne (by decide)]
  | _ => rfl

/-- A mutating call goes to the adapter as a mutation, or is declined at once. -/
theorem callTool_of_mutating {config : Config} {params : Json} (mutating : Mutating params) :
    (∃ reply, callTool config params = .replied reply ∧ reply.Declines) ∨
      (∃ name arguments dispatched, callTool config params = .called name arguments dispatched ∧
        isMutationCall name arguments = true ∧ isMutationCall name dispatched = true) ∨
      callTool config params = .panicked := by
  rcases mutating with ⟨name, nameEq, mutation⟩
  have notEvents : name ≠ "events.wait" := by
    intro same
    exact readOnly_of_eq same (by rfl) mutation
  have notLogs : ¬ (name = "logs.read" ∨ name = "logs.status") := by
    rintro (same | same)
    · exact readOnly_of_eq same (by rfl) mutation
    · exact readOnly_of_eq same (by rfl) mutation
  have notMemory : name ≠ "memory.read" := by
    intro same
    exact readOnly_of_eq same (by rfl) mutation
  simp only [callTool, nameEq]
  split
  · exact .inl ⟨_, rfl, by rintro _ ⟨⟩⟩
  · split
    · exact .inl ⟨_, rfl, by rintro _ ⟨⟩⟩
    · split
      · exact .inl ⟨_, rfl, declines_toolFailure rfl⟩
      · simp only [notEvents, false_and, if_false]
        split
        · exact .inr (.inr rfl)
        · split
          · exact .inl ⟨_, rfl, declines_toolFailure rfl⟩
          · exact .inr (.inl ⟨_, _, _, rfl, mutation,
              (isMutationCall_remove name _).trans mutation⟩)

/-! ## The run -/

namespace Sidecar

/-- The adapter's call of a run. -/
def callOf (sidecar : Sidecar) (id : Nat) : Call :=
  sidecar.adapter.calls id

variable {config : Config} {sidecar target : Sidecar} {action : Action} {output : Output} {id : Nat}

/-- What a step does to a run that has begun. -/
theorem step_run (begun : sidecar.runs id ≠ .absent)
    (stepped : next config sidecar action = some (output, target)) :
    (target.runs id = sidecar.runs id ∧
        (target.callOf id = sidecar.callOf id ∨
          CallStep (sidecar.callOf id) false (target.callOf id) ∧
            ∃ inner, action = .adapter inner ∧
              State.next config.codec sidecar.adapter inner = some (output, target.adapter))) ∨
      (target.callOf id = sidecar.callOf id ∧
        ((∃ name arguments outcome, sidecar.runs id = .called name arguments ∧
            (sidecar.callOf id).point = .returned outcome ∧
            target.runs id = .replied (present config name arguments outcome)) ∨
          sidecar.runs id = .barrier ∨ sidecar.runs id = .logging)) := by
  cases action with
  | call other params =>
      simp only [next] at stepped
      split at stepped
      · rename_i absent
        have different : id ≠ other := by
          rintro rfl
          exact begun absent
        have entered {toolRun : ToolRun} {name : String} {arguments : Json}
            (enters : sidecar.enter config other toolRun name arguments = some (output, target)) :
            target.runs id = sidecar.runs id ∧ target.callOf id = sidecar.callOf id := by
          rcases Option.map_eq_some_iff.mp enters with ⟨⟨shown, adapter⟩, entering, equal⟩
          cases equal
          rcases State.next_enter entering with ⟨-, -, adapterEq⟩
          cases adapterEq
          exact ⟨Function.update_of_ne different _ _, State.enter_of_ne different name arguments⟩
        simp only [call] at stepped
        split at stepped
        · cases stepped
          exact .inl ⟨Function.update_of_ne different _ _, .inl rfl⟩
        · cases stepped
          exact .inl ⟨Function.update_of_ne different _ _, .inl rfl⟩
        · exact .inl ⟨(entered stepped).1, .inl (entered stepped).2⟩
        · exact .inl ⟨(entered stepped).1, .inl (entered stepped).2⟩
        · contradiction
      · contradiction
  | adapter action =>
      simp only [next] at stepped
      split at stepped
      · contradiction
      · rename_i inside
        rcases Option.map_eq_some_iff.mp stepped with ⟨⟨shown, adapter⟩, step, equal⟩
        cases equal
        rw [Bool.not_eq_true] at inside
        have own := State.callStep_next step id
        rw [inside] at own
        exact .inl ⟨rfl, own.imp_right fun own => ⟨own, action, rfl, step⟩⟩
  | resume other =>
      by_cases same : id = other
      · subst same
        simp only [next] at stepped
        split at stepped
        · rename_i name arguments outcome called returned
          cases stepped
          exact .inr ⟨rfl, .inl ⟨name, arguments, outcome, called, returned,
            Function.update_self _ _ _⟩⟩
        · rename_i outcome barrier returned
          cases stepped
          exact .inr ⟨rfl, .inr (.inl barrier)⟩
        · contradiction
      · simp only [next] at stepped
        split at stepped
        · cases stepped
          exact .inl ⟨Function.update_of_ne same _ _, .inl rfl⟩
        · cases stepped
          exact .inl ⟨Function.update_of_ne same _ _, .inl rfl⟩
        · contradiction
  | logged other result =>
      simp only [next] at stepped
      split at stepped
      · rename_i logging
        by_cases same : id = other
        · subst same
          cases stepped
          exact .inr ⟨rfl, .inr (.inr logging)⟩
        · cases stepped
          exact .inl ⟨Function.update_of_ne same _ _, .inl rfl⟩
      · contradiction

theorem frame_next {operation : Option Uuid}
    (stepped : next config sidecar action = some (.frame id operation, target)) :
    (sidecar.callOf id).point.onStream = true ∧ (target.callOf id).wrote = true := by
  have entered {other : Nat} {toolRun : ToolRun} {name : String} {arguments : Json} :
      sidecar.enter config other toolRun name arguments ≠ some (.frame id operation, target) := by
    intro enters
    rcases Option.map_eq_some_iff.mp enters with ⟨⟨shown, adapter⟩, entering, equal⟩
    cases equal
    rcases State.next_enter entering with ⟨-, silent, -⟩
    contradiction
  cases action with
  | call other params =>
      simp only [next] at stepped
      split at stepped
      · simp only [call] at stepped
        split at stepped
        · cases stepped
        · cases stepped
        · exact absurd stepped entered
        · exact absurd stepped entered
        · contradiction
      · contradiction
  | adapter action =>
      simp only [next] at stepped
      split at stepped
      · contradiction
      · rcases Option.map_eq_some_iff.mp stepped with ⟨⟨shown, adapter⟩, step, equal⟩
        cases equal
        exact State.frame_next step
  | resume other =>
      simp only [next] at stepped
      split at stepped
      · cases stepped
      · cases stepped
      · contradiction
  | logged other result =>
      simp only [next] at stepped
      split at stepped
      · cases stepped
      · contradiction

/-- A mutation on its way: its call, and the reply once it has one. -/
structure Tracked (config : Config) (call : Call) (toolRun : ToolRun) : Prop where
  mutation : call.mutation = true
  admitted : call.Admitted
  entered : call.point ≠ .idle
  run : ∃ name arguments, isMutationCall name arguments = true ∧
    (toolRun = .called name arguments ∨
      ∃ outcome, call.point = .returned outcome ∧
        toolRun = .replied (present config name arguments outcome))

/-- A mutation that never reaches the adapter. -/
structure Declined (call : Call) (toolRun : ToolRun) : Prop where
  idle : call.point = .idle
  run : ∃ reply, toolRun = .replied reply ∧ reply.Declines

theorem Tracked.begun {call : Call} {toolRun : ToolRun} (tracked : Tracked config call toolRun) :
    toolRun ≠ .absent := by
  rcases tracked.run with ⟨name, arguments, -, rfl | ⟨outcome, -, rfl⟩⟩ <;> nofun

theorem declined_next (declined : Declined (sidecar.callOf id) (sidecar.runs id))
    (stepped : next config sidecar action = some (output, target)) :
    Declined (target.callOf id) (target.runs id) := by
  rcases declined.run with ⟨reply, replied, declines⟩
  have begun : sidecar.runs id ≠ .absent := by simp [replied]
  rcases step_run begun stepped with ⟨runEq, same | ⟨step, -⟩⟩ | ⟨same, resumed⟩
  · exact ⟨same ▸ declined.idle, reply, runEq.trans replied, declines⟩
  · have underway := step.isUnderway
    rw [declined.idle] at underway
    contradiction
  · simp [replied] at resumed

theorem tracked_next (tracked : Tracked config (sidecar.callOf id) (sidecar.runs id))
    (stepped : next config sidecar action = some (output, target)) :
    Tracked config (target.callOf id) (target.runs id) := by
  rcases tracked.run with ⟨name, arguments, mutation, run⟩
  rcases step_run tracked.begun stepped with ⟨runEq, same | ⟨step, -⟩⟩ | ⟨same, resumed⟩
  · rw [same, runEq]
    exact tracked
  · refine ⟨(step.same_mutation tracked.entered).trans tracked.mutation,
      step.admitted tracked.admitted, step.not_idle, name, arguments, mutation, ?_⟩
    rcases run with called | ⟨outcome, returned, -⟩
    · exact .inl (runEq.trans called)
    · have underway := step.isUnderway
      rw [returned] at underway
      contradiction
  · rw [same]
    refine ⟨tracked.mutation, tracked.admitted, tracked.entered, name, arguments, mutation, ?_⟩
    rcases run with called | ⟨outcome, -, replied⟩
    · simp only [called, ToolRun.called.injEq, reduceCtorEq, or_false] at resumed
      rcases resumed with ⟨_, _, outcome, ⟨rfl, rfl⟩, returned, replied⟩
      exact .inr ⟨outcome, returned, replied⟩
    · simp [replied] at resumed

/-- A fact that every step of the mutation keeps is kept by every step of the
sidecar. -/
theorem call_next {holds : Call → Prop}
    (kept : ∀ ⦃before after⦄, CallStep before false after → holds before → holds after)
    (tracked : Tracked config (sidecar.callOf id) (sidecar.runs id))
    (held : holds (sidecar.callOf id))
    (stepped : next config sidecar action = some (output, target)) :
    holds (target.callOf id) := by
  rcases step_run tracked.begun stepped with ⟨-, same | ⟨step, -⟩⟩ | ⟨same, -⟩
  · rwa [same]
  · exact kept step held
  · rwa [same]

/-- What the first step of a mutating call leads to. -/
theorem call_mutating {params : Json} (fresh : sidecar.callOf id = {})
    (mutating : Mutating params)
    (stepped : next config sidecar (.call id params) = some (output, target)) :
    output = .silent ∧
      (Declined (target.callOf id) (target.runs id) ∨
        Tracked config (target.callOf id) (target.runs id) ∧
          (target.callOf id).Explained False) := by
  simp only [next] at stepped
  split at stepped
  · simp only [call] at stepped
    rcases @callTool_of_mutating config params mutating with
      ⟨reply, replied, declines⟩ | ⟨name, arguments, dispatched, called, mutation, sent⟩ | panicked
    · rw [replied] at stepped
      cases stepped
      exact ⟨rfl, .inl ⟨congrArg Call.point fresh, reply, Function.update_self _ _ _, declines⟩⟩
    · rw [called] at stepped
      rcases Option.map_eq_some_iff.mp stepped with ⟨⟨shown, adapter⟩, entering, equal⟩
      cases equal
      rcases State.next_enter entering with ⟨idle, rfl, rfl⟩
      rcases @State.callStep_enter config.codec _ _ name dispatched idle with
        ⟨entered, updated, step⟩
      have callEq : (sidecar.adapter.enter config.codec id name dispatched).calls id = entered := by
        rw [updated, Function.update_self]
      rw [← callEq] at step
      refine ⟨rfl, .inr ⟨⟨?_, ?_, step.not_idle, name, arguments, mutation, ?_⟩,
        step.explained_entered⟩⟩
      · exact (State.enter_mutation id name dispatched).trans sent
      · exact step.admitted fun _ past => by simp [idle, Point.isAdmitted] at past
      · exact .inl (Function.update_self _ _ _)
    · rw [panicked] at stepped
      contradiction
  · contradiction

/-- What the step that writes the frame of a mutation leads to holds of its call at the
end. -/
theorem call_of_frames {closed : Call → Prop} {actions : List Action} {outputs : List Output}
    {operation : Option Uuid}
    (kept : ∀ ⦃before after⦄, CallStep before false after → closed before → closed after)
    (closes : ∀ ⦃call : Call⦄, call.mutation = true → call.wrote = true → call.point.Spent →
      closed call)
    (tracked : Tracked config (sidecar.callOf id) (sidecar.runs id))
    (run : execute (next config) sidecar actions = some (outputs, target))
    (frame : .frame id operation ∈ outputs) :
    Tracked config (target.callOf id) (target.runs id) ∧ closed (target.callOf id) := by
  have history := @execute_history _ _ _ (next config) anything
    (fun past middle => Tracked config (middle.callOf id) (middle.runs id) ∧
      (.frame id operation ∈ past → closed (middle.callOf id))) ?_ actions []
    sidecar target outputs ⟨tracked, nofun⟩ (along_anything _ _ _) run
  · exact ⟨history.1, history.2 frame⟩
  · rintro past state action output after ⟨here, already⟩ - stepped
    have tracked := tracked_next here stepped
    refine ⟨tracked, ?_⟩
    intro written
    rcases List.mem_append.mp written with earlier | now
    · exact call_next kept here (already earlier) stepped
    · cases List.mem_singleton.mp now
      rcases frame_next stepped with ⟨onStream, wrote⟩
      have before : (state.callOf id).Spent := ⟨here.mutation, Point.spent_of_onStream onStream⟩
      have spent := call_next (fun _ _ step => step.spent) here before stepped
      exact closes tracked.mutation wrote spent.point

/-- A declined mutation writes nothing. -/
theorem no_frame_of_declined {actions : List Action} {outputs : List Output}
    {operation : Option Uuid} (declined : Declined (sidecar.callOf id) (sidecar.runs id))
    (run : execute (next config) sidecar actions = some (outputs, target)) :
    .frame id operation ∉ outputs := by
  have history := @execute_history _ _ _ (next config) anything
    (fun past middle => Declined (middle.callOf id) (middle.runs id) ∧
      .frame id operation ∉ past) ?_ actions [] sidecar target outputs
    ⟨declined, List.not_mem_nil⟩ (along_anything _ _ _) run
  · exact history.2
  · rintro past state action output after ⟨here, unwritten⟩ - stepped
    refine ⟨declined_next here stepped, ?_⟩
    intro written
    rcases List.mem_append.mp written with earlier | now
    · exact unwritten earlier
    · cases List.mem_singleton.mp now
      have onStream := (frame_next stepped).1
      rw [here.idle] at onStream
      contradiction

/-- In the run the call read a response with its own request identifier. -/
def ReadOwn (config : Config) (start : Sidecar) (actions : List Action) (id : Nat) : Prop :=
  ∃ before count after outputs sidecar buffer payload response,
    actions = before ++ .adapter (.read id count) :: after ∧
    execute (next config) start before = some (outputs, sidecar) ∧
    (sidecar.callOf id).point = .reading buffer ∧
    readProgress (buffer ++ sidecar.adapter.fromPlugin.take count) = .complete payload ∧
    config.codec.fromSlice payload = some response ∧
    response.requestId = (sidecar.callOf id).requestId

theorem ReadOwn.later {start : Sidecar} {past : List Action} (read : ReadOwn config start past id)
    (action : Action) : ReadOwn config start (past ++ [action]) id := by
  rcases read with ⟨before, count, after, outputs, state, buffer, payload, response, rfl, reads⟩
  exact ⟨before, count, after ++ [action], outputs, state, buffer, payload, response,
    by simp, reads⟩

theorem ReadOwn.cons {start middle : Sidecar} {actions : List Action}
    (stepped : next config start action = some (output, middle))
    (read : ReadOwn config middle actions id) : ReadOwn config start (action :: actions) id := by
  rcases read with
    ⟨before, count, after, outputs, state, buffer, payload, response, rfl, run, reads⟩
  exact ⟨action :: before, count, after, output :: outputs, state, buffer, payload, response, rfl,
    execute_cons_eq_some_iff.mpr ⟨output, middle, outputs, stepped, run, rfl⟩, reads⟩

/-- Step lemma: only the read that completes its frame gives the call a response. -/
theorem explained_next {start : Sidecar} {past : List Action} {outputs : List Output}
    (tracked : Tracked config (sidecar.callOf id) (sidecar.runs id))
    (run : execute (next config) start past = some (outputs, sidecar))
    (explained : (sidecar.callOf id).Explained (ReadOwn config start past id))
    (stepped : next config sidecar action = some (output, target)) :
    (target.callOf id).Explained (ReadOwn config start (past ++ [action]) id) := by
  have kept := explained.mono (ReadOwn.later · action)
  rcases step_run tracked.begun stepped with ⟨-, same | ⟨step, inner, rfl, inside⟩⟩ | ⟨same, -⟩
  · rwa [same]
  · apply step.explained tracked.mutation tracked.admitted kept
    intro response exchanged own
    rcases State.exchanged_next inside exchanged with
      same | ⟨count, buffer, payload, rfl, reading, complete, decoded, requestId⟩
    · have before : (sidecar.callOf id).point = .exchanged response :=
        (congrArg Call.point same).symm.trans exchanged
      have already := kept
      simp only [Call.Explained, before] at already
      exact already (own.trans (congrArg Call.requestId same))
    · exact ⟨past, count, [], outputs, sidecar, buffer, payload, response, rfl, run, reading,
        complete, decoded, own.trans requestId⟩
  · rwa [same]

/-- Run lemma. -/
theorem explained_of_execute {actions : List Action} {outputs : List Output}
    (tracked : Tracked config (sidecar.callOf id) (sidecar.runs id))
    (unwritten : (sidecar.callOf id).Explained False)
    (run : execute (next config) sidecar actions = some (outputs, target)) :
    (target.callOf id).Explained (ReadOwn config sidecar actions id) := by
  have kept := @execute_past _ _ _ (next config) sidecar
    (fun past middle => Tracked config (middle.callOf id) (middle.runs id) ∧
      (middle.callOf id).Explained (ReadOwn config sidecar past id)) ?_ actions target outputs
    ⟨tracked, unwritten.mono False.elim⟩ run
  · exact kept.2
  · rintro past earlier state action output after reaches ⟨here, explained⟩ stepped
    exact ⟨tracked_next here stepped, explained_next here reaches explained stepped⟩

section Told

variable {reply : Reply} (tracked : Tracked config (sidecar.callOf id) (sidecar.runs id))
  (replied : sidecar.runs id = .replied reply)

include tracked replied

theorem told : ∃ name arguments outcome, isMutationCall name arguments = true ∧
    (sidecar.callOf id).point = .returned outcome ∧ reply = present config name arguments outcome := by
  rcases tracked.run with ⟨name, arguments, mutation, called | ⟨outcome, returned, told⟩⟩
  · rw [called] at replied
    contradiction
  · rw [told] at replied
    cases replied
    exact ⟨name, arguments, outcome, mutation, returned, rfl⟩

theorem declines_of_spent (spent : (sidecar.callOf id).Spent) : reply.Declines := by
  rcases told tracked replied with ⟨name, arguments, outcome, mutation, returned, rfl⟩
  have cautious := spent.point
  rw [returned] at cautious
  exact declines_present mutation cautious

theorem saysUnknown_of_unanswered (unanswered : (sidecar.callOf id).Unanswered) :
    reply.SaysUnknown := by
  rcases told tracked replied with ⟨name, arguments, outcome, mutation, returned, rfl⟩
  have unresolved := unanswered.point
  rw [returned] at unresolved
  rcases unresolved with ⟨error, rfl, outcomeUnknown⟩
  exact saysUnknown_present outcomeUnknown

theorem saysUnknown_of_explained {read : Prop} (explained : (sidecar.callOf id).Explained read)
    (wrote : (sidecar.callOf id).wrote = true) (unread : ¬ read) : reply.SaysUnknown := by
  rcases told tracked replied with ⟨name, arguments, outcome, mutation, returned, rfl⟩
  simp only [Call.Explained, returned] at explained
  rcases explained wrote with read | ⟨error, rfl, outcomeUnknown⟩
  · exact absurd read unread
  · exact saysUnknown_present outcomeUnknown

end Told

/-- What a state of the mutation latches holds of its call at the end. -/
theorem call_of_visits {holds : Sidecar → Prop} {closed : Call → Prop} {actions : List Action}
    {outputs : List Output}
    (kept : ∀ ⦃before after⦄, CallStep before false after → closed before → closed after)
    (closes : ∀ ⦃middle : Sidecar⦄, Tracked config (middle.callOf id) (middle.runs id) →
      holds middle → closed (middle.callOf id))
    (tracked : Tracked config (sidecar.callOf id) (sidecar.runs id))
    (visits : Visits (next config) sidecar actions holds)
    (run : execute (next config) sidecar actions = some (outputs, target)) :
    Tracked config (target.callOf id) (target.runs id) ∧ closed (target.callOf id) := by
  have preserves : Preserves (next config) anything
      fun middle => Tracked config (middle.callOf id) (middle.runs id) :=
    fun _ _ _ _ here _ stepped => tracked_next here stepped
  have latched : Preserves (next config) anything fun middle =>
      Tracked config (middle.callOf id) (middle.runs id) ∧ closed (middle.callOf id) :=
    fun _ _ _ _ here _ stepped =>
      ⟨tracked_next here.1 stepped, call_next kept here.1 here.2 stepped⟩
  exact ⟨preserves.execute_anything tracked run,
    Visits.latch preserves latched closes tracked visits run⟩

end Sidecar

open Sidecar

/-- The retry advice of a mutating call is sound.  The run starts in any state of
the adapter and of the other calls, and everything may happen between its steps:
an error that advises a retry belongs to a run that wrote no byte of a frame; once
the run held the stream, with its frame possibly written, an error advises against
a retry; after a failed exchange the reply says that the outcome is unknown; and so
it does whenever a frame was written and no response to it was read. -/
theorem retry_advice_sound {config : Config} {start final : Sidecar} {id : Nat} {params : Json}
    {actions : List Sidecar.Action} {outputs : List Output} {reply : Reply}
    (fresh : start.adapter.calls id = {}) (mutating : Mutating params)
    (run : execute (next config) start (.call id params :: actions) = some (outputs, final))
    (replied : final.runs id = .replied reply) :
    (∀ error, reply = .failure error → error.get "safeToRetry" = some (.bool true) →
      ∀ operation, .frame id operation ∉ outputs) ∧
    (Visits (next config) start (.call id params :: actions)
        (fun sidecar => (sidecar.adapter.calls id).point.onStream = true) →
      ∀ error, reply = .failure error → error.get "safeToRetry" = some (.bool false)) ∧
    (Visits (next config) start (.call id params :: actions)
        (fun sidecar => ∃ failure, (sidecar.adapter.calls id).point = .failed failure) →
      reply.SaysUnknown) ∧
    ((∃ operation, .frame id operation ∈ outputs) →
      ¬ ReadOwn config start (.call id params :: actions) id → reply.SaysUnknown) := by
  rcases execute_cons_eq_some_iff.mp run with ⟨output, middle, later, first, rest, rfl⟩
  rcases call_mutating fresh mutating first with
    ⟨rfl, declined | ⟨tracked, unwritten⟩⟩
  · have preserves : Preserves (next config) anything
        fun state => Declined (state.callOf id) (state.runs id) :=
      fun _ _ _ _ here _ stepped => declined_next here stepped
    rcases (preserves.execute_anything declined rest).run with ⟨other, told, declines⟩
    cases told.symm.trans replied
    refine ⟨?_, fun _ => declines, ?_, ?_⟩
    · intro error failure advised
      simp [declines error failure] at advised
    · intro visits
      rcases visits_cons first visits with ⟨failure, failed⟩ | visits
      · rw [fresh] at failed
        contradiction
      · rcases visits with ⟨before, -, earlier, visited, reaches, failure, failed⟩
        have idle := (preserves.execute_anything declined reaches).idle
        cases idle.symm.trans failed
    · rintro ⟨operation, written⟩
      have ahead : .frame id operation ∈ later := by simpa using written
      exact absurd ahead (no_frame_of_declined declined rest)
  · refine ⟨?_, ?_, ?_, ?_⟩
    · intro error failure advised operation written
      have ahead : .frame id operation ∈ later := by simpa using written
      rcases call_of_frames (fun _ _ step => step.spent)
        (fun _ mutation _ point => ⟨mutation, point⟩) tracked rest ahead with ⟨kept, spent⟩
      have declines := declines_of_spent kept replied spent
      simp [declines error failure] at advised
    · intro visits
      rcases visits_cons first visits with onStream | visits
      · rw [fresh] at onStream
        contradiction
      · rcases call_of_visits (fun _ _ step => step.spent)
          (fun _ here onStream => ⟨here.mutation, Point.spent_of_onStream onStream⟩)
          tracked visits rest with ⟨kept, spent⟩
        exact declines_of_spent kept replied spent
    · intro visits
      rcases visits_cons first visits with ⟨failure, failed⟩ | visits
      · rw [fresh] at failed
        contradiction
      · have closes : ∀ ⦃state : Sidecar⦄, Tracked config (state.callOf id) (state.runs id) →
            (∃ failure, (state.adapter.calls id).point = .failed failure) →
            (state.callOf id).Unanswered := by
          rintro state here ⟨failure, failed⟩
          have failedOf : (state.callOf id).point = .failed failure := failed
          exact ⟨here.mutation, here.admitted here.mutation (by rw [failedOf]; rfl),
            by rw [failedOf]; trivial⟩
        rcases call_of_visits (fun _ _ step => step.unanswered) closes tracked visits rest with
          ⟨kept, unanswered⟩
        exact saysUnknown_of_unanswered kept replied unanswered
    · rintro ⟨operation, written⟩ unread
      have ahead : .frame id operation ∈ later := by simpa using written
      rcases call_of_frames (fun _ _ step => step.wrote_kept) (fun _ _ wrote _ => wrote)
        tracked rest ahead with ⟨kept, wrote⟩
      apply saysUnknown_of_explained kept replied (explained_of_execute tracked unwritten rest)
        wrote
      exact fun read => unread (read.cons first)

/-- A sidecar over the codecs of small runs. -/
def smallConfig : Config where
  codec := smallCodec
  instanceId := 1
  log := false
  floatText := fun _ => []
  memoryView := fun _ value => .ok value

/-- A pause for the instance 1. -/
def pauseParams : Json :=
  .object
    [("name", .string "debugger.pause"),
      ("arguments", .object
        [("operation_id", .string "00000000-0000-0000-0000-000000000001"),
          ("instance_id", .string "00000000-0000-0000-0000-000000000001")])]

/-- The pause is written in part, times out and is answered. -/
def timedOutPause : List Sidecar.Action :=
  [.adapter (.begin 0 0), .adapter (.checkReady 0 1 0), .adapter (.acquire 0),
    .adapter (.write 0 1), .adapter (.timeout 0), .adapter (.markUnknown 0 0),
    .adapter (.clearReady 0), .adapter (.finish 0), .resume 0]

/-- The run has its reply. -/
def ToolRun.isReplied : ToolRun → Bool
  | .replied _ => true
  | _ => false

theorem ToolRun.exists_reply {toolRun : ToolRun} (replied : toolRun.isReplied = true) :
    ∃ reply, toolRun = .replied reply := by
  cases toolRun with
  | replied reply => exact ⟨reply, rfl⟩
  | _ => exact absurd replied Bool.false_ne_true

/-- The call has failed. -/
def hasFailed : Point → Bool
  | .failed _ => true
  | _ => false

theorem exists_failure {point : Point} (failed : hasFailed point = true) :
    ∃ failure, point = .failed failure := by
  cases point with
  | failed failure => exact ⟨failure, rfl⟩
  | _ => exact absurd failed Bool.false_ne_true

/-- The pause that timed out with a byte written is reported as unknown, and not
to be retried. -/
theorem retry_advice_sound_timed_out :
    ∃ outputs final reply,
      execute (next smallConfig) { adapter := State.initial }
        (.call 0 pauseParams :: timedOutPause) = some (outputs, final) ∧
      final.runs 0 = .replied reply ∧ reply.SaysUnknown ∧
      ∀ error, reply = .failure error → error.get "safeToRetry" = some (.bool false) := by
  have answers : ((execute (next smallConfig) { adapter := State.initial }
      (.call 0 pauseParams :: timedOutPause)).any fun result =>
        (result.2.runs 0).isReplied) = true := by
    decide +kernel
  have fails : ((execute (next smallConfig) { adapter := State.initial }
      (.call 0 pauseParams :: timedOutPause.take 5)).any fun result =>
        hasFailed (result.2.adapter.calls 0).point) = true := by
    decide +kernel
  have writes : ((execute (next smallConfig) { adapter := State.initial }
      (.call 0 pauseParams :: timedOutPause.take 4)).any fun result =>
        (result.2.adapter.calls 0).point.onStream) = true := by
    decide +kernel
  rcases (Option.any_eq_true _ _).mp answers with ⟨⟨outputs, final⟩, run, answered⟩
  rcases (Option.any_eq_true _ _).mp fails with ⟨⟨earlier, failing⟩, toFailing, failed⟩
  rcases (Option.any_eq_true _ _).mp writes with ⟨⟨before, writing⟩, toWriting, onStream⟩
  rcases ToolRun.exists_reply answered with ⟨reply, replied⟩
  rcases exists_failure failed with ⟨failure, failedAt⟩
  have sound := retry_advice_sound rfl ⟨"debugger.pause", rfl, by decide⟩ run replied
  refine ⟨outputs, final, reply, run, replied, sound.2.2.1 ?_, sound.2.1 ?_⟩
  · exact ⟨_, List.cons_prefix_cons.mpr ⟨rfl, List.take_prefix 5 _⟩, earlier, failing,
      toFailing, failure, failedAt⟩
  · exact ⟨_, List.cons_prefix_cons.mpr ⟨rfl, List.take_prefix 4 _⟩, before, writing,
      toWriting, onStream⟩

end X64dbgMcp.Mcp
