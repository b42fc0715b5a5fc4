import X64dbgMcp.Ipc.Answers
import X64dbgMcp.Ipc.FrameStream

/-!
# Correlation over the shared stream

The plugin answers each request frame once, in order, with the request's own
identifier.  Then both directions of the stream are whole frames, each of them
for a request that is still awaited, not yet remembered, or in the queue of
abandoned requests.  The invariant survives cancellations at frame boundaries;
inside a frame, between the release of the stream and the remembering, and when
the bounded queue forgets a request that was written, it does not.
-/

namespace X64dbgMcp.Ipc

open Text

namespace Point

/-- The call has a request and has not written all of it. -/
def sending : Point → Bool
  | .waiting _ | .writing _ _ => true
  | _ => false

/-- The exchange has ended and the request is not remembered yet. -/
def unremembered : Point → Bool
  | .failed _ | .marked _ | .flagged _ | .dropping => true
  | _ => false

/-- An exchange that ends here leaves no part of a frame behind. -/
def atBoundary : Point → Bool
  | .waiting _ | .writing _ 0 | .reading [] => true
  | _ => false

/-- What was read of the current response. -/
def buffer : Point → Bytes
  | .reading collected => collected
  | _ => []

/-- What was written of the current request. -/
def sentPart : Point → Bytes
  | .writing frame sent => frame.take sent
  | _ => []

attribute [grind =] sending unremembered atBoundary buffer sentPart

end Point

namespace Call

/-- The call has a request identifier that others may meet. -/
def Assigned (call : Call) : Prop :=
  call.wrote = true ∨ call.point.sending = true

/-- The response to the call's request may still arrive. -/
def Owed (call : Call) (abandoned : List Uuid) : Prop :=
  call.wrote = true ∧ call.point.sending = false ∧
    ((∃ collected, call.point = .reading collected) ∨ call.point.unremembered = true ∨
      call.requestId ∈ abandoned)

end Call

/-- Each of the requests belongs to a call whose response may still arrive. -/
def Owed (calls : Nat → Call) (abandoned : List Uuid) (requestIds : List Uuid) : Prop :=
  ∀ requestId ∈ requestIds, ∃ id, (calls id).requestId = requestId ∧ (calls id).Owed abandoned

/-- A payload that is the request with this identifier. -/
def CarriesRequest (codec : Codec) (requestId : Uuid) (payload : Bytes) : Prop :=
  ∃ request, codec.toVec request = some payload ∧ request.requestId = requestId

/-- A payload that is a response with this identifier. -/
def CarriesResponse (codec : Codec) (requestId : Uuid) (payload : Bytes) : Prop :=
  ∃ response, codec.fromSlice payload = some response ∧ response.requestId = requestId

/-- What a call says about its request and its response. -/
structure Call.Fits (codec : Codec) (call : Call) : Prop where
  waiting : ∀ request, call.point = .waiting request → request.requestId = call.requestId
  writing : ∀ frame sent, call.point = .writing frame sent →
    sent < frame.length ∧ ∃ payload, frame = frameOf payload ∧ Framable payload ∧
      CarriesRequest codec call.requestId payload
  exchanged : ∀ response, call.point = .exchanged response → response.requestId = call.requestId
  matched : call.point ≠ .failed .mismatch

/-- Most positions say nothing. -/
theorem Call.Fits.of_idle {codec : Codec} {call : Call} (sending : call.point.sending = false)
    (exchanged : ∀ response, call.point ≠ .exchanged response)
    (matched : call.point ≠ .failed .mismatch) : call.Fits codec where
  waiting := by
    intro request waiting
    simp [waiting, Point.sending] at sending
  writing := by
    intro frame sent writing
    simp [writing, Point.sending] at sending
  exchanged := fun response isExchanged => absurd isExchanged (exchanged response)
  matched := matched

namespace State

variable {codec : Codec} {state target : State} {output : Output}

/-- The payload of the first frame that the plugin has not consumed. -/
def headPayload (state : State) : Bytes :=
  (state.toPlugin.drop lengthPrefixBytes).take
    (prefixLength (state.toPlugin.take lengthPrefixBytes))

/-- The plugin sends nothing but answers, and each one echoes the identifier of
the request that it answers. -/
def PluginEchoes (codec : Codec) (state : State) : Action → Prop
  | .pluginAnswer reply =>
      ∀ request, codec.toVec request = some state.headPayload →
        CarriesResponse codec request.requestId reply
  | .pluginSend _ => False
  | _ => True

/-- The request identifier that remembering one more would forget. -/
def evicted (state : State) : Option Uuid :=
  if state.abandoned.length = abandonedRequestCapacity then state.abandoned.head? else none

/-- Exchanges end only at frame boundaries; nobody reads while a written request
is not remembered; and the queue forgets only requests that were not written. -/
def Orderly (state : State) : Action → Prop
  | .ioError id | .timeout id | .drop id => (state.calls id).point.atBoundary = true
  | .read _ _ => ∀ other, (state.calls other).point.unremembered = true →
      (state.calls other).wrote = false
  | .remember _ | .finish _ => ∀ other, state.evicted = some (state.calls other).requestId →
      (state.calls other).wrote = false
  | _ => True

/-- The position of the call that holds the stream. -/
def current (state : State) : Point :=
  match state.lock with
  | some id => (state.calls id).point
  | none => .idle

/-- Both directions of the stream are whole frames of requests that are owed an
answer, up to the frame in progress. -/
def InStep (codec : Codec) (state : State) : Prop :=
  ∃ answered pending written,
    Framed (CarriesResponse codec) answered (state.current.buffer ++ state.fromPlugin) ∧
    Framed (CarriesRequest codec) pending written ∧
    state.toPlugin = written ++ state.current.sentPart ∧
    (answered ++ pending).Nodup ∧ Owed state.calls state.abandoned (answered ++ pending)

/-- The invariant of the stream and the calls. -/
structure Synced (codec : Codec) (state : State) : Prop where
  holder : ∀ id, state.lock = some id ↔ (state.calls id).point.onStream = true
  distinct : ∀ first second, (state.calls first).Assigned → (state.calls second).Assigned →
    (state.calls first).requestId = (state.calls second).requestId → first = second
  generated : ∀ id, (state.calls id).Assigned → (state.calls id).requestId ∈ state.generated
  fits : ∀ id, (state.calls id).Fits codec
  inStep : InStep codec state

theorem synced_initial : Synced codec initial where
  holder := by simp [initial, Point.onStream]
  distinct := by simp [initial, Call.Assigned, Point.sending]
  generated := by simp [initial, Call.Assigned, Point.sending]
  fits := fun _ => .of_idle rfl (by simp [initial]) (by simp [initial])
  inStep := ⟨[], [], [], .nil, .nil, rfl, List.nodup_nil, by simp [Owed]⟩

/-- A step that changes one call, with what it does to the stream left open. -/
theorem Synced.update (synced : Synced codec state) {id : Nat} {call : Call}
    (calls : target.calls = Function.update state.calls id call)
    (holds : target.lock = some id ↔ call.point.onStream = true)
    (others : ∀ other, other ≠ id → (target.lock = some other ↔ state.lock = some other))
    (grows : ∀ requestId ∈ state.generated, requestId ∈ target.generated)
    (assigned : call.Assigned →
      ((state.calls id).Assigned ∧ call.requestId = (state.calls id).requestId) ∨
        (call.requestId ∉ state.generated ∧ call.requestId ∈ target.generated))
    (fits : call.Fits codec) (inStep : InStep codec target) : Synced codec target := by
  -- Nobody else has the identifier of the changed call.
  have alone : ∀ other, other ≠ id → call.Assigned → (state.calls other).Assigned →
      call.requestId ≠ (state.calls other).requestId := by
    intro other elsewhere callAssigned otherAssigned equal
    rcases assigned callAssigned with ⟨before, same⟩ | ⟨fresh, -⟩
    · exact elsewhere (synced.distinct other id otherAssigned before (equal.symm.trans same))
    · rw [equal] at fresh
      exact fresh (synced.generated other otherAssigned)
  constructor
  · intro other
    rw [calls]
    by_cases equal : other = id
    · subst equal
      rwa [Function.update_self]
    · rw [Function.update_of_ne equal, others other equal]
      exact synced.holder other
  · intro first second
    rw [calls]
    by_cases firstSame : first = id <;> by_cases secondSame : second = id
    · rw [firstSame, secondSame]
      exact fun _ _ _ => rfl
    · subst firstSame
      rw [Function.update_self, Function.update_of_ne secondSame]
      intro callAssigned otherAssigned equal
      exact absurd equal (alone second secondSame callAssigned otherAssigned)
    · subst secondSame
      rw [Function.update_self, Function.update_of_ne firstSame]
      intro otherAssigned callAssigned equal
      exact absurd equal.symm (alone first firstSame callAssigned otherAssigned)
    · rw [Function.update_of_ne firstSame, Function.update_of_ne secondSame]
      exact synced.distinct first second
  · rw [calls]
    refine (Function.forall_update_iff state.calls fun _ call => call.Assigned →
      call.requestId ∈ target.generated).mpr ⟨?_, ?_⟩
    · intro callAssigned
      rcases assigned callAssigned with ⟨before, same⟩ | ⟨-, known⟩
      · rw [same]
        exact grows _ (synced.generated id before)
      · exact known
    · exact fun other _ otherAssigned => grows _ (synced.generated other otherAssigned)
  · rw [calls]
    exact (Function.forall_update_iff state.calls fun _ call => call.Fits codec).mpr
      ⟨fits, fun other _ => synced.fits other⟩
  · exact inStep

/-- The owed requests after one call was replaced. -/
theorem owed_update {calls : Nat → Call} {abandoned queue : List Uuid} {requestIds : List Uuid}
    (owed : Owed calls abandoned requestIds) {id : Nat} {call : Call}
    (own : (calls id).requestId ∈ requestIds → (calls id).Owed abandoned →
      call.Owed queue ∧ call.requestId = (calls id).requestId)
    (others : ∀ other, other ≠ id → (calls other).requestId ∈ requestIds →
      (calls other).Owed abandoned → (calls other).Owed queue) :
    Owed (Function.update calls id call) queue requestIds := by
  intro requestId member
  obtain ⟨owner, rfl, owes⟩ := owed requestId member
  refine ⟨owner, ?_⟩
  by_cases equal : owner = id
  · subst equal
    obtain ⟨stillOwed, same⟩ := own member owes
    rw [Function.update_self]
    exact ⟨same, stillOwed⟩
  · rw [Function.update_of_ne equal]
    exact ⟨rfl, others owner equal member owes⟩

/-! ## Steps beside the stream -/

/-- The step leaves the stream alone. -/
structure SameStream (state target : State) : Prop where
  lock : target.lock = state.lock
  toPlugin : target.toPlugin = state.toPlugin
  fromPlugin : target.fromPlugin = state.fromPlugin

/-- A call beside the stream does not change who holds it. -/
theorem current_update (synced : Synced codec state) {id : Nat} {call : Call}
    (lock : target.lock = state.lock) (calls : target.calls = Function.update state.calls id call)
    (beside : (state.calls id).point.onStream = false) : target.current = state.current := by
  simp only [current, lock]
  cases held : state.lock with
  | none => rfl
  | some holder =>
      have elsewhere : holder ≠ id := by
        rintro rfl
        rw [(synced.holder holder).mp held] at beside
        contradiction
      simp [calls, Function.update_of_ne elsewhere]

/-- Step lemma for the steps beside the stream. -/
theorem Synced.beside (synced : Synced codec state) {id : Nat} {call : Call}
    (same : SameStream state target) (calls : target.calls = Function.update state.calls id call)
    (before : (state.calls id).point.onStream = false) (after : call.point.onStream = false)
    (grows : ∀ requestId ∈ state.generated, requestId ∈ target.generated)
    (assigned : call.Assigned →
      ((state.calls id).Assigned ∧ call.requestId = (state.calls id).requestId) ∨
        (call.requestId ∉ state.generated ∧ call.requestId ∈ target.generated))
    (fits : call.Fits codec)
    (owed : ∀ requestIds, Owed state.calls state.abandoned requestIds →
      Owed target.calls target.abandoned requestIds) : Synced codec target := by
  have currentEq := current_update synced same.lock calls before
  have unheld : state.lock ≠ some id := by
    intro held
    rw [(synced.holder id).mp held] at before
    contradiction
  refine synced.update calls ?_ ?_ grows assigned fits ?_
  · rw [same.lock]
    simp [unheld, after]
  · intro other _
    rw [same.lock]
  · obtain ⟨answered, pending, written, inbound, outbound, toPlugin, nodup, owes⟩ := synced.inStep
    exact ⟨answered, pending, written, by rwa [currentEq, same.fromPlugin], outbound,
      by rw [currentEq, same.toPlugin, toPlugin], nodup, owed _ owes⟩

/-- A new position beside the stream. -/
theorem Synced.move (synced : Synced codec state) {id : Nat} {call : Call}
    (same : SameStream state target)
    (calls : target.calls = Function.update state.calls id call)
    (generated : target.generated = state.generated)
    (abandoned : target.abandoned = state.abandoned)
    (wrote : call.wrote = (state.calls id).wrote)
    (requestId : call.requestId = (state.calls id).requestId)
    (before : (state.calls id).point.onStream = false) (after : call.point.onStream = false)
    (sending : call.point.sending = false)
    (unremembered : (state.calls id).point.unremembered = true →
      call.point.unremembered = true)
    (exchanged : ∀ response, call.point ≠ .exchanged response)
    (matched : call.point ≠ .failed .mismatch) : Synced codec target := by
  refine synced.beside same calls before after (by simp [generated]) ?_
    (.of_idle sending exchanged matched) ?_
  · rintro (isWritten | isSending)
    · exact .inl ⟨.inl (wrote ▸ isWritten), requestId⟩
    · simp [sending] at isSending
  · intro requestIds owed
    rw [calls, abandoned]
    refine owed_update owed ?_ fun _ _ _ owes => owes
    rintro - ⟨isWritten, -, reading | isUnremembered | inQueue⟩
    · obtain ⟨collected, reading⟩ := reading
      simp [reading, Point.onStream] at before
    · exact ⟨⟨wrote.trans isWritten, sending, .inr (.inl (unremembered isUnremembered))⟩, requestId⟩
    · exact ⟨⟨wrote.trans isWritten, sending, .inr (.inr (requestId ▸ inQueue))⟩, requestId⟩

/-- A position of its own, given by the call's last one. -/
theorem Synced.setPoint (synced : Synced codec state) {id : Nat} {point : Point}
    (before : (state.calls id).point.onStream = false) (after : point.onStream = false)
    (sending : point.sending = false)
    (unremembered : (state.calls id).point.unremembered = true → point.unremembered = true)
    (exchanged : ∀ response, point ≠ .exchanged response)
    (matched : point ≠ .failed .mismatch) : Synced codec (state.setPoint id point) :=
  synced.move ⟨rfl, rfl, rfl⟩ rfl rfl rfl rfl rfl before after sending unremembered exchanged
    matched

/-- The ledger does not matter here. -/
theorem Synced.withLedger (synced : Synced codec state) (ledger : OperationLedger) :
    Synced codec { state with ledger := ledger } :=
  ⟨synced.holder, synced.distinct, synced.generated, synced.fits, synced.inStep⟩

theorem synced_enter (synced : Synced codec state) {id : Nat} {name : String} {arguments : Json}
    (idle : (state.calls id).point = .idle) (unwritten : (state.calls id).wrote = false) :
    Synced codec (state.enter codec id name arguments) := by
  have fresh : ∀ point : Point, point.onStream = false → point.sending = false →
      (∀ response, point ≠ .exchanged response) → point ≠ .failed .mismatch →
      Synced codec (state.setCall id { name := name, arguments := arguments, point := point }) := by
    intro point beside sending exchanged matched
    refine synced.beside ⟨rfl, rfl, rfl⟩ rfl (by simp [idle, Point.onStream]) beside
      (fun _ known => known) ?_ (.of_idle sending exchanged matched) ?_
    · simp [Call.Assigned, sending]
    · intro requestIds owed
      refine owed_update owed ?_ fun _ _ _ owes => owes
      rintro - ⟨wrote, -⟩
      rw [unwritten] at wrote
      contradiction
  simp only [enter]
  split
  · split
    · exact fresh _ rfl rfl (by simp) (by simp)
    · split <;> exact fresh _ rfl rfl (by simp) (by simp)
  · exact fresh _ rfl rfl (by simp) (by simp)

theorem synced_begin (synced : Synced codec state) {id now : Nat} {operation : Uuid}
    {fingerprint : String} (entered : (state.calls id).point = .entered operation fingerprint) :
    Synced codec (state.begin id now operation fingerprint) := by
  have beside : (state.calls id).point.onStream = false := by simp [entered, Point.onStream]
  have remembered : (state.calls id).point.unremembered = true → False := by
    simp [entered, Point.unremembered]
  simp only [begin]
  split
  · exact (synced.withLedger _).setPoint beside rfl rfl (fun known => (remembered known).elim)
      (by simp) (by simp)
  · exact (synced.withLedger _).move ⟨rfl, rfl, rfl⟩ rfl rfl rfl rfl rfl beside rfl rfl
      (fun known => (remembered known).elim) (by simp) (by simp)

theorem synced_abandon (synced : Synced codec state) {id : Nat} {operation : Uuid}
    {fingerprint : String} (refused : (state.calls id).point = .refused) :
    Synced codec (state.abandon id operation fingerprint) := by
  have withdrawn : ∀ ledger error, Synced codec
      ({ state with ledger := ledger }.setPoint id (.returned (.error error))) := by
    intro ledger error
    refine (synced.withLedger ledger).setPoint ?_ rfl rfl ?_ ?_ ?_ <;>
      simp [refused, Point.onStream, Point.unremembered]
  simp only [abandon]
  split
  · exact withdrawn _ _
  · exact withdrawn state.ledger _

theorem synced_correlate (synced : Synced codec state) {id : Nat} {response : IpcResponse}
    (exchanged : (state.calls id).point = .exchanged response)
    (own : response.requestId = (state.calls id).requestId) :
    Synced codec (state.correlate id response) := by
  simp only [correlate, own, ne_eq, not_true_eq_false, if_false]
  cases mutation : (state.calls id).operation.isSome <;>
    refine synced.move ⟨rfl, rfl, rfl⟩ rfl rfl rfl rfl rfl ?_ rfl rfl ?_ ?_ ?_ <;>
    simp [exchanged, Point.onStream, Point.unremembered]

theorem synced_markUnknown (synced : Synced codec state) {id now : Nat} {failure : Failure}
    (failed : (state.calls id).point = .failed failure) :
    Synced codec (state.markUnknown id now failure) := by
  have told : ∀ ledger, Synced codec
      ({ state with ledger := ledger }.setPoint id (.marked failure)) := by
    intro ledger
    refine (synced.withLedger ledger).setPoint ?_ rfl rfl ?_ ?_ ?_ <;>
      simp [failed, Point.onStream, Point.unremembered]
  simp only [markUnknown]
  split
  · exact told state.ledger
  · split
    · exact told _
    · exact told state.ledger

theorem synced_complete (synced : Synced codec state) {id now : Nat} {operation : Uuid}
    {outcome : Outcome} (recording : (state.calls id).point = .recording outcome) :
    Synced codec (state.complete id now operation outcome) := by
  have told : ∀ ledger outcome, Synced codec
      ({ state with ledger := ledger }.setPoint id (.returned outcome)) := by
    intro ledger outcome
    refine (synced.withLedger ledger).setPoint ?_ rfl rfl ?_ ?_ ?_ <;>
      simp [recording, Point.onStream, Point.unremembered]
  simp only [complete]
  split
  · exact told _ _
  · exact told state.ledger _

/-- A request gets an identifier that nobody has. -/
theorem synced_request (synced : Synced codec state) {id : Nat} {requestId : Uuid}
    {deadlineUnixMs : UInt64} (admitted : (state.calls id).point = .admitted)
    (unwritten : (state.calls id).wrote = false) (fresh : requestId ∉ state.generated) :
    Synced codec
      { state.setCall id
          { state.calls id with
            point := .waiting ((state.calls id).request requestId deadlineUnixMs)
            requestId := requestId } with
        generated := requestId :: state.generated } := by
  refine synced.beside ⟨rfl, rfl, rfl⟩ rfl (by simp [admitted, Point.onStream]) rfl
    (fun _ known => List.mem_cons_of_mem _ known) ?_ ?_ ?_
  · exact fun _ => .inr ⟨fresh, List.mem_cons_self⟩
  · constructor
    · intro request equal
      cases equal
      rfl
    · simp
    · simp
    · simp
  · intro requestIds owed
    refine owed_update owed ?_ fun _ _ _ owes => owes
    rintro - ⟨wrote, -⟩
    rw [unwritten] at wrote
    contradiction

/-! ## Steps on the stream -/

theorem current_of_lock {id : Nat} (held : state.lock = some id) :
    state.current = (state.calls id).point := by
  simp [current, held]

/-- The stream is taken. -/
theorem synced_acquire (synced : Synced codec state) {id : Nat} {request : IpcRequest}
    {frame : Bytes} (waiting : (state.calls id).point = .waiting request)
    (unwritten : (state.calls id).wrote = false) (free : state.lock = none)
    (encoded : encodeFrame (codec.toVec request) = .ok frame) :
    Synced codec { state.setPoint id (.writing frame 0) with lock := some id } := by
  obtain ⟨payload, serialized, framable, rfl⟩ := encodeFrame_eq_ok encoded
  have own := (synced.fits id).waiting request waiting
  refine synced.update rfl (by simp [Point.onStream]) ?_ (fun _ known => known) ?_ ?_ ?_
  · intro other elsewhere
    simp [free, elsewhere.symm]
  · exact fun _ => .inl ⟨.inr (by simp [waiting, Point.sending]), rfl⟩
  · constructor
    · simp
    · intro frame sent equal
      cases equal
      exact ⟨by rw [length_frameOf, lengthPrefixBytes]; exact Nat.lt_add_right _ (by decide), payload, rfl, framable, request, serialized, own⟩
    · simp
    · simp
  · obtain ⟨answered, pending, written, inbound, outbound, toPlugin, nodup, owed⟩ := synced.inStep
    have idle : state.current = .idle := by simp [current, free]
    rw [idle] at inbound toPlugin
    refine ⟨answered, pending, written, ?_, outbound, ?_, nodup, ?_⟩
    · simpa [current, State.setPoint, setCall, Point.buffer] using inbound
    · simpa [current, State.setPoint, setCall, Point.sentPart] using toPlugin
    · refine owed_update owed ?_ fun _ _ _ owes => owes
      rintro - ⟨wrote, -⟩
      rw [unwritten] at wrote
      contradiction

/-- The stream is released where no part of a frame is left behind. -/
theorem synced_release (synced : Synced codec state) {id : Nat} {point : Point}
    (onStream : (state.calls id).point.onStream = true)
    (boundary : (state.calls id).point.atBoundary = true)
    (unremembered : point.unremembered = true) (matched : point ≠ .failed .mismatch) :
    Synced codec (state.release id point) := by
  have held := (synced.holder id).mpr onStream
  have beside : point.onStream = false ∧ point.sending = false ∧
      ∀ response, point ≠ .exchanged response := by
    cases point <;> simp_all [Point.unremembered, Point.onStream, Point.sending]
  have emptyHanded : state.current.buffer = [] ∧ state.current.sentPart = [] := by
    rw [current_of_lock held]
    cases position : (state.calls id).point with
    | writing frame sent =>
        cases sent with
        | zero => exact ⟨rfl, rfl⟩
        | succ sent => simp [position, Point.atBoundary] at boundary
    | reading collected =>
        cases collected with
        | nil => exact ⟨rfl, rfl⟩
        | cons byte collected => simp [position, Point.atBoundary] at boundary
    | _ => simp [position, Point.onStream] at onStream
  refine synced.update rfl (by simp [release, beside.1]) ?_ (fun _ known => known) ?_
    (.of_idle beside.2.1 beside.2.2 matched) ?_
  · intro other elsewhere
    simp [release, held, elsewhere.symm]
  · rintro (wrote | isSending)
    · exact .inl ⟨.inl wrote, rfl⟩
    · simp [beside.2.1] at isSending
  · obtain ⟨answered, pending, written, inbound, outbound, toPlugin, nodup, owed⟩ := synced.inStep
    rw [emptyHanded.1] at inbound
    rw [emptyHanded.2] at toPlugin
    refine ⟨answered, pending, written, ?_, outbound, ?_, nodup, ?_⟩
    · simpa [current, release, State.setPoint, setCall, Point.buffer] using inbound
    · simpa [current, release, State.setPoint, setCall, Point.sentPart] using toPlugin
    · refine owed_update owed ?_ fun _ _ _ owes => owes
      rintro - ⟨wrote, -⟩
      exact ⟨⟨wrote, beside.2.1, .inr (.inl unremembered)⟩, rfl⟩

/-- A request that is still being sent is owed nothing yet. -/
theorem Synced.requestId_notMem (synced : Synced codec state) {id : Nat} {requestIds : List Uuid}
    (sending : (state.calls id).point.sending = true)
    (owed : Owed state.calls state.abandoned requestIds) :
    (state.calls id).requestId ∉ requestIds := by
  intro member
  obtain ⟨owner, equal, wrote, notSending, -⟩ := owed _ member
  have same := synced.distinct owner id (.inl wrote) (.inr sending) equal
  rw [same, sending] at notSending
  contradiction

/-- A portion of the frame is written; the last one makes it a frame. -/
theorem synced_write (synced : Synced codec state) {id count sent : Nat} {frame : Bytes}
    (writing : (state.calls id).point = .writing frame sent)
    (within : sent + count ≤ frame.length) : Synced codec (state.write id count frame sent) := by
  have held : state.lock = some id := (synced.holder id).mpr (by simp [writing, Point.onStream])
  have sending : (state.calls id).point.sending = true := by simp [writing, Point.sending]
  obtain ⟨-, payload, rfl, framable, carries⟩ := (synced.fits id).writing frame sent writing
  obtain ⟨answered, pending, written, inbound, outbound, toPlugin, nodup, owed⟩ := synced.inStep
  rw [current_of_lock held, writing] at inbound toPlugin
  have sentNow : state.toPlugin ++ ((frameOf payload).drop sent).take count =
      written ++ (frameOf payload).take (sent + count) := by
    rw [toPlugin, Point.sentPart, List.append_assoc, ← List.take_add]
  have unowed : ∀ call, (state.calls id).requestId ∈ answered ++ pending →
      (state.calls id).Owed state.abandoned →
      Call.Owed call state.abandoned ∧ call.requestId = (state.calls id).requestId := by
    intro call member
    exact absurd member (synced.requestId_notMem sending owed)
  refine synced.update rfl ?_ ?_ (fun _ known => known) ?_ ?_ ?_
  · simp only [write, setCall, held, true_iff]
    split <;> rfl
  · exact fun _ _ => Iff.rfl
  · exact fun _ => .inl ⟨.inr sending, rfl⟩
  · constructor
    · intro request
      simp only
      split <;> simp
    · intro other otherSent equal
      simp only at equal
      split at equal
      · cases equal
      · rename_i unfinished
        cases equal
        exact ⟨by omega, payload, rfl, framable, carries⟩
    · intro response
      simp only
      split <;> simp
    · simp only
      split <;> simp
  · by_cases finished : sent + count = (frameOf payload).length
    · have currentEq : (state.write id count (frameOf payload) sent).current = .reading [] := by
        simp [current, write, setCall, held, finished]
      refine ⟨answered, pending ++ [(state.calls id).requestId], written ++ frameOf payload, ?_,
        outbound.snoc carries framable, ?_, ?_, ?_⟩
      · rw [currentEq]
        exact inbound
      · rw [finished, List.take_length] at sentNow
        rw [currentEq]
        exact sentNow.trans (List.append_nil _).symm
      · rw [← List.append_assoc]
        exact List.nodup_append.mpr ⟨nodup, by simp, by
          rintro first firstMember second secondMember rfl
          rw [List.mem_singleton.mp secondMember] at firstMember
          exact synced.requestId_notMem sending owed firstMember⟩
      · rw [← List.append_assoc]
        intro requestId member
        rcases List.mem_append.mp member with earlier | own
        · exact owed_update owed (unowed _) (fun _ _ _ owes => owes) requestId earlier
        · refine ⟨id, ?_⟩
          rw [List.mem_singleton.mp own]
          simp [write, setCall, finished, Call.Owed, Point.sending]
    · have currentEq : (state.write id count (frameOf payload) sent).current =
          .writing (frameOf payload) (sent + count) := by
        simp only [current, write, setCall, held, finished, if_false, Function.update_self]
      refine ⟨answered, pending, written, ?_, outbound, ?_, nodup, ?_⟩
      · rw [currentEq]
        exact inbound
      · rw [currentEq]
        exact sentNow
      · exact owed_update owed (unowed _) fun _ _ _ owes => owes

/-- The plugin consumes a frame and answers it. -/
theorem synced_pluginAnswer (synced : Synced codec state) {reply frame : Bytes}
    (complete : prefixLength (state.toPlugin.take lengthPrefixBytes) ≠ 0 ∧
      prefixLength (state.toPlugin.take lengthPrefixBytes) ≤ maxFrameBytes ∧
      lengthPrefixBytes + prefixLength (state.toPlugin.take lengthPrefixBytes) ≤
        state.toPlugin.length)
    (encoded : encodeFrame (some reply) = .ok frame)
    (echoes : PluginEchoes codec state (.pluginAnswer reply)) :
    Synced codec
      { state with
        toPlugin := state.toPlugin.drop
          (lengthPrefixBytes + prefixLength (state.toPlugin.take lengthPrefixBytes))
        fromPlugin := state.fromPlugin ++ frame } := by
  obtain ⟨payload, equal, framable, rfl⟩ := encodeFrame_eq_ok encoded
  cases equal
  refine ⟨synced.holder, synced.distinct, synced.generated, synced.fits, ?_⟩
  obtain ⟨answered, pending, written, inbound, outbound, toPlugin, nodup, owed⟩ := synced.inStep
  cases outbound with
  | nil =>
      -- Only the frame in progress is there, and it is not complete.
      exfalso
      rw [List.nil_append] at toPlugin
      cases held : state.lock with
      | none =>
          simp [toPlugin, current, held, Point.sentPart, prefixLength] at complete
      | some id =>
          rw [current_of_lock held] at toPlugin
          cases position : (state.calls id).point with
          | writing frame sent =>
              obtain ⟨unfinished, request, rfl, requestFramable, -⟩ :=
                (synced.fits id).writing frame sent position
              rw [position, Point.sentPart] at toPlugin
              have length : state.toPlugin.length = sent := by
                rw [toPlugin]
                exact List.length_take_of_le (Nat.le_of_lt unfinished)
              have behind : lengthPrefixBytes ≤ sent := by omega
              have announced : prefixLength (state.toPlugin.take lengthPrefixBytes) =
                  request.length := by
                have whole := take_frameOf_append request []
                rw [List.append_nil] at whole
                rw [toPlugin, List.take_take, Nat.min_eq_left behind, whole,
                  prefixLength_lengthPrefix requestFramable.bounded]
              rw [announced, length] at complete
              rw [length_frameOf] at unfinished
              omega
          | _ => simp [toPlugin, position, Point.sentPart, prefixLength] at complete
  | cons carried headFramable outbound =>
      rename_i requestId head pending rest
      obtain ⟨request, serialized, own⟩ := carried
      have announced : prefixLength (state.toPlugin.take lengthPrefixBytes) = head.length := by
        rw [toPlugin, List.append_assoc, take_frameOf_append,
          prefixLength_lengthPrefix headFramable.bounded]
      have headEq : state.headPayload = head := by
        rw [headPayload, announced, toPlugin, List.append_assoc, frameOf, List.append_assoc,
          List.drop_left' (length_lengthPrefix _), List.take_left]
      have response := echoes request (by rw [headEq, serialized])
      rw [own] at response
      refine ⟨answered ++ [requestId], pending, rest, ?_, outbound, ?_, ?_, ?_⟩
      · have extended := inbound.snoc response framable
        rwa [List.append_assoc] at extended
      · simp only [announced]
        rw [toPlugin, List.append_assoc, drop_frameOf_append]
        rfl
      · simpa using nodup
      · simpa using owed

theorem mem_rememberAbandonedRequest {abandoned : List Uuid} {requestId : Uuid} (added : Uuid)
    (member : requestId ∈ abandoned) :
    requestId ∈ rememberAbandonedRequest abandoned added ∨
      abandoned.length = abandonedRequestCapacity ∧ abandoned.head? = some requestId := by
  simp only [rememberAbandonedRequest]
  split
  · rename_i full
    cases abandoned with
    | nil => contradiction
    | cons first rest =>
        rcases List.mem_cons.mp member with rfl | later
        · exact .inr ⟨full, rfl⟩
        · exact .inl (List.mem_append_left _ later)
  · exact .inl (List.mem_append_left _ member)

/-- The request of an ended exchange is remembered. -/
theorem synced_remember (synced : Synced codec state) {id : Nat} {point : Point}
    (unremembered : (state.calls id).point.unremembered = true)
    (beside : point.onStream = false ∧ point.sending = false)
    (exchanged : ∀ response, point ≠ .exchanged response)
    (matched : point ≠ .failed .mismatch)
    (spared : ∀ other, state.evicted = some (state.calls other).requestId →
      (state.calls other).wrote = false) : Synced codec (state.remember id point) := by
  have before : (state.calls id).point.onStream = false := by
    cases position : (state.calls id).point <;> simp_all [Point.unremembered, Point.onStream]
  refine synced.beside ⟨rfl, rfl, rfl⟩ rfl before beside.1 (fun _ known => known) ?_
    (.of_idle beside.2 exchanged matched) ?_
  · rintro (wrote | isSending)
    · exact .inl ⟨.inl wrote, rfl⟩
    · simp [beside.2] at isSending
  · intro requestIds owed
    refine owed_update owed ?_ ?_
    · rintro - ⟨wrote, -⟩
      refine ⟨⟨wrote, beside.2, .inr (.inr ?_)⟩, rfl⟩
      exact List.mem_append_right _ (List.mem_singleton.mpr rfl)
    · rintro other - - ⟨wrote, notSending, reading | isUnremembered | inQueue⟩
      · exact ⟨wrote, notSending, .inl reading⟩
      · exact ⟨wrote, notSending, .inr (.inl isUnremembered)⟩
      · rcases mem_rememberAbandonedRequest (state.calls id).requestId inQueue with
          kept | ⟨full, first⟩
        · exact ⟨wrote, notSending, .inr (.inr kept)⟩
        · rw [spared other (by simp [evicted, full, first])] at wrote
          contradiction

/-- Whoever is owed the response at the head is the reader or in the queue, once
every written request is remembered. -/
theorem Synced.own_or_abandoned (synced : Synced codec state) {id : Nat} {requestId : Uuid}
    {requestIds : List Uuid} (held : state.lock = some id)
    (owed : Owed state.calls state.abandoned (requestId :: requestIds))
    (remembered : ∀ other, (state.calls other).point.unremembered = true →
      (state.calls other).wrote = false) :
    requestId = (state.calls id).requestId ∨ requestId ∈ state.abandoned := by
  obtain ⟨owner, rfl, wrote, -, reading | isUnremembered | inQueue⟩ :=
    owed requestId List.mem_cons_self
  · obtain ⟨collected, reading⟩ := reading
    have ownerHolds := (synced.holder owner).mpr (by simp [reading, Point.onStream])
    rw [held] at ownerHolds
    cases ownerHolds
    exact .inl rfl
  · rw [remembered owner isUnremembered] at wrote
    contradiction
  · exact .inr inQueue

/-- A complete response is the reader's own or is skipped. -/
theorem synced_receive (synced : Synced codec state) {id : Nat} {buffer payload rest : Bytes}
    {response : IpcResponse} {answered pending : List Uuid}
    (reading : (state.calls id).point = .reading buffer)
    (decoded : codec.fromSlice payload = some response)
    (inbound : Framed (CarriesResponse codec) answered rest)
    (outbound : Framed (CarriesRequest codec) pending state.toPlugin)
    (nodup : (response.requestId :: answered ++ pending).Nodup)
    (owed : Owed state.calls state.abandoned (response.requestId :: answered ++ pending))
    (remembered : ∀ other, (state.calls other).point.unremembered = true →
      (state.calls other).wrote = false) :
    Synced codec ({ state with fromPlugin := rest }.receive codec id payload) ∧
      ∀ failure, (({ state with fromPlugin := rest }.receive codec id payload).calls id).point ≠
        .failed failure := by
  have held : state.lock = some id := (synced.holder id).mpr (by simp [reading, Point.onStream])
  obtain ⟨notAgain, nodup⟩ := List.nodup_cons.mp nodup
  have laterOwed : Owed state.calls state.abandoned (answered ++ pending) :=
    fun requestId member => owed requestId (List.mem_cons_of_mem _ member)
  have toPlugin : state.toPlugin = state.toPlugin ++ [] := (List.append_nil _).symm
  simp only [receive, decoded]
  split
  · rename_i taken
    have own : response.requestId = (state.calls id).requestId := by
      rcases taken with own | unknown
      · exact own
      · rcases synced.own_or_abandoned held owed remembered with own | inQueue
        · exact own
        · exact absurd inQueue unknown
    refine ⟨?_, by simp [release, State.setPoint, setCall]⟩
    refine synced.update rfl (by simp [release, Point.onStream]) ?_ (fun _ known => known) ?_ ?_ ?_
    · intro other elsewhere
      simp [release, held, elsewhere.symm]
    · rintro (wrote | isSending)
      · exact .inl ⟨.inl wrote, rfl⟩
      · simp [Point.sending] at isSending
    · constructor
      · simp
      · simp
      · intro other equal
        cases equal
        exact own
      · simp
    · refine ⟨answered, pending, state.toPlugin, inbound, outbound, toPlugin, nodup, ?_⟩
      refine owed_update laterOwed ?_ fun _ _ _ owes => owes
      intro member
      rw [← own] at member
      exact absurd member notAgain
  · rename_i skipped
    rw [not_or, Classical.not_not] at skipped
    refine ⟨?_, by simp [State.setPoint, setCall]⟩
    refine synced.update rfl (by simp [State.setPoint, setCall, held, Point.onStream])
      (fun _ _ => Iff.rfl) (fun _ known => known) ?_ (.of_idle rfl (by simp) (by simp)) ?_
    · rintro (wrote | isSending)
      · exact .inl ⟨.inl wrote, rfl⟩
      · simp [Point.sending] at isSending
    · refine ⟨answered, pending, state.toPlugin, ?_, outbound, ?_, nodup, ?_⟩
      · simpa [current, State.setPoint, setCall, held, Point.buffer] using inbound
      · simp [current, State.setPoint, setCall, held, Point.sentPart]
      · refine owed_update laterOwed ?_ ?_
        · rintro - ⟨wrote, -⟩
          exact ⟨⟨wrote, rfl, .inl ⟨_, rfl⟩⟩, rfl⟩
        · rintro other - member ⟨wrote, notSending, reading | isUnremembered | inQueue⟩
          · exact ⟨wrote, notSending, .inl reading⟩
          · exact ⟨wrote, notSending, .inr (.inl isUnremembered)⟩
          · have different : (state.calls other).requestId ≠ response.requestId := by
              intro equal
              rw [equal] at member
              exact notAgain member
            exact ⟨wrote, notSending,
              .inr (.inr ((List.mem_erase_of_ne different).mpr inQueue))⟩

/-- The reader of a stream in step never fails. -/
theorem synced_read (synced : Synced codec state) {id count wanted : Nat} {buffer : Bytes}
    (reading : (state.calls id).point = .reading buffer)
    (wants : readProgress buffer = .wants wanted) (positive : 0 < count)
    (within : count ≤ wanted) (available : count ≤ state.fromPlugin.length)
    (remembered : ∀ other, (state.calls other).point.unremembered = true →
      (state.calls other).wrote = false) :
    Synced codec (state.read codec id count buffer) ∧
      ∀ failure, ((state.read codec id count buffer).calls id).point ≠ .failed failure := by
  have held : state.lock = some id := (synced.holder id).mpr (by simp [reading, Point.onStream])
  obtain ⟨answered, pending, written, inbound, outbound, toPlugin, nodup, owed⟩ := synced.inStep
  rw [current_of_lock held, reading] at inbound toPlugin
  rw [Point.buffer] at inbound
  generalize streamEq : buffer ++ state.fromPlugin = stream at inbound
  cases inbound with
  | nil =>
      have length := congrArg List.length streamEq
      simp only [List.length_append, List.length_nil] at length
      omega
  | cons carried framable inbound =>
      rename_i requestId payload answered rest
      rcases readProgress_append framable streamEq wants within with
        ⟨more, unfinished⟩ | ⟨collected, remaining⟩
      · have targetEq : state.read codec id count buffer =
            { state with fromPlugin := state.fromPlugin.drop count }.setPoint id
              (.reading (buffer ++ state.fromPlugin.take count)) := by
          simp only [read, unfinished]
        rw [targetEq]
        refine ⟨?_, by simp [State.setPoint, setCall]⟩
        refine synced.update rfl (by simp [State.setPoint, setCall, held, Point.onStream])
          (fun _ _ => Iff.rfl) (fun _ known => known) ?_ (.of_idle rfl (by simp) (by simp)) ?_
        · rintro (wrote | isSending)
          · exact .inl ⟨.inl wrote, rfl⟩
          · simp [Point.sending] at isSending
        · refine ⟨requestId :: answered, pending, written, ?_, outbound, ?_, nodup, ?_⟩
          · have same : buffer ++ state.fromPlugin.take count ++ state.fromPlugin.drop count =
                frameOf payload ++ rest := by
              rw [List.append_assoc, List.take_append_drop, streamEq]
            simp only [current, State.setPoint, setCall, held, Function.update_self, Point.buffer,
              same]
            exact .cons carried framable inbound
          · simpa [current, State.setPoint, setCall, held, Point.sentPart] using toPlugin
          · refine owed_update owed ?_ fun _ _ _ owes => owes
            rintro - ⟨wrote, -, -⟩
            exact ⟨⟨wrote, rfl, .inl ⟨_, rfl⟩⟩, rfl⟩
      · obtain ⟨response, decoded, rfl⟩ := carried
        have whole : written = state.toPlugin :=
          (toPlugin.trans (List.append_nil _)).symm
        have targetEq : state.read codec id count buffer =
            { state with fromPlugin := rest }.receive codec id payload := by
          simp only [read, collected, readProgress_frameOf framable, remaining]
        rw [targetEq]
        exact synced_receive synced reading decoded inbound (whole ▸ outbound) nodup owed remembered

/-- Step lemma of the invariant. -/
theorem synced_next (admissions : Admissions state.ledger state.calls)
    (synced : Synced codec state) {action : Action} (echoes : PluginEchoes codec state action)
    (orderly : Orderly state action)
    (stepped : next codec state action = some (output, target)) : Synced codec target := by
  have unwritten : ∀ {id}, (state.calls id).point.isUnsent = true →
      (state.calls id).wrote = false := fun {id} => admissions.unsent id
  cases stepped_next stepped with
  | enter idle => exact synced_enter synced idle (unwritten (by simp [idle, Point.isUnsent]))
  | begin entered => exact synced_begin synced entered
  | request admitted ready fresh =>
      exact synced_request synced admitted (unwritten (by simp [admitted, Point.isUnsent])) fresh
  | refuse admitted unready admission =>
      refine synced.setPoint ?_ rfl rfl ?_ ?_ ?_ <;>
        simp [admitted, Point.onStream, Point.unremembered]
  | unavailable admitted unready admission =>
      refine synced.setPoint ?_ rfl rfl ?_ ?_ ?_ <;>
        simp [admitted, Point.onStream, Point.unremembered]
  | abandon refused admission => exact synced_abandon synced refused
  | unsendable waiting free encoded =>
      refine synced.setPoint ?_ rfl rfl ?_ ?_ ?_ <;>
        simp [waiting, Point.onStream, Point.unremembered]
  | acquire waiting free encoded =>
      exact synced_acquire synced waiting (unwritten (by simp [waiting, Point.isUnsent])) free
        encoded
  | write writing positive within => exact synced_write synced writing within
  | read reading wants positive within available =>
      exact (synced_read synced reading wants positive within available orderly).1
  | ioError onStream => exact synced_release synced onStream orderly rfl (by simp)
  | timeoutWaiting waiting =>
      refine synced.setPoint ?_ rfl rfl ?_ ?_ ?_ <;>
        simp [waiting, Point.onStream, Point.unremembered]
  | timeout onStream => exact synced_release synced onStream orderly rfl (by simp)
  | dropWaiting waiting =>
      refine synced.setPoint ?_ rfl rfl ?_ ?_ ?_ <;>
        simp [waiting, Point.onStream, Point.unremembered]
  | drop onStream => exact synced_release synced onStream orderly rfl (by simp)
  | remember dropping =>
      exact synced_remember synced (by simp [dropping, Point.unremembered]) ⟨rfl, rfl⟩ (by simp)
        (by simp) orderly
  | mismatch exchanged foreign =>
      exact absurd ((synced.fits _).exchanged _ exchanged) foreign
  | accept exchanged own => exact synced_correlate synced exchanged own
  | markUnknown failed => exact synced_markUnknown synced failed
  | clearReady marked =>
      refine synced.move ⟨rfl, rfl, rfl⟩ rfl rfl rfl rfl rfl ?_ rfl rfl ?_ ?_ ?_ <;>
        simp [marked, Point.onStream, Point.unremembered]
  | finish flagged =>
      exact synced_remember synced (by simp [flagged, Point.unremembered]) ⟨rfl, rfl⟩ (by simp)
        (by simp) orderly
  | complete recording admission => exact synced_complete synced recording
  | pluginAnswer complete encoded => exact synced_pluginAnswer synced complete encoded echoes
  | pluginSend => exact echoes.elim

/-- Run lemma of the invariant. -/
theorem synced_of_execute {actions : List Action} {outputs : List Output} {reached : State}
    (echoes : Transition.Along (next codec) (PluginEchoes codec) initial actions)
    (orderly : Transition.Along (next codec) Orderly initial actions)
    (run : Transition.execute (next codec) initial actions = some (outputs, reached)) :
    Synced codec reached := by
  have preserved : Transition.Preserves (next codec)
      (fun state action => PluginEchoes codec state action ∧ Orderly state action)
      (fun state => Admissions state.ledger state.calls ∧ Synced codec state) :=
    fun _ _ _ _ ⟨admissions, synced⟩ ⟨echoes, orderly⟩ stepped =>
      ⟨admissions_next admissions stepped, synced_next admissions synced echoes orderly stepped⟩
  exact (preserved.execute ⟨Admissions.initial, synced_initial⟩ (echoes.and orderly) run).2

end State

open Transition State

/-- Correlation.  In every run a call returns what the response says that it read
itself and that carries its own identifier, or an error of the adapter, or the
record of such an outcome of the same operation; and a response that is taken is
the one that is returned.  If the plugin echoes the identifiers and the run is
orderly, no call meets a foreign response and no read fails. -/
theorem responses_correlated {codec : Codec} {actions : List Action} {outputs : List Output}
    {reached : State} (run : execute (next codec) initial actions = some (outputs, reached)) :
    (∀ id outcome, (reached.calls id).point = .returned outcome →
      Answer codec actions reached.calls id outcome) ∧
    (∀ id response, (reached.calls id).accepted = some response →
      response.requestId = (reached.calls id).requestId ∧
        ((reached.calls id).point = .recording ((reached.calls id).answer response) ∨
          (reached.calls id).point = .returned ((reached.calls id).answer response))) ∧
    (Along (next codec) (PluginEchoes codec) initial actions →
      Along (next codec) Orderly initial actions →
      (∀ id, (reached.calls id).point ≠ .failed .mismatch) ∧
      ∀ id count output target, Orderly reached (.read id count) →
        next codec reached (.read id count) = some (output, target) →
        ∀ failure, (target.calls id).point ≠ .failed failure) := by
  refine ⟨?_, fun id => truthful_of_execute run id, ?_⟩
  · intro id outcome returned
    have answer := (sourced_of_execute run).supported id
    rwa [Supported, returned] at answer
  · intro echoes orderly
    have synced := synced_of_execute echoes orderly run
    refine ⟨fun id => (synced.fits id).matched, ?_⟩
    intro id count output target remembered stepped
    cases stepped_next stepped with
    | read reading wants positive within available =>
        exact (synced_read synced reading wants positive within available remembered).2

/-- The answer to the read with the request identifier 1. -/
def stateReply : Bytes :=
  asciiBytes ("\x7b\"request_id\":\"00000000-0000-0000-0000-000000000001\"," ++
    "\"state_generation\":0,\"status\":\"ok\",\"result\":\x7b\x7d\x7d")

/-- A read of the debugger state that writes its frame. -/
def writtenRead (id : Nat) (requestId : Uuid) : List Action :=
  [.enter id "debugger.state" (.object []), .checkReady id requestId 0, .acquire id, .write id 137]

/-- The step is a call's and needs no order. -/
def Action.isFree : Action → Bool
  | .enter _ _ _ | .checkReady _ _ _ | .acquire _ | .write _ _ => true
  | _ => false

theorem orderly_of_free (codec : Codec) (state : State) {actions : List Action}
    (free : ∀ action ∈ actions, action.isFree = true) :
    Along (next codec) (fun state action => PluginEchoes codec state action ∧ Orderly state action)
      state actions := by
  refine (along_of_forall_mem (next codec) state free).mono ?_
  intro state action isFree
  cases action <;> first | exact ⟨trivial, trivial⟩ | contradiction

/-- The step is the plugin's. -/
def Action.fromPlugin : Action → Bool
  | .pluginAnswer _ | .pluginSend _ => true
  | _ => false

/-- The read with the identifier 1 is the one at the head. -/
theorem smallCodec_echoes {state : State} (head : state.headPayload = stateRequest "1") :
    PluginEchoes smallCodec state (.pluginAnswer stateReply) := by
  intro request serialized
  by_cases first : request.requestId = 1
  · exact ⟨_, rfl, first.symm⟩
  · exfalso
    simp only [smallCodec, if_neg first, head, stateRequest, Option.some.injEq] at serialized
    have digits := List.append_cancel_left (List.append_cancel_right serialized)
    revert digits
    decide

/-- The first read is dropped when its frame is written. -/
def droppedWritten : List Action :=
  writtenRead 0 1 ++ [.drop 0, .remember 0]

/-- Its answer is at the head of the stream when the second one reads. -/
def skippedResponse : List Action :=
  droppedWritten ++ ([.pluginAnswer stateReply] ++ (writtenRead 1 2 ++ [.read 1 4, .read 1 100]))

set_option maxRecDepth 8000 in
theorem responses_correlated_skipped :
    ∃ outputs reached,
      execute (next smallCodec) initial skippedResponse = some (outputs, reached) ∧
      (reached.calls 1).point = .reading [] ∧ reached.abandoned = [] ∧
      (reached.calls 1).point ≠ .failed .mismatch := by
  have guarded : Along (next smallCodec)
      (fun state action => PluginEchoes smallCodec state action ∧ Orderly state action) initial
      skippedResponse := by
    refine .append rfl (.append rfl (orderly_of_free _ _ (by decide)) ?_) (.append rfl ?_
      (.append rfl (orderly_of_free _ _ (by decide)) ?_))
    · refine (along_cons_of_some rfl).mpr ⟨⟨trivial, rfl⟩, (along_cons_of_some rfl).mpr
        ⟨⟨trivial, ?_⟩, trivial⟩⟩
      intro other evicts
      cases (show none = some _ from evicts)
    · exact (along_cons_of_some rfl).mpr ⟨⟨smallCodec_echoes rfl, trivial⟩, trivial⟩
    · refine (along_cons_of_some rfl).mpr ⟨⟨trivial, ?_⟩, (along_cons_of_some rfl).mpr
        ⟨⟨trivial, ?_⟩, trivial⟩⟩ <;> rintro (_ | _ | other) unremembered <;>
        cases (show false = true from unremembered)
  refine ⟨_, _, rfl, rfl, rfl, ?_⟩
  refine ((@responses_correlated smallCodec skippedResponse _ _ rfl).2.2
    (guarded.mono fun _ _ both => both.1) (guarded.mono fun _ _ both => both.2)).1 1

/-- The first read is dropped one byte into its response. -/
def droppedMidRead : List Action :=
  writtenRead 0 1 ++ ([.pluginAnswer stateReply] ++ ([.read 0 1, .drop 0, .remember 0] ++
    (writtenRead 1 2 ++ [.read 1 3, .read 1 1])))

set_option maxRecDepth 8000 in
/-- The second read finds the rest of the first one's response and fails. -/
theorem response_misread_after_drop :
    ∃ outputs reached,
      execute (next smallCodec) initial droppedMidRead = some (outputs, reached) ∧
      Along (next smallCodec) (PluginEchoes smallCodec) initial droppedMidRead ∧
      (reached.calls 1).point = .failed (.frame .oversized) := by
  have free : ∀ state actions, (∀ action ∈ actions, Action.fromPlugin action = false) →
      Along (next smallCodec) (PluginEchoes smallCodec) state actions := by
    intro state actions calls
    refine (along_of_forall_mem (next smallCodec) state calls).mono ?_
    intro state action isCalls
    cases action <;> trivial
  refine ⟨_, _, rfl, ?_, rfl⟩
  refine .append rfl (free _ _ (by decide)) (.append rfl ?_ (free _ _ (by decide)))
  exact (along_cons_of_some rfl).mpr ⟨smallCodec_echoes rfl, trivial⟩

end X64dbgMcp.Ipc
