import X64dbgMcp.Ipc.Stepped

/-!
# Admissions of concurrent calls

What the calls of one adapter have to do with the ledger.  Most steps only move
one call; `Shape` lists the few that also change the ledger.  `Admissions` is
the invariant that links them: a call that holds an admission finds its entry in
flight, no two calls hold the same operation, and a recorded outcome is the one
that a call returned after writing its frame.
-/

namespace X64dbgMcp.Ipc

open Text

namespace Point

/-- The call is admitted and the ledger has not been told its outcome. -/
def isOpen : Point → Bool
  | .admitted | .refused | .waiting _ | .writing _ _ | .reading _ | .exchanged _ | .failed _
  | .recording _ => true
  | .idle | .entered _ _ | .marked _ | .flagged _ | .returned _ | .dropping | .dropped => false

/-- The call stands before its write. -/
def isUnsent : Point → Bool
  | .idle | .entered _ _ | .admitted | .refused | .waiting _ => true
  | _ => false

/-- The call stands behind its write. -/
def isSent : Point → Bool
  | .reading _ | .exchanged _ | .recording _ => true
  | _ => false

attribute [grind =] isOpen isUnsent isSent

end Point

namespace Call

/-- The call holds an admission that it has to settle. -/
def Holds (call : Call) (operation : Uuid) (fingerprint : String) : Prop :=
  call.operation = some (operation, fingerprint) ∧ call.point.isOpen = true

/-- A step of one call that does not concern the ledger. -/
structure Moves (before after : Call) : Prop where
  unreturned : ∀ outcome, before.point ≠ .returned outcome
  holds : ∀ operation fingerprint, after.Holds operation fingerprint →
    before.Holds operation fingerprint ∧ (before.wrote = true → after.wrote = true)
  unsent : after.point.isUnsent = true →
    after.wrote = false ∨ before.point.isUnsent = true ∧ after.wrote = before.wrote
  sent : after.point.isSent = true →
    after.wrote = true ∨ before.point.isSent = true ∧ after.wrote = before.wrote

/-- The call still holds what it held. -/
def Keeps (before after : Call) : Prop :=
  before.operation.isSome = true → before.point.isOpen = true →
    after.operation = before.operation ∧ after.point.isOpen = true

/-- A new position, with nothing else that the ledger cares about. -/
theorem Moves.of_point {before after : Call} (operation : after.operation = before.operation)
    (wrote : after.wrote = before.wrote)
    (unreturned : ∀ outcome, before.point ≠ .returned outcome)
    (stillOpen : after.point.isOpen = true → before.point.isOpen = true)
    (unsent : after.point.isUnsent = true → before.point.isUnsent = true)
    (sent : after.point.isSent = true → before.point.isSent = true) : before.Moves after where
  unreturned := unreturned
  holds := fun _ _ holds =>
    ⟨⟨operation ▸ holds.1, stillOpen holds.2⟩, fun known => wrote.trans known⟩
  unsent := fun isUnsent => .inr ⟨unsent isUnsent, wrote⟩
  sent := fun isSent => .inr ⟨sent isSent, wrote⟩

/-- A call that is just made holds nothing. -/
theorem Moves.of_enter {before after : Call} (idle : before.point = .idle)
    (operation : after.operation = none) (wrote : after.wrote = false)
    (sent : after.point.isSent = false) : before.Moves after where
  unreturned := by simp [idle]
  holds := by
    rintro _ _ ⟨admitted, -⟩
    rw [operation] at admitted
    contradiction
  unsent := fun _ => .inl wrote
  sent := by simp [sent]

end Call

namespace State

/-- What one step does to the ledger and the calls. -/
inductive Shape (state : State) (action : Action) (output : Output) (target : State) :
    Prop where
  /-- The plugin acts. -/
  | plugin (ledger : target.ledger = state.ledger) (calls : target.calls = state.calls)
      (silent : output = .silent)
  /-- One call moves on.  Only a drop gives up an admission. -/
  | moved (id : Nat) (call : Call)
      (ledger : target.ledger = state.ledger)
      (calls : target.calls = Function.update state.calls id call)
      (moves : (state.calls id).Moves call)
      (keeps : (state.calls id).Keeps call ∨ action = .drop id)
      (silent : output = .silent)
  /-- A portion of a frame is written. -/
  | wrote (id : Nat) (call : Call) (frame : Bytes) (sent : Nat)
      (point : (state.calls id).point = .writing frame sent)
      (ledger : target.ledger = state.ledger)
      (calls : target.calls = Function.update state.calls id call)
      (moves : (state.calls id).Moves call)
      (keeps : (state.calls id).Keeps call)
      (written : call.wrote = true)
      (output : output = if (state.calls id).wrote then .silent
        else .frame id (state.calls id).operationId)
  /-- A mutation asks for its admission. -/
  | begun (id now : Nat) (operation : Uuid) (fingerprint : String)
      (action : action = .begin id now)
      (point : (state.calls id).point = .entered operation fingerprint)
      (target : target = state.begin id now operation fingerprint)
      (silent : output = .silent)
  /-- An admission is withdrawn. -/
  | abandoned (id : Nat) (operation : Uuid) (fingerprint : String)
      (point : (state.calls id).point = .refused)
      (admission : (state.calls id).operation = some (operation, fingerprint))
      (target : target = state.abandon id operation fingerprint)
      (silent : output = .silent)
      (action : action = .abandon id)
  /-- An exchange failed. -/
  | failed (id now : Nat) (failure : Failure)
      (point : (state.calls id).point = .failed failure)
      (target : target = state.markUnknown id now failure)
      (silent : output = .silent)
  /-- An outcome is recorded. -/
  | completed (id now : Nat) (operation : Uuid) (fingerprint : String) (outcome : Outcome)
      (point : (state.calls id).point = .recording outcome)
      (admission : (state.calls id).operation = some (operation, fingerprint))
      (target : target = state.complete id now operation outcome)
      (silent : output = .silent)

variable {codec : Codec} {state target : State} {action : Action} {output : Output}

/-- One call takes a new position. -/
theorem Shape.of_point {id : Nat} {point : Point}
    (calls : target.calls =
      Function.update state.calls id { state.calls id with point := point })
    (ledger : target.ledger = state.ledger)
    (unreturned : ∀ outcome, (state.calls id).point ≠ .returned outcome)
    (stillOpen : point.isOpen = true → (state.calls id).point.isOpen = true)
    (unsent : point.isUnsent = true → (state.calls id).point.isUnsent = true)
    (sent : point.isSent = true → (state.calls id).point.isSent = true)
    (keeps : ((state.calls id).operation.isSome = true → (state.calls id).point.isOpen = true →
      point.isOpen = true) ∨ action = .drop id) :
    Shape state action .silent target :=
  .moved id _ ledger calls (.of_point rfl rfl unreturned stillOpen unsent sent)
    (keeps.imp_left fun stays admitted isOpen => ⟨rfl, stays admitted isOpen⟩) rfl

theorem shape_enter {id : Nat} {name : String} {arguments : Json}
    (idle : (state.calls id).point = .idle) :
    Shape state action .silent (state.enter codec id name arguments) := by
  have keeps : ∀ call, (state.calls id).Keeps call := by
    intro call _ isOpen
    simp [idle, Point.isOpen] at isOpen
  simp only [enter]
  split
  · split
    · exact .moved id _ rfl rfl (.of_enter idle rfl rfl rfl) (.inl (keeps _)) rfl
    · split <;> exact .moved id _ rfl rfl (.of_enter idle rfl rfl rfl) (.inl (keeps _)) rfl
  · exact .moved id _ rfl rfl (.of_enter idle rfl rfl rfl) (.inl (keeps _)) rfl

theorem shape_read {id count : Nat} {buffer : Bytes}
    (reading : (state.calls id).point = .reading buffer) :
    Shape state action .silent (state.read codec id count buffer) := by
  simp only [read]
  split
  · refine .of_point rfl rfl ?_ ?_ ?_ ?_ ?_ <;>
      simp [reading, Point.isOpen, Point.isUnsent, Point.isSent]
  · refine .of_point rfl rfl ?_ ?_ ?_ ?_ ?_ <;>
      simp [reading, Point.isOpen, Point.isUnsent, Point.isSent]
  · simp only [receive]
    split
    · refine .of_point rfl rfl ?_ ?_ ?_ ?_ ?_ <;>
        simp [reading, Point.isOpen, Point.isUnsent, Point.isSent]
    · split <;> refine .of_point rfl rfl ?_ ?_ ?_ ?_ ?_ <;>
        simp [reading, Point.isOpen, Point.isUnsent, Point.isSent]

theorem shape_correlate {id : Nat} {response : IpcResponse}
    (exchanged : (state.calls id).point = .exchanged response) :
    Shape state action .silent (state.correlate id response) := by
  simp only [correlate]
  split
  · refine .of_point rfl rfl ?_ ?_ ?_ ?_ ?_ <;>
      simp [exchanged, Point.isOpen, Point.isUnsent, Point.isSent]
  · cases mutation : (state.calls id).operation.isSome <;>
      refine .moved id _ rfl rfl (.of_point rfl rfl ?_ ?_ ?_ ?_) (.inl ?_) rfl <;>
      simp [exchanged, mutation, Call.Keeps, Point.isOpen, Point.isUnsent, Point.isSent]

theorem shape_write {id count sent : Nat} {frame : Bytes}
    (writing : (state.calls id).point = .writing frame sent) :
    Shape state action
      (if (state.calls id).wrote then .silent else .frame id (state.calls id).operationId)
      (state.write id count frame sent) := by
  refine .wrote id _ frame sent writing rfl rfl ?_ ?_ rfl rfl
  · constructor
    · simp [writing]
    · rintro operation fingerprint ⟨admission, -⟩
      exact ⟨⟨admission, by simp [writing, Point.isOpen]⟩, fun _ => rfl⟩
    · intro isUnsent
      split at isUnsent <;> simp [Point.isUnsent] at isUnsent
    · exact fun _ => .inl rfl
  · intro _ _
    refine ⟨rfl, ?_⟩
    simp only
    split <;> rfl

/-- The stream is released with nothing said to the ledger. -/
theorem shape_release {id : Nat} {point : Point}
    (onStream : (state.calls id).point.onStream = true)
    (behind : point.isUnsent = false ∧ point.isSent = false)
    (keeps : point.isOpen = true ∨ action = .drop id) :
    Shape state action .silent (state.release id point) := by
  refine .of_point rfl rfl ?_ ?_ (by simp [behind.1]) (by simp [behind.2])
    (keeps.imp_left fun isOpen _ _ => isOpen)
  · intro outcome returned
    simp [returned, Point.onStream] at onStream
  · intro _
    cases point : (state.calls id).point <;> simp_all [Point.onStream, Point.isOpen]

/-- What a step does to the ledger and the calls. -/
theorem shape_next (stepped : next codec state action = some (output, target)) :
    Shape state action output target := by
  cases stepped_next stepped with
  | enter idle => exact shape_enter idle
  | begin entered => exact .begun _ _ _ _ rfl entered rfl rfl
  | request admitted ready fresh =>
      refine .moved _ _ rfl rfl (.of_point rfl rfl ?_ ?_ ?_ ?_)
        (.inl fun _ _ => ⟨rfl, rfl⟩) rfl <;>
        simp [admitted, Point.isOpen, Point.isUnsent, Point.isSent]
  | refuse admitted unready admission =>
      refine .of_point rfl rfl ?_ ?_ ?_ ?_ ?_ <;>
        simp [admitted, Point.isOpen, Point.isUnsent, Point.isSent]
  | unavailable admitted unready admission =>
      refine .of_point rfl rfl ?_ ?_ ?_ ?_ ?_ <;>
        simp [admitted, admission, Point.isOpen, Point.isUnsent, Point.isSent]
  | abandon refused admission => exact .abandoned _ _ _ refused admission rfl rfl rfl
  | unsendable waiting free encoded =>
      refine .of_point rfl rfl ?_ ?_ ?_ ?_ ?_ <;>
        simp [waiting, Point.isOpen, Point.isUnsent, Point.isSent]
  | acquire waiting free encoded =>
      refine .of_point rfl rfl ?_ ?_ ?_ ?_ ?_ <;>
        simp [waiting, Point.isOpen, Point.isUnsent, Point.isSent]
  | write writing positive within => exact shape_write writing
  | read reading wants positive within available => exact shape_read reading
  | ioError onStream => exact shape_release onStream ⟨rfl, rfl⟩ (.inl rfl)
  | timeoutWaiting waiting =>
      refine .of_point rfl rfl ?_ ?_ ?_ ?_ ?_ <;>
        simp [waiting, Point.isOpen, Point.isUnsent, Point.isSent]
  | timeout onStream => exact shape_release onStream ⟨rfl, rfl⟩ (.inl rfl)
  | dropWaiting waiting =>
      refine .of_point rfl rfl ?_ ?_ ?_ ?_ ?_ <;>
        simp [waiting, Point.isOpen, Point.isUnsent, Point.isSent]
  | drop onStream => exact shape_release onStream ⟨rfl, rfl⟩ (.inr rfl)
  | remember dropping =>
      refine .of_point rfl rfl ?_ ?_ ?_ ?_ ?_ <;>
        simp [dropping, Point.isOpen, Point.isUnsent, Point.isSent]
  | mismatch exchanged foreign =>
      refine .of_point rfl rfl ?_ ?_ ?_ ?_ ?_ <;>
        simp [exchanged, Point.isOpen, Point.isUnsent, Point.isSent]
  | accept exchanged own => exact shape_correlate exchanged
  | markUnknown failed => exact .failed _ _ _ failed rfl rfl
  | clearReady marked =>
      refine .of_point rfl rfl ?_ ?_ ?_ ?_ ?_ <;>
        simp [marked, Point.isOpen, Point.isUnsent, Point.isSent]
  | finish flagged =>
      refine .of_point rfl rfl ?_ ?_ ?_ ?_ ?_ <;>
        simp [flagged, Point.isOpen, Point.isUnsent, Point.isSent]
  | complete recording admission => exact .completed _ _ _ _ _ recording admission rfl rfl
  | pluginAnswer complete encoded => exact .plugin rfl rfl rfl
  | pluginSend => exact .plugin rfl rfl rfl

end State

/-- The invariant that links the ledger with the calls. -/
structure Admissions (ledger : OperationLedger) (calls : Nat → Call) : Prop where
  inFlight : ∀ id operation fingerprint, (calls id).Holds operation fingerprint →
    ∃ touched, ledger.get operation = some ⟨fingerprint, .inFlight, touched⟩
  unique : ∀ first second operation firstKey secondKey, (calls first).Holds operation firstKey →
    (calls second).Holds operation secondKey → first = second
  unsent : ∀ id, (calls id).point.isUnsent = true → (calls id).wrote = false
  sent : ∀ id, (calls id).point.isSent = true → (calls id).wrote = true
  recorded : ∀ operation fingerprint value touched,
    ledger.get operation = some ⟨fingerprint, .completed value, touched⟩ →
    ∃ first outcome, (calls first).point = .returned outcome ∧
      (calls first).operation = some (operation, fingerprint) ∧ (calls first).wrote = true ∧
      value = encodeRecorded outcome

namespace Admissions

variable {ledger : OperationLedger} {calls : Nat → Call}

theorem initial : Admissions State.initial.ledger State.initial.calls := by
  constructor <;> simp [State.initial, Call.Holds, OperationLedger.get, Point.isSent]

/-- A step of one call that does not concern the ledger. -/
theorem move (admissions : Admissions ledger calls) {id : Nat} {call : Call}
    (moves : (calls id).Moves call) : Admissions ledger (Function.update calls id call) := by
  -- Whoever holds an admission afterwards held it before.
  have held : ∀ other operation fingerprint,
      (Function.update calls id call other).Holds operation fingerprint →
      (calls other).Holds operation fingerprint := by
    refine (Function.forall_update_iff calls fun other call => ∀ operation fingerprint,
      call.Holds operation fingerprint → (calls other).Holds operation fingerprint).mpr ⟨?_, ?_⟩
    · exact fun operation fingerprint holds => (moves.holds operation fingerprint holds).1
    · exact fun _ _ _ _ holds => holds
  constructor
  · intro other operation fingerprint holds
    exact admissions.inFlight other operation fingerprint (held other operation fingerprint holds)
  · intro first second operation firstKey secondKey firstHolds secondHolds
    exact admissions.unique first second operation firstKey secondKey
      (held first operation firstKey firstHolds) (held second operation secondKey secondHolds)
  · refine (Function.forall_update_iff calls fun _ call => call.point.isUnsent = true →
      call.wrote = false).mpr ⟨?_, fun other _ => admissions.unsent other⟩
    intro isUnsent
    rcases moves.unsent isUnsent with unwritten | ⟨before, same⟩
    · exact unwritten
    · exact same.trans (admissions.unsent id before)
  · refine (Function.forall_update_iff calls fun _ call => call.point.isSent = true →
      call.wrote = true).mpr ⟨?_, fun other _ => admissions.sent other⟩
    intro isSent
    rcases moves.sent isSent with written | ⟨before, same⟩
    · exact written
    · exact same.trans (admissions.sent id before)
  · intro operation fingerprint value touched found
    obtain ⟨first, outcome, returned, admission, written, valueEq⟩ :=
      admissions.recorded operation fingerprint value touched found
    have distinct : first ≠ id := by
      rintro rfl
      exact moves.unreturned outcome returned
    exact ⟨first, outcome, by simp [distinct, returned], by simp [distinct, admission],
      by simp [distinct, written], valueEq⟩

/-- A step of the ledger that changes no entry in flight and completes none. -/
theorem ledgerStep (admissions : Admissions ledger calls) {updated : OperationLedger}
    (inFlight : ∀ operation fingerprint touched,
      ledger.get operation = some ⟨fingerprint, .inFlight, touched⟩ →
      ∃ touched, updated.get operation = some ⟨fingerprint, .inFlight, touched⟩)
    (completed : ∀ operation fingerprint value touched,
      updated.get operation = some ⟨fingerprint, .completed value, touched⟩ →
      ∃ touched, ledger.get operation = some ⟨fingerprint, .completed value, touched⟩) :
    Admissions updated calls where
  inFlight := by
    intro id operation fingerprint holds
    obtain ⟨touched, found⟩ := admissions.inFlight id operation fingerprint holds
    exact inFlight operation fingerprint touched found
  unique := admissions.unique
  unsent := admissions.unsent
  sent := admissions.sent
  recorded := by
    intro operation fingerprint value touched found
    obtain ⟨before, foundBefore⟩ := completed operation fingerprint value touched found
    exact admissions.recorded operation fingerprint value before foundBefore

theorem expire (admissions : Admissions ledger calls) (now : Nat) :
    Admissions (ledger.expire now) calls := by
  refine admissions.ledgerStep ?_ ?_
  · intro operation fingerprint touched found
    exact ⟨touched, OperationLedger.get_expire_of_inFlight found rfl⟩
  · intro operation fingerprint value touched found
    exact ⟨touched, OperationLedger.get_of_get_expire found⟩

theorem touch (admissions : Admissions ledger calls) (now : Nat) (operation : Uuid) :
    Admissions (ledger.touch now operation) calls := by
  refine admissions.ledgerStep ?_ ?_
  · intro other fingerprint touched found
    rw [OperationLedger.get_touch, found]
    split
    · exact ⟨now, rfl⟩
    · exact ⟨touched, rfl⟩
  · intro other fingerprint value touched found
    rw [OperationLedger.get_touch] at found
    split at found
    · obtain ⟨⟨key, status, before⟩, foundBefore, equal⟩ := Option.map_eq_some_iff.mp found
      cases equal
      exact ⟨before, foundBefore⟩
    · exact ⟨touched, found⟩

/-- A new admission: nobody held the operation, for its entry would have been
found. -/
theorem start (admissions : Admissions ledger calls) {updated : OperationLedger} {id now : Nat}
    {operation : Uuid} {fingerprint : String} (absent : ledger.get operation = none)
    (entered : (calls id).point = .entered operation fingerprint)
    (inserted : ∀ other, updated.get other =
      if other = operation then some ⟨fingerprint, .inFlight, now⟩ else ledger.get other) :
    Admissions updated (Function.update calls id
      { calls id with point := .admitted, operation := some (operation, fingerprint) }) := by
  have unheld : ∀ other key, ¬ (calls other).Holds operation key := by
    intro other key holds
    obtain ⟨touched, found⟩ := admissions.inFlight other operation key holds
    rw [absent] at found
    contradiction
  have unwritten : (calls id).wrote = false := admissions.unsent id (by simp [entered, Point.isUnsent])
  -- The new holder holds exactly the new operation; the others are as before.
  have holder : ∀ other otherOperation key,
      (Function.update calls id { calls id with
        point := .admitted, operation := some (operation, fingerprint) } other).Holds
          otherOperation key →
      (other = id ∧ otherOperation = operation ∧ key = fingerprint) ∨
        (calls other).Holds otherOperation key := by
    intro other otherOperation key holds
    by_cases equal : other = id
    · subst equal
      rw [Function.update_self] at holds
      obtain ⟨admission, -⟩ := holds
      cases admission
      exact .inl ⟨rfl, rfl, rfl⟩
    · rw [Function.update_of_ne equal] at holds
      exact .inr holds
  constructor
  · intro other otherOperation key holds
    rcases holder other otherOperation key holds with ⟨-, rfl, rfl⟩ | before
    · exact ⟨now, by rw [inserted, if_pos rfl]⟩
    · have distinct : otherOperation ≠ operation := by
        rintro rfl
        exact unheld other key before
      obtain ⟨touched, found⟩ := admissions.inFlight other otherOperation key before
      exact ⟨touched, by rw [inserted, if_neg distinct, found]⟩
  · intro first second otherOperation firstKey secondKey firstHolds secondHolds
    rcases holder first otherOperation firstKey firstHolds with ⟨rfl, rfl, -⟩ | firstBefore
    · rcases holder second otherOperation secondKey secondHolds with ⟨rfl, -, -⟩ | secondBefore
      · rfl
      · exact absurd secondBefore (unheld second secondKey)
    · rcases holder second otherOperation secondKey secondHolds with ⟨-, rfl, -⟩ | secondBefore
      · exact absurd firstBefore (unheld first firstKey)
      · exact admissions.unique first second otherOperation firstKey secondKey firstBefore
          secondBefore
  · exact (Function.forall_update_iff calls fun _ call => call.point.isUnsent = true →
      call.wrote = false).mpr ⟨fun _ => unwritten, fun other _ => admissions.unsent other⟩
  · refine (Function.forall_update_iff calls fun _ call => call.point.isSent = true →
      call.wrote = true).mpr ⟨?_, fun other _ => admissions.sent other⟩
    simp [Point.isSent]
  · intro otherOperation key value touched found
    rw [inserted] at found
    split at found
    · cases found
    · obtain ⟨first, outcome, returned, admission, written, valueEq⟩ :=
        admissions.recorded otherOperation key value touched found
      have distinct : first ≠ id := by
        rintro rfl
        rw [entered] at returned
        contradiction
      exact ⟨first, outcome, by simp [distinct, returned], by simp [distinct, admission],
        by simp [distinct, written], valueEq⟩

/-- The holder of an admission gives it up and tells the ledger. -/
theorem settle (admissions : Admissions ledger calls) {updated : OperationLedger} {id : Nat}
    {operation : Uuid} {fingerprint : String} {point : Point} {entry : Option Entry}
    (holds : (calls id).Holds operation fingerprint)
    (told : ∀ other, updated.get other = if other = operation then entry else ledger.get other)
    (closed : point.isOpen = false ∧ point.isUnsent = false ∧ point.isSent = false)
    (recorded : ∀ key value touched, entry = some ⟨key, .completed value, touched⟩ →
      key = fingerprint ∧ (calls id).wrote = true ∧
        ∃ outcome, point = .returned outcome ∧ value = encodeRecorded outcome) :
    Admissions updated (Function.update calls id { calls id with point := point }) := by
  have unreturned : ∀ outcome, (calls id).point ≠ .returned outcome := by
    intro outcome returned
    have isOpen := holds.2
    simp [returned, Point.isOpen] at isOpen
  have moved : Admissions ledger (Function.update calls id { calls id with point := point }) :=
    admissions.move (.of_point rfl rfl unreturned (by simp [closed.1]) (by simp [closed.2.1])
      (by simp [closed.2.2]))
  constructor
  · intro other otherOperation key otherHolds
    obtain ⟨touched, found⟩ := moved.inFlight other otherOperation key otherHolds
    have distinct : otherOperation ≠ operation := by
      rintro rfl
      by_cases equal : other = id
      · subst equal
        rw [Function.update_self] at otherHolds
        simp [Call.Holds, closed.1] at otherHolds
      · rw [Function.update_of_ne equal] at otherHolds
        exact equal (admissions.unique other id otherOperation key fingerprint otherHolds holds)
    exact ⟨touched, by rw [told, if_neg distinct, found]⟩
  · exact moved.unique
  · exact moved.unsent
  · exact moved.sent
  · intro otherOperation key value touched found
    rw [told] at found
    split at found
    · rename_i equal
      subst equal
      obtain ⟨rfl, written, outcome, returned, valueEq⟩ := recorded key value touched found
      exact ⟨id, outcome, by simp [returned], by simp [holds.1], by simp [written], valueEq⟩
    · exact moved.recorded otherOperation key value touched found

end Admissions

namespace State

variable {codec : Codec} {state target : State} {output : Output}

/-- The answer to a call for a known operation. -/
def knownAnswer (operation : Uuid) (entry : Entry) (fingerprint : String) : Outcome :=
  if entry.fingerprint ≠ fingerprint then .error (operationIdConflict operation)
  else
    match entry.status with
    | .inFlight => .error (alreadyInFlight operation)
    | .completed value => decodeRecorded value
    | .unknown => .error (unknownOutcome operation)

theorem refusal_admission (operation : Uuid) (fingerprint : String) (entry : Entry) :
    refusal operation (entry.admission fingerprint) =
      some (knownAnswer operation entry fingerprint) := by
  obtain ⟨key, status, touched⟩ := entry
  simp only [Entry.admission, knownAnswer]
  split
  · rfl
  · cases status <;> rfl

/-- A call for a known operation returns at once. -/
theorem begin_of_known {id now : Nat} {operation : Uuid} {fingerprint : String} {entry : Entry}
    (found : (state.ledger.expire now).get operation = some entry) :
    state.begin id now operation fingerprint =
      { state with ledger := (state.ledger.expire now).touch now operation }.setPoint id
        (.returned (knownAnswer operation entry fingerprint)) := by
  simp only [State.begin, OperationLedger.begin_of_known found, refusal_admission]

theorem admissions_begin (admissions : Admissions state.ledger state.calls) {id now : Nat}
    {operation : Uuid} {fingerprint : String}
    (entered : (state.calls id).point = .entered operation fingerprint) :
    Admissions (state.begin id now operation fingerprint).ledger
      (state.begin id now operation fingerprint).calls := by
  have refused : ∀ outcome, (state.calls id).Moves
      { state.calls id with point := .returned outcome } := by
    intro outcome
    refine .of_point rfl rfl ?_ ?_ ?_ ?_ <;>
      simp [entered, Point.isOpen, Point.isUnsent, Point.isSent]
  have expired := admissions.expire now
  cases found : (state.ledger.expire now).get operation with
  | some entry =>
      rw [begin_of_known found]
      exact (expired.touch now operation).move (refused _)
  | none =>
      simp only [State.begin]
      rcases OperationLedger.begin_of_unknown found with full | ⟨started, inserted⟩
      · rw [full]
        exact expired.move (refused _)
      · rw [started]
        exact expired.start found entered inserted

/-- Whatever the ledger says, only the failed call moves. -/
theorem markUnknown_calls (state : State) (id now : Nat) (failure : Failure) :
    (state.markUnknown id now failure).calls =
      Function.update state.calls id { state.calls id with point := .marked failure } := by
  simp only [State.markUnknown]
  split
  · rfl
  · split <;> rfl

/-- A failed mutation makes its entry unknown. -/
theorem markUnknown_of_holds (admissions : Admissions state.ledger state.calls) {id now : Nat}
    {failure : Failure} {operation : Uuid} {fingerprint : String}
    (holds : (state.calls id).Holds operation fingerprint) :
    ∃ updated, state.markUnknown id now failure =
        { state with ledger := updated }.setPoint id (.marked failure) ∧
      ∀ other, updated.get other =
        if other = operation then some ⟨fingerprint, .unknown, now⟩
        else state.ledger.get other := by
  obtain ⟨touched, found⟩ := admissions.inFlight id operation fingerprint holds
  obtain ⟨updated, updatedEq, told⟩ := OperationLedger.setStatus_of_known now .unknown found
  exact ⟨updated, by simp [State.markUnknown, holds.1, OperationLedger.markUnknown, updatedEq],
    told⟩

/-- A correlated mutation records its outcome. -/
theorem complete_of_holds (admissions : Admissions state.ledger state.calls) {id now : Nat}
    {operation : Uuid} {fingerprint : String} {outcome : Outcome}
    (holds : (state.calls id).Holds operation fingerprint) :
    ∃ updated, state.complete id now operation outcome =
        { state with ledger := updated }.setPoint id (.returned outcome) ∧
      ∀ other, updated.get other =
        if other = operation then some ⟨fingerprint, .completed (encodeRecorded outcome), now⟩
        else state.ledger.get other := by
  obtain ⟨touched, found⟩ := admissions.inFlight id operation fingerprint holds
  obtain ⟨updated, updatedEq, told⟩ :=
    OperationLedger.setStatus_of_known now (.completed (encodeRecorded outcome)) found
  exact ⟨updated, by simp [State.complete, OperationLedger.complete, updatedEq], told⟩

/-- A withdrawn admission leaves no entry. -/
theorem abandon_of_holds (admissions : Admissions state.ledger state.calls) {id : Nat}
    {operation : Uuid} {fingerprint : String}
    (holds : (state.calls id).Holds operation fingerprint) :
    ∃ updated, state.abandon id operation fingerprint =
        { state with ledger := updated }.setPoint id
          (.returned (.error ToolError.pluginUnavailable)) ∧
      ∀ other, updated.get other =
        if other = operation then none else state.ledger.get other := by
  obtain ⟨touched, found⟩ := admissions.inFlight id operation fingerprint holds
  obtain ⟨updated, updatedEq, told⟩ :=
    OperationLedger.abandonUnstarted_of_inFlight found rfl rfl
  exact ⟨updated, by simp [State.abandon, updatedEq], told⟩

theorem admissions_markUnknown (admissions : Admissions state.ledger state.calls) {id now : Nat}
    {failure : Failure} (failed : (state.calls id).point = .failed failure) :
    Admissions (state.markUnknown id now failure).ledger
      (state.markUnknown id now failure).calls := by
  cases admission : (state.calls id).operation with
  | none =>
      simp only [State.markUnknown, admission]
      refine admissions.move (.of_point rfl rfl ?_ ?_ ?_ ?_) <;>
        simp [failed, Point.isOpen, Point.isUnsent, Point.isSent]
  | some admitted =>
      have holds : (state.calls id).Holds admitted.1 admitted.2 :=
        ⟨admission, by simp [failed, Point.isOpen]⟩
      obtain ⟨updated, targetEq, told⟩ := markUnknown_of_holds admissions holds
      rw [targetEq]
      exact admissions.settle holds told ⟨rfl, rfl, rfl⟩ (by simp)

theorem admissions_complete (admissions : Admissions state.ledger state.calls) {id now : Nat}
    {operation : Uuid} {fingerprint : String} {outcome : Outcome}
    (recording : (state.calls id).point = .recording outcome)
    (admission : (state.calls id).operation = some (operation, fingerprint)) :
    Admissions (state.complete id now operation outcome).ledger
      (state.complete id now operation outcome).calls := by
  have holds : (state.calls id).Holds operation fingerprint :=
    ⟨admission, by simp [recording, Point.isOpen]⟩
  obtain ⟨updated, targetEq, told⟩ := complete_of_holds admissions holds
  rw [targetEq]
  refine admissions.settle holds told ⟨rfl, rfl, rfl⟩ ?_
  intro key value touched entryEq
  cases entryEq
  exact ⟨rfl, admissions.sent id (by simp [recording, Point.isSent]), outcome, rfl, rfl⟩

theorem admissions_abandon (admissions : Admissions state.ledger state.calls) {id : Nat}
    {operation : Uuid} {fingerprint : String}
    (refused : (state.calls id).point = .refused)
    (admission : (state.calls id).operation = some (operation, fingerprint)) :
    Admissions (state.abandon id operation fingerprint).ledger
      (state.abandon id operation fingerprint).calls := by
  have holds : (state.calls id).Holds operation fingerprint :=
    ⟨admission, by simp [refused, Point.isOpen]⟩
  obtain ⟨updated, targetEq, told⟩ := abandon_of_holds admissions holds
  rw [targetEq]
  exact admissions.settle holds told ⟨rfl, rfl, rfl⟩ (by simp)

/-- Step lemma of the invariant. -/
theorem admissions_next (admissions : Admissions state.ledger state.calls) {action : Action}
    (stepped : next codec state action = some (output, target)) :
    Admissions target.ledger target.calls := by
  cases shape_next stepped with
  | plugin ledger calls => exact ledger ▸ calls ▸ admissions
  | moved id call ledger calls moves =>
      rw [ledger, calls]
      exact admissions.move moves
  | wrote id call frame sent point ledger calls moves =>
      rw [ledger, calls]
      exact admissions.move moves
  | begun id now operation fingerprint _ entered equal =>
      rw [equal]
      exact admissions_begin admissions entered
  | abandoned id operation fingerprint refused admission equal =>
      rw [equal]
      exact admissions_abandon admissions refused admission
  | failed id now failure failed equal =>
      rw [equal]
      exact admissions_markUnknown admissions failed
  | completed id now operation fingerprint outcome recording admission equal =>
      rw [equal]
      exact admissions_complete admissions recording admission

/-- Run lemma of the invariant. -/
theorem admissions_of_execute {actions : List Action} {outputs : List Output} {reached : State}
    (run : Transition.execute (next codec) initial actions = some (outputs, reached)) :
    Admissions reached.ledger reached.calls := by
  have preserved : Transition.Preserves (next codec) Transition.anything
      (fun state => Admissions state.ledger state.calls) :=
    fun _ _ _ _ admissions _ stepped => admissions_next admissions stepped
  exact preserved.execute_anything Admissions.initial run

end State

end X64dbgMcp.Ipc
