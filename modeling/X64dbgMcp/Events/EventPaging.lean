import X64dbgMcp.Events.EventPage
import X64dbgMcp.Runtime.EventSession

/-!
# Following the cursors of event pages

A client asks for pages one after the other while the debugger goes on.  The
established history only drops records in front and takes records at the end,
so the absolute positions stay aligned: what the pages have copied is a prefix
of `stream`, the retained records of the first page and everything stored
since.
-/

namespace X64dbgMcp.Events

open Transition Plugin
open X64dbgMcp.Runtime EventLog

/-! ## The established history grows -/

/-- Records are dropped in front and added at the end. -/
def Grown (before after : EventLog) (events : List EventRecord) : Prop :=
  ∃ evicted added,
    added.Sublist events ∧ evicted ≤ before.eventHistory.length ∧
      after.eventHistoryOffset = before.eventHistoryOffset + evicted ∧
      after.eventHistory = before.eventHistory.drop evicted ++ added

variable {before log after : EventLog} {events recorded : List EventRecord}
  {own : Nat → EventRecord → Prop}

theorem grown_of_eq (offset : after.eventHistoryOffset = before.eventHistoryOffset)
    (history : after.eventHistory = before.eventHistory) : Grown before after events :=
  ⟨0, [], List.nil_sublist _, Nat.zero_le _, offset, by rw [history, List.drop_zero, List.append_nil]⟩

/-- Recording grows the main history or leaves it. -/
theorem grown_recordEventLocked (log : EventLog) (input : RecordInput) (event : EventRecord) :
    Grown log (log.recordEventLocked input event).2 (log.recordEventLocked input event).1.toList := by
  by_cases room : log.nextEventSequence ≤ kMaxJsonSafeInteger
  · rw [recordEventLocked_numbered room]
    cases opened : log.candidateEventSession with
    | some epoch =>
        rw [(receives_candidate opened).2.2]
        exact grown_of_eq rfl rfl
    | none =>
        rcases receives_main opened with ⟨-, target, replaced⟩
        rw [target, replaced]
        have stored : (if input.stored then [log.stamped input event] else []).Sublist
            [log.stamped input event] := by
          cases input.stored
          · exact List.nil_sublist _
          · exact List.Sublist.refl _
        by_cases full : log.eventHistory.length = kMaxEventHistory
        · refine ⟨1, _, stored, ?_, ?_, ?_⟩
          · rw [full]
            decide
          · simp [History.append, main, full]
          · simp [History.append, main, full, List.drop_one]
        · refine ⟨0, _, stored, Nat.zero_le _, ?_, ?_⟩
          · simp [History.append, main, full]
          · simp [History.append, main, full]
  · rw [recordEventLocked_exhausted (Nat.lt_of_not_le room)]
    cases opened : log.candidateEventSession with
    | some epoch =>
        rw [(receives_candidate opened).2.2]
        exact grown_of_eq rfl rfl
    | none =>
        rcases receives_main opened with ⟨-, target, replaced⟩
        rw [target, replaced]
        exact grown_of_eq rfl rfl

/-- A session is replaced by a later one only; until then its history grows. -/
theorem grown_change (consistent : Consistent own recorded before) {move : SessionMove}
    {closes : Bool} (change : Change before move closes events after) :
    before.eventSessionEpoch ≤ after.eventSessionEpoch ∧
      (after.eventSessionEpoch = before.eventSessionEpoch → Grown before after events) := by
  cases change with
  | kept => exact ⟨Nat.le_refl _, fun _ => grown_of_eq rfl rfl⟩
  | recorded move closes input event =>
      have grown := grown_recordEventLocked (before.move move) input event
      have epoch := (recordEventLocked_frame (before.move move) input event).2.1
      generalize (before.move move).recordEventLocked input event = result at *
      have closed : (result.2.closeIf closes).eventSessionEpoch = result.2.eventSessionEpoch ∧
          (result.2.closeIf closes).eventHistory = result.2.eventHistory ∧
          (result.2.closeIf closes).eventHistoryOffset = result.2.eventHistoryOffset := by
        cases closes <;> exact ⟨rfl, rfl, rfl⟩
      rcases closed with ⟨closedEpoch, closedHistory, closedOffset⟩
      simp only [Grown, closedEpoch, closedHistory, closedOffset, epoch]
      cases move with
      | none => exact ⟨Nat.le_refl _, fun _ => grown⟩
      | announce => exact ⟨Nat.le_refl _, fun _ => grown⟩
      | establish =>
          have later : before.eventSessionEpoch < (before.move .establish).eventSessionEpoch := by
            cases opened : before.candidateEventSession with
            | none =>
                simp only [EventLog.move, establish, opened, Option.getD_none]
                exact Nat.lt_succ_of_le consistent.established
            | some announced =>
                simp only [EventLog.move, establish, opened, Option.getD_some]
                exact (consistent.announced announced opened).1
          exact ⟨Nat.le_of_lt later, fun same => absurd same (Nat.ne_of_gt later)⟩

/-! ## Any step of the runtime -/

variable {instances : List String} {state target : State} {action : Action} {output : Output}

theorem grown_next (kept : Kept instances recorded state.events)
    (stepped : State.next state action = some (output, target)) :
    state.events.eventSessionEpoch ≤ target.events.eventSessionEpoch ∧
      (target.events.eventSessionEpoch = state.events.eventSessionEpoch →
        Grown state.events target.events output.recorded) := by
  rcases change_or_accepted stepped with ⟨other, -, -, events⟩ | ⟨move, closes, change⟩
  · rw [events]
    exact ⟨Nat.le_refl _, fun _ => grown_of_eq rfl rfl⟩
  · exact grown_change kept.consistent change

/-! ## The client -/

/-- A client before its first page, between two pages and after the last one. -/
inductive Reader where
  | idle
  | next (cursor : String)
  | finished
  deriving DecidableEq

/-- The runtime, and a reader who goes from page to page. -/
structure Paging where
  runtime : State
  reader : Reader

/-- A step of the runtime, or a page for the reader. -/
inductive PagingAction where
  | runtime (action : Action)
  | page (request : Request) (input : PageInput)

/-- A page that was answered, and the records that the established history held
at this moment while the client was between its first and its last page. -/
structure PagingOutput where
  page : Option EventPage := none
  held : List EventRecord := []

/-- A step that shows nothing. -/
def nothing : PagingOutput := {}

/-- The client after a page with the given next cursor. -/
def Reader.following : Option String → Reader
  | none => .finished
  | some cursor => .next cursor

namespace Paging

/-- The cursor of the next request. -/
def cursor : Reader → Option String
  | .idle => some ""
  | .next cursor => some cursor
  | .finished => none

/-- One step of the debugger or one request of the client.  A refused request
leaves the client where it was. -/
def next (types : List EventKind) : Step Paging PagingAction PagingOutput :=
  fun paging action =>
    match action with
    | .runtime action =>
        (State.next paging.runtime action).map fun (_, target) =>
          ({ held :=
               match paging.reader with
               | .next _ => target.events.eventHistory
               | _ => [] },
            { paging with runtime := target })
    | .page request input =>
        (cursor paging.reader).map fun cursor =>
          match listEvents paging.runtime.events
              { request with eventTypes := types, eventCursor := cursor } input with
          | .error _ => (nothing, paging)
          | .ok page =>
              ({ page := some page, held := paging.runtime.events.eventHistory },
                { paging with reader := .following page.nextCursor })

end Paging

/-- The pages that the reader was given, in order. -/
def pages (outputs : List PagingOutput) : List EventPage :=
  outputs.filterMap PagingOutput.page

/-- The events that the reader was given, in order. -/
def items (outputs : List PagingOutput) : List EventRecord :=
  (pages outputs).flatMap EventPage.items

/-- Between its first and its last page the client copied exactly the matching
records that the history held at some moment, once each and in order. -/
structure Exact (types : List EventKind) (instances : List String) (epoch : Nat)
    (outputs : List PagingOutput) : Prop where
  session : ∀ page ∈ pages outputs, ∃ instanceId ∈ instances,
    page.sessionId = sessionText instanceId epoch
  owned : ∀ event ∈ items outputs, OfInstances instances epoch event
  ascending : ((items outputs).map EventRecord.sequence).Pairwise (· < ·)
  held : ∀ event, event ∈ items outputs ↔
    wanted types event.kind = true ∧ ∃ output ∈ outputs, event ∈ output.held

/-- The retained records as the end of a stream that began at `base`. -/
structure Window (base : Nat) (stream : List EventRecord) (log : EventLog) : Prop where
  begins : base ≤ log.eventHistoryOffset
  inside : log.eventHistoryOffset - base ≤ stream.length
  retained : stream.drop (log.eventHistoryOffset - base) = log.eventHistory

theorem Window.grown {base : Nat} {stream : List EventRecord} (window : Window base stream before)
    (grown : Grown before after events) :
    ∃ added, added.Sublist events ∧ Window base (stream ++ added) after ∧
      ∀ event ∈ added, event ∈ after.eventHistory := by
  rcases window with ⟨begins, inside, retained⟩
  rcases grown with ⟨evicted, added, sublist, le, offset, history⟩
  have shift : after.eventHistoryOffset - base =
      (before.eventHistoryOffset - base) + evicted := by omega
  have room : evicted ≤ stream.length - (before.eventHistoryOffset - base) := by
    rw [← List.length_drop, retained]
    exact le
  refine ⟨added, sublist, ⟨?_, ?_, ?_⟩, ?_⟩
  · omega
  · rw [shift, List.length_append]
    omega
  · rw [shift, history, ← List.drop_drop, List.drop_append_of_le_length inside, retained,
      List.drop_append_of_le_length le]
  · intro event member
    rw [history]
    exact List.mem_append_right _ member

/-- A page continues the prefix that was copied before it. -/
theorem Window.page {base position : Nat} {stream : List EventRecord} {types : List EventKind}
    (window : Window base stream log) {request : Request} {input : PageInput} {page : EventPage}
    (filter : request.eventTypes = types)
    (answered : listEvents log request input = .ok page)
    (starts : ∀ offset, pageOffset log
      (cursorPrefix (sessionText log.instanceId log.eventSessionEpoch)
        (filterOf request.eventTypes)) request.eventCursor = .ok offset →
          offset = base + position ∧ log.eventHistoryOffset ≤ offset)
    (inside : position ≤ stream.length) :
    ∃ later, later ≤ stream.length ∧
      page.sessionId = sessionText log.instanceId log.eventSessionEpoch ∧
      ((stream.take position).filter fun event => wanted types event.kind) ++ page.items =
        ((stream.take later).filter fun event => wanted types event.kind) ∧
      page.nextCursor = if later = stream.length then none
        else some (cursorText page.sessionId (filterOf types) (base + later)) := by
  subst filter
  rcases listEvents_ok answered with ⟨offset, count, accepted, le, session, copied, next⟩
  rcases starts offset accepted with ⟨rfl, retained⟩
  have begins := window.begins
  have rest : log.eventHistory.drop (base + position - log.eventHistoryOffset) =
      stream.drop position := by
    rw [← window.retained, List.drop_drop]
    congr 1
    omega
  rw [rest] at le copied next
  rw [List.length_drop] at le next
  refine ⟨position + count, by omega, session, ?_, ?_⟩
  · rw [copied, List.take_add, List.filter_append]
  · rw [next, Nat.add_assoc]
    congr 1
    exact propext (by omega)

/-- What a client between two pages has copied. -/
structure Reading (types : List EventKind) (instances : List String)
    (recorded : List EventRecord) (outputs : List PagingOutput) (log : EventLog)
    (epoch base position : Nat) (stream : List EventRecord) : Prop where
  inside : position ≤ stream.length
  session : ∀ page ∈ pages outputs, ∃ instanceId ∈ instances,
    page.sessionId = sessionText instanceId epoch
  copied : items outputs = (stream.take position).filter fun event => wanted types event.kind
  recorded : stream.Sublist recorded
  owned : ∀ event ∈ stream, OfInstances instances epoch event
  current : epoch ≤ log.eventSessionEpoch
  window : log.eventSessionEpoch = epoch → Window base stream log
  held : log.eventSessionEpoch = epoch →
    ∀ event, event ∈ stream ↔ ∃ output ∈ outputs, event ∈ output.held

/-! ## The invariant -/

variable {types : List EventKind} {outputs : List PagingOutput} {epoch base position : Nat}
  {stream : List EventRecord}

/-- The client against everything it was answered. -/
def Inv (types : List EventKind) (instances : List String) (outputs : List PagingOutput)
    (paging : Paging) : Prop :=
  ∃ recorded, Kept instances recorded paging.runtime.events ∧
    match paging.reader with
    | .idle => ∀ output ∈ outputs, output.page = none ∧ output.held = []
    | .next cursor => ∃ epoch base position stream, ∃ instanceId ∈ instances,
        cursor = cursorText (sessionText instanceId epoch) (filterOf types) (base + position) ∧
          Reading types instances recorded outputs paging.runtime.events epoch base position stream
    | .finished => ∃ epoch, Exact types instances epoch outputs

theorem pages_append (outputs : List PagingOutput) (output : PagingOutput) :
    pages (outputs ++ [output]) = pages outputs ++ output.page.toList := by
  rw [pages, List.filterMap_append]
  cases page : output.page <;> simp [pages, page]

theorem items_append (outputs : List PagingOutput) (output : PagingOutput) :
    items (outputs ++ [output]) = items outputs ++ output.page.toList.flatMap EventPage.items := by
  rw [items, pages_append, List.flatMap_append]
  rfl

theorem held_append (outputs : List PagingOutput) (output : PagingOutput) (event : EventRecord) :
    (∃ other ∈ outputs ++ [output], event ∈ other.held) ↔
      (∃ other ∈ outputs, event ∈ other.held) ∨ event ∈ output.held := by
  simp only [List.mem_append, List.mem_singleton, or_and_right, exists_or, exists_eq_left]

@[simp]
theorem pages_nothing (outputs : List PagingOutput) : pages (outputs ++ [nothing]) = pages outputs := by
  rw [pages_append]
  exact List.append_nil _

@[simp]
theorem items_nothing (outputs : List PagingOutput) : items (outputs ++ [nothing]) = items outputs := by
  rw [items, pages_nothing, items]

theorem held_nothing (outputs : List PagingOutput) (event : EventRecord) :
    (∃ other ∈ outputs ++ [nothing], event ∈ other.held) ↔
      ∃ other ∈ outputs, event ∈ other.held := by
  rw [held_append]
  exact or_iff_left List.not_mem_nil

/-- An output without a page that shows nothing new changes nothing. -/
theorem Exact.quiet (exactly : Exact types instances epoch outputs) :
    Exact types instances epoch (outputs ++ [nothing]) := by
  rcases exactly with ⟨session, owned, ascending, held⟩
  constructor
  · rwa [pages_nothing]
  · rwa [items_nothing]
  · rwa [items_nothing]
  · intro event
    rw [items_nothing, held_nothing]
    exact held event

theorem Reading.quiet (reading : Reading types instances recorded outputs log epoch base position
    stream) :
    Reading types instances recorded (outputs ++ [nothing]) log epoch base position stream := by
  rcases reading with ⟨inside, session, copied, sublist, owned, current, window, held⟩
  refine ⟨inside, ?_, ?_, sublist, owned, current, window, ?_⟩
  · rwa [pages_nothing]
  · rwa [items_nothing]
  · intro same event
    rw [held_nothing]
    exact held same event

/-- The debugger goes on between two pages. -/
theorem Reading.step (kept : Kept instances recorded state.events)
    (known : ∀ instanceId, action.accepted = some instanceId → instanceId ∈ instances)
    (reading : Reading types instances recorded outputs state.events epoch base position stream)
    (stepped : State.next state action = some (output, target)) :
    ∃ longer, Reading types instances (recorded ++ output.recorded)
      (outputs ++ [{ held := target.events.eventHistory }]) target.events epoch base position
        longer := by
  have samePages : pages (outputs ++ [{ held := target.events.eventHistory }]) =
      pages outputs := by
    rw [pages_append]
    exact List.append_nil _
  have later := kept.next known stepped
  rcases grown_next kept stepped with ⟨le, grows⟩
  rcases reading with ⟨inside, session, copied, sublist, owned, current, window, held⟩
  by_cases same : target.events.eventSessionEpoch = epoch
  · have before : state.events.eventSessionEpoch = epoch := by omega
    rcases (window before).grown (grows (same.trans before.symm)) with
      ⟨added, new, grownWindow, visible⟩
    refine ⟨stream ++ added, ?_, ?_, ?_, sublist.append new, ?_, ?_, fun _ => grownWindow, ?_⟩
    · rw [List.length_append]
      omega
    · rwa [samePages]
    · rw [items, samePages, List.take_append_of_le_length inside]
      exact copied
    · intro event member
      rcases List.mem_append.mp member with old | new
      · exact owned event old
      · have fits := later.consistent.main.owned event (visible event new)
        rwa [same] at fits
    · exact Nat.le_of_eq same.symm
    · intro _ event
      rw [held_append, ← held before event, List.mem_append]
      constructor
      · rintro (old | new)
        · exact .inl old
        · exact .inr (visible event new)
      · rintro (old | shown)
        · exact .inl old
        · have retained : event ∈ target.events.eventHistory := shown
          rw [← grownWindow.retained] at retained
          exact List.mem_append.mp (List.mem_of_mem_drop retained)
  · refine ⟨stream, inside, ?_, ?_, sublist.trans (List.sublist_append_left _ _), owned,
      Nat.le_trans current le, fun equal => absurd equal same, fun equal => absurd equal same⟩
    · rwa [samePages]
    · rw [items, samePages]
      exact copied

/-- A page that reached the end of the stream was the last one. -/
theorem Reading.exact (kept : Kept instances recorded log)
    (reading : Reading types instances recorded outputs log epoch base stream.length stream)
    (same : log.eventSessionEpoch = epoch) : Exact types instances epoch outputs := by
  rcases reading with ⟨-, session, copied, sublist, owned, -, -, held⟩
  rw [List.take_length] at copied
  refine ⟨session, ?_, ?_, ?_⟩
  · intro event member
    rw [copied] at member
    exact owned event (List.mem_of_mem_filter member)
  · rw [copied]
    exact kept.consistent.ascending.sublist ((List.filter_sublist.trans sublist).map _)
  · intro event
    rw [copied, List.mem_filter, held same event, and_comm]

/-- One more page. -/
theorem reading_page (kept : Kept instances recorded log) (window : Window base stream log)
    (inside : position ≤ stream.length)
    (session : ∀ page ∈ pages outputs, ∃ instanceId ∈ instances,
      page.sessionId = sessionText instanceId log.eventSessionEpoch)
    (copied : items outputs =
      (stream.take position).filter fun event => wanted types event.kind)
    (sublist : stream.Sublist recorded)
    (owned : ∀ event ∈ stream, OfInstances instances log.eventSessionEpoch event)
    (held : ∀ event, event ∈ stream ↔
      (∃ output ∈ outputs, event ∈ output.held) ∨ event ∈ log.eventHistory)
    {request : Request} {input : PageInput} {page : EventPage}
    (filter : request.eventTypes = types) (answered : listEvents log request input = .ok page)
    (starts : ∀ offset, pageOffset log
      (cursorPrefix (sessionText log.instanceId log.eventSessionEpoch)
        (filterOf request.eventTypes)) request.eventCursor = .ok offset →
          offset = base + position ∧ log.eventHistoryOffset ≤ offset) :
    ∃ later, Reading types instances recorded
        (outputs ++ [{ page := some page, held := log.eventHistory }]) log log.eventSessionEpoch
          base later stream ∧
      page.nextCursor = if later = stream.length then none
        else some (cursorText (sessionText log.instanceId log.eventSessionEpoch)
          (filterOf types) (base + later)) := by
  rcases window.page filter answered starts inside with ⟨later, le, sessionId, joined, next⟩
  rw [sessionId] at next
  refine ⟨later, ⟨le, ?_, ?_, sublist, owned, Nat.le_refl _, fun _ => window, ?_⟩, next⟩
  · intro other member
    rw [pages_append] at member
    rcases List.mem_append.mp member with old | new
    · exact session other old
    · rw [List.mem_singleton.mp new]
      exact ⟨log.instanceId, kept.instanceId, sessionId⟩
  · rw [items_append, copied, ← joined]
    simp
  · intro _ event
    rw [held_append, held event]

/-- The reader after a page. -/
theorem inv_page (kept : Kept instances recorded state.events) {next : Option String}
    {later : Nat}
    (reading : Reading types instances recorded outputs state.events
      state.events.eventSessionEpoch base later stream)
    (cursor : next = if later = stream.length then none
      else some (cursorText (sessionText state.events.instanceId state.events.eventSessionEpoch)
        (filterOf types) (base + later))) :
    Inv types instances outputs ⟨state, .following next⟩ := by
  refine ⟨recorded, kept, ?_⟩
  by_cases last : later = stream.length
  · rw [if_pos last] at cursor
    rw [last] at reading
    rw [cursor]
    exact ⟨_, reading.exact kept rfl⟩
  · rw [if_neg last] at cursor
    rw [cursor]
    exact ⟨_, base, later, stream, _, kept.instanceId, rfl, reading⟩

/-- The first page begins a stream with the retained records. -/
theorem inv_first_page (kept : Kept instances recorded state.events)
    (unread : ∀ output ∈ outputs, output.page = none ∧ output.held = []) {request : Request}
    {input : PageInput} {page : EventPage} (filter : request.eventTypes = types)
    (asks : request.eventCursor = "") (answered : listEvents state.events request input = .ok page) :
    Inv types instances (outputs ++ [{ page := some page, held := state.events.eventHistory }])
      ⟨state, .following page.nextCursor⟩ := by
  have noPages : pages outputs = [] :=
    List.filterMap_eq_nil_iff.mpr fun other member => (unread other member).1
  have whole : Window state.events.eventHistoryOffset state.events.eventHistory state.events := by
    constructor
    · exact Nat.le_refl _
    · rw [Nat.sub_self]
      exact Nat.zero_le _
    · rw [Nat.sub_self, List.drop_zero]
  have session : ∀ page ∈ pages outputs, ∃ instanceId ∈ instances,
      page.sessionId = sessionText instanceId state.events.eventSessionEpoch := by
    rw [noPages]
    exact List.forall_mem_nil _
  have copied : items outputs =
      (state.events.eventHistory.take 0).filter fun event => wanted types event.kind := by
    rw [items, noPages]
    rfl
  have held : ∀ event, event ∈ state.events.eventHistory ↔
      (∃ output ∈ outputs, event ∈ output.held) ∨ event ∈ state.events.eventHistory := by
    intro event
    refine (or_iff_right ?_).symm
    rintro ⟨output, member, shown⟩
    rw [(unread output member).2] at shown
    exact List.not_mem_nil shown
  rcases reading_page kept whole (Nat.zero_le _) session copied kept.consistent.main.sublist
    kept.consistent.main.owned held filter answered (by
      intro offset begins
      rw [asks] at begins
      cases begins
      exact ⟨rfl, Nat.le_refl _⟩) with ⟨later, reading, next⟩
  exact inv_page kept reading next

/-- A cursor that is accepted continues its stream. -/
theorem inv_next_page (kept : Kept instances recorded state.events) {instanceId : String}
    (reading : Reading types instances recorded outputs state.events epoch base position stream)
    {request : Request} {input : PageInput} {page : EventPage}
    (filter : request.eventTypes = types)
    (asks : request.eventCursor =
      cursorText (sessionText instanceId epoch) (filterOf types) (base + position))
    (answered : listEvents state.events request input = .ok page) :
    Inv types instances (outputs ++ [{ page := some page, held := state.events.eventHistory }])
      ⟨state, .following page.nextCursor⟩ := by
  rcases listEvents_ok answered with ⟨offset, count, accepted, -⟩
  rw [asks] at accepted
  rcases pageOffset_cursorText accepted with ⟨sessions, -, -, -, -⟩
  rcases sessionText_inj sessions with ⟨rfl, rfl⟩
  have window := reading.window rfl
  have visible : ∀ event ∈ state.events.eventHistory, event ∈ stream := by
    intro event shown
    rw [← window.retained] at shown
    exact List.mem_of_mem_drop shown
  have held : ∀ event, event ∈ stream ↔
      (∃ output ∈ outputs, event ∈ output.held) ∨ event ∈ state.events.eventHistory := by
    intro event
    rw [← reading.held rfl event]
    exact (or_iff_left_of_imp (visible event)).symm
  rcases reading_page kept window reading.inside reading.session reading.copied
    reading.recorded reading.owned held filter answered (by
      intro offset begins
      rw [asks] at begins
      rcases pageOffset_cursorText begins with ⟨-, -, rfl, retained, -⟩
      exact ⟨rfl, retained⟩) with ⟨later, reading, next⟩
  exact inv_page kept reading next

theorem preserves_inv {action : PagingAction} {paging after : Paging} {output : PagingOutput}
    (inv : Inv types instances outputs paging)
    (known : ∀ step instanceId, action = .runtime step → step.accepted = some instanceId →
      instanceId ∈ instances)
    (stepped : Paging.next types paging action = some (output, after)) :
    Inv types instances (outputs ++ [output]) after := by
  rcases inv with ⟨recorded, kept, reader⟩
  rcases paging with ⟨state, client⟩
  cases action with
  | runtime step =>
      simp only [Paging.next, Option.map_eq_some_iff, Prod.mk.injEq, Prod.exists] at stepped
      rcases stepped with ⟨observed, target, stepped, rfl, rfl⟩
      have accepts := fun instanceId => known step instanceId rfl
      refine ⟨_, kept.next accepts stepped, ?_⟩
      cases client with
      | idle =>
          intro other member
          rcases List.mem_append.mp member with old | new
          · exact reader other old
          · rw [List.mem_singleton.mp new]
            exact ⟨rfl, rfl⟩
      | next cursor =>
          rcases reader with
            ⟨epoch, base, position, stream, instanceId, member, rfl, reading⟩
          rcases reading.step kept accepts stepped with ⟨longer, reading⟩
          exact ⟨epoch, base, position, longer, instanceId, member, rfl, reading⟩
      | finished =>
          rcases reader with ⟨epoch, exactly⟩
          exact ⟨epoch, exactly.quiet⟩
  | page request input =>
      simp only [Paging.next, Option.map_eq_some_iff] at stepped
      rcases stepped with ⟨cursor, asks, stepped⟩
      split at stepped
      · cases stepped
        refine ⟨recorded, kept, ?_⟩
        cases client with
        | idle =>
            intro other member
            rcases List.mem_append.mp member with old | new
            · exact reader other old
            · rw [List.mem_singleton.mp new]
              exact ⟨rfl, rfl⟩
        | next cursor =>
            rcases reader with
              ⟨epoch, base, position, stream, instanceId, member, rfl, reading⟩
            exact ⟨epoch, base, position, stream, instanceId, member, rfl, reading.quiet⟩
        | finished =>
            rcases reader with ⟨epoch, exactly⟩
            exact ⟨epoch, exactly.quiet⟩
      · rename_i page answered
        cases stepped
        cases client with
        | idle =>
            cases asks
            exact inv_first_page kept reader rfl rfl answered
        | next cursor =>
            cases asks
            rcases reader with
              ⟨epoch, base, position, stream, instanceId, member, rfl, reading⟩
            exact inv_next_page kept reading rfl rfl answered
        | finished => cases asks

/-! ## Whole runs -/

/-- The identifier of a sidecar that the step accepts. -/
def PagingAction.accepted : PagingAction → Option String
  | .runtime action => action.accepted
  | .page _ _ => none

theorem inv_of_execute {start : State} {instanceId : String} {actions : List PagingAction}
    {paging : Paging} (fresh : start.events = { instanceId := instanceId })
    (run : execute (Paging.next types) ⟨start, .idle⟩ actions = some (outputs, paging)) :
    Inv types (instanceId :: actions.filterMap PagingAction.accepted) outputs paging := by
  have known : ∀ action ∈ actions, ∀ step other, action = .runtime step →
      step.accepted = some other →
        other ∈ instanceId :: actions.filterMap PagingAction.accepted := by
    rintro action member step other rfl accepts
    exact List.mem_cons_of_mem _ (List.mem_filterMap.mpr ⟨_, member, accepts⟩)
  have begins : Inv types (instanceId :: actions.filterMap PagingAction.accepted) []
      ⟨start, .idle⟩ := by
    exact ⟨[], kept_initial fresh, List.forall_mem_nil _⟩
  have along := along_of_forall_mem (Paging.next types) ⟨start, .idle⟩ known
  apply execute_history (Inv types (instanceId :: actions.filterMap PagingAction.accepted)) ?_ []
    begins along run
  intro past paging action output after inv accepts stepped
  exact preserves_inv inv accepts stepped

/-- Pages that follow one another up to the last one copy exactly the matching
records of one session that were retained at some moment from the first page to
the last, in order and once each.  A cursor of an evicted position, of another
session or of another filter is refused. -/
theorem pages_exact {start : State} {instanceId : String} {actions : List PagingAction}
    {paging : Paging} (fresh : start.events = { instanceId := instanceId })
    (run : execute (Paging.next types) ⟨start, .idle⟩ actions = some (outputs, paging)) :
    (paging.reader = .finished → ∃ epoch,
        Exact types (instanceId :: actions.filterMap PagingAction.accepted) epoch outputs) ∧
      ∀ request input other epoch offset others,
        request.eventCursor = cursorText (sessionText other epoch) (filterOf others) offset →
        offset < paging.runtime.events.eventHistoryOffset ∨
            other ≠ paging.runtime.events.instanceId ∨
            epoch ≠ paging.runtime.events.eventSessionEpoch ∨
            (∃ kind, wanted others kind ≠ wanted request.eventTypes kind) →
          ∃ error, listEvents paging.runtime.events request input = .error error := by
  constructor
  · intro finished
    rcases inv_of_execute fresh run with ⟨recorded, -, reader⟩
    rw [finished] at reader
    exact reader
  · intro request input other epoch offset others cursor stale
    exact listEvents_refuses cursor stale input

/-- Two pages of one record each with a callback between them. -/
theorem pages_exact_interleaved :
    let input : CallbackInput := ⟨⟨0, true⟩, 0, false⟩
    let request : Request :=
      { requestId := "", method := "events.list", deadlineUnixMs := 0, mutation := false
        pageLimit := 1 }
    let actions : List PagingAction :=
      [.runtime (.callback .initDebug input),
        .runtime (.callback (.createProcess (some (42, 7))) input),
        .page request ⟨fun _ => false, 0⟩, .runtime (.callback .systemBreakpoint input),
        .page request ⟨fun _ => false, 0⟩, .page request ⟨fun _ => false, 0⟩]
    ∃ outputs paging,
      execute (Paging.next []) ⟨{ events := { instanceId := "i" } }, .idle⟩ actions =
        some (outputs, paging) ∧
      (∃ epoch, Exact [] ["i"] epoch outputs) ∧
      (items outputs).map EventRecord.sequence = [1, 2, 3] := by
  intro input request actions
  have enabled : ((execute (Paging.next []) ⟨{ events := { instanceId := "i" } }, .idle⟩
      actions).map fun result =>
        (result.2.reader, (items result.1).map EventRecord.sequence)) =
          some (.finished, [1, 2, 3]) := by
    decide +kernel
  rcases Option.map_eq_some_iff.mp enabled with ⟨⟨outputs, paging⟩, run, seen⟩
  rw [Prod.mk.injEq] at seen
  exact ⟨outputs, paging, run, (pages_exact rfl run).1 seen.1, seen.2⟩

end X64dbgMcp.Events
