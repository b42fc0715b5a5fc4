import X64dbgMcp.Runtime.EventLog
import X64dbgMcp.Text.Json
import X64dbgMcp.Transition.Execution

/-!
# The event stream

`EventStream` sends debugger events to the sidecar over a pipe of their own.
Producers append to a bounded queue; one worker thread takes an event or the
count of dropped events, writes it with the mutex released and puts it back when
the write fails.  Atomic steps are the locked sections and the pipe operations
between them, so every interleaving of producers, worker, `Start` and `Stop` is
an execution.

One thread at a time calls `Start` and `Stop`.  The bytes of a greeting are the
JSON value that they parse to.
-/

namespace X64dbgMcp.Events

open X64dbgMcp.Runtime Text

/-- What the worker writes in one frame. -/
inductive Frame where
  | event (record : EventRecord)
  | gap (dropped : Nat)
  deriving DecidableEq

namespace Frame

/-- The events that a frame carries. -/
def events : Frame → List EventRecord
  | .event record => [record]
  | .gap _ => []

/-- How many dropped events a frame reports. -/
def dropped : Frame → Nat
  | .event _ => 0
  | .gap dropped => dropped

end Frame

/-- Where the worker thread stands. -/
inductive WorkerPoint where
  /-- There is no thread, or its function returned. -/
  | absent
  /-- Waiting for a client and its greeting. -/
  | connecting
  /-- A greeting was read; the instance identifier is not known yet. -/
  | greeted (hello : Json)
  /-- The greeting is not checked yet. -/
  | identified (hello : Json) (nonce instanceId : String)
  /-- At the head of the send loop. -/
  | sending
  /-- The wait timed out; the pipe is inspected with the mutex released. -/
  | peeking
  /-- A frame was taken and is being written. -/
  | holding (frame : Frame)
  /-- The write failed; the frame is not put back yet. -/
  | refused (frame : Frame)
  /-- About to disconnect the client. -/
  | disconnecting

/-- Where `Start` or `Stop` stands. -/
inductive Control where
  | idle
  /-- The flag is set; the worker is not joined.  `Start` passes its nonce on. -/
  | stopping (start : Option String)
  | joined (start : Option String)
  /-- `Start` after its call of `Stop`. -/
  | opening (nonce : String)
  /-- The fields are set; the worker is not created yet. -/
  | prepared

/-- The stream with its queue, and the place of its worker. -/
structure EventStream where
  queue : List EventRecord := []
  nonce : String := ""
  instanceId : String := ""
  dropped : Nat := 0
  stopping : Bool := false
  worker : WorkerPoint := .absent
  control : Control := .idle

/-- The steps of the stream and of its worker. -/
inductive StreamAction where
  | stop (start : Option String)
  | join
  | clear
  /-- The pipe is created or not. -/
  | createPipe (created : Bool)
  | spawn (created : Bool)
  | setInstanceId (instanceId : String) (stored : Bool)
  /-- `stored` tells whether the queue could allocate room. -/
  | enqueue (event : EventRecord) (stored : Bool)
  | connectFailed
  | readHello (hello : Option Json)
  | identify
  | greet (written : Bool)
  | waitTimedOut
  | peek (stillConnected : Bool)
  | take
  | write (written : Bool)
  | restore (stored : Bool)
  | disconnect
  /-- An allocation fails in the worker. -/
  | throw

/-- What a step shows: the events that `Enqueue` accepted and the frames that
were written. -/
structure StreamOutput where
  accepted : List EventRecord := []
  delivered : List Frame := []
  deriving DecidableEq

/-- How many events may wait for the pipe. -/
def kMaxQueuedEvents : Nat := 4096

/-- The greeting names the stream's nonce and instance. -/
def validHello (hello : Json) (nonce instanceId : String) : Bool :=
  match hello with
  | .object fields =>
      fields.length == 3 &&
        (fields.lookup "type").bind Json.asStr == some "HELLO" &&
        (fields.lookup "nonce").bind Json.asStr == some nonce &&
        (fields.lookup "instance_id").bind Json.asStr == some instanceId
  | _ => false

namespace EventStream

/-- Append an event, dropping the oldest one from a full queue. -/
def enqueue (stream : EventStream) (event : EventRecord) (stored : Bool) :
    StreamOutput × EventStream :=
  if stream.stopping then ({}, stream)
  else
    let full := stream.queue.length == kMaxQueuedEvents
    let kept := if full then stream.queue.tail else stream.queue
    let evicted := if full then stream.dropped + 1 else stream.dropped
    ({ accepted := [event] },
      { stream with
        queue := if stored then kept ++ [event] else kept
        dropped := if stored then evicted else evicted + 1 })

/-- The locked section of the send loop: the count of dropped events goes before
the next event. -/
def take (stream : EventStream) : Option EventStream :=
  if stream.stopping then some { stream with worker := .absent }
  else if stream.dropped ≠ 0 then
    some { stream with dropped := 0, worker := .holding (.gap stream.dropped) }
  else
    match stream.queue with
    | [] => none
    | event :: rest => some { stream with queue := rest, worker := .holding (.event event) }

/-- Put a frame back after a failed write. -/
def restore (stream : EventStream) (frame : Frame) (stored : Bool) : EventStream :=
  match frame with
  | .event event =>
      { stream with
        queue := if stored then event :: stream.queue else stream.queue
        dropped := if stored then stream.dropped else stream.dropped + 1
        worker := .disconnecting }
  | .gap dropped => { stream with dropped := stream.dropped + dropped, worker := .disconnecting }

/-- The worker wrote its frame or not. -/
def write (stream : EventStream) (frame : Frame) (written : Bool) : StreamOutput × EventStream :=
  if written then ({ delivered := [frame] }, { stream with worker := .sending })
  else ({}, { stream with worker := .refused frame })

/-- The handler at the end of the worker. -/
def throw (stream : EventStream) : EventStream :=
  { stream with
    queue := []
    dropped := stream.dropped + stream.queue.length
    worker := .absent }

/-- One step of producers, worker, `Start` and `Stop`. -/
def next : Transition.Step EventStream StreamAction StreamOutput := fun stream action =>
  match action with
  | .stop start =>
      match stream.control with
      | .idle => some ({}, { stream with stopping := true, control := .stopping start })
      | _ => none
  | .join =>
      match stream.control, stream.worker with
      | .stopping start, .absent => some ({}, { stream with control := .joined start })
      | _, _ => none
  | .clear =>
      match stream.control with
      | .joined start =>
          some ({},
            { stream with
              queue := []
              dropped := 0
              nonce := ""
              instanceId := ""
              control :=
                match start with
                | none => .idle
                | some nonce => .opening nonce })
      | _ => none
  | .createPipe created =>
      match stream.control with
      | .opening nonce =>
          if created then
            some ({},
              { stream with
                nonce := nonce
                instanceId := ""
                queue := []
                dropped := 0
                stopping := false
                control := .prepared })
          else some ({}, { stream with control := .idle })
      | _ => none
  | .spawn created =>
      match stream.control, stream.worker with
      | .prepared, .absent =>
          some ({},
            { stream with
              worker := if created then .connecting else .absent
              control := .idle })
      | _, _ => none
  | .setInstanceId instanceId stored =>
      some ({},
        { stream with
          instanceId := if stored then instanceId else stream.instanceId
          stopping := !stored || stream.stopping })
  | .enqueue event stored => some (stream.enqueue event stored)
  | .connectFailed =>
      match stream.worker with
      | .connecting => some ({}, { stream with worker := .absent })
      | _ => none
  | .readHello hello =>
      match stream.worker with
      | .connecting =>
          some ({},
            { stream with
              worker :=
                match hello with
                | none => .disconnecting
                | some hello => .greeted hello })
      | _ => none
  | .identify =>
      match stream.worker with
      | .greeted hello =>
          if stream.stopping then some ({}, { stream with worker := .absent })
          else if stream.instanceId = "" then none
          else
            some ({}, { stream with worker := .identified hello stream.nonce stream.instanceId })
      | _ => none
  | .greet written =>
      match stream.worker with
      | .identified hello nonce instanceId =>
          some ({},
            { stream with
              worker :=
                if validHello hello nonce instanceId && written then .sending
                else .disconnecting })
      | _ => none
  | .waitTimedOut =>
      match stream.worker with
      | .sending =>
          if stream.stopping = false ∧ stream.dropped = 0 ∧ stream.queue = [] then
            some ({}, { stream with worker := .peeking })
          else none
      | _ => none
  | .peek stillConnected =>
      match stream.worker with
      | .peeking =>
          some ({},
            { stream with
              worker :=
                if stillConnected then .sending
                else if stream.stopping then .absent
                else .disconnecting })
      | _ => none
  | .take =>
      match stream.worker with
      | .sending => stream.take.map fun taken => ({}, taken)
      | _ => none
  | .write written =>
      match stream.worker with
      | .holding frame => some (stream.write frame written)
      | _ => none
  | .restore stored =>
      match stream.worker with
      | .refused frame => some ({}, stream.restore frame stored)
      | _ => none
  | .disconnect =>
      match stream.worker with
      | .disconnecting => some ({}, { stream with worker := .connecting })
      | _ => none
  | .throw =>
      match stream.worker with
      | .connecting | .greeted _ | .holding _ => some ({}, stream.throw)
      | _ => none

end EventStream

/-! ## What a step can do -/

/-- The frame in the hands of the worker. -/
def WorkerPoint.frame : WorkerPoint → Option Frame
  | .holding frame | .refused frame => some frame
  | _ => none

/-- Neither `Stop` nor the part of `Start` before the thread is under way. -/
def EventStream.Open (stream : EventStream) : Prop :=
  stream.control = .idle ∨ stream.control = .prepared

theorem EventStream.not_open {stream : EventStream} {control : Control}
    (same : stream.control = control) (notIdle : control ≠ .idle)
    (notPrepared : control ≠ .prepared) : ¬ stream.Open := by
  rintro (idle | prepared)
  · exact notIdle (same.symm.trans idle)
  · exact notPrepared (same.symm.trans prepared)

/-- The effect of one step on the queue, the counter and the frame in hand.
Only a call of `Stop` closes an open stream. -/
inductive Effect (before : EventStream) : StreamAction → StreamOutput → EventStream → Prop
  | quiet {action : StreamAction} {after : EventStream}
      (other : ∀ stored, action ≠ .restore stored)
      (queue : after.queue = before.queue)
      (dropped : after.dropped = before.dropped)
      (frame : after.worker.frame = before.worker.frame)
      (isOpen : before.Open → (∀ start, action ≠ .stop start) → after.Open) :
      Effect before action {} after
  /-- `Start` and `Stop` empty the queue once the worker is gone. -/
  | reset {action : StreamAction} {after : EventStream}
      (resets : action = .clear ∨ action = .createPipe true)
      (closed : ¬ before.Open)
      (queue : after.queue = [])
      (dropped : after.dropped = 0)
      (frame : after.worker.frame = before.worker.frame) : Effect before action {} after
  | enqueued (event : EventRecord) (stored : Bool) (running : before.stopping = false) :
      Effect before (.enqueue event stored) (before.enqueue event stored).1
        (before.enqueue event stored).2
  | tookGap (free : before.worker.frame = none) :
      Effect before .take {}
        { before with dropped := 0, worker := .holding (.gap before.dropped) }
  | tookEvent (event : EventRecord) (rest : List EventRecord)
      (free : before.worker.frame = none) (queue : before.queue = event :: rest) :
      Effect before .take {} { before with queue := rest, worker := .holding (.event event) }
  | delivered (frame : Frame) (held : before.worker = .holding frame) :
      Effect before (.write true) { delivered := [frame] } { before with worker := .sending }
  | restored (frame : Frame) (stored : Bool) (held : before.worker = .refused frame) :
      Effect before (.restore stored) {} (before.restore frame stored)
  | thrown : Effect before .throw {} before.throw

namespace EventStream

/-- Step inversion. -/
theorem effect_next {before after : EventStream} {action : StreamAction} {output : StreamOutput}
    (stepped : next before action = some (output, after)) :
    Effect before action output after := by
  cases action with
  | stop start =>
      simp only [next] at stepped
      split at stepped <;> cases stepped
      exact .quiet nofun rfl rfl rfl fun _ other => absurd rfl (other start)
  | join =>
      simp only [next] at stepped
      split at stepped
      · rename_i stopping _
        cases stepped
        exact .quiet nofun rfl rfl rfl fun isOpen => absurd isOpen (not_open stopping nofun nofun)
      · cases stepped
  | clear =>
      simp only [next] at stepped
      split at stepped
      · rename_i joined
        cases stepped
        exact .reset (.inl rfl) (not_open joined nofun nofun) rfl rfl rfl
      · cases stepped
  | createPipe created =>
      simp only [next] at stepped
      split at stepped
      · rename_i opening
        cases created with
        | false =>
            cases stepped
            exact .quiet nofun rfl rfl rfl fun _ _ => .inl rfl
        | true =>
            cases stepped
            exact .reset (.inr rfl) (not_open opening nofun nofun) rfl rfl rfl
      · cases stepped
  | spawn created =>
      simp only [next] at stepped
      split at stepped
      · rename_i absent
        cases stepped
        refine .quiet nofun rfl rfl ?_ fun _ _ => .inl rfl
        cases created <;> simp [WorkerPoint.frame, absent]
      · cases stepped
  | setInstanceId instanceId stored =>
      cases stepped
      exact .quiet nofun rfl rfl rfl fun isOpen _ => isOpen
  | enqueue event stored =>
      have result : before.enqueue event stored = (output, after) := Option.some.inj stepped
      cases running : before.stopping with
      | false =>
          have effect := Effect.enqueued event stored running
          rwa [result] at effect
      | true =>
          simp only [enqueue, running, if_true] at result
          cases result
          exact .quiet nofun rfl rfl rfl fun isOpen _ => isOpen
  | connectFailed =>
      simp only [next] at stepped
      split at stepped
      · rename_i connecting
        cases stepped
        exact .quiet nofun rfl rfl (by rw [connecting]; rfl) fun isOpen _ => isOpen
      · cases stepped
  | readHello hello =>
      simp only [next] at stepped
      split at stepped
      · rename_i connecting
        cases stepped
        refine .quiet nofun rfl rfl ?_ fun isOpen _ => isOpen
        cases hello <;> rw [connecting] <;> rfl
      · cases stepped
  | identify =>
      simp only [next] at stepped
      split at stepped
      · rename_i greeted
        split at stepped
        · cases stepped
          exact .quiet nofun rfl rfl (by rw [greeted]; rfl) fun isOpen _ => isOpen
        · split at stepped <;> cases stepped
          exact .quiet nofun rfl rfl (by rw [greeted]; rfl) fun isOpen _ => isOpen
      · cases stepped
  | greet written =>
      simp only [next] at stepped
      split at stepped
      · rename_i identified
        cases stepped
        refine .quiet nofun rfl rfl ?_ fun isOpen _ => isOpen
        rw [identified]
        dsimp only
        split <;> rfl
      · cases stepped
  | waitTimedOut =>
      simp only [next] at stepped
      split at stepped
      · rename_i sending
        split at stepped <;> cases stepped
        exact .quiet nofun rfl rfl (by rw [sending]; rfl) fun isOpen _ => isOpen
      · cases stepped
  | peek stillConnected =>
      simp only [next] at stepped
      split at stepped
      · rename_i peeking
        cases stepped
        refine .quiet nofun rfl rfl ?_ fun isOpen _ => isOpen
        rw [peeking]
        dsimp only
        split
        · rfl
        · split <;> rfl
      · cases stepped
  | take =>
      simp only [next] at stepped
      split at stepped
      · rename_i sending
        have free : before.worker.frame = none := by rw [sending]; rfl
        rcases Option.map_eq_some_iff.mp stepped with ⟨taken, takes, same⟩
        cases same
        simp only [EventStream.take] at takes
        split at takes
        · cases takes
          exact .quiet nofun rfl rfl free.symm fun isOpen _ => isOpen
        · split at takes
          · cases takes
            exact .tookGap free
          · split at takes
            · cases takes
            · rename_i event rest queue
              cases takes
              exact .tookEvent event rest free queue
      · cases stepped
  | write written =>
      simp only [next] at stepped
      split at stepped
      · rename_i frame held
        cases written with
        | true =>
            cases stepped
            exact .delivered frame held
        | false =>
            cases stepped
            exact .quiet nofun rfl rfl (by rw [held]; rfl) fun isOpen _ => isOpen
      · cases stepped
  | restore stored =>
      simp only [next] at stepped
      split at stepped
      · rename_i frame held
        cases stepped
        exact .restored frame stored held
      · cases stepped
  | disconnect =>
      simp only [next] at stepped
      split at stepped
      · rename_i disconnecting
        cases stepped
        exact .quiet nofun rfl rfl (by rw [disconnecting]; rfl) fun isOpen _ => isOpen
      · cases stepped
  | throw =>
      simp only [next] at stepped
      split at stepped <;> cases stepped <;> exact .thrown

end EventStream

end X64dbgMcp.Events
