-- A session together with the work that goes on around it. Workers classify
-- complete segments, flushes classify what is left at the end of a response.
-- Both wait for answers of the model, so their turns may come in any order.
-- One turn runs up to the next wait, and nothing else happens during it.
import CueStream.Classifier.Reply
import CueStream.Session.Basic

namespace CueStream

/-! ## Tasks -/

/-- Where a worker stands that has not ended. -/
inductive WorkerStage where
  /-- It is about to look for complete segments. -/
  | ready
  /-- The model was asked about `segment`; the others follow. -/
  | waiting (segment : Segment) (others : List Segment)
  deriving DecidableEq, Repr

/-- Where a flush stands that has not ended. -/
inductive FlushStage where
  /-- It is about to look for a worker to wait for. -/
  | ready
  /-- It waits until a worker has ended. -/
  | joining (worker : Nat)
  /-- The model was asked about the last segment of a response. -/
  | waiting (segment : Segment) (response : Nat)
  deriving DecidableEq, Repr

/-- Who acts on the session. -/
inductive Actor where
  /-- Whoever feeds the text. -/
  | feeder
  | worker (id : Nat)
  | flush (id : Nat)
  deriving DecidableEq, Repr

/-! ## Events -/

/-- What can be seen from outside, and what is done with segments. -/
inductive Event where
  /-- A cue passed its gate. -/
  | admitted (actor : Actor) (t : Trigger) (time : Millis)
  /-- The receiver took a cue. -/
  | delivered (actor : Actor) (t : Trigger)
  /-- The receiver broke down over a cue. -/
  | broke (actor : Actor) (t : Trigger)
  /-- A segment was handed over for classification. -/
  | submitted (actor : Actor) (segment : Segment)
  /-- The model was asked. -/
  | asked (actor : Actor) (call : Classifier.Call)
  /-- The model answered. -/
  | answered (actor : Actor) (a : Answer)
  /-- A flush took the rest out of the buffer. -/
  | drained (flush : Nat)
  /-- A task is over. -/
  | ended (actor : Actor)
  deriving DecidableEq, Repr

/-- Hands cues to the receiver, up to the first one over which it breaks down: the events, and
whether all cues were taken. `fails` tells over which cues the receiver breaks down. -/
def deliver (fails : Trigger → Bool) (actor : Actor) : List Trigger → List Event × Bool
  | [] => ([], true)
  | t :: rest =>
    if fails t then ([.broke actor t], false)
    else
      let (events, taken) := deliver fails actor rest
      (.delivered actor t :: events, taken)

namespace Session

/-- Passes cues through their gates, on behalf of an actor, and hands over the ones that passed. -/
def emit (fails : Trigger → Bool) (actor : Actor) (s : Session) (ts : List Trigger) :
    Session × List Event × Bool :=
  let (after, admitted) := s.pass ts
  let (events, taken) := deliver fails actor admitted
  (after, admitted.map (Event.admitted actor · s.clock) ++ events, taken)

/-! ## A worker's turn -/

/-- What a turn comes to. The stage is missing if the task is over. -/
structure Turn (Stage : Type) where
  session : Session
  stage : Option Stage
  events : List Event

/-- The same turn with more events in front. -/
def Turn.after {Stage : Type} (events : List Event) (t : Turn Stage) : Turn Stage :=
  { t with events := events ++ t.events }

/-- A worker goes on with the segments that it has drawn. A segment that is too short for the
model is done at once. When there are none left the worker draws again, and is over when no
segment is complete. A worker that is no longer the active one stops. -/
def work (id : Nat) (s : Session) (batch : List Segment) : Turn WorkerStage :=
  match batch with
  | segment :: others =>
    match Classifier.call? s.config segment.text with
    | some call =>
      ⟨s, some (.waiting segment others),
        [.submitted (.worker id) segment, .asked (.worker id) call]⟩
    | none =>
      if s.active = some id then (work id s others).after [.submitted (.worker id) segment]
      else ⟨s, none, [.submitted (.worker id) segment, .ended (.worker id)]⟩
  | [] =>
    if s.active ≠ some id then ⟨s, none, [.ended (.worker id)]⟩
    else if h : s.buffer.hasBoundary = true then
      have := length_draw h
      work id s.draw.1 s.draw.2
    else ⟨s.release id, none, [.ended (.worker id)]⟩
termination_by 2 * s.buffer.text.length + batch.length
decreasing_by
  · simp
  · simpa using this

/-- A worker takes up what the model made of its segment. If the receiver breaks down, so does
the worker. -/
def resumeWork (fails : Trigger → Bool) (id : Nat) (s : Session) (i : Intent)
    (others : List Segment) : Turn WorkerStage :=
  if s.active ≠ some id then ⟨s, none, [.ended (.worker id)]⟩
  else
    let (s, events, taken) := s.emit fails (.worker id) i.triggers
    if taken then (work id s others).after events
    else ⟨s.release id, none, events ++ [.ended (.worker id)]⟩

/-! ## A flush's turn -/

/-- A flush takes the rest out of the buffer and has it classified. -/
def finish (id : Nat) (s : Session) : Turn FlushStage :=
  let (s, segment) := s.drain
  match segment with
  | none => ⟨s, none, [.drained id, .ended (.flush id)]⟩
  | some segment =>
    match Classifier.call? s.config segment.text with
    | some call =>
      ⟨s, some (.waiting segment s.response),
        [.drained id, .submitted (.flush id) segment, .asked (.flush id) call]⟩
    | none => ⟨s, none, [.drained id, .submitted (.flush id) segment, .ended (.flush id)]⟩

/-- A flush first waits for the worker that is to be waited for. `lives` tells which workers have
not ended. -/
def startFlush (lives : Nat → Bool) (id : Nat) (s : Session) : Turn FlushStage :=
  match s.awaited with
  | none => s.finish id
  | some worker =>
    let s := { s with awaited := none }
    if lives worker then ⟨s, some (.joining worker), []⟩ else s.finish id

/-- A flush takes up what the model made of the last segment, unless a new response has begun. -/
def resumeFlush (fails : Trigger → Bool) (id : Nat) (s : Session) (i : Intent) (response : Nat) :
    Turn FlushStage :=
  if s.response ≠ response then ⟨s, none, [.ended (.flush id)]⟩
  else
    let (s, events, _) := s.emit fails (.flush id) i.triggers
    ⟨s, none, events ++ [.ended (.flush id)]⟩

end Session

/-! ## The world -/

/-- A session, and the tasks on it that have not ended. -/
structure World where
  session : Session
  workers : List (Nat × WorkerStage) := []
  flushes : List (Nat × FlushStage) := []
  /-- The number of the next flush. -/
  nextFlush : Nat := 0
  deriving DecidableEq, Repr

/-- What may happen next. -/
inductive Move where
  | feed (chunk : Text) (canWork : Bool)
  /-- Starts a flush. -/
  | flush
  /-- A worker that is ready has its turn. -/
  | workerTurn (id : Nat)
  /-- A flush has its turn that is ready, or whose worker has ended. -/
  | flushTurn (id : Nat)
  /-- The model answers a worker. -/
  | workerAnswer (id : Nat) (a : Answer)
  /-- The model answers a flush. -/
  | flushAnswer (id : Nat) (a : Answer)
  | reset
  | fullReset
  | playback (c : Channel) (length : Millis)
  | setClock (time : Millis)
  deriving DecidableEq, Repr

/-- The list with this entry for a number in place of the first one, or without the first one. -/
def put {α : Type} (id : Nat) (v : Option α) : List (Nat × α) → List (Nat × α)
  | [] => []
  | e :: rest =>
    if e.1 = id then (v.map fun v => (id, v)).toList ++ rest else e :: put id v rest

namespace World

/-- A new session on which nothing goes on. -/
def new (config : CueConfig) (clock : Millis) : World :=
  { session := .new config clock }

/-- The worker has not ended. -/
def lives (w : World) (worker : Nat) : Bool :=
  (w.workers.lookup worker).isSome

/-- The world after the turn of a worker. -/
def afterWorker (w : World) (id : Nat) (t : Session.Turn WorkerStage) : World × List Event :=
  ({ w with session := t.session, workers := put id t.stage w.workers }, t.events)

/-- The world after the turn of a flush. -/
def afterFlush (w : World) (id : Nat) (t : Session.Turn FlushStage) : World × List Event :=
  ({ w with session := t.session, flushes := put id t.stage w.flushes }, t.events)

/-- Feeds a piece of text. The keywords in it are acted out before anything else happens. -/
def feed (fails : Trigger → Bool) (w : World) (chunk : Text) (canWork : Bool) :
    World × List Event :=
  let fed := w.session.feed chunk canWork
  ({ w with
      session := fed.session
      workers := w.workers ++ (fed.worker.map fun id => (id, WorkerStage.ready)).toList },
    fed.admitted.map (Event.admitted .feeder · w.session.clock) ++
      (deliver fails .feeder fed.admitted).1)

/-- One move. A task only moves if it is at the right place; otherwise nothing changes. -/
def step (fails : Trigger → Bool) (w : World) : Move → World × List Event
  | .feed chunk canWork => w.feed fails chunk canWork
  | .flush =>
    ({ w with flushes := w.flushes ++ [(w.nextFlush, .ready)], nextFlush := w.nextFlush + 1 }, [])
  | .workerTurn id =>
    match w.workers.lookup id with
    | some .ready => w.afterWorker id (w.session.work id [])
    | _ => (w, [])
  | .flushTurn id =>
    match w.flushes.lookup id with
    | some .ready => w.afterFlush id (w.session.startFlush w.lives id)
    | some (.joining worker) =>
      if w.lives worker then (w, []) else w.afterFlush id (w.session.startFlush w.lives id)
    | _ => (w, [])
  | .workerAnswer id a =>
    match w.workers.lookup id with
    | some (.waiting _ others) =>
      w.afterWorker id
        ((w.session.resumeWork fails id (Classifier.settled a) others).after
          [.answered (.worker id) a])
    | _ => (w, [])
  | .flushAnswer id a =>
    match w.flushes.lookup id with
    | some (.waiting _ response) =>
      w.afterFlush id
        ((w.session.resumeFlush fails id (Classifier.settled a) response).after
          [.answered (.flush id) a])
    | _ => (w, [])
  | .reset => ({ w with session := w.session.reset }, [])
  | .fullReset => ({ w with session := w.session.fullReset }, [])
  | .playback c length => ({ w with session := w.session.playback c length }, [])
  | .setClock time => ({ w with session := { w.session with clock := time } }, [])

/-- All moves, one after the other: the world at the end, and everything that happened. -/
def run (fails : Trigger → Bool) (w : World) : List Move → World × List Event
  | [] => (w, [])
  | m :: rest =>
    let (w, events) := w.step fails m
    let (w, later) := w.run fails rest
    (w, events ++ later)

end World

end CueStream
