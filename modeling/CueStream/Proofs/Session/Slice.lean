-- The turns of tasks in slices. A task does not hold the session for a whole
-- turn, but only while it looks at it or changes it, and between two such
-- slices anything else may happen. Every run of moves is a run of slices, so
-- what holds after every slice holds after every move.
import CueStream.Proofs.Session.Task

namespace CueStream

/-! ## Places -/

/-- Where a worker stands between two slices. -/
inductive WorkerPlace where
  /-- It is about to take up the first of these segments, or to draw if there is none. -/
  | going (batch : List Segment)
  /-- The model was asked about `segment`; the others follow. -/
  | waiting (segment : Segment) (others : List Segment)
  /-- It knows what its segment says, and is about to act that out. -/
  | told (i : Intent) (others : List Segment)
  /-- It is about to see whether it is still the active one. -/
  | checking (others : List Segment)
  /-- It is about to leave. -/
  | leaving
  deriving DecidableEq, Repr

/-- Where a flush stands between two slices. -/
inductive FlushPlace where
  /-- It is about to look for a worker to wait for. -/
  | ready
  /-- It waits until a worker has ended. -/
  | joining (worker : Nat)
  /-- It is about to take the rest out of the buffer. -/
  | draining
  /-- It has the last segment of a response. -/
  | asking (segment : Segment) (response : Nat)
  /-- The model was asked about the last segment. -/
  | waiting (segment : Segment) (response : Nat)
  /-- It knows what the last segment says. -/
  | told (i : Intent) (response : Nat)
  deriving DecidableEq, Repr

/-- The place at which a worker stands between two turns. -/
def WorkerStage.place : WorkerStage → WorkerPlace
  | ready => .going []
  | waiting segment others => .waiting segment others

/-- The place at which a flush stands between two turns. -/
def FlushStage.place : FlushStage → FlushPlace
  | ready => .ready
  | joining worker => .joining worker
  | waiting segment response => .waiting segment response

namespace Session

/-! ## Slices of a turn -/

/-- What a worker does while it holds the session. It draws, or sees that nothing is complete and
gives up its place, in one go. -/
def workSlice (fails : Trigger → Bool) (id : Nat) (s : Session) : WorkerPlace → Turn WorkerPlace
  | .going [] =>
    if s.active ≠ some id then ⟨s, some .leaving, []⟩
    else if s.buffer.hasBoundary then ⟨s.draw.1, some (.going s.draw.2), []⟩
    else ⟨s.release id, some .leaving, []⟩
  | .going (segment :: others) =>
    match Classifier.call? s.config segment.text with
    | some call =>
      ⟨s, some (.waiting segment others),
        [.submitted (.worker id) segment, .asked (.worker id) call]⟩
    | none => ⟨s, some (.told .empty others), [.submitted (.worker id) segment]⟩
  | .waiting segment others => ⟨s, some (.waiting segment others), []⟩
  | .told i others =>
    if s.active ≠ some id then ⟨s, some (.checking others), []⟩
    else
      let (s, events, taken) := s.emit fails (.worker id) i.triggers
      ⟨s, some (if taken then .checking others else .leaving), events⟩
  | .checking others => ⟨s, some (if s.active = some id then .going others else .leaving), []⟩
  | .leaving => ⟨s.release id, none, [.ended (.worker id)]⟩

/-- What a flush does while it holds the session. -/
def flushSlice (fails : Trigger → Bool) (lives : Nat → Bool) (id : Nat) (s : Session) :
    FlushPlace → Turn FlushPlace
  | .ready =>
    match s.awaited with
    | none => ⟨s, some .draining, []⟩
    | some worker => ⟨{ s with awaited := none }, some (.joining worker), []⟩
  | .joining worker => ⟨s, some (if lives worker then .joining worker else .ready), []⟩
  | .draining =>
    match s.drain with
    | (s, none) => ⟨s, none, [.drained id, .ended (.flush id)]⟩
    | (s, some segment) => ⟨s, some (.asking segment s.response), [.drained id]⟩
  | .asking segment response =>
    match Classifier.call? s.config segment.text with
    | some call =>
      ⟨s, some (.waiting segment response),
        [.submitted (.flush id) segment, .asked (.flush id) call]⟩
    | none => ⟨s, some (.told .empty response), [.submitted (.flush id) segment]⟩
  | .waiting segment response => ⟨s, some (.waiting segment response), []⟩
  | .told i response =>
    let t := s.resumeFlush fails id i response
    ⟨t.session, none, t.events⟩

end Session

/-! ## The world in slices -/

/-- A session, and the tasks on it at their places. -/
structure Sliced where
  session : Session
  workers : List (Nat × WorkerPlace) := []
  flushes : List (Nat × FlushPlace) := []
  /-- The number of the next flush. -/
  nextFlush : Nat := 0
  deriving DecidableEq, Repr

/-- What may happen next. -/
inductive Slice where
  | feed (chunk : Text) (canWork : Bool)
  /-- Starts a flush. -/
  | flush
  /-- A worker goes on. -/
  | workerTurn (id : Nat)
  /-- A flush goes on. -/
  | flushTurn (id : Nat)
  /-- The model answers a worker. -/
  | workerAnswer (id : Nat) (a : Answer)
  /-- The model answers a flush. -/
  | flushAnswer (id : Nat) (a : Answer)
  | reset
  /-- The second half of a full reset. -/
  | resetGates
  | playback (c : Channel) (length : Millis)
  | setClock (time : Millis)
  deriving DecidableEq, Repr

/-- What is fed in a slice, and whether workers can be started then. -/
def Slice.fed? : Slice → Option (Text × Bool)
  | feed chunk canWork => some (chunk, canWork)
  | _ => none

/-- The task that goes on in a slice, or is answered. -/
def Slice.task? : Slice → Option Actor
  | workerTurn id => some (.worker id)
  | workerAnswer id _ => some (.worker id)
  | flushTurn id => some (.flush id)
  | flushAnswer id _ => some (.flush id)
  | _ => none

/-- The slice begins a new response. -/
def Slice.isReset : Slice → Bool
  | reset => true
  | _ => false

/-- A task that goes on feeds nothing and begins no response. -/
theorem Slice.plain_of_task {x : Slice} (h : x.task?.isSome = true) :
    x.fed? = none ∧ x.isReset = false := by
  cases x <;> first | exact ⟨rfl, rfl⟩ | cases h

/-- What is fed in a move, and whether workers can be started then. -/
def Move.fed? : Move → Option (Text × Bool)
  | feed chunk canWork => some (chunk, canWork)
  | _ => none

theorem Move.plain_of_task {m : Move} (h : m.task?.isSome = true) :
    m.fed? = none ∧ m.isReset = false := by
  cases m <;> first | exact ⟨rfl, rfl⟩ | cases h

namespace Sliced

/-- A new session on which nothing goes on. -/
def new (config : CueConfig) (clock : Millis) : Sliced :=
  { session := .new config clock }

/-- The worker has not ended. -/
def lives (w : Sliced) (worker : Nat) : Bool :=
  (w.workers.lookup worker).isSome

/-- The world after a slice of a worker. -/
def afterWorker (w : Sliced) (id : Nat) (t : Session.Turn WorkerPlace) : Sliced × List Event :=
  ({ w with session := t.session, workers := put id t.stage w.workers }, t.events)

/-- The world after a slice of a flush. -/
def afterFlush (w : Sliced) (id : Nat) (t : Session.Turn FlushPlace) : Sliced × List Event :=
  ({ w with session := t.session, flushes := put id t.stage w.flushes }, t.events)

/-- One slice. -/
def step (fails : Trigger → Bool) (w : Sliced) : Slice → Sliced × List Event
  | .feed chunk canWork =>
    let fed := w.session.feed chunk canWork
    ({ w with
        session := fed.session
        workers := w.workers ++ (fed.worker.map fun id => (id, WorkerPlace.going [])).toList },
      fed.admitted.map (Event.admitted .feeder · w.session.clock) ++
        (deliver fails .feeder fed.admitted).1)
  | .flush =>
    ({ w with flushes := w.flushes ++ [(w.nextFlush, .ready)], nextFlush := w.nextFlush + 1 }, [])
  | .workerTurn id =>
    match w.workers.lookup id with
    | some place => w.afterWorker id (w.session.workSlice fails id place)
    | none => (w, [])
  | .flushTurn id =>
    match w.flushes.lookup id with
    | some place => w.afterFlush id (w.session.flushSlice fails w.lives id place)
    | none => (w, [])
  | .workerAnswer id a =>
    match w.workers.lookup id with
    | some (.waiting _ others) =>
      w.afterWorker id
        ⟨w.session, some (.told (Classifier.settled a) others), [.answered (.worker id) a]⟩
    | _ => (w, [])
  | .flushAnswer id a =>
    match w.flushes.lookup id with
    | some (.waiting _ response) =>
      w.afterFlush id
        ⟨w.session, some (.told (Classifier.settled a) response), [.answered (.flush id) a]⟩
    | _ => (w, [])
  | .reset => ({ w with session := w.session.reset }, [])
  | .resetGates => ({ w with session := { w.session with gates := w.session.gates.reset } }, [])
  | .playback c length => ({ w with session := w.session.playback c length }, [])
  | .setClock time => ({ w with session := { w.session with clock := time } }, [])

/-- What a slice can come to. A task that is not at the right place does not move. -/
inductive Step (fails : Trigger → Bool) (w : Sliced) : Slice → Sliced × List Event → Prop
  | still (x : Slice) (h : x.task?.isSome = true)
      (hvain : ∀ id, x = .workerTurn id → w.workers.lookup id = none) : Step fails w x (w, [])
  | feed (chunk : Text) (canWork : Bool) :
      Step fails w (.feed chunk canWork) (w.step fails (.feed chunk canWork))
  | flush :
      Step fails w .flush
        ({ w with flushes := w.flushes ++ [(w.nextFlush, .ready)], nextFlush := w.nextFlush + 1 },
          [])
  | workerTurn {id : Nat} {place : WorkerPlace} (h : w.workers.lookup id = some place) :
      Step fails w (.workerTurn id) (w.afterWorker id (w.session.workSlice fails id place))
  | flushTurn {id : Nat} {place : FlushPlace} (h : w.flushes.lookup id = some place) :
      Step fails w (.flushTurn id) (w.afterFlush id (w.session.flushSlice fails w.lives id place))
  | workerAnswer {id : Nat} {segment : Segment} {others : List Segment} (a : Answer)
      (h : w.workers.lookup id = some (.waiting segment others)) :
      Step fails w (.workerAnswer id a)
        (w.afterWorker id
          ⟨w.session, some (.told (Classifier.settled a) others), [.answered (.worker id) a]⟩)
  | flushAnswer {id : Nat} {segment : Segment} {response : Nat} (a : Answer)
      (h : w.flushes.lookup id = some (.waiting segment response)) :
      Step fails w (.flushAnswer id a)
        (w.afterFlush id
          ⟨w.session, some (.told (Classifier.settled a) response), [.answered (.flush id) a]⟩)
  | reset : Step fails w .reset ({ w with session := w.session.reset }, [])
  | resetGates :
      Step fails w .resetGates
        ({ w with session := { w.session with gates := w.session.gates.reset } }, [])
  | playback (c : Channel) (length : Millis) :
      Step fails w (.playback c length) ({ w with session := w.session.playback c length }, [])
  | setClock (time : Millis) :
      Step fails w (.setClock time) ({ w with session := { w.session with clock := time } }, [])

theorem step_spec (fails : Trigger → Bool) (w : Sliced) (x : Slice) :
    Step fails w x (w.step fails x) := by
  cases x with
  | feed chunk canWork => exact .feed chunk canWork
  | flush => exact .flush
  | workerTurn id =>
    simp only [step]
    split
    · rename_i place h
      exact .workerTurn h
    · rename_i h
      refine .still _ rfl ?_
      rintro k hk
      cases hk
      exact h
  | flushTurn id =>
    simp only [step]
    split
    · rename_i place h
      exact .flushTurn h
    · exact .still _ rfl nofun
  | workerAnswer id a =>
    simp only [step]
    split
    · rename_i segment others h
      exact .workerAnswer a h
    · exact .still _ rfl nofun
  | flushAnswer id a =>
    simp only [step]
    split
    · rename_i segment response h
      exact .flushAnswer a h
    · exact .still _ rfl nofun
  | reset => exact .reset
  | resetGates => exact .resetGates
  | playback c length => exact .playback c length
  | setClock time => exact .setClock time

/-- All slices, one after the other: the world at the end, and everything that happened. -/
def run (fails : Trigger → Bool) (w : Sliced) : List Slice → Sliced × List Event
  | [] => (w, [])
  | x :: rest =>
    let (w, events) := w.step fails x
    let (w, later) := w.run fails rest
    (w, events ++ later)

theorem run_append (fails : Trigger → Bool) (w : Sliced) (xs more : List Slice) :
    w.run fails (xs ++ more) =
      (((w.run fails xs).1.run fails more).1,
        (w.run fails xs).2 ++ ((w.run fails xs).1.run fails more).2) := by
  induction xs generalizing w with
  | nil => rfl
  | cons x rest ih => simp [run, ih]

end Sliced

/-- The world between two turns, for slices to go on from there. -/
def World.sliced (w : World) : Sliced where
  session := w.session
  workers := w.workers.map fun e => (e.1, e.2.place)
  flushes := w.flushes.map fun e => (e.1, e.2.place)
  nextFlush := w.nextFlush

/-! ## Turns in slices -/

/-- The slices of a task, one after the other from its place on, come to a turn. -/
inductive Slices {Place : Type} (slice : Session → Place → Session.Turn Place) :
    Session → Place → Session.Turn Place → Prop
  | last {s : Session} {p : Place} {t : Session.Turn Place} (h : slice s p = t) : Slices slice s p t
  | more {s s' : Session} {p q : Place} {events : List Event} {t : Session.Turn Place}
      (h : slice s p = ⟨s', some q, events⟩) (rest : Slices slice s' q t) :
      Slices slice s p (t.after events)

/-- The turn with the place in place of the stage. -/
def Session.Turn.at {Stage Place : Type} (place : Stage → Place) (t : Session.Turn Stage) :
    Session.Turn Place :=
  ⟨t.session, t.stage.map place, t.events⟩

namespace Session

theorem release_of_revoked {s : Session} {id : Nat} (h : s.active ≠ some id) :
    s.release id = s := by
  unfold release
  rw [if_neg h]

theorem active_release (s : Session) (id : Nat) : (s.release id).active ≠ some id := by
  unfold release
  split
  · simp
  · assumption

/-- What the gates, drawing and giving up the place keep, a slice of a worker keeps. -/
theorem workSlice_keeps {P : Session → Prop} (hpass : ∀ s ts, P s → P (s.pass ts).1)
    (hdraw : ∀ s, s.buffer.hasBoundary = true → P s → P s.draw.1)
    (hrelease : ∀ s id, P s → P (s.release id)) {s : Session} (h : P s) (fails : Trigger → Bool)
    (id : Nat) (place : WorkerPlace) : P (s.workSlice fails id place).session := by
  cases place with
  | going batch =>
    cases batch with
    | nil =>
      rw [workSlice]
      split
      · exact h
      · split
        · rename_i hb
          exact hdraw s hb h
        · exact hrelease s id h
    | cons segment others =>
      rw [workSlice]
      split <;> exact h
  | waiting segment others => exact h
  | told i others =>
    rw [workSlice]
    split
    · exact h
    · exact hpass s i.triggers h
  | checking others => exact h
  | leaving => exact hrelease s id h

section Worker

variable (fails : Trigger → Bool) {id : Nat} {s : Session}

theorem slices_leaving (h : s.active ≠ some id) :
    Slices (workSlice fails id) s .leaving ⟨s, none, [.ended (.worker id)]⟩ := by
  refine .last ?_
  rw [workSlice, release_of_revoked h]

theorem slices_checking_of_revoked (h : s.active ≠ some id) (others : List Segment) :
    Slices (workSlice fails id) s (.checking others) ⟨s, none, [.ended (.worker id)]⟩ := by
  have hslice : workSlice fails id s (.checking others) = ⟨s, some .leaving, []⟩ := by
    rw [workSlice, if_neg h]
  exact .more hslice (slices_leaving fails h)

theorem slices_told_of_revoked (h : s.active ≠ some id) (i : Intent) (others : List Segment) :
    Slices (workSlice fails id) s (.told i others) ⟨s, none, [.ended (.worker id)]⟩ := by
  have hslice : workSlice fails id s (.told i others) = ⟨s, some (.checking others), []⟩ := by
    rw [workSlice, if_pos h]
  exact .more hslice (slices_checking_of_revoked fails h others)

theorem slices_checking {t : Turn WorkerPlace} (h : s.active = some id) {others : List Segment}
    (rest : Slices (workSlice fails id) s (.going others) t) :
    Slices (workSlice fails id) s (.checking others) t := by
  have hslice : workSlice fails id s (.checking others) = ⟨s, some (.going others), []⟩ := by
    rw [workSlice, if_pos h]
  exact .more hslice rest

/-- A worker that draws and asks does so in slices. -/
theorem slices_work (id : Nat) (s : Session) (batch : List Segment) :
    Slices (workSlice fails id) s (.going batch) ((s.work id batch).at WorkerStage.place) := by
  fun_induction work id s batch with
  | case1 s segment others call hc =>
    refine .last ?_
    simp only [workSlice, hc]
    rfl
  | case2 s segment others hc ha ih =>
    have hgoing : workSlice fails id s (.going (segment :: others)) =
        ⟨s, some (.told .empty others), [.submitted (.worker id) segment]⟩ := by
      simp only [workSlice, hc]
    have htold : workSlice fails id s (.told .empty others) = ⟨s, some (.checking others), []⟩ := by
      rw [workSlice, if_neg (not_not_intro ha)]
      rfl
    exact .more hgoing (.more htold (slices_checking fails ha ih))
  | case3 s segment others hc ha =>
    have hgoing : workSlice fails id s (.going (segment :: others)) =
        ⟨s, some (.told .empty others), [.submitted (.worker id) segment]⟩ := by
      simp only [workSlice, hc]
    exact .more hgoing (slices_told_of_revoked fails ha .empty others)
  | case4 s ha =>
    have hgoing : workSlice fails id s (.going []) = ⟨s, some .leaving, []⟩ := by
      rw [workSlice, if_pos ha]
    exact .more hgoing (slices_leaving fails ha)
  | case5 s ha hb hlt ih =>
    have hgoing : workSlice fails id s (.going []) = ⟨s.draw.1, some (.going s.draw.2), []⟩ := by
      rw [workSlice, if_neg ha, if_pos hb]
    exact .more hgoing ih
  | case6 s ha hb =>
    have hgoing : workSlice fails id s (.going []) = ⟨s.release id, some .leaving, []⟩ := by
      rw [workSlice, if_neg ha, if_neg hb]
    exact .more hgoing (slices_leaving fails (s.active_release id))

/-- So does a worker that takes up an answer. -/
theorem slices_resumeWork (id : Nat) (s : Session) (i : Intent) (others : List Segment) :
    Slices (workSlice fails id) s (.told i others)
      ((s.resumeWork fails id i others).at WorkerStage.place) := by
  by_cases ha : s.active = some id
  · have hpassed : (s.pass i.triggers).1.active = some id := by
      rw [pass_eq]
      exact ha
    have htold : workSlice fails id s (.told i others) =
        ⟨(s.pass i.triggers).1,
          some (if (s.emit fails (.worker id) i.triggers).2.2 then .checking others else .leaving),
          (s.emit fails (.worker id) i.triggers).2.1⟩ := by
      rw [workSlice, if_neg (not_not_intro ha)]
      rfl
    rw [resumeWork_of_active ha]
    split
    · rename_i htaken
      rw [if_pos htaken] at htold
      exact .more htold (slices_checking fails hpassed (slices_work fails id _ others))
    · rename_i hbroke
      rw [if_neg hbroke] at htold
      exact .more htold (.last rfl)
  · rw [resumeWork_of_revoked ha]
    exact slices_told_of_revoked fails ha i others

end Worker

section Flush

variable (fails : Trigger → Bool) (lives : Nat → Bool) (id : Nat) (s : Session)

/-- A flush that takes the rest out does so in slices. -/
theorem slices_finish :
    Slices (flushSlice fails lives id) s .draining ((s.finish id).at FlushStage.place) := by
  rcases hdrain : s.drain with ⟨drained, segment⟩
  cases segment with
  | none =>
    have hfinish : s.finish id = ⟨drained, none, [.drained id, .ended (.flush id)]⟩ := by
      simp only [finish, hdrain]
    rw [hfinish]
    refine .last ?_
    simp only [flushSlice, hdrain]
    rfl
  | some segment =>
    have hdraining : flushSlice fails lives id s .draining =
        ⟨drained, some (.asking segment drained.response), [.drained id]⟩ := by
      simp only [flushSlice, hdrain]
    cases hc : Classifier.call? drained.config segment.text with
    | some call =>
      have hfinish : s.finish id = ⟨drained, some (.waiting segment drained.response),
          [.drained id, .submitted (.flush id) segment, .asked (.flush id) call]⟩ := by
        simp only [finish, hdrain, hc]
      have hasking : flushSlice fails lives id drained (.asking segment drained.response) =
          ⟨drained, some (.waiting segment drained.response),
            [.submitted (.flush id) segment, .asked (.flush id) call]⟩ := by
        simp only [flushSlice, hc]
      rw [hfinish]
      exact .more hdraining (.last hasking)
    | none =>
      have hfinish : s.finish id = ⟨drained, none,
          [.drained id, .submitted (.flush id) segment, .ended (.flush id)]⟩ := by
        simp only [finish, hdrain, hc]
      have hasking : flushSlice fails lives id drained (.asking segment drained.response) =
          ⟨drained, some (.told .empty drained.response), [.submitted (.flush id) segment]⟩ := by
        simp only [flushSlice, hc]
      have htold : flushSlice fails lives id drained (.told .empty drained.response) =
          ⟨drained, none, [.ended (.flush id)]⟩ := by
        simp only [flushSlice, resumeFlush_of_current]
        rfl
      rw [hfinish]
      exact .more hdraining (.more hasking (.last htold))

theorem slices_ready_of_none (h : s.awaited = none) :
    Slices (flushSlice fails lives id) s .ready ((s.finish id).at FlushStage.place) := by
  have hready : flushSlice fails lives id s .ready = ⟨s, some .draining, []⟩ := by
    simp only [flushSlice, h]
  exact .more hready (slices_finish fails lives id s)

/-- A flush looks again once the worker has ended that it waited for. -/
theorem slices_joining {worker : Nat} (h : lives worker = false) {t : Turn FlushPlace}
    (rest : Slices (flushSlice fails lives id) s .ready t) :
    Slices (flushSlice fails lives id) s (.joining worker) t := by
  have hjoining : flushSlice fails lives id s (.joining worker) = ⟨s, some .ready, []⟩ := by
    simp only [flushSlice, h]
    rfl
  exact .more hjoining rest

/-- So does a flush that looks for a worker to wait for. -/
theorem slices_startFlush :
    Slices (flushSlice fails lives id) s .ready
      ((s.startFlush lives id).at FlushStage.place) := by
  cases hawaited : s.awaited with
  | none =>
    have hstart : s.startFlush lives id = s.finish id := by
      simp only [startFlush, hawaited]
    rw [hstart]
    exact slices_ready_of_none fails lives id s hawaited
  | some worker =>
    have hready : flushSlice fails lives id s .ready =
        ⟨{ s with awaited := none }, some (.joining worker), []⟩ := by
      simp only [flushSlice, hawaited]
    cases hlives : lives worker with
    | true =>
      have hstart : s.startFlush lives id =
          ⟨{ s with awaited := none }, some (.joining worker), []⟩ := by
        simp only [startFlush, hawaited, hlives, if_true]
      rw [hstart]
      exact .last hready
    | false =>
      have hstart : s.startFlush lives id = finish id { s with awaited := none } := by
        simp only [startFlush, hawaited, hlives, Bool.false_eq_true, if_false]
      rw [hstart]
      exact .more hready
        (slices_joining fails lives id _ hlives (slices_ready_of_none fails lives id _ rfl))

/-- So does a flush that takes up an answer. -/
theorem slices_resumeFlush (i : Intent) (response : Nat) :
    Slices (flushSlice fails lives id) s (.told i response)
      ((s.resumeFlush fails id i response).at FlushStage.place) := by
  refine .last ?_
  unfold Turn.at
  rw [(resumeFlush_eq fails s id i response).1]
  rfl

end Flush

end Session

/-! ## Moves in slices -/

/-- Some slices of tasks lead there. -/
def Sliced.Leads (fails : Trigger → Bool) (v : Sliced) (u : Sliced × List Event) : Prop :=
  ∃ xs, v.run fails xs = u ∧ ∀ x ∈ xs, x.task?.isSome = true

namespace Sliced

variable {fails : Trigger → Bool}

theorem Leads.still {v : Sliced} : Leads fails v (v, []) :=
  ⟨[], rfl, nofun⟩

/-- One slice, and what the others lead to. -/
theorem Leads.after {v v' : Sliced} {x : Slice} {events later : List Event} {u : Sliced}
    (hx : x.task?.isSome = true) (hstep : v.step fails x = (v', events))
    (h : Leads fails v' (u, later)) : Leads fails v (u, events ++ later) := by
  obtain ⟨xs, hrun, htasks⟩ := h
  refine ⟨x :: xs, ?_, List.forall_mem_cons.mpr ⟨hx, htasks⟩⟩
  simp only [run, hstep, hrun]

/-- The slices of a worker, in a world where it stands at its place. -/
theorem Leads.worker {id : Nat} {v : Sliced} {s : Session} {p : WorkerPlace}
    {t : Session.Turn WorkerPlace} (h : Slices (Session.workSlice fails id) s p t)
    (hsession : v.session = s) (hplace : v.workers.lookup id = some p) :
    Leads fails v (v.afterWorker id t) := by
  induction h generalizing v with
  | @last s p t hslice =>
    subst hsession
    have hstep : v.step fails (.workerTurn id) = v.afterWorker id t := by
      simp only [step, hplace, hslice]
    have hlead := Leads.still.after (x := .workerTurn id) rfl hstep
    rwa [List.append_nil] at hlead
  | @more s s' p q events t hslice _ ih =>
    subst hsession
    have hstep : v.step fails (.workerTurn id) = v.afterWorker id ⟨s', some q, events⟩ := by
      simp only [step, hplace, hslice]
    have hlead := ih (v := (v.afterWorker id ⟨s', some q, events⟩).1) rfl
      (lookup_put_some hplace q)
    have hresult := hlead.after (x := .workerTurn id) rfl hstep
    unfold afterWorker at hresult ⊢
    rwa [put_put] at hresult

/-- The slices of a flush. No worker moves meanwhile, so the same ones live throughout. -/
theorem Leads.flush {id : Nat} {v : Sliced} {lives : Nat → Bool} {s : Session} {p : FlushPlace}
    {t : Session.Turn FlushPlace} (h : Slices (Session.flushSlice fails lives id) s p t)
    (hlives : v.lives = lives) (hsession : v.session = s)
    (hplace : v.flushes.lookup id = some p) : Leads fails v (v.afterFlush id t) := by
  induction h generalizing v with
  | @last s p t hslice =>
    subst hsession hlives
    have hstep : v.step fails (.flushTurn id) = v.afterFlush id t := by
      simp only [step, hplace, hslice]
    have hlead := Leads.still.after (x := .flushTurn id) rfl hstep
    rwa [List.append_nil] at hlead
  | @more s s' p q events t hslice _ ih =>
    subst hsession hlives
    have hstep : v.step fails (.flushTurn id) = v.afterFlush id ⟨s', some q, events⟩ := by
      simp only [step, hplace, hslice]
    have hlead := ih (v := (v.afterFlush id ⟨s', some q, events⟩).1) rfl rfl
      (lookup_put_some hplace q)
    have hresult := hlead.after (x := .flushTurn id) rfl hstep
    unfold afterFlush at hresult ⊢
    rwa [put_put] at hresult

end Sliced

namespace World

theorem lives_sliced (w : World) : w.sliced.lives = w.lives := by
  funext worker
  unfold Sliced.lives lives sliced
  rw [lookup_map (fun _ => WorkerStage.place), Option.isSome_map]

theorem afterWorker_sliced (w : World) (id : Nat) (t : Session.Turn WorkerStage) :
    w.sliced.afterWorker id (t.at WorkerStage.place) =
      ((w.afterWorker id t).1.sliced, (w.afterWorker id t).2) := by
  unfold Sliced.afterWorker afterWorker sliced Session.Turn.at
  rw [put_map (fun _ => WorkerStage.place)]

theorem afterFlush_sliced (w : World) (id : Nat) (t : Session.Turn FlushStage) :
    w.sliced.afterFlush id (t.at FlushStage.place) =
      ((w.afterFlush id t).1.sliced, (w.afterFlush id t).2) := by
  unfold Sliced.afterFlush afterFlush sliced Session.Turn.at
  rw [put_map (fun _ => FlushStage.place)]

theorem feed_sliced (fails : Trigger → Bool) (w : World) (chunk : Text) (canWork : Bool) :
    w.sliced.step fails (.feed chunk canWork) =
      ((w.feed fails chunk canWork).1.sliced, (w.feed fails chunk canWork).2) := by
  unfold Sliced.step feed sliced
  simp only [List.map_append]
  cases (w.session.feed chunk canWork).worker <;> rfl

section Tasks

variable (fails : Trigger → Bool) {w : World} {id : Nat}

theorem leads_workerTurn (h : w.workers.lookup id = some .ready) :
    w.sliced.Leads fails
      ((w.afterWorker id (w.session.work id [])).1.sliced,
        (w.afterWorker id (w.session.work id [])).2) := by
  rw [← afterWorker_sliced]
  refine .worker (Session.slices_work fails id w.session []) rfl ?_
  exact (lookup_map (fun _ => WorkerStage.place) id w.workers).trans (congrArg _ h)

theorem leads_workerAnswer {segment : Segment} {others : List Segment} (a : Answer)
    (h : w.workers.lookup id = some (.waiting segment others)) :
    let t := (w.session.resumeWork fails id (Classifier.settled a) others).after
      [.answered (.worker id) a]
    w.sliced.Leads fails ((w.afterWorker id t).1.sliced, (w.afterWorker id t).2) := by
  intro t
  let told : Session.Turn WorkerPlace :=
    ⟨w.session, some (.told (Classifier.settled a) others), [.answered (.worker id) a]⟩
  have hplace : w.sliced.workers.lookup id = some (.waiting segment others) :=
    (lookup_map (fun _ => WorkerStage.place) id w.workers).trans (congrArg _ h)
  have hstep : w.sliced.step fails (.workerAnswer id a) = w.sliced.afterWorker id told := by
    simp only [Sliced.step, hplace]
    rfl
  have hturn := Session.slices_resumeWork fails id w.session (Classifier.settled a) others
  have hlead := (Sliced.Leads.worker hturn (v := (w.sliced.afterWorker id told).1) rfl
    (lookup_put_some hplace _)).after (x := .workerAnswer id a) rfl hstep
  rw [← afterWorker_sliced]
  unfold Sliced.afterWorker at hlead ⊢
  rwa [put_put] at hlead

theorem leads_flushTurn {stage : FlushStage} (h : w.flushes.lookup id = some stage)
    (hs : stage = .ready ∨ ∃ worker, stage = .joining worker ∧ w.lives worker = false) :
    w.sliced.Leads fails
      ((w.afterFlush id (w.session.startFlush w.lives id)).1.sliced,
        (w.afterFlush id (w.session.startFlush w.lives id)).2) := by
  have hplace : w.sliced.flushes.lookup id = some stage.place :=
    (lookup_map (fun _ => FlushStage.place) id w.flushes).trans (congrArg _ h)
  have hstart := Session.slices_startFlush fails w.lives id w.session
  rw [← afterFlush_sliced]
  rcases hs with rfl | ⟨worker, rfl, hended⟩
  · exact .flush hstart w.lives_sliced rfl hplace
  · exact .flush (Session.slices_joining fails w.lives id w.session hended hstart)
      w.lives_sliced rfl hplace

theorem leads_flushAnswer {segment : Segment} {response : Nat} (a : Answer)
    (h : w.flushes.lookup id = some (.waiting segment response)) :
    let t := (w.session.resumeFlush fails id (Classifier.settled a) response).after
      [.answered (.flush id) a]
    w.sliced.Leads fails ((w.afterFlush id t).1.sliced, (w.afterFlush id t).2) := by
  intro t
  let told : Session.Turn FlushPlace :=
    ⟨w.session, some (.told (Classifier.settled a) response), [.answered (.flush id) a]⟩
  have hplace : w.sliced.flushes.lookup id = some (.waiting segment response) :=
    (lookup_map (fun _ => FlushStage.place) id w.flushes).trans (congrArg _ h)
  have hstep : w.sliced.step fails (.flushAnswer id a) = w.sliced.afterFlush id told := by
    simp only [Sliced.step, hplace]
    rfl
  have hturn :=
    Session.slices_resumeFlush fails w.lives id w.session (Classifier.settled a) response
  have hlead := (Sliced.Leads.flush hturn (v := (w.sliced.afterFlush id told).1) w.lives_sliced rfl
    (lookup_put_some hplace _)).after (x := .flushAnswer id a) rfl hstep
  rw [← afterFlush_sliced]
  unfold Sliced.afterFlush at hlead ⊢
  rwa [put_put] at hlead

end Tasks

/-- What a move comes to, some slices come to as well. The same is fed in them, and only if the move
begins a new response do they. -/
theorem step_in_slices (fails : Trigger → Bool) (w : World) (m : Move) :
    ∃ xs, w.sliced.run fails xs = ((w.step fails m).1.sliced, (w.step fails m).2) ∧
      xs.filterMap Slice.fed? = m.fed?.toList ∧
      (m.isReset = false → ∀ x ∈ xs, x.isReset = false) := by
  have hone (x : Slice) (hfed : x.fed? = m.fed?) (hreset : x.isReset = m.isReset)
      {u : Sliced × List Event} (hstep : w.sliced.step fails x = u) :
      ∃ xs, w.sliced.run fails xs = u ∧ xs.filterMap Slice.fed? = m.fed?.toList ∧
        (m.isReset = false → ∀ x ∈ xs, x.isReset = false) := by
    refine ⟨[x], ?_, ?_, ?_⟩
    · simp only [Sliced.run, hstep, List.append_nil]
    · rw [← hfed]
      cases h : x.fed? <;> simp [h]
    · intro hm y hy
      rw [List.mem_singleton.mp hy, hreset, hm]
  have htasks (hfed : m.fed? = none) {u : Sliced × List Event} (h : w.sliced.Leads fails u) :
      ∃ xs, w.sliced.run fails xs = u ∧ xs.filterMap Slice.fed? = m.fed?.toList ∧
        (m.isReset = false → ∀ x ∈ xs, x.isReset = false) := by
    obtain ⟨xs, hrun, htasks⟩ := h
    refine ⟨xs, hrun, ?_, fun _ x hx => (Slice.plain_of_task (htasks x hx)).2⟩
    rw [hfed]
    exact List.filterMap_eq_nil_iff.mpr fun x hx => (Slice.plain_of_task (htasks x hx)).1
  have hspec := step_spec fails w m
  generalize w.step fails m = after at hspec ⊢
  cases hspec with
  | still m hm => exact htasks (Move.plain_of_task hm).1 Sliced.Leads.still
  | feed chunk canWork =>
    exact hone (.feed chunk canWork) rfl rfl (feed_sliced fails w chunk canWork)
  | flush =>
    refine hone .flush rfl rfl ?_
    unfold Sliced.step sliced
    simp only [List.map_append]
    rfl
  | workerTurn hl => exact htasks rfl (leads_workerTurn fails hl)
  | workerAnswer a hl => exact htasks rfl (leads_workerAnswer fails a hl)
  | flushTurn hl hs => exact htasks rfl (leads_flushTurn fails hl hs)
  | flushAnswer a hl => exact htasks rfl (leads_flushAnswer fails a hl)
  | reset => exact hone .reset rfl rfl rfl
  | fullReset => exact ⟨[.reset, .resetGates], rfl, rfl, nofun⟩
  | playback c length => exact hone (.playback c length) rfl rfl rfl
  | setClock time => exact hone (.setClock time) rfl rfl rfl

/-- Every run of moves is a run of slices in which the same is fed. -/
theorem run_in_slices (fails : Trigger → Bool) (w : World) (ms : List Move) :
    ∃ xs, w.sliced.run fails xs = ((w.run fails ms).1.sliced, (w.run fails ms).2) ∧
      xs.filterMap Slice.fed? = ms.filterMap Move.fed? := by
  induction ms generalizing w with
  | nil => exact ⟨[], rfl, rfl⟩
  | cons m rest ih =>
    obtain ⟨xs, hrun, hfed, -⟩ := step_in_slices fails w m
    obtain ⟨ys, hlater, hfedLater⟩ := ih (w.step fails m).1
    refine ⟨xs ++ ys, ?_, ?_⟩
    · rw [Sliced.run_append, hrun]
      simp only [run, hlater]
    · rw [List.filterMap_append, hfed, hfedLater]
      cases h : m.fed? <;> simp [h]

end World

end CueStream
