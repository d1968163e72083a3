-- One order in which the tasks of a world take their turns: the task that
-- has been ready for the longest time goes first, and goes on until it has
-- to wait. The model answers at once, or only as fast as permits are given
-- out; then calls are served in the order in which they came.
import CueStream.Session.Load

namespace CueStream

/-- What a world is run with. -/
structure Setting where
  /-- The cues over which the receiver breaks down. -/
  fails : Trigger → Bool
  /-- What the model says when so many calls were answered before. -/
  model : Nat → Classifier.Call → Answer
  /-- Each answer needs a permit. -/
  hold : Bool

/-- A world with the order of its tasks. -/
structure Schedule where
  world : World
  /-- The tasks that are ready, the next one first. -/
  queue : List Actor := []
  /-- The tasks that wait for a permit, the next one first. -/
  held : List Actor := []
  /-- The permits that nobody has taken yet. -/
  permits : Nat := 0
  /-- The number of calls that were answered. -/
  answered : Nat := 0

namespace Schedule

/-- The segment about which a task has asked the model. -/
def pending? (s : Schedule) : Actor → Option Segment
  | .feeder => none
  | .worker id =>
    match s.world.workers.lookup id with
    | some (.waiting segment _) => some segment
    | _ => none
  | .flush id =>
    match s.world.flushes.lookup id with
    | some (.waiting segment _) => some segment
    | _ => none

/-- What the model says about the segment of a task. -/
def answer (st : Setting) (s : Schedule) (segment : Segment) : Answer :=
  match Classifier.call? s.world.session.config segment.text with
  | some call => st.model s.answered call
  | none => .error []

/-- The next move of a task. -/
def move? (st : Setting) (s : Schedule) (a : Actor) : Option Move :=
  match a, s.pending? a with
  | .worker id, some segment => some (.workerAnswer id (s.answer st segment))
  | .worker id, none => some (.workerTurn id)
  | .flush id, some segment => some (.flushAnswer id (s.answer st segment))
  | .flush id, none => some (.flushTurn id)
  | .feeder, _ => none

/-- Puts a task that has asked the model where it belongs: in front of the queue if it gets its
answer at once, behind the others that wait for a permit if not. -/
def place (st : Setting) (s : Schedule) (a : Actor) : Schedule :=
  if (s.pending? a).isNone then s
  else if !st.hold then { s with queue := a :: s.queue }
  else if 0 < s.permits then { s with permits := s.permits - 1, queue := a :: s.queue }
  else { s with held := s.held ++ [a] }

/-- Wakes the flushes that wait for a worker if the worker has ended since the world was as
`before`. -/
def wake (before : World) (s : Schedule) : Actor → Schedule
  | .worker id =>
    if before.lives id && !s.world.lives id then
      { s with queue := s.queue ++ (before.joining id).map Actor.flush }
    else s
  | _ => s

/-- The next move of a task, and what follows from it for the order. -/
def turn (st : Setting) (s : Schedule) (a : Actor) : Schedule × List Event :=
  match s.move? st a with
  | none => (s, [])
  | some m =>
    let count := if (s.pending? a).isSome then s.answered + 1 else s.answered
    let (world, events) := s.world.step st.fails m
    (({ s with world := world, answered := count }.place st a).wake s.world a, events)

/-! ## Settling -/

/-- How much there is to do before no task is ready. -/
def load (s : Schedule) : Nat :=
  s.queue.length + s.world.load

theorem load_place (st : Setting) (s : Schedule) (a : Actor) :
    (s.place st a).load ≤ s.load + if (s.pending? a).isSome then 1 else 0 := by
  simp only [place]
  repeat' split
  all_goals simp_all [load]
  all_goals omega

theorem world_place (st : Setting) (s : Schedule) (a : Actor) :
    (s.place st a).world = s.world := by
  simp only [place]
  repeat' split
  all_goals rfl

theorem load_wake (before : World) (s : Schedule) (id : Nat) :
    (s.wake before (.worker id)).load ≤
      s.load + if s.world.lives id then 0 else (before.joining id).length := by
  simp only [wake]
  by_cases h : s.world.lives id = true
  · simp [h]
  · split
    · simp [load]
      omega
    · omega

theorem lives_of_pending? {s : Schedule} {id : Nat} (h : (s.pending? (.worker id)).isSome = true) :
    s.world.lives id = true := by
  simp only [pending?] at h
  split at h
  · rename_i hl
    simp [World.lives, hl]
  · cases h

/-- A worker that had its turn makes ready at most itself, or else those that waited for its end. -/
theorem load_afterWorker (st : Setting) (s : Schedule) (id count : Nat) {w : World}
    (h : w.load + (if w.lives id then 0 else (s.world.joining id).length) < s.world.load) :
    (({ s with world := w, answered := count }.place st (.worker id)).wake s.world
      (.worker id)).load ≤ s.load := by
  have hplace := load_place st { s with world := w, answered := count } (.worker id)
  have hwake := load_wake s.world
    ({ s with world := w, answered := count }.place st (.worker id)) id
  simp only [world_place] at hwake
  by_cases hl : w.lives id = true
  · simp only [hl, if_true] at h hwake
    have : (if ({ s with world := w, answered := count }.pending? (.worker id)).isSome then 1
      else 0) ≤ 1 := by split <;> omega
    simp only [load] at *
    omega
  · have hp : ({ s with world := w, answered := count }.pending? (.worker id)).isSome = false := by
      rw [Bool.eq_false_iff]
      exact fun hp => hl (lives_of_pending? hp)
    simp only [hl, hp] at h hwake hplace
    simp only [load] at *
    simp at *
    omega

/-- A flush that had its turn makes ready at most itself. -/
theorem load_afterFlush (st : Setting) (s : Schedule) (id count : Nat) {w : World}
    (h : w.load < s.world.load) :
    (({ s with world := w, answered := count }.place st (.flush id)).wake s.world
      (.flush id)).load ≤ s.load := by
  have hplace := load_place st { s with world := w, answered := count } (.flush id)
  have : (if ({ s with world := w, answered := count }.pending? (.flush id)).isSome then 1
    else 0) ≤ 1 := by split <;> omega
  simp only [load, wake] at *
  omega

/-- A turn leaves no more to do than there was without the task that had it. -/
theorem load_turn (st : Setting) (s : Schedule) (a : Actor) : (s.turn st a).1.load ≤ s.load := by
  cases a with
  | feeder => simp [turn, move?]
  | worker id =>
    cases hl : s.world.workers.lookup id with
    | none => simp [turn, move?, pending?, hl, World.step, place, wake, World.lives, load]
    | some stage =>
      cases stage with
      | ready =>
        simp only [turn, move?, pending?, hl]
        exact load_afterWorker st s id _ (World.load_workerTurn st.fails hl)
      | waiting segment others =>
        simp only [turn, move?, pending?, hl]
        exact load_afterWorker st s id _ (World.load_workerAnswer st.fails _ hl)
  | flush id =>
    cases hp : s.pending? (.flush id) with
    | none =>
      simp only [turn, move?, hp]
      rcases World.load_flushTurn st.fails s.world id with h | h
      · simp only [h]
        have : ({ s with answered := s.answered } : Schedule).pending? (.flush id) = none := hp
        simp [place, this, wake]
      · exact load_afterFlush st s id _ h
    | some segment =>
      simp only [turn, move?, hp]
      simp only [pending?] at hp
      split at hp
      · rename_i hl
        exact load_afterFlush st s id _ (World.load_flushAnswer st.fails _ hl)
      · cases hp

/-- Turns until no task is ready. -/
def settle (st : Setting) (s : Schedule) : Schedule × List Event :=
  match h : s.queue with
  | [] => (s, [])
  | a :: queue =>
    have : ({ s with queue := queue }.turn st a).1.load < s.load := by
      have := load_turn st { s with queue := queue } a
      simp only [load, h, List.length_cons] at this ⊢
      omega
    let next := { s with queue := queue }.turn st a
    let later := next.1.settle st
    (later.1, next.2 ++ later.2)
termination_by s.load

/-- Gives out one permit, to the call that has waited for the longest time if there is one. -/
def permit (s : Schedule) : Schedule :=
  match s.held with
  | [] => { s with permits := s.permits + 1 }
  | a :: rest => { s with held := rest, queue := s.queue ++ [a] }

/-- Gives out permits one by one, and lets everything settle after each of them. -/
def release (st : Setting) (s : Schedule) : Nat → Schedule × List Event
  | 0 => (s, [])
  | n + 1 =>
    let (s, events) := s.permit.settle st
    let (s, later) := s.release st n
    (s, events ++ later)

/-- Feeds a piece of text. A worker that is started by it becomes ready. -/
def feed (st : Setting) (s : Schedule) (chunk : Text) (canWork : Bool) : Schedule × List Event :=
  let (world, events) := s.world.step st.fails (.feed chunk canWork)
  let started := world.workers.drop s.world.workers.length
  ({ s with world := world, queue := s.queue ++ started.map fun w => .worker w.1 }, events)

/-- Starts a flush and lets everything settle. -/
def flush (st : Setting) (s : Schedule) : Schedule × List Event :=
  let id := s.world.nextFlush
  let (world, _) := s.world.step st.fails .flush
  { s with world := world, queue := s.queue ++ [Actor.flush id] }.settle st

/-- Any move that concerns no task. -/
def move (st : Setting) (s : Schedule) (m : Move) : Schedule × List Event :=
  let (world, events) := s.world.step st.fails m
  ({ s with world := world }, events)

end Schedule

end CueStream
