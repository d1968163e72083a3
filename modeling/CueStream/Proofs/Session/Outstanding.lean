-- The calls of the model that wait for their answers: which tasks made them,
-- and that they are what was asked and not answered.
import CueStream.Proofs.Session.Task

namespace CueStream

/-! ## Calls without an answer -/

/-- The model has been asked and has not answered. -/
def WorkerStage.isWaiting : WorkerStage → Bool
  | ready => false
  | waiting _ _ => true

/-- The model has been asked and has not answered. -/
def FlushStage.isWaiting : FlushStage → Bool
  | waiting _ _ => true
  | _ => false

/-- The actor is a worker. -/
def Actor.isWorker : Actor → Bool
  | worker _ => true
  | _ => false

namespace World

/-- The tasks whose calls have no answer yet. -/
def outstanding (w : World) : List Actor :=
  (w.workers.filter (·.2.isWaiting)).map (Actor.worker ·.1) ++
    (w.flushes.filter (·.2.isWaiting)).map (Actor.flush ·.1)

theorem outstanding_eq (w : World) :
    w.outstanding = tasks (·.2.isWaiting) (·.2.isWaiting) w.workers w.flushes := rfl

theorem worker_mem_outstanding {w : World} {id : Nat} :
    .worker id ∈ w.outstanding ↔ ∃ segment others, (id, .waiting segment others) ∈ w.workers := by
  rw [outstanding_eq, worker_mem_tasks]
  constructor
  · rintro ⟨stage, hm, hwaits⟩
    cases stage with
    | ready => cases hwaits
    | waiting segment others => exact ⟨segment, others, hm⟩
  · rintro ⟨segment, others, hm⟩
    exact ⟨_, hm, rfl⟩

theorem flush_mem_outstanding {w : World} {id : Nat} :
    .flush id ∈ w.outstanding ↔
      ∃ segment response, (id, .waiting segment response) ∈ w.flushes := by
  rw [outstanding_eq, flush_mem_tasks]
  constructor
  · rintro ⟨stage, hm, hwaits⟩
    cases stage with
    | ready => cases hwaits
    | joining worker => cases hwaits
    | waiting segment response => exact ⟨segment, response, hm⟩
  · rintro ⟨segment, response, hm⟩
    exact ⟨_, hm, rfl⟩

theorem not_feeder_mem_outstanding (w : World) : .feeder ∉ w.outstanding :=
  feeder_not_mem_tasks

/-- No task has two calls. -/
theorem Sound.outstanding_nodup {w : World} (h : Sound w) : w.outstanding.Nodup :=
  nodup_tasks h.workers_nodup h.flushes_nodup

end World

/-! ## Asked and answered -/

/-- The number of calls of a worker that have no answer. -/
def WorkerStage.calls (stage : WorkerStage) : Nat :=
  stage.isWaiting.toNat

/-- The number of calls of a flush that have no answer. -/
def FlushStage.calls (stage : FlushStage) : Nat :=
  stage.isWaiting.toNat

theorem totalLoad_append {α : Type} (load : α → Nat) (a b : List (Nat × α)) :
    totalLoad load (a ++ b) = totalLoad load a + totalLoad load b := by
  induction a with
  | nil => simp [totalLoad]
  | cons e rest ih =>
    simp only [List.cons_append, totalLoad, ih]
    omega

theorem totalLoad_toNat {α : Type} (p : α → Bool) (entries : List (Nat × α)) :
    totalLoad (fun x => (p x).toNat) entries = (entries.filter (p ·.2)).length := by
  induction entries with
  | nil => rfl
  | cons e rest ih =>
    cases h : p e.2 with
    | false => simp [totalLoad, h, ih]
    | true =>
      simp [totalLoad, h, ih]
      omega

namespace Session

/-- A worker that asks waits for an answer, and one that waits has asked. -/
theorem calls_work (id : Nat) (s : Session) (batch : List Segment) :
    (callsOf (s.work id batch).events).length =
        ((s.work id batch).stage.map WorkerStage.calls).getD 0 ∧
      answersOf (s.work id batch).events = [] := by
  fun_induction work id s batch with
  | case1 => exact ⟨rfl, rfl⟩
  | case2 s segment others hc ha ih =>
    unfold Turn.after
    rw [callsOf_append, answersOf_append]
    exact ih
  | case3 => exact ⟨rfl, rfl⟩
  | case4 => exact ⟨rfl, rfl⟩
  | case5 s ha hb hlt ih => exact ih
  | case6 => exact ⟨rfl, rfl⟩

theorem calls_resumeWork (fails : Trigger → Bool) (id : Nat) (s : Session) (i : Intent)
    (others : List Segment) :
    (callsOf (s.resumeWork fails id i others).events).length =
        ((s.resumeWork fails id i others).stage.map WorkerStage.calls).getD 0 ∧
      answersOf (s.resumeWork fails id i others).events = [] := by
  by_cases h : s.active = some id
  · rw [resumeWork_of_active h]
    split
    · unfold Turn.after
      rw [callsOf_append, answersOf_append, callsOf_emit, answersOf_emit]
      exact calls_work id (s.pass i.triggers).1 others
    · rw [callsOf_append, answersOf_append, callsOf_emit, answersOf_emit]
      exact ⟨rfl, rfl⟩
  · rw [resumeWork_of_revoked h]
    exact ⟨rfl, rfl⟩

theorem calls_finish (id : Nat) (s : Session) :
    (callsOf (s.finish id).events).length = ((s.finish id).stage.map FlushStage.calls).getD 0 ∧
      answersOf (s.finish id).events = [] := by
  simp only [finish]
  split
  · exact ⟨rfl, rfl⟩
  · split
    · exact ⟨rfl, rfl⟩
    · exact ⟨rfl, rfl⟩

theorem calls_startFlush (lives : Nat → Bool) (id : Nat) (s : Session) :
    (callsOf (s.startFlush lives id).events).length =
        ((s.startFlush lives id).stage.map FlushStage.calls).getD 0 ∧
      answersOf (s.startFlush lives id).events = [] := by
  rcases startFlush_cases lives id s with ⟨worker, -, -, hstart⟩ | ⟨-, hstart⟩
  · rw [hstart]
    exact ⟨rfl, rfl⟩
  · rw [hstart]
    exact calls_finish id { s with awaited := none }

theorem answersOf_resumeFlush (fails : Trigger → Bool) (s : Session) (id : Nat) (i : Intent)
    (response : Nat) : answersOf (s.resumeFlush fails id i response).events = [] := by
  by_cases h : s.response = response
  · subst h
    rw [resumeFlush_of_current, answersOf_append, answersOf_emit]
    rfl
  · rw [resumeFlush_of_over h]
    rfl

end Session

namespace World

theorem length_outstanding (w : World) :
    w.outstanding.length =
      totalLoad WorkerStage.calls w.workers + totalLoad FlushStage.calls w.flushes := by
  have hworkers := totalLoad_toNat WorkerStage.isWaiting w.workers
  have hflushes := totalLoad_toNat FlushStage.isWaiting w.flushes
  unfold outstanding WorkerStage.calls FlushStage.calls
  rw [List.length_append, List.length_map, List.length_map, hworkers, hflushes]

/-- In every move, what was outstanding and is asked is answered or outstanding afterwards. -/
theorem outstanding_step (fails : Trigger → Bool) (w : World) (m : Move) :
    (callsOf (w.step fails m).2).length + w.outstanding.length =
      (answersOf (w.step fails m).2).length + (w.step fails m).1.outstanding.length := by
  have hs := step_spec fails w m
  generalize w.step fails m = r at hs ⊢
  rw [length_outstanding, length_outstanding]
  cases hs with
  | feed chunk canWork =>
    have hready : totalLoad WorkerStage.calls ((w.session.feed chunk canWork).worker.map
        fun id => (id, WorkerStage.ready)).toList = 0 := by
      cases (w.session.feed chunk canWork).worker <;> rfl
    rw [callsOf_feed, answersOf_feed]
    unfold World.feed
    simp only [totalLoad_append, hready]
    rfl
  | flush =>
    simp only [totalLoad_append]
    rfl
  | @workerTurn id hl =>
    obtain ⟨hcalls, hanswers⟩ := Session.calls_work id w.session []
    have hput := totalLoad_put WorkerStage.calls hl (w.session.work id []).stage
    have hold : WorkerStage.calls .ready = 0 := rfl
    simp only [afterWorker, hcalls, hanswers, List.length_nil]
    omega
  | @workerAnswer id segment others a hl =>
    obtain ⟨hcalls, hanswers⟩ :=
      Session.calls_resumeWork fails id w.session (Classifier.settled a) others
    have hput := totalLoad_put WorkerStage.calls hl
      (w.session.resumeWork fails id (Classifier.settled a) others).stage
    have hold : (WorkerStage.waiting segment others).calls = 1 := rfl
    have hone : (answersOf [Event.answered (.worker id) a]).length = 1 := rfl
    have hnone : (callsOf [Event.answered (.worker id) a]).length = 0 := rfl
    simp only [afterWorker, Session.Turn.after, callsOf_append, answersOf_append,
      List.length_append, hcalls, hanswers, hone, hnone, List.length_nil]
    omega
  | @flushTurn id stage hl hstage =>
    obtain ⟨hcalls, hanswers⟩ := Session.calls_startFlush w.lives id w.session
    have hput := totalLoad_put FlushStage.calls hl (w.session.startFlush w.lives id).stage
    have hold : stage.calls = 0 := by
      rcases hstage with rfl | ⟨worker, rfl, -⟩ <;> rfl
    simp only [afterFlush, hcalls, hanswers, List.length_nil]
    omega
  | @flushAnswer id segment response a hl =>
    have hstage := (Session.resumeFlush_eq fails w.session id (Classifier.settled a) response).1
    have hcalls :=
      (Session.segmentsOf_resumeFlush fails w.session id (Classifier.settled a) response).2
    have hanswers :=
      Session.answersOf_resumeFlush fails w.session id (Classifier.settled a) response
    have hput := totalLoad_put FlushStage.calls hl none
    have hold : (FlushStage.waiting segment response).calls = 1 := rfl
    have hone : (answersOf [Event.answered (.flush id) a]).length = 1 := rfl
    have hnone : (callsOf [Event.answered (.flush id) a]).length = 0 := rfl
    simp only [Option.map_none, Option.getD_none] at hput
    simp only [afterFlush, Session.Turn.after, callsOf_append, answersOf_append,
      List.length_append, hstage, hcalls, hanswers, hone, hnone, List.length_nil]
    omega
  | _ => rfl

/-- What was asked in a run was answered or is outstanding at its end. -/
theorem outstanding_run (fails : Trigger → Bool) (w : World) (ms : List Move) :
    (callsOf (w.run fails ms).2).length + w.outstanding.length =
      (answersOf (w.run fails ms).2).length + (w.run fails ms).1.outstanding.length := by
  induction ms generalizing w with
  | nil => rfl
  | cons m rest ih =>
    have hstep := outstanding_step fails w m
    have hrest := ih (w.step fails m).1
    simp only [World.run, callsOf_append, answersOf_append, List.length_append]
    omega

end World

end CueStream
