-- The tasks of a world come to an end. As long as there is a task, one of them
-- has something to do, and has less left when it has done it.
import CueStream.Proofs.Session.Task

namespace CueStream.World

variable (fails : Trigger → Bool)

theorem exists_worker_move {w : World} {id : Nat} {stage : WorkerStage}
    (h : w.workers.lookup id = some stage) :
    ∃ m : Move, m.task?.isSome = true ∧ (w.step fails m).1.load < w.load := by
  cases stage with
  | ready =>
    refine ⟨.workerTurn id, rfl, ?_⟩
    have := load_workerTurn fails h
    simp only at this
    omega
  | waiting segment others =>
    refine ⟨.workerAnswer id .crash, rfl, ?_⟩
    have := load_workerAnswer fails .crash h
    simp only at this
    omega

theorem exists_flush_move {w : World} (hworkers : w.workers = []) {id : Nat} {stage : FlushStage}
    (h : w.flushes.lookup id = some stage) :
    ∃ m : Move, m.task?.isSome = true ∧ (w.step fails m).1.load < w.load := by
  have hturn := Session.load_startFlush w.lives id w.session
  cases stage with
  | ready =>
    refine ⟨.flushTurn id, rfl, ?_⟩
    simp only [step, h]
    apply load_afterFlush h
    simp only [FlushStage.load]
    omega
  | joining worker =>
    -- no worker is left that the flush could wait for
    have hdead : w.lives worker = false := by
      unfold lives
      rw [hworkers]
      rfl
    refine ⟨.flushTurn id, rfl, ?_⟩
    simp only [step, h, hdead]
    apply load_afterFlush h
    simp only [FlushStage.load, hdead]
    simp only [Bool.false_eq_true, if_false]
    omega
  | waiting segment response =>
    exact ⟨.flushAnswer id .crash, rfl, load_flushAnswer fails .crash h⟩

/-- As long as there is a task, one of them can go on, and has less to do afterwards. -/
theorem exists_task_move {w : World} (h : w.workers ≠ [] ∨ w.flushes ≠ []) :
    ∃ m : Move, m.task?.isSome = true ∧ (w.step fails m).1.load < w.load := by
  cases hworkers : w.workers with
  | cons e rest =>
    have hl : w.workers.lookup e.1 = some e.2 := by
      rw [hworkers]
      exact List.lookup_cons_self
    exact exists_worker_move fails hl
  | nil =>
    cases hflushes : w.flushes with
    | nil => simp [hworkers, hflushes] at h
    | cons e rest =>
      have hl : w.flushes.lookup e.1 = some e.2 := by
        rw [hflushes]
        exact List.lookup_cons_self
      exact exists_flush_move fails hworkers hl

/-- From every world on, the tasks can all be brought to an end. -/
theorem exists_end (w : World) :
    ∃ ms : List Move, (∀ m ∈ ms, m.task?.isSome = true) ∧
      (w.run fails ms).1.workers = [] ∧ (w.run fails ms).1.flushes = [] := by
  by_cases h : w.workers ≠ [] ∨ w.flushes ≠ []
  · obtain ⟨m, hm, hlt⟩ := exists_task_move fails h
    obtain ⟨rest, hrest, hend⟩ := exists_end (w.step fails m).1
    refine ⟨m :: rest, ?_, hend⟩
    intro m' hm'
    rcases List.mem_cons.mp hm' with rfl | hm'
    · exact hm
    · exact hrest m' hm'
  · simp only [not_or, not_not] at h
    exact ⟨[], by simp, h⟩
termination_by w.load

end CueStream.World
