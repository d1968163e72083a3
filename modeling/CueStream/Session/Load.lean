-- How much the tasks of a world still have to do. Each turn of a task takes
-- something off, so the tasks come to an end if nothing new is fed to the
-- session.
import CueStream.Session.World

namespace CueStream

/-! ## The load of a world -/

/-- What is left to do for a worker at this stage. -/
def WorkerStage.load : WorkerStage → Nat
  | ready => 1
  | waiting _ others => others.length + 2

/-- What is left to do for a flush at this stage. Once the worker that it waits for has ended,
there is less to do. -/
def FlushStage.load (lives : Nat → Bool) : FlushStage → Nat
  | ready => 4
  | joining worker => if lives worker then 3 else 2
  | waiting _ _ => 1

/-- The sum of the loads of all entries. -/
def totalLoad {α : Type} (load : α → Nat) : List (Nat × α) → Nat
  | [] => 0
  | e :: rest => load e.2 + totalLoad load rest

/-- What is left to do in a session itself: text to cut into segments, and a worker that a flush
will wait for. -/
def Session.load (s : Session) : Nat :=
  2 * s.buffer.text.length + if s.awaited.isSome then 2 else 0

namespace World

/-- What is left to do in a world. -/
def load (w : World) : Nat :=
  w.session.load + totalLoad WorkerStage.load w.workers +
    totalLoad (FlushStage.load w.lives) w.flushes

/-- The flushes that wait for a worker. -/
def joining (w : World) (worker : Nat) : List Nat :=
  w.flushes.filterMap fun f => if f.2 = .joining worker then some f.1 else none

end World

/-! ## Entries -/

/-- An entry that was found may be replaced by one with less to do. -/
theorem totalLoad_put {α : Type} (load : α → Nat) {id : Nat} {old : α} {entries : List (Nat × α)}
    (h : entries.lookup id = some old) (v : Option α) :
    totalLoad load (put id v entries) + load old =
      totalLoad load entries + (v.map load).getD 0 := by
  induction entries with
  | nil => cases h
  | cons e rest ih =>
    obtain ⟨k, x⟩ := e
    by_cases hk : k = id
    · subst hk
      simp only [List.lookup_cons, beq_self_eq_true, Option.some.injEq] at h
      subst h
      cases v <;> simp [put, totalLoad] <;> omega
    · have hne : (id == k) = false := by simp [Ne.symm hk]
      simp only [List.lookup_cons, hne] at h
      have := ih h
      simp only [put, hk, if_false, totalLoad]
      omega

theorem lookup_put_of_ne {α : Type} {id other : Nat} (h : other ≠ id) (v : Option α)
    (entries : List (Nat × α)) : (put id v entries).lookup other = entries.lookup other := by
  induction entries with
  | nil => rfl
  | cons e rest ih =>
    obtain ⟨k, x⟩ := e
    by_cases hk : k = id
    · subst hk
      have hne : (other == k) = false := by simp [h]
      cases v <;> simp [put, List.lookup_cons, hne]
    · simp only [put, hk, if_false, List.lookup_cons, ih]

/-- The loads of flushes when a worker ends: each flush that waits for it has less to do. -/
theorem totalLoad_lives (before after : Nat → Bool) (worker : Nat)
    (hother : ∀ k, k ≠ worker → after k = before k) (hbefore : before worker = true)
    (flushes : List (Nat × FlushStage)) :
    totalLoad (FlushStage.load after) flushes +
        (if after worker then 0
          else (flushes.filterMap fun f =>
            if f.2 = .joining worker then some f.1 else none).length) =
      totalLoad (FlushStage.load before) flushes := by
  induction flushes with
  | nil => simp [totalLoad]
  | cons f rest ih =>
    obtain ⟨id, stage⟩ := f
    cases stage with
    | ready =>
      simp [totalLoad, FlushStage.load]
      omega
    | waiting segment response =>
      simp [totalLoad, FlushStage.load]
      omega
    | joining k =>
      by_cases hk : k = worker
      · subst hk
        simp only [totalLoad, FlushStage.load, List.filterMap_cons, hbefore, if_true]
        by_cases ha : after k = true
        · simp [ha] at ih ⊢; omega
        · simp [ha] at ih ⊢; omega
      · simp only [totalLoad, FlushStage.load, List.filterMap_cons, hother k hk]
        simp [hk]
        omega

namespace Session

/-! ## One turn of a worker -/

theorem awaited_noteAll (s : Session) (segments : List Segment) :
    (s.noteAll segments).1.awaited = s.awaited := by
  induction segments generalizing s with
  | nil => rfl
  | cons segment rest ih =>
    simp only [noteAll, ih, note]
    split <;> rfl

theorem awaited_draw (s : Session) : s.draw.1.awaited = s.awaited := by
  simp only [draw, awaited_noteAll]

/-- A worker that goes on with a batch has no more to do than the text and the batch ask for. -/
theorem load_work (id : Nat) (s : Session) (batch : List Segment) :
    (s.work id batch).session.load + ((s.work id batch).stage.map WorkerStage.load).getD 0 ≤
      s.load + if batch = [] then 0 else batch.length + 1 := by
  fun_induction work id s batch with
  | case1 s segment others call hc => simp [WorkerStage.load]
  | case2 s segment others hc ha ih =>
    simp only [Turn.after]
    refine Nat.le_trans ih ?_
    split <;> simp
  | case3 => simp
  | case4 => simp
  | case5 s ha hb hlt ih =>
    refine Nat.le_trans ih ?_
    simp only [load, awaited_draw]
    by_cases hd : s.draw.2 = [] <;> simp [hd] <;> omega
  | case6 s ha hb =>
    simp only [release]
    split <;> simp [load]

theorem load_pass (s : Session) (ts : List Trigger) : (s.pass ts).1.load = s.load := by
  induction ts generalizing s with
  | nil => rfl
  | cons t rest ih =>
    simp only [pass, ih, passOne]
    split <;> rfl

theorem load_emit (fails : Trigger → Bool) (actor : Actor) (s : Session) (ts : List Trigger) :
    (s.emit fails actor ts).1.load = s.load :=
  load_pass s ts

/-- A worker that takes up an answer has less to do than before. -/
theorem load_resumeWork (fails : Trigger → Bool) (id : Nat) (s : Session) (i : Intent)
    (others : List Segment) :
    (s.resumeWork fails id i others).session.load +
        ((s.resumeWork fails id i others).stage.map WorkerStage.load).getD 0 ≤
      s.load + (others.length + 1) := by
  have hw := load_work id (s.emit fails (.worker id) i.triggers).1 others
  have he := load_emit fails (.worker id) s i.triggers
  have hr (s : Session) : (s.release id).load ≤ s.load := by
    simp only [release]
    split <;> simp [load]
  simp only [resumeWork]
  split
  · simp
  · split
    · simp only [Turn.after]
      split at hw <;> omega
    · have := hr (s.emit fails (.worker id) i.triggers).1
      simp
      omega

/-! ## One turn of a flush -/

theorem load_note (s : Session) (segment : Segment) : (s.note segment).1.load = s.load := by
  simp only [note]
  split <;> rfl

theorem load_drain (s : Session) : s.drain.1.load ≤ s.load := by
  have he : { s with buffer := s.buffer.flush.2, cursor := 0 }.load ≤ s.load := by
    simp [load, Buffer.flush, Buffer.clear, Buffer.replace]
  simp only [drain]
  split
  · exact he
  · rw [load_note]
    exact he

theorem load_finish (lives : Nat → Bool) (id : Nat) (s : Session) :
    (s.finish id).session.load + ((s.finish id).stage.map (FlushStage.load lives)).getD 0 ≤
      s.load + 1 := by
  have := load_drain s
  simp only [finish]
  repeat' split
  all_goals simp [FlushStage.load]; omega

/-- A flush that begins or goes on has at most one thing left to do for itself, or waits for the
worker that nobody else will wait for. -/
theorem load_startFlush (lives : Nat → Bool) (id : Nat) (s : Session) :
    (s.startFlush lives id).session.load +
        ((s.startFlush lives id).stage.map (FlushStage.load lives)).getD 0 ≤ s.load + 1 := by
  simp only [startFlush]
  split
  · exact load_finish lives id s
  · rename_i worker ha
    have hs : s.load = { s with awaited := none }.load + 2 := by simp [load, ha]
    split
    · rename_i hl
      simp only [Option.map_some, Option.getD_some, FlushStage.load, hl, if_true]
      omega
    · have := load_finish lives id { s with awaited := none }
      omega

theorem load_resumeFlush (fails : Trigger → Bool) (lives : Nat → Bool) (id : Nat) (s : Session)
    (i : Intent) (response : Nat) :
    (s.resumeFlush fails id i response).session.load +
      ((s.resumeFlush fails id i response).stage.map (FlushStage.load lives)).getD 0 ≤ s.load := by
  simp only [resumeFlush]
  split
  · simp
  · simp [load_emit]

end Session

namespace World

/-! ## One turn in a world -/

/-- The turn of a worker takes something off, and if the worker ends by it, something for each
flush that waited for it. -/
theorem load_afterWorker {w : World} {id : Nat} {old : WorkerStage}
    (h : w.workers.lookup id = some old) {t : Session.Turn WorkerStage}
    (ht : t.session.load + (t.stage.map WorkerStage.load).getD 0 < w.session.load + old.load) :
    (w.afterWorker id t).1.load +
      (if (w.afterWorker id t).1.lives id then 0 else (w.joining id).length) < w.load := by
  have hput := totalLoad_put WorkerStage.load h t.stage
  have hlives := totalLoad_lives w.lives (w.afterWorker id t).1.lives id
    (fun k hk => by simp only [lives, afterWorker, lookup_put_of_ne hk]) (by simp [lives, h]) w.flushes
  simp only [load, joining, afterWorker] at hlives ⊢
  omega

/-- So does the turn of a flush. -/
theorem load_afterFlush {w : World} {id : Nat} {old : FlushStage}
    (h : w.flushes.lookup id = some old) {t : Session.Turn FlushStage}
    (ht : t.session.load + (t.stage.map (FlushStage.load w.lives)).getD 0 <
      w.session.load + old.load w.lives) :
    (w.afterFlush id t).1.load < w.load := by
  have hput := totalLoad_put (FlushStage.load w.lives) h t.stage
  have hlives : (w.afterFlush id t).1.lives = w.lives := rfl
  simp only [load, hlives]
  simp only [afterFlush]
  omega

theorem load_workerTurn (fails : Trigger → Bool) {w : World} {id : Nat}
    (h : w.workers.lookup id = some .ready) :
    let after := (w.step fails (.workerTurn id)).1
    after.load + (if after.lives id then 0 else (w.joining id).length) < w.load := by
  have := Session.load_work id w.session []
  simp only [step, h]
  refine load_afterWorker h ?_
  simp only [if_true, WorkerStage.load] at this ⊢
  omega

theorem load_workerAnswer (fails : Trigger → Bool) {w : World} {id : Nat} (a : Answer)
    {segment : Segment} {others : List Segment}
    (h : w.workers.lookup id = some (.waiting segment others)) :
    let after := (w.step fails (.workerAnswer id a)).1
    after.load + (if after.lives id then 0 else (w.joining id).length) < w.load := by
  have := Session.load_resumeWork fails id w.session (Classifier.settled a) others
  simp only [step, h]
  refine load_afterWorker h ?_
  simp only [Session.Turn.after, WorkerStage.load] at this ⊢
  omega

theorem load_flushTurn (fails : Trigger → Bool) (w : World) (id : Nat) :
    w.step fails (.flushTurn id) = (w, []) ∨ (w.step fails (.flushTurn id)).1.load < w.load := by
  have := Session.load_startFlush w.lives id w.session
  simp only [step]
  split
  · rename_i h
    refine .inr (load_afterFlush h ?_)
    simp only [FlushStage.load]
    omega
  · rename_i worker h
    split
    · exact .inl rfl
    · rename_i hl
      refine .inr (load_afterFlush h ?_)
      simp only [FlushStage.load, hl]
      simp
      omega
  · exact .inl rfl

theorem load_flushAnswer (fails : Trigger → Bool) {w : World} {id : Nat} (a : Answer)
    {segment : Segment} {response : Nat}
    (h : w.flushes.lookup id = some (.waiting segment response)) :
    (w.step fails (.flushAnswer id a)).1.load < w.load := by
  have := Session.load_resumeFlush fails w.lives id w.session (Classifier.settled a) response
  simp only [step, h]
  refine load_afterFlush h ?_
  simp only [Session.Turn.after, FlushStage.load]
  omega

end World

end CueStream
