-- The tasks of a world in every run. What a move can come to is said once;
-- the invariant `Sound` ties the tasks to the session, and every run keeps it.
import CueStream.Proofs.Session.Turn
import CueStream.Session.Load
import Mathlib.Data.List.Nodup

namespace CueStream

/-! ## Entries -/

section Entries

variable {α : Type} {id : Nat} {v : Option α} {entries : List (Nat × α)}

theorem mem_of_lookup {x : α} (h : entries.lookup id = some x) : (id, x) ∈ entries := by
  induction entries with
  | nil => cases h
  | cons e rest ih =>
    obtain ⟨k, y⟩ := e
    rw [List.lookup_cons] at h
    split at h
    · rename_i hk
      cases h
      rw [beq_iff_eq.mp hk]
      exact List.mem_cons_self
    · exact List.mem_cons_of_mem _ (ih h)

theorem lookup_of_mem {x : α} (hn : (entries.map Prod.fst).Nodup) (h : (id, x) ∈ entries) :
    entries.lookup id = some x := by
  induction entries with
  | nil => cases h
  | cons e rest ih =>
    obtain ⟨k, y⟩ := e
    rw [List.map_cons, List.nodup_cons] at hn
    rw [List.lookup_cons]
    rcases List.mem_cons.mp h with h | h
    · cases h
      simp
    · have hne : id ≠ k := by
        intro hk
        exact hn.1 (List.mem_map.mpr ⟨(id, x), h, hk⟩)
      rw [show (id == k) = false by simpa using hne]
      exact ih hn.2 h

theorem lookup_eq_none_of_not_mem (h : id ∉ entries.map Prod.fst) : entries.lookup id = none := by
  cases hl : entries.lookup id with
  | none => rfl
  | some x => exact absurd (List.mem_map_of_mem (mem_of_lookup hl)) h

theorem mem_put {e : Nat × α} (h : e ∈ put id v entries) :
    e ∈ entries ∨ ∃ x, v = some x ∧ e = (id, x) := by
  induction entries with
  | nil => cases h
  | cons d rest ih =>
    rw [put] at h
    split at h
    · rcases List.mem_append.mp h with h | h
      · cases v with
        | none => cases h
        | some x => exact .inr ⟨x, rfl, List.mem_singleton.mp h⟩
      · exact .inl (List.mem_cons_of_mem d h)
    · rcases List.mem_cons.mp h with rfl | h
      · exact .inl List.mem_cons_self
      · exact (ih h).imp_left (List.mem_cons_of_mem d)

/-- What is true of all entries stays so if it is true of the one that is put in. -/
theorem forall_mem_put {P : Nat × α → Prop} (h : ∀ e ∈ entries, P e)
    (hv : ∀ x, v = some x → P (id, x)) : ∀ e ∈ put id v entries, P e := by
  intro e he
  rcases mem_put he with he | ⟨x, hx, rfl⟩
  · exact h e he
  · exact hv x hx

/-- An entry under another number stays. -/
theorem mem_put_of_ne {e : Nat × α} (h : e ∈ entries) (hne : e.1 ≠ id) : e ∈ put id v entries := by
  induction entries with
  | nil => cases h
  | cons d rest ih =>
    rw [put]
    rcases List.mem_cons.mp h with rfl | h
    · rw [if_neg hne]
      exact List.mem_cons_self
    · split
      · exact List.mem_append_right _ h
      · exact List.mem_cons_of_mem d (ih h)

theorem keys_put (id : Nat) (v : Option α) (entries : List (Nat × α)) :
    ((put id v entries).map Prod.fst).Sublist (entries.map Prod.fst) := by
  induction entries with
  | nil => exact .slnil
  | cons d rest ih =>
    rw [put]
    split
    · rename_i hd
      cases v with
      | none => exact .cons _ (.refl _)
      | some x =>
        rw [← hd]
        exact .refl _
    · exact .cons_cons _ ih

/-- The number that an entry is put under is gone, or stands for the new entry. -/
theorem lookup_put_self (hn : (entries.map Prod.fst).Nodup) (h : (entries.lookup id).isSome) :
    (put id v entries).lookup id = v := by
  induction entries with
  | nil => cases h
  | cons d rest ih =>
    obtain ⟨k, y⟩ := d
    rw [List.map_cons, List.nodup_cons] at hn
    rw [put]
    split
    · rename_i hd
      cases v with
      | none => exact lookup_eq_none_of_not_mem (hd ▸ hn.1)
      | some x => simp
    · rename_i hd
      have hne : (id == k) = false := by simpa using Ne.symm hd
      rw [List.lookup_cons, hne] at h
      rw [List.lookup_cons, hne]
      exact ih hn.2 h

/-- Under the number that an entry is put under stands nothing else. -/
theorem mem_put_cases (hn : (entries.map Prod.fst).Nodup) (hsome : (entries.lookup id).isSome)
    {e : Nat × α} (h : e ∈ put id v entries) :
    (e ∈ entries ∧ e.1 ≠ id) ∨ ∃ x, v = some x ∧ e = (id, x) := by
  obtain ⟨k, x⟩ := e
  by_cases hk : k = id
  · subst hk
    have hl := lookup_of_mem (hn.sublist (keys_put k v entries)) h
    rw [lookup_put_self hn hsome] at hl
    exact .inr ⟨x, hl, rfl⟩
  · rcases mem_put h with hm | ⟨y, -, he⟩
    · exact .inl ⟨hm, hk⟩
    · cases he
      exact absurd rfl hk

/-- A number beyond all that were given out stands for nothing yet. -/
theorem not_mem_keys {n : Nat} (h : ∀ e ∈ entries, e.1 < n) : n ∉ entries.map Prod.fst := by
  intro hm
  obtain ⟨e, he, hk⟩ := List.mem_map.mp hm
  have := h e he
  omega

theorem keys_nodup_concat (hn : (entries.map Prod.fst).Nodup) (h : id ∉ entries.map Prod.fst)
    (x : α) : ((entries ++ [(id, x)]).map Prod.fst).Nodup := by
  rw [List.map_append, List.map_singleton, List.nodup_append]
  refine ⟨hn, List.nodup_singleton id, ?_⟩
  intro a ha b hb hab
  have hid : a = id := hab.trans (List.mem_singleton.mp hb)
  exact h (hid ▸ ha)

/-- Numbers below `n` were given out, and each stands for one entry at most. -/
structure Numbered (n : Nat) (entries : List (Nat × α)) : Prop where
  nodup : (entries.map Prod.fst).Nodup
  lt : ∀ e ∈ entries, e.1 < n

namespace Numbered

variable {n : Nat}

theorem nil : Numbered n ([] : List (Nat × α)) :=
  ⟨.nil, nofun⟩

theorem lookup_next (h : Numbered n entries) : entries.lookup n = none :=
  lookup_eq_none_of_not_mem (not_mem_keys h.lt)

theorem concat (h : Numbered n entries) (x : α) : Numbered (n + 1) (entries ++ [(n, x)]) := by
  refine ⟨keys_nodup_concat h.nodup (not_mem_keys h.lt) x, ?_⟩
  intro e he
  rcases List.mem_append.mp he with he | he
  · exact Nat.lt_succ_of_lt (h.lt e he)
  · rw [List.mem_singleton.mp he]
    exact Nat.lt_succ_self n

theorem put (h : Numbered n entries) {old : α} (hl : entries.lookup id = some old)
    (v : Option α) : Numbered n (put id v entries) := by
  refine ⟨h.nodup.sublist (keys_put id v entries), forall_mem_put h.lt ?_⟩
  intro x _
  exact h.lt (id, old) (mem_of_lookup hl)

end Numbered

/-- An entry that is put in place of another one stands there. -/
theorem lookup_put_some {old : α} (h : entries.lookup id = some old) (x : α) :
    (put id (some x) entries).lookup id = some x := by
  induction entries with
  | nil => cases h
  | cons e rest ih =>
    obtain ⟨k, y⟩ := e
    rw [put]
    split
    · simp
    · rename_i hk
      have hne : (id == k) = false := by simpa using Ne.symm hk
      rw [List.lookup_cons, hne] at h
      rw [List.lookup_cons, hne]
      exact ih h

/-- Of two entries that are put in one place the second one counts. -/
theorem put_put (id : Nat) (x : α) (v : Option α) (entries : List (Nat × α)) :
    put id v (put id (some x) entries) = put id v entries := by
  induction entries with
  | nil => rfl
  | cons e rest ih =>
    by_cases hk : e.1 = id
    · simp [put, hk]
    · simp only [put, hk, if_false, ih]

/-! Entries that are changed one by one. -/

variable {β : Type} (f : Nat → α → β)

theorem lookup_map (id : Nat) (entries : List (Nat × α)) :
    (entries.map fun e => (e.1, f e.1 e.2)).lookup id = (entries.lookup id).map (f id) := by
  induction entries with
  | nil => rfl
  | cons e rest ih =>
    obtain ⟨k, x⟩ := e
    rw [List.map_cons, List.lookup_cons, List.lookup_cons]
    by_cases hk : id = k
    · subst hk
      simp
    · rw [show (id == k) = false by simpa using hk]
      exact ih

theorem put_map (id : Nat) (v : Option α) (entries : List (Nat × α)) :
    put id (v.map (f id)) (entries.map fun e => (e.1, f e.1 e.2)) =
      (put id v entries).map fun e => (e.1, f e.1 e.2) := by
  induction entries with
  | nil => rfl
  | cons e rest ih =>
    rw [List.map_cons, put, put]
    split
    · cases v <;> rfl
    · rw [List.map_cons, ih]

end Entries

/-! ## Tasks of a kind -/

/-- The workers and the flushes that stand at places of a kind. -/
def tasks {α β : Type} (p : Nat × α → Bool) (q : Nat × β → Bool) (workers : List (Nat × α))
    (flushes : List (Nat × β)) : List Actor :=
  (workers.filter p).map (Actor.worker ·.1) ++ (flushes.filter q).map (Actor.flush ·.1)

section Tasks

variable {α β : Type} {p : Nat × α → Bool} {q : Nat × β → Bool} {workers : List (Nat × α)}
  {flushes : List (Nat × β)}

theorem worker_mem_tasks {id : Nat} :
    .worker id ∈ tasks p q workers flushes ↔ ∃ x, (id, x) ∈ workers ∧ p (id, x) = true := by
  simp [tasks]

theorem flush_mem_tasks {id : Nat} :
    .flush id ∈ tasks p q workers flushes ↔ ∃ x, (id, x) ∈ flushes ∧ q (id, x) = true := by
  simp [tasks]

theorem feeder_not_mem_tasks : .feeder ∉ tasks p q workers flushes := by
  simp [tasks]

/-- A number stands for one task, so no task is named twice. -/
theorem nodup_tasks (hworkers : (workers.map Prod.fst).Nodup)
    (hflushes : (flushes.map Prod.fst).Nodup) : (tasks p q workers flushes).Nodup := by
  have hleft : (workers.map (Actor.worker ·.1)).Nodup := by
    have := hworkers.map (f := Actor.worker) (fun _ _ he => by cases he; rfl)
    rwa [List.map_map] at this
  have hright : (flushes.map (Actor.flush ·.1)).Nodup := by
    have := hflushes.map (f := Actor.flush) (fun _ _ he => by cases he; rfl)
    rwa [List.map_map] at this
  unfold tasks
  rw [List.nodup_append]
  refine ⟨hleft.sublist (List.filter_sublist.map _), hright.sublist (List.filter_sublist.map _), ?_⟩
  intro a ha b hb
  obtain ⟨d, -, rfl⟩ := List.mem_map.mp ha
  obtain ⟨e, -, rfl⟩ := List.mem_map.mp hb
  intro he
  cases he

end Tasks

/-! ## One move -/

/-- The task whose turn a move is. -/
def Move.task? : Move → Option Actor
  | .workerTurn id => some (.worker id)
  | .workerAnswer id _ => some (.worker id)
  | .flushTurn id => some (.flush id)
  | .flushAnswer id _ => some (.flush id)
  | _ => none

/-- The move begins a new response. -/
def Move.isReset : Move → Bool
  | .reset => true
  | .fullReset => true
  | _ => false

/-- The text that a move feeds. -/
def Move.told : Move → Text
  | .feed chunk _ => chunk
  | _ => []

theorem told_of_task {m : Move} (h : m.task?.isSome = true) : m.told = [] := by
  cases m <;> first | rfl | cases h

/-- The text that moves feed, in order. -/
def told (ms : List Move) : Text :=
  ms.flatMap Move.told

theorem told_nil : told [] = [] := rfl

theorem told_cons (m : Move) (ms : List Move) : told (m :: ms) = m.told ++ told ms :=
  List.flatMap_cons

@[simp]
theorem told_append (a b : List Move) : told (a ++ b) = told a ++ told b :=
  List.flatMap_append

namespace World

/-- What a move can come to. A task that is not at the right place does not move. -/
inductive Step (fails : Trigger → Bool) (w : World) : Move → World × List Event → Prop
  | still (m : Move) (h : m.task?.isSome = true) : Step fails w m (w, [])
  | feed (chunk : Text) (canWork : Bool) :
      Step fails w (.feed chunk canWork) (w.feed fails chunk canWork)
  | flush :
      Step fails w .flush
        ({ w with flushes := w.flushes ++ [(w.nextFlush, .ready)], nextFlush := w.nextFlush + 1 },
          [])
  | workerTurn {id : Nat} (h : w.workers.lookup id = some .ready) :
      Step fails w (.workerTurn id) (w.afterWorker id (w.session.work id []))
  | workerAnswer {id : Nat} {segment : Segment} {others : List Segment} (a : Answer)
      (h : w.workers.lookup id = some (.waiting segment others)) :
      Step fails w (.workerAnswer id a)
        (w.afterWorker id
          ((w.session.resumeWork fails id (Classifier.settled a) others).after
            [.answered (.worker id) a]))
  | flushTurn {id : Nat} {stage : FlushStage} (h : w.flushes.lookup id = some stage)
      (hs : stage = .ready ∨ ∃ worker, stage = .joining worker ∧ w.lives worker = false) :
      Step fails w (.flushTurn id) (w.afterFlush id (w.session.startFlush w.lives id))
  | flushAnswer {id : Nat} {segment : Segment} {response : Nat} (a : Answer)
      (h : w.flushes.lookup id = some (.waiting segment response)) :
      Step fails w (.flushAnswer id a)
        (w.afterFlush id
          ((w.session.resumeFlush fails id (Classifier.settled a) response).after
            [.answered (.flush id) a]))
  | reset : Step fails w .reset ({ w with session := w.session.reset }, [])
  | fullReset : Step fails w .fullReset ({ w with session := w.session.fullReset }, [])
  | playback (c : Channel) (length : Millis) :
      Step fails w (.playback c length) ({ w with session := w.session.playback c length }, [])
  | setClock (time : Millis) :
      Step fails w (.setClock time) ({ w with session := { w.session with clock := time } }, [])

theorem step_spec (fails : Trigger → Bool) (w : World) (m : Move) :
    Step fails w m (w.step fails m) := by
  cases m with
  | feed chunk canWork => exact .feed chunk canWork
  | flush => exact .flush
  | workerTurn id =>
    simp only [step]
    split
    · rename_i h
      exact .workerTurn h
    · exact .still _ rfl
  | flushTurn id =>
    simp only [step]
    split
    · rename_i h
      exact .flushTurn h (.inl rfl)
    · rename_i worker h
      split
      · exact .still _ rfl
      · rename_i hl
        exact .flushTurn h (.inr ⟨worker, rfl, by simpa using hl⟩)
    · exact .still _ rfl
  | workerAnswer id a =>
    simp only [step]
    split
    · rename_i h
      exact .workerAnswer a h
    · exact .still _ rfl
  | flushAnswer id a =>
    simp only [step]
    split
    · rename_i h
      exact .flushAnswer a h
    · exact .still _ rfl
  | reset => exact .reset
  | fullReset => exact .fullReset
  | playback c length => exact .playback c length
  | setClock time => exact .setClock time

/-- Feeding does nothing, or leaves the tasks as they are, or starts a worker where there was
none. -/
theorem feed_cases (fails : Trigger → Bool) (w : World) (chunk : Text) (canWork : Bool) :
    (chunk = [] ∧ (w.feed fails chunk canWork).1 = w) ∨
      ((w.feed fails chunk canWork).1 = { w with session := w.session.heard chunk } ∧
        (canWork = true → w.session.active = none →
          (w.session.buffer.append chunk).hasBoundary = false)) ∨
      ((w.feed fails chunk canWork).1 =
          { w with
            session := (w.session.heard chunk).hired
            workers := w.workers ++ [(w.session.nextWorker, .ready)] } ∧
        w.session.active = none) := by
  unfold World.feed
  by_cases hc : chunk = []
  · subst hc
    refine .inl ⟨rfl, ?_⟩
    simp [Session.feed_nil]
  · rcases Session.feed_cases w.session hc canWork with ⟨hs, hw, hnone⟩ | ⟨hs, hw, hidle⟩
    · refine .inr (.inl ⟨?_, hnone⟩)
      simp [hs, hw]
    · refine .inr (.inr ⟨?_, hidle⟩)
      simp [hs, hw]

/-! ## Runs -/

theorem run_append (fails : Trigger → Bool) (w : World) (ms more : List Move) :
    w.run fails (ms ++ more) =
      (((w.run fails ms).1.run fails more).1,
        (w.run fails ms).2 ++ ((w.run fails ms).1.run fails more).2) := by
  induction ms generalizing w with
  | nil => rfl
  | cons m rest ih => simp [run, ih]

theorem run_snoc (fails : Trigger → Bool) (w : World) (ms : List Move) (m : Move) :
    w.run fails (ms ++ [m]) =
      (((w.run fails ms).1.step fails m).1,
        (w.run fails ms).2 ++ ((w.run fails ms).1.step fails m).2) := by
  rw [run_append]
  simp [run]

/-- What each move keeps, a run keeps. -/
theorem run_keeps {fails : Trigger → Bool} {P : World → Prop}
    (hstep : ∀ w m, P w → P (w.step fails m).1) {w : World} (h : P w) (ms : List Move) :
    P (w.run fails ms).1 := by
  induction ms generalizing w with
  | nil => exact h
  | cons m rest ih => exact ih (hstep w m h)

/-! ## Numbers only grow -/

end World

/-- No number is given out twice, no response comes back, and a worker that becomes active is a new
one. What is configured stays. -/
structure Session.Grows (s t : Session) : Prop where
  config : t.config = s.config
  next : s.nextWorker ≤ t.nextWorker
  response : s.response ≤ t.response
  active : ∀ id, t.active = some id → s.active = some id ∨ s.nextWorker ≤ id

theorem Session.SameFrame.grows {s t : Session} (h : SameFrame s t)
    (hactive : ∀ id, t.active = some id → s.active = some id) : s.Grows t :=
  ⟨h.config, Nat.le_of_eq h.nextWorker.symm, Nat.le_of_eq h.response.symm,
    fun id ha => .inl (hactive id ha)⟩

theorem Session.Worked.grows {id : Nat} {s : Session} {t : Turn WorkerStage} (h : Worked id s t)
    (hf : SameFrame s t.session) : s.Grows t.session := by
  apply hf.grows
  intro k hk
  cases h with
  | revoked _ hsession _ => rwa [hsession] at hk
  | asks ha hactive _ _ => rwa [ha, ← hactive]
  | ends _ hactive _ _ =>
    rw [hactive] at hk
    cases hk

theorem Session.Flushed.grows {s : Session} {t : Turn FlushStage} (h : Flushed s t) :
    s.Grows t.session :=
  h.frame.grows fun _ hk => h.active ▸ hk

theorem Session.grows_feed (s : Session) (chunk : Text) (canWork : Bool) :
    s.Grows (s.feed chunk canWork).session := by
  by_cases hc : chunk = []
  · subst hc
    exact SameFrame.rfl.grows fun _ ha => ha
  · have hheard := heard_eq s chunk
    rcases feed_cases s hc canWork with ⟨hs, -, -⟩ | ⟨hs, -, -⟩
    · rw [hs, hheard]
      exact ⟨rfl, Nat.le_refl _, Nat.le_refl _, fun _ ha => .inl ha⟩
    · rw [hs, hheard]
      refine ⟨rfl, Nat.le_succ _, Nat.le_refl _, fun id ha => .inr ?_⟩
      cases ha
      exact Nat.le_refl _

namespace World

theorem grows_step (fails : Trigger → Bool) (w : World) (m : Move) :
    w.session.Grows (w.step fails m).1.session := by
  have hs := step_spec fails w m
  generalize w.step fails m = r at hs ⊢
  cases hs with
  | still => exact Session.SameFrame.rfl.grows fun _ ha => ha
  | feed chunk canWork => exact Session.grows_feed _ chunk canWork
  | flush => exact Session.SameFrame.rfl.grows fun _ ha => ha
  | workerTurn hl => exact (Session.worked_work _ _).grows (Session.sameFrame_work _ _ _)
  | @workerAnswer id segment others a hl =>
    exact (Session.worked_resumeWork fails id _ (Classifier.settled a) others
      [.answered (.worker id) a]).grows (Session.sameFrame_resumeWork _ _ _ _ _)
  | flushTurn hl hstage => exact (Session.flushed_startFlush _ _ _).grows
  | flushAnswer a hl => exact (Session.flushed_resumeFlush _ _ _ _ _ []).grows
  | reset => exact ⟨rfl, Nat.le_refl _, Nat.le_succ _, fun _ ha => by cases ha⟩
  | fullReset => exact ⟨rfl, Nat.le_refl _, Nat.le_succ _, fun _ ha => by cases ha⟩
  | playback => exact ⟨rfl, Nat.le_refl _, Nat.le_refl _, fun _ ha => .inl ha⟩
  | setClock => exact ⟨rfl, Nat.le_refl _, Nat.le_refl _, fun _ ha => .inl ha⟩

/-- What is configured stays through a run. -/
theorem config_run (fails : Trigger → Bool) (w : World) (ms : List Move) :
    (w.run fails ms).1.session.config = w.session.config :=
  run_keeps (fun v m (h : v.session.config = w.session.config) =>
    (grows_step fails v m).config.trans h) rfl ms

/-! ## What is asked -/

/-- In every move, the model is asked about the segments that are handed over, in their order. -/
theorem callsOf_step (fails : Trigger → Bool) (w : World) (m : Move) :
    callsOf (w.step fails m).2 = questions w.session.config (segmentsOf (w.step fails m).2) := by
  have hs := step_spec fails w m
  generalize w.step fails m = r at hs ⊢
  cases hs with
  | feed chunk canWork =>
    rw [segmentsOf_feed, callsOf_feed]
    rfl
  | workerTurn hl => exact Session.callsOf_work _ _ _
  | workerAnswer a hl => exact Session.callsOf_resumeWork _ _ _ _ _
  | flushTurn hl hstage => exact Session.callsOf_startFlush _ _ _
  | @flushAnswer id segment response a hl =>
    obtain ⟨hsegments, hcalls⟩ :=
      Session.segmentsOf_resumeFlush fails w.session id (Classifier.settled a) response
    simp only [afterFlush, Session.Turn.after, callsOf_append, segmentsOf_append, hsegments, hcalls]
    rfl
  | _ => rfl

theorem callsOf_run (fails : Trigger → Bool) (w : World) (ms : List Move) :
    callsOf (w.run fails ms).2 = questions w.session.config (segmentsOf (w.run fails ms).2) := by
  induction ms generalizing w with
  | nil => rfl
  | cons m rest ih =>
    simp only [World.run, callsOf_append, segmentsOf_append, questions_append]
    rw [callsOf_step, ih, (grows_step fails w m).config]

/-! ## The tasks of every run -/

/-- Numbers stand for one task each and are never given out again; the worker whose place is taken
has not ended; the next flush waits for nobody else; and no flush is ahead of its response. -/
structure Sound (w : World) : Prop where
  workers_nodup : (w.workers.map Prod.fst).Nodup
  workers_lt : ∀ e ∈ w.workers, e.1 < w.session.nextWorker
  flushes_nodup : (w.flushes.map Prod.fst).Nodup
  flushes_lt : ∀ e ∈ w.flushes, e.1 < w.nextFlush
  active_lives : ∀ id, w.session.active = some id → w.lives id = true
  awaited_active : ∀ id, w.session.awaited = some id → w.session.active = some id
  response_le : ∀ id segment response, (id, .waiting segment response) ∈ w.flushes →
    response ≤ w.session.response

theorem sound_new (config : CueConfig) (clock : Millis) : Sound (new config clock) := by
  refine ⟨.nil, ?_, .nil, ?_, ?_, ?_, ?_⟩ <;> intros <;> contradiction

/-- A change of the session that moves nobody keeps the tasks sound. -/
theorem Sound.withSession {w : World} (h : Sound w) {s : Session}
    (hs : w.session.SamePlaces s) : Sound { w with session := s } := by
  obtain ⟨h1, h2, h3, h4, h5, h6, h7⟩ := h
  refine ⟨h1, ?_, h3, h4, ?_, ?_, ?_⟩
  · exact hs.nextWorker ▸ h2
  · exact hs.active ▸ h5
  · exact hs.active ▸ hs.awaited ▸ h6
  · exact hs.response ▸ h7

theorem Sound.reset {w : World} (h : Sound w) : Sound { w with session := w.session.reset } := by
  refine ⟨h.workers_nodup, h.workers_lt, h.flushes_nodup, h.flushes_lt, ?_, ?_, ?_⟩
  · intro id ha
    cases ha
  · intro id ha
    cases ha
  · intro id segment response hm
    exact Nat.le_succ_of_le (h.response_le id segment response hm)

theorem Sound.hired {w : World} (h : Sound w) {s : Session} (hs : w.session.SamePlaces s) :
    Sound { w with
      session := s.hired, workers := w.workers ++ [(w.session.nextWorker, .ready)] } := by
  have hfresh : w.session.nextWorker ∉ w.workers.map Prod.fst := not_mem_keys h.workers_lt
  refine ⟨keys_nodup_concat h.workers_nodup hfresh _, ?_, h.flushes_nodup, h.flushes_lt, ?_, ?_,
    ?_⟩
  · intro e he
    show e.1 < s.nextWorker + 1
    rw [hs.nextWorker]
    rcases List.mem_append.mp he with he | he
    · exact Nat.lt_succ_of_lt (h.workers_lt e he)
    · rw [List.mem_singleton.mp he]
      exact Nat.lt_succ_self _
  · intro id ha
    cases ha
    unfold lives
    rw [hs.nextWorker, List.lookup_append, lookup_eq_none_of_not_mem hfresh]
    simp
  · intro id ha
    exact ha
  · intro id segment response hm
    exact hs.response ▸ h.response_le id segment response hm

theorem Sound.feed {w : World} (h : Sound w) (fails : Trigger → Bool) (chunk : Text)
    (canWork : Bool) : Sound (w.feed fails chunk canWork).1 := by
  have hplaces := Session.samePlaces_heard w.session chunk
  rcases feed_cases fails w chunk canWork with ⟨-, hfed⟩ | ⟨hfed, -⟩ | ⟨hfed, -⟩
  · rw [hfed]
    exact h
  · rw [hfed]
    exact h.withSession hplaces
  · rw [hfed]
    exact h.hired hplaces

theorem Sound.afterWorker {w : World} (h : Sound w) {id : Nat} {stage : WorkerStage}
    (hl : w.workers.lookup id = some stage) {t : Session.Turn WorkerStage}
    (hw : Session.Worked id w.session t) (hf : Session.SameFrame w.session t.session) :
    Sound (w.afterWorker id t).1 := by
  refine ⟨h.workers_nodup.sublist (keys_put id t.stage w.workers), ?_, h.flushes_nodup,
    h.flushes_lt, ?_, ?_, ?_⟩
  · unfold World.afterWorker
    simp only [hf.nextWorker]
    exact forall_mem_put h.workers_lt fun x _ => h.workers_lt (id, stage) (mem_of_lookup hl)
  · intro k hk
    have hput := lookup_put_self (v := t.stage) h.workers_nodup (Option.isSome_of_eq_some hl)
    show ((put id t.stage w.workers).lookup k).isSome = true
    change t.session.active = some k at hk
    cases hw with
    | revoked hr hsession hstage =>
      rw [hsession] at hk
      have hne : k ≠ id := fun e => hr (e ▸ hk)
      rw [lookup_put_of_ne hne]
      exact h.active_lives k hk
    | asks ha hactive hawaited hstage =>
      rw [hactive] at hk
      cases hk
      rw [hput, hstage]
      rfl
    | ends ha hactive hawaited hstage =>
      rw [hactive] at hk
      cases hk
  · intro k hk
    change t.session.awaited = some k at hk
    show t.session.active = some k
    cases hw with
    | revoked hr hsession hstage =>
      rw [hsession] at hk ⊢
      exact h.awaited_active k hk
    | asks ha hactive hawaited hstage =>
      rw [hawaited] at hk
      rw [hactive, ← ha]
      exact h.awaited_active k hk
    | ends ha hactive hawaited hstage =>
      rw [hawaited] at hk
      cases hk
  · intro k segment response hm
    show response ≤ t.session.response
    rw [hf.response]
    exact h.response_le k segment response hm

theorem Sound.afterFlush {w : World} (h : Sound w) {id : Nat} {stage : FlushStage}
    (hl : w.flushes.lookup id = some stage) {t : Session.Turn FlushStage}
    (ht : w.session.Flushed t) : Sound (w.afterFlush id t).1 := by
  refine ⟨h.workers_nodup, ?_, h.flushes_nodup.sublist (keys_put id t.stage w.flushes), ?_, ?_,
    ?_, ?_⟩
  · intro e he
    show e.1 < t.session.nextWorker
    rw [ht.frame.nextWorker]
    exact h.workers_lt e he
  · exact forall_mem_put h.flushes_lt fun x _ => h.flushes_lt (id, stage) (mem_of_lookup hl)
  · intro k hk
    exact h.active_lives k (ht.active ▸ hk)
  · intro k hk
    change t.session.awaited = some k at hk
    show t.session.active = some k
    rw [ht.active]
    rcases ht.awaited with hw | hw
    · rw [hw] at hk
      cases hk
    · exact h.awaited_active k (hw ▸ hk)
  · intro k segment response hm
    show response ≤ t.session.response
    rw [ht.frame.response]
    rcases mem_put hm with hm | ⟨x, hx, he⟩
    · exact h.response_le k segment response hm
    · cases he
      exact Nat.le_of_eq (ht.stage segment response hx)

theorem Sound.step {w : World} (h : Sound w) (fails : Trigger → Bool) (m : Move) :
    Sound (w.step fails m).1 := by
  have hs := step_spec fails w m
  generalize w.step fails m = r at hs ⊢
  cases hs with
  | still => exact h
  | feed chunk canWork => exact h.feed fails chunk canWork
  | flush =>
    refine ⟨h.workers_nodup, h.workers_lt,
      keys_nodup_concat h.flushes_nodup (not_mem_keys h.flushes_lt) _, ?_, h.active_lives,
      h.awaited_active, ?_⟩
    · intro e he
      rcases List.mem_append.mp he with he | he
      · exact Nat.lt_succ_of_lt (h.flushes_lt e he)
      · rw [List.mem_singleton.mp he]
        exact Nat.lt_succ_self _
    · intro k segment response hm
      rcases List.mem_append.mp hm with hm | hm
      · exact h.response_le k segment response hm
      · cases List.mem_singleton.mp hm
  | workerTurn hl =>
    exact h.afterWorker hl (Session.worked_work _ _) (Session.sameFrame_work _ _ _)
  | workerAnswer a hl =>
    exact h.afterWorker hl (Session.worked_resumeWork _ _ _ _ _ _)
      (Session.sameFrame_resumeWork _ _ _ _ _)
  | flushTurn hl hstage => exact h.afterFlush hl (Session.flushed_startFlush _ _ _)
  | flushAnswer a hl => exact h.afterFlush hl (Session.flushed_resumeFlush _ _ _ _ _ _)
  | reset => exact h.reset
  | fullReset => exact h.reset.withSession ⟨rfl, rfl, rfl, rfl⟩
  | playback c length => exact h.withSession ⟨rfl, rfl, rfl, rfl⟩
  | setClock time => exact h.withSession ⟨rfl, rfl, rfl, rfl⟩

/-- The tasks are sound in every run. -/
theorem sound_run (fails : Trigger → Bool) (config : CueConfig) (clock : Millis)
    (ms : List Move) : Sound ((new config clock).run fails ms).1 :=
  run_keeps (fun _ m h => h.step fails m) (sound_new config clock) ms

end World

end CueStream
