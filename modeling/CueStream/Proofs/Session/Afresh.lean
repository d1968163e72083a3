-- After a full reset a session goes on like a new one. The numbers of workers,
-- flushes and responses go on from where they were, and workers of the past may
-- still be there, but nobody gets to see them.
import CueStream.Proofs.Session.Ahead
import CueStream.Proofs.Session.Pacing
import CueStream.Proofs.Session.Play

namespace CueStream

/-! ## Entries with later numbers -/

section Later

variable {α β : Type} {n id : Nat} (f : α → β) {past : List (Nat × β)}

/-- The same entries, changed and under later numbers. -/
def later (n : Nat) (f : α → β) (entries : List (Nat × α)) : List (Nat × β) :=
  entries.map fun e => (e.1 + n, f e.2)

theorem lookup_later (n id : Nat) (entries : List (Nat × α)) :
    (later n f entries).lookup (id + n) = (entries.lookup id).map f := by
  induction entries with
  | nil => rfl
  | cons e rest ih =>
    obtain ⟨j, x⟩ := e
    unfold later at ih ⊢
    rw [List.map_cons, List.lookup_cons, List.lookup_cons]
    by_cases hj : id = j
    · subst hj
      simp
    · have hne : (id + n == j + n) = false := by simpa using hj
      rw [hne, show (id == j) = false by simpa using hj]
      exact ih

theorem put_later (n id : Nat) (v : Option α) (entries : List (Nat × α)) :
    put (id + n) (v.map f) (later n f entries) = later n f (put id v entries) := by
  induction entries with
  | nil => rfl
  | cons e rest ih =>
    unfold later at ih ⊢
    rw [List.map_cons, put, put]
    by_cases hj : e.1 = id
    · rw [if_pos hj, if_pos (congrArg (· + n) hj)]
      cases v <;> rfl
    · rw [if_neg hj, if_neg (fun h => hj (Nat.add_right_cancel h)), List.map_cons, ih]

/-- Among entries under earlier numbers a later one is not found. -/
theorem lookup_past_append (hpast : ∀ e ∈ past, e.1 < n) (entries : List (Nat × β)) :
    (past ++ entries).lookup (id + n) = entries.lookup (id + n) := by
  have hnone : past.lookup (id + n) = none := by
    refine lookup_eq_none_of_not_mem ?_
    intro hm
    obtain ⟨e, he, hid⟩ := List.mem_map.mp hm
    have := hpast e he
    omega
  rw [List.lookup_append, hnone, Option.none_or]

theorem put_past_append (hpast : ∀ e ∈ past, e.1 < n) (v : Option β) (entries : List (Nat × β)) :
    put (id + n) v (past ++ entries) = past ++ put (id + n) v entries := by
  induction past with
  | nil => rfl
  | cons e rest ih =>
    obtain ⟨he, hrest⟩ := List.forall_mem_cons.mp hpast
    rw [List.cons_append, put, if_neg (by omega), ih hrest]
    rfl

theorem lookup_later_of_lt (h : id < n) (entries : List (Nat × α)) :
    (later n f entries).lookup id = none := by
  refine lookup_eq_none_of_not_mem ?_
  intro hm
  obtain ⟨e, he, hid⟩ := List.mem_map.mp hm
  obtain ⟨d, -, rfl⟩ := List.mem_map.mp he
  have : d.1 + n = id := hid
  omega

theorem put_append_of_lookup {old : β} (h : past.lookup id = some old) (v : Option β)
    (entries : List (Nat × β)) : put id v (past ++ entries) = put id v past ++ entries := by
  induction past with
  | nil => cases h
  | cons e rest ih =>
    obtain ⟨j, x⟩ := e
    rw [List.cons_append, put, put]
    by_cases hj : j = id
    · rw [if_pos hj, if_pos hj, List.append_assoc]
    · have hne : (id == j) = false := by simpa using Ne.symm hj
      rw [List.lookup_cons, hne] at h
      rw [if_neg hj, if_neg hj, ih h, List.cons_append]

end Later

/-! ## Moves since the reset -/

/-- The same move, of a task with a later number. -/
def Move.ahead (k : Ahead) : Move → Move
  | .workerTurn id => .workerTurn (id + k.workers)
  | .workerAnswer id a => .workerAnswer (id + k.workers) a
  | .flushTurn id => .flushTurn (id + k.flushes)
  | .flushAnswer id a => .flushAnswer (id + k.flushes) a
  | m => m

/-- The move with numbers that are counted from the reset on. The moves of the tasks of the past are
missing. -/
def Move.since? (k : Ahead) : Move → Option Move
  | .workerTurn id => if id < k.workers then none else some (.workerTurn (id - k.workers))
  | .workerAnswer id a => if id < k.workers then none else some (.workerAnswer (id - k.workers) a)
  | .flushTurn id => if id < k.flushes then none else some (.flushTurn (id - k.flushes))
  | .flushAnswer id a => if id < k.flushes then none else some (.flushAnswer (id - k.flushes) a)
  | m => some m

/-- The same with the receiver of the time. -/
def Beat.since? (k : Ahead) (b : Beat Move) : Option (Beat Move) :=
  (b.act.since? k).map fun m => ⟨m, b.fails⟩

theorem Move.eq_ahead_of_since? {k : Ahead} {m m' : Move} (h : m.since? k = some m') :
    m = m'.ahead k := by
  cases m with
  | workerTurn id | workerAnswer id a | flushTurn id | flushAnswer id a =>
    simp only [since?, Option.ite_none_left_eq_some, Option.some.injEq] at h
    obtain ⟨hge, rfl⟩ := h
    simp only [ahead, Nat.sub_add_cancel (Nat.le_of_not_lt hge)]
  | _ =>
    cases h
    rfl

/-- The moves that are missing are those of tasks of the past. -/
theorem Move.past_of_since? {k : Ahead} {m : Move} (h : m.since? k = none) :
    (∃ id, id < k.workers ∧ m.task? = some (.worker id)) ∨
      ∃ id, id < k.flushes ∧ m.task? = some (.flush id) := by
  cases m with
  | workerTurn id | workerAnswer id a =>
    simp only [since?, ite_eq_left_iff, reduceCtorEq, imp_false, Decidable.not_not] at h
    exact .inl ⟨id, h, rfl⟩
  | flushTurn id | flushAnswer id a =>
    simp only [since?, ite_eq_left_iff, reduceCtorEq, imp_false, Decidable.not_not] at h
    exact .inr ⟨id, h, rfl⟩
  | _ => cases h

/-! ## Two worlds -/

namespace World

/-- The world `v` stands where `u` stands, with later numbers, and beside workers of the past. -/
structure Follows (k : Ahead) (u v : World) : Prop where
  session : v.session = u.session.ahead k
  workers : ∃ past, v.workers = past ++ later k.workers (fun stage => stage) u.workers ∧
    ∀ e ∈ past, e.1 < k.workers
  flushes : v.flushes = later k.flushes (FlushStage.ahead k) u.flushes
  nextFlush : v.nextFlush = u.nextFlush + k.flushes

namespace Follows

variable {k : Ahead} {u v : World}

theorem lookup_workers (h : Follows k u v) (id : Nat) :
    v.workers.lookup (id + k.workers) = u.workers.lookup id := by
  obtain ⟨past, hworkers, hpast⟩ := h.workers
  rw [hworkers, lookup_past_append hpast, lookup_later, Option.map_id']

theorem lookup_flushes (h : Follows k u v) (id : Nat) :
    v.flushes.lookup (id + k.flushes) = (u.flushes.lookup id).map (FlushStage.ahead k) := by
  rw [h.flushes, lookup_later]

theorem lives (h : Follows k u v) (id : Nat) : v.lives (id + k.workers) = u.lives id := by
  unfold World.lives
  rw [h.lookup_workers]

/-- A change of the sessions alone. -/
theorem withSession (h : Follows k u v) {s t : Session} (hst : t = s.ahead k) :
    Follows k { u with session := s } { v with session := t } :=
  ⟨hst, h.workers, h.flushes, h.nextFlush⟩

theorem afterWorker (h : Follows k u v) (id : Nat) {t t' : Session.Turn WorkerStage}
    (ht : t' = t.recast k (Session.ahead k) fun stage => stage) :
    Follows k (u.afterWorker id t).1 (v.afterWorker (id + k.workers) t').1 ∧
      (v.afterWorker (id + k.workers) t').2 = (u.afterWorker id t).2.map (Event.ahead k) := by
  subst ht
  obtain ⟨past, hworkers, hpast⟩ := h.workers
  refine ⟨⟨rfl, ⟨past, ?_, hpast⟩, h.flushes, h.nextFlush⟩, rfl⟩
  unfold World.afterWorker
  rw [hworkers, put_past_append hpast]
  exact congrArg (past ++ ·) (put_later _ _ _ _ _)

theorem afterFlush (h : Follows k u v) (id : Nat) {t t' : Session.Turn FlushStage}
    (ht : t' = t.recast k (Session.ahead k) (FlushStage.ahead k)) :
    Follows k (u.afterFlush id t).1 (v.afterFlush (id + k.flushes) t').1 ∧
      (v.afterFlush (id + k.flushes) t').2 = (u.afterFlush id t).2.map (Event.ahead k) := by
  subst ht
  refine ⟨⟨rfl, h.workers, ?_, h.nextFlush⟩, rfl⟩
  unfold World.afterFlush
  rw [h.flushes]
  exact put_later _ _ _ _ _

theorem feed (h : Follows k u v) (fails : Trigger → Bool) (chunk : Text) (canWork : Bool) :
    Follows k (u.feed fails chunk canWork).1 (v.feed fails chunk canWork).1 ∧
      (v.feed fails chunk canWork).2 = (u.feed fails chunk canWork).2.map (Event.ahead k) := by
  have hfeed : v.session.feed chunk canWork = _ := h.session ▸ u.session.feed_ahead k chunk canWork
  obtain ⟨past, hworkers, hpast⟩ := h.workers
  unfold World.feed
  rw [hfeed]
  refine ⟨⟨rfl, ⟨past, ?_, hpast⟩, h.flushes, h.nextFlush⟩, ?_⟩
  · dsimp only
    unfold later
    rw [hworkers, List.map_append, ← List.append_assoc]
    cases (u.session.feed chunk canWork).worker <;> rfl
  · have hclock : v.session.clock = u.session.clock := by rw [h.session]; rfl
    have hdeliver := deliver_ahead k fails .feeder (u.session.feed chunk canWork).admitted
    rw [hclock, List.map_append, map_admitted_ahead]
    exact congrArg (_ ++ ·) (congrArg Prod.fst hdeliver)

/-- One move. -/
theorem step (h : Follows k u v) (fails : Trigger → Bool) (m : Move) :
    Follows k (u.step fails m).1 (v.step fails (m.ahead k)).1 ∧
      (v.step fails (m.ahead k)).2 = (u.step fails m).2.map (Event.ahead k) := by
  cases m with
  | feed chunk canWork => exact h.feed fails chunk canWork
  | flush =>
    refine ⟨⟨h.session, h.workers, ?_, ?_⟩, rfl⟩
    · simp only [Move.ahead, World.step, h.flushes, h.nextFlush, later, List.map_append]
      rfl
    · simp only [Move.ahead, World.step, h.nextFlush, Nat.add_right_comm]
  | workerTurn id =>
    simp only [Move.ahead, World.step, h.lookup_workers]
    split
    · refine h.afterWorker id ?_
      rw [h.session]
      exact (Session.recast_ahead k).work (fun _ => rfl) id []
    · exact ⟨h, rfl⟩
  | flushTurn id =>
    have hstart : v.session.startFlush v.lives (id + k.flushes) =
        (u.session.startFlush u.lives id).recast k (Session.ahead k) (FlushStage.ahead k) := by
      rw [h.session]
      exact (Session.recast_ahead k).startFlush (fun _ => rfl) h.lives id
    simp only [Move.ahead, World.step, h.lookup_flushes]
    cases u.flushes.lookup id with
    | none => exact ⟨h, rfl⟩
    | some stage =>
      cases stage with
      | ready => exact h.afterFlush id hstart
      | joining worker =>
        simp only [Option.map_some, FlushStage.ahead, h.lives]
        split
        · exact ⟨h, rfl⟩
        · exact h.afterFlush id hstart
      | waiting segment response => exact ⟨h, rfl⟩
  | workerAnswer id a =>
    simp only [Move.ahead, World.step, h.lookup_workers]
    split
    · rename_i segment others hl
      refine h.afterWorker id ?_
      rw [h.session, Session.resumeWork_ahead]
      exact (Session.Turn.recast_after k _ _ [.answered (.worker id) a] _).symm
    · exact ⟨h, rfl⟩
  | flushAnswer id a =>
    simp only [Move.ahead, World.step, h.lookup_flushes]
    cases u.flushes.lookup id with
    | none => exact ⟨h, rfl⟩
    | some stage =>
      cases stage with
      | ready | joining worker => exact ⟨h, rfl⟩
      | waiting segment response =>
        refine h.afterFlush id ?_
        rw [h.session, Session.resumeFlush_ahead]
        exact (Session.Turn.recast_after k _ _ [.answered (.flush id) a] _).symm
  | reset =>
    refine ⟨h.withSession ?_, rfl⟩
    rw [h.session, Session.reset_ahead]
  | fullReset =>
    refine ⟨h.withSession ?_, rfl⟩
    unfold Session.fullReset
    rw [h.session, Session.reset_ahead]
    rfl
  | playback c length =>
    refine ⟨h.withSession ?_, rfl⟩
    rw [h.session]
    rfl
  | setClock time =>
    refine ⟨h.withSession ?_, rfl⟩
    rw [h.session]
    rfl

/-- A worker of the past ends. -/
theorem drop (h : Follows k u v) {id : Nat} (hid : id < k.workers) {stage : WorkerStage}
    (hl : v.workers.lookup id = some stage) :
    Follows k u { v with workers := put id none v.workers } := by
  obtain ⟨past, hworkers, hpast⟩ := h.workers
  rw [hworkers, List.lookup_append, lookup_later_of_lt _ hid, Option.or_none] at hl
  refine ⟨h.session, ⟨put id none past, ?_, ?_⟩, h.flushes, h.nextFlush⟩
  · rw [hworkers, put_append_of_lookup hl]
  · intro e he
    rcases mem_put he with he | ⟨x, hx, -⟩
    · exact hpast e he
    · cases hx

/-- One move of a task of the past. Nobody gets to see it. -/
theorem step_past (h : Follows k u v) (fails : Trigger → Bool) {m : Move}
    (hm : m.since? k = none) :
    Follows k u (v.step fails m).1 ∧ (v.step fails m).1.session = v.session ∧
      ∀ e ∈ (v.step fails m).2, e.isQuiet = true := by
  have hspec := step_spec fails v m
  generalize v.step fails m = after at hspec ⊢
  rcases Move.past_of_since? hm with ⟨id, hid, htask⟩ | ⟨id, hid, htask⟩
  · have hrevoked : v.session.active ≠ some id := by
      rw [h.session]
      intro ha
      obtain ⟨j, -, hj⟩ := Option.map_eq_some_iff.mp ha
      omega
    cases hspec with
    | still => exact ⟨h, rfl, nofun⟩
    | workerTurn hl =>
      cases htask
      rw [Session.work_of_revoked hrevoked]
      exact ⟨h.drop hid hl, rfl, List.forall_mem_singleton.mpr rfl⟩
    | workerAnswer a hl =>
      cases htask
      rw [Session.resumeWork_of_revoked hrevoked]
      exact ⟨h.drop hid hl, rfl, List.forall_mem_cons.mpr ⟨rfl, List.forall_mem_singleton.mpr rfl⟩⟩
    | _ => cases htask
  · have hnone : v.flushes.lookup id = none := by
      rw [h.flushes]
      exact lookup_later_of_lt _ hid u.flushes
    cases hspec with
    | still => exact ⟨h, rfl, nofun⟩
    | flushTurn hl | flushAnswer a hl =>
      cases htask
      cases hnone.symm.trans hl
    | _ => cases htask

/-- Any play. -/
theorem play (h : Follows k u v) (beats : List (Beat Move)) :
    Follows k (u.play (beats.filterMap (Beat.since? k))).1 (v.play beats).1 := by
  induction beats generalizing u v with
  | nil => exact h
  | cons b rest ih =>
    cases hb : b.act.since? k with
    | none =>
      have hnone : b.since? k = none := congrArg (Option.map _) hb
      rw [List.filterMap_cons_none hnone]
      exact ih (h.step_past b.fails hb).1
    | some m =>
      have hsome : b.since? k = some ⟨m, b.fails⟩ := congrArg (Option.map _) hb
      have hstep := (h.step b.fails m).1
      rw [← Move.eq_ahead_of_since? hb] at hstep
      rw [List.filterMap_cons_some hsome]
      exact ih hstep

end Follows

/-! ## Like a new world -/

/-- The numbers that were given out so far, and the response that is under way. -/
def given (w : World) : Ahead :=
  ⟨w.session.nextWorker, w.nextFlush, w.session.response + 1⟩

end World

/-- The session is set up as configured. -/
structure Session.Configured (config : CueConfig) (s : Session) : Prop where
  settings : s.config = config
  minChars : s.buffer.minChars = config.minSegmentChars
  keyChars : s.buffer.keyChars = config.keyChars
  window : ∀ c, (s.gates.get c).window = config.cooldown c

namespace World

end World

/-- After a full reset the session is a new one, but for the numbers. -/
theorem Session.Configured.fullReset {config : CueConfig} {s : Session} (h : s.Configured config)
    {k : Ahead} (hworkers : k.workers = s.nextWorker) (hresponses : k.responses = s.response + 1) :
    s.fullReset = (new config s.clock).ahead k := by
  have hbuffer : s.buffer.clear =
      { minChars := config.minSegmentChars, keyChars := config.keyChars } := by
    rw [← h.minChars, ← h.keyChars]
    rfl
  have hgates : s.gates.reset =
      ⟨{ window := config.cooldown .gesture }, { window := config.cooldown .expression }⟩ := by
    rw [← h.window, ← h.window]
    rfl
  unfold Session.fullReset Session.reset ahead new
  simp only [hbuffer, hgates, h.settings, hworkers, hresponses, Nat.zero_add, Option.map_none]

namespace World

end World

end CueStream
