-- Whom a flush waits for. A worker is waited for by one flush only: the first
-- one that has its turn takes it over, and the next one drains the buffer
-- although the worker is still active. A flush that is alone finds no worker
-- and no call when it drains the buffer.
import CueStream.Proofs.Session.Stale
import CueStream.Proofs.Session.Streaming

namespace CueStream

namespace Session

/-! ## Only flushes drain the buffer -/

theorem not_drained_emit (fails : Trigger → Bool) (a : Actor) (s : Session) (ts : List Trigger)
    (id : Nat) : .drained id ∉ (s.emit fails a ts).2.1 := by
  intro h
  have hmem : id ∈ (s.emit fails a ts).2.1.filterMap Event.drained? :=
    List.mem_filterMap.mpr ⟨_, h, rfl⟩
  rw [filterMap_emit (fun _ => ⟨rfl, rfl⟩) (fun _ _ => rfl)] at hmem
  cases hmem

theorem not_drained_work (worker : Nat) (s : Session) (batch : List Segment) (id : Nat) :
    .drained id ∉ (s.work worker batch).events := by
  intro h
  exact work_events (P := fun e => e ≠ .drained id) nofun nofun nofun s batch _ h rfl

theorem not_drained_resumeWork (fails : Trigger → Bool) (worker : Nat) (s : Session) (i : Intent)
    (others : List Segment) (id : Nat) :
    .drained id ∉ (s.resumeWork fails worker i others).events := by
  have hemit := not_drained_emit fails (.worker worker) s i.triggers id
  by_cases h : s.active = some worker
  · rw [resumeWork_of_active h]
    split
    · have hwork := not_drained_work worker (s.pass i.triggers).1 others id
      simp [Turn.after, hemit, hwork]
    · simp [hemit]
  · rw [resumeWork_of_revoked h]
    simp

theorem not_drained_resumeFlush (fails : Trigger → Bool) (s : Session) (flush : Nat) (i : Intent)
    (response id : Nat) : .drained id ∉ (s.resumeFlush fails flush i response).events := by
  have hemit := not_drained_emit fails (.flush flush) s i.triggers id
  by_cases h : s.response = response
  · subst h
    rw [resumeFlush_of_current]
    simp [hemit]
  · rw [resumeFlush_of_over h]
    simp

end Session

namespace World

/-! ## Every worker is watched once -/

/-- The active worker is one that a flush waits for or will have to wait for, and not both. A worker
that was waited for is not given out again. -/
structure Watched (w : World) : Prop where
  watched : ∀ worker, w.session.active = some worker →
    w.session.awaited = some worker ∨ ∃ id, (id, .joining worker) ∈ w.flushes
  alone : ∀ worker, w.session.awaited = some worker → ∀ id, (id, .joining worker) ∉ w.flushes
  joining_lt : ∀ id worker, (id, .joining worker) ∈ w.flushes → worker < w.session.nextWorker

theorem watched_new (config : CueConfig) (clock : Millis) : Watched (new config clock) := by
  refine ⟨?_, ?_, ?_⟩ <;> intros <;> contradiction

theorem Watched.withSession {w : World} (h : Watched w) {s : Session}
    (hs : w.session.SamePlaces s) : Watched { w with session := s } := by
  obtain ⟨hwatched, halone, hlt⟩ := h
  refine ⟨?_, ?_, ?_⟩
  · exact hs.active ▸ hs.awaited ▸ hwatched
  · exact hs.awaited ▸ halone
  · exact hs.nextWorker ▸ hlt

theorem Watched.feed {w : World} (h : Watched w) (fails : Trigger → Bool) (chunk : Text)
    (canWork : Bool) : Watched (w.feed fails chunk canWork).1 := by
  have hplaces := Session.samePlaces_heard w.session chunk
  rcases feed_cases fails w chunk canWork with ⟨-, hfed⟩ | ⟨hfed, -⟩ | ⟨hfed, -⟩
  · rw [hfed]
    exact h
  · rw [hfed]
    exact h.withSession hplaces
  · have hnext : (w.session.heard chunk).hired.nextWorker = w.session.nextWorker + 1 :=
      congrArg (· + 1) hplaces.nextWorker
    rw [hfed]
    refine ⟨fun worker ha => .inl ha, ?_, ?_⟩
    · intro worker ha id hm
      -- the new worker has a number that nobody waits for
      have hlt := h.joining_lt id worker hm
      cases ha
      rw [hplaces.nextWorker] at hlt
      exact Nat.lt_irrefl _ hlt
    · intro id worker hm
      rw [hnext]
      exact Nat.lt_succ_of_lt (h.joining_lt id worker hm)

theorem Watched.afterWorker {w : World} (h : Watched w) {id : Nat} {t : Session.Turn WorkerStage}
    (ht : Session.Worked id w.session t) (hf : Session.SameFrame w.session t.session) :
    Watched (w.afterWorker id t).1 := by
  refine ⟨?_, ?_, ?_⟩
  · intro worker ha
    change t.session.active = some worker at ha
    show t.session.awaited = some worker ∨ _
    cases ht with
    | revoked _ hsession _ =>
      rw [hsession] at ha ⊢
      exact h.watched worker ha
    | asks hold hactive hawaited _ =>
      rw [hawaited]
      exact h.watched worker (hold.trans (hactive.symm.trans ha))
    | ends _ hactive _ _ =>
      rw [hactive] at ha
      cases ha
  · intro worker ha
    change t.session.awaited = some worker at ha
    cases ht with
    | revoked _ hsession _ => exact h.alone worker (hsession ▸ ha)
    | asks _ _ hawaited _ => exact h.alone worker (hawaited ▸ ha)
    | ends _ _ hawaited _ =>
      rw [hawaited] at ha
      cases ha
  · intro k worker hm
    show worker < t.session.nextWorker
    rw [hf.nextWorker]
    exact h.joining_lt k worker hm

theorem Watched.flushTurn {w : World} (h : Watched w) (hw : Sound w) {id : Nat}
    {stage : FlushStage} (hl : w.flushes.lookup id = some stage)
    (hstage : stage = .ready ∨ ∃ worker, stage = .joining worker ∧ w.lives worker = false) :
    Watched (w.afterFlush id (w.session.startFlush w.lives id)).1 := by
  obtain ⟨hactive, hawaited, hf⟩ := Session.active_startFlush w.lives id w.session
  have hnone (worker : Nat) : (w.session.startFlush w.lives id).session.awaited ≠ some worker := by
    rw [hawaited]
    exact fun ha => nomatch ha
  have hother {k worker : Nat} (hm : (k, FlushStage.joining worker) ∈ w.flushes)
      (hlives : w.lives worker = true) : k ≠ id := by
    rintro rfl
    rw [lookup_of_mem hw.flushes_nodup hm] at hl
    cases hl
    rcases hstage with hr | ⟨dead, hj, hd⟩
    · cases hr
    · cases hj
      rw [hd] at hlives
      cases hlives
  refine ⟨?_, fun worker ha => absurd ha (hnone worker), ?_⟩
  · intro worker ha
    change (w.session.startFlush w.lives id).session.active = some worker at ha
    rw [hactive] at ha
    refine .inr ?_
    rcases h.watched worker ha with hwait | ⟨k, hm⟩
    · -- the flush takes the worker over
      rcases Session.startFlush_cases w.lives id w.session with ⟨found, hfound, -, hstart⟩ |
        ⟨hdead, -⟩
      · rw [hwait] at hfound
        cases hfound
        rw [hstart]
        exact ⟨id, mem_of_lookup (lookup_put_self hw.flushes_nodup (Option.isSome_of_eq_some hl))⟩
      · have hlives := hw.active_lives worker ha
        rw [hdead worker hwait] at hlives
        cases hlives
    · exact ⟨k, mem_put_of_ne hm (hother hm (hw.active_lives worker ha))⟩
  · intro k worker hm
    show worker < (w.session.startFlush w.lives id).session.nextWorker
    rw [hf.nextWorker]
    rcases mem_put hm with hm | ⟨x, hx, he⟩
    · exact h.joining_lt k worker hm
    · cases he
      rcases Session.startFlush_cases w.lives id w.session with ⟨found, hfound, hlives, hstart⟩ |
        ⟨-, hstart⟩
      · rw [hstart] at hx
        cases hx
        obtain ⟨place, hplace⟩ := Option.isSome_iff_exists.mp hlives
        exact hw.workers_lt _ (mem_of_lookup hplace)
      · rw [hstart] at hx
        rcases Session.finish_stage id { w.session with awaited := none } with hn | ⟨segment, hs⟩
        · rw [hn] at hx
          cases hx
        · rw [hs] at hx
          cases hx

theorem Watched.flushAnswer {w : World} (h : Watched w) (hw : Sound w) {id : Nat}
    {segment : Segment} {response : Nat}
    (hl : w.flushes.lookup id = some (.waiting segment response)) {t : Session.Turn FlushStage}
    (hstage : t.stage = none) (hsession : t.session = { w.session with gates := t.session.gates }) :
    Watched (w.afterFlush id t).1 := by
  unfold afterFlush
  rw [hstage, hsession]
  have hold {e : Nat × FlushStage} (he : e ∈ put id none w.flushes) : e ∈ w.flushes := by
    rcases mem_put he with he | ⟨x, hx, -⟩
    · exact he
    · cases hx
  refine ⟨?_, ?_, ?_⟩
  · intro worker ha
    refine (h.watched worker ha).imp_right ?_
    rintro ⟨k, hm⟩
    refine ⟨k, mem_put_of_ne hm ?_⟩
    rintro rfl
    rw [lookup_of_mem hw.flushes_nodup hm] at hl
    cases hl
  · exact fun worker ha k hm => h.alone worker ha k (hold hm)
  · exact fun k worker hm => h.joining_lt k worker (hold hm)

theorem Watched.reset {w : World} (h : Watched w) (gates : Gates) :
    Watched { w with session := { w.session.reset with gates := gates } } :=
  ⟨(fun _ ha => nomatch ha), (fun _ ha => nomatch ha), h.joining_lt⟩

theorem Watched.step {w : World} (h : Watched w) (hw : Sound w) (fails : Trigger → Bool)
    (m : Move) : Watched (w.step fails m).1 := by
  have hs := step_spec fails w m
  generalize w.step fails m = r at hs ⊢
  cases hs with
  | still => exact h
  | feed chunk canWork => exact h.feed fails chunk canWork
  | flush =>
    have hold {k worker : Nat}
        (hm : (k, FlushStage.joining worker) ∈ w.flushes ++ [(w.nextFlush, .ready)]) :
        (k, FlushStage.joining worker) ∈ w.flushes := by
      rcases List.mem_append.mp hm with hm | hm
      · exact hm
      · cases List.mem_singleton.mp hm
    refine ⟨?_, ?_, ?_⟩
    · intro worker ha
      refine (h.watched worker ha).imp_right ?_
      rintro ⟨k, hm⟩
      exact ⟨k, List.mem_append_left _ hm⟩
    · exact fun worker ha k hm => h.alone worker ha k (hold hm)
    · exact fun k worker hm => h.joining_lt k worker (hold hm)
  | workerTurn hl => exact h.afterWorker (Session.worked_work _ _) (Session.sameFrame_work _ _ _)
  | workerAnswer a hl =>
    exact h.afterWorker (Session.worked_resumeWork _ _ _ _ _ _)
      (Session.sameFrame_resumeWork _ _ _ _ _)
  | flushTurn hl hstage => exact h.flushTurn hw hl hstage
  | @flushAnswer id segment response a hl =>
    obtain ⟨hstage, heq⟩ :=
      Session.resumeFlush_eq fails w.session id (Classifier.settled a) response
    exact h.flushAnswer hw hl hstage heq
  | reset => exact h.reset w.session.gates
  | fullReset => exact h.reset w.session.gates.reset
  | playback c length => exact h.withSession ⟨rfl, rfl, rfl, rfl⟩
  | setClock time => exact h.withSession ⟨rfl, rfl, rfl, rfl⟩

theorem watched_run (fails : Trigger → Bool) (config : CueConfig) (clock : Millis)
    (ms : List Move) : Watched ((new config clock).run fails ms).1 := by
  have hboth : Sound ((new config clock).run fails ms).1 ∧
      Watched ((new config clock).run fails ms).1 := by
    apply run_keeps (P := fun w => Sound w ∧ Watched w)
    · exact fun w m h => ⟨h.1.step fails m, h.2.step h.1 fails m⟩
    · exact ⟨sound_new config clock, watched_new config clock⟩
  exact hboth.2

/-! ## When a flush drains the buffer -/

/-- The flush has not asked the model, and the worker that it waits for has ended. -/
def FlushDue (w : World) (id : Nat) : Prop :=
  ∃ stage, w.flushes.lookup id = some stage ∧
    (stage = .ready ∨ ∃ worker, stage = .joining worker ∧ w.lives worker = false)

theorem step_flushTurn_of_due (fails : Trigger → Bool) {w : World} {id : Nat} (h : FlushDue w id) :
    w.step fails (.flushTurn id) = w.afterFlush id (w.session.startFlush w.lives id) := by
  obtain ⟨stage, hl, hstage⟩ := h
  unfold World.step
  rcases hstage with rfl | ⟨worker, rfl, hlives⟩
  · simp only [hl]
  · simp only [hl, hlives, Bool.false_eq_true, if_false]

theorem drained_mem_finish (id : Nat) (s : Session) : .drained id ∈ (s.finish id).events := by
  simp only [Session.finish]
  split
  · exact List.mem_cons_self
  · split
    · exact List.mem_cons_self
    · exact List.mem_cons_self

/-- Only a flush drains the buffer, and only when its turn has come. -/
theorem due_of_drained {fails : Trigger → Bool} {w : World} {m : Move} {id : Nat}
    (h : .drained id ∈ (w.step fails m).2) : m = .flushTurn id ∧ FlushDue w id := by
  have hs := step_spec fails w m
  generalize w.step fails m = r at hs h
  cases hs with
  | feed chunk canWork =>
    have hmem : id ∈ (w.feed fails chunk canWork).2.filterMap Event.drained? :=
      List.mem_filterMap.mpr ⟨_, h, rfl⟩
    rw [filterMap_feed _ _ _ _ (fun _ => ⟨rfl, rfl⟩) fun _ _ => rfl] at hmem
    cases hmem
  | workerTurn hl => exact absurd h (Session.not_drained_work _ _ _ _)
  | workerAnswer a hl =>
    exact absurd ((List.mem_cons.mp h).resolve_left (by simp))
      (Session.not_drained_resumeWork _ _ _ _ _ _)
  | @flushTurn k stage hl hstage =>
    rcases Session.startFlush_cases w.lives k w.session with ⟨worker, -, -, hstart⟩ | ⟨-, hstart⟩
    · simp only [afterFlush, hstart] at h
      cases h
    · have hk : id = k := by
        simp only [afterFlush, hstart, Session.finish] at h
        split at h
        · simpa using h
        · split at h <;> simpa using h
      subst hk
      exact ⟨rfl, stage, hl, hstage⟩
  | flushAnswer a hl =>
    exact absurd ((List.mem_cons.mp h).resolve_left (by simp))
      (Session.not_drained_resumeFlush _ _ _ _ _ _)
  | _ => cases h

/-- A flush whose turn has come drains the buffer exactly if no worker is active but one that another
flush waits for. -/
theorem Watched.drained_iff_of_due {w : World} (h : Watched w) (hw : Sound w) (fails : Trigger → Bool)
    {id : Nat} (hdue : FlushDue w id) :
    .drained id ∈ (w.step fails (.flushTurn id)).2 ↔
      ∀ worker, w.session.active = some worker →
        ∃ other, other ≠ id ∧ (other, .joining worker) ∈ w.flushes := by
  rw [step_flushTurn_of_due fails hdue]
  obtain ⟨stage, hl, hstage⟩ := hdue
  rcases Session.startFlush_cases w.lives id w.session with ⟨worker, hawaited, -, hstart⟩ |
    ⟨hdead, hstart⟩
  · have hactive := hw.awaited_active worker hawaited
    rw [hstart]
    constructor
    · intro hd
      cases hd
    · intro hall
      obtain ⟨other, -, hm⟩ := hall worker hactive
      exact absurd hm (h.alone worker hawaited other)
  · rw [hstart]
    refine ⟨fun _ => ?_, fun _ => drained_mem_finish id _⟩
    intro worker ha
    have hlives := hw.active_lives worker ha
    rcases h.watched worker ha with hawaited | ⟨other, hm⟩
    · rw [hdead worker hawaited] at hlives
      cases hlives
    · refine ⟨other, ?_, hm⟩
      rintro rfl
      rw [lookup_of_mem hw.flushes_nodup hm] at hl
      cases hl
      rcases hstage with hr | ⟨dead, hj, hd⟩
      · cases hr
      · cases hj
        rw [hd] at hlives
        cases hlives

/-- When the buffer is drained. -/
theorem Watched.drained_iff {w : World} (h : Watched w) (hw : Sound w) (fails : Trigger → Bool)
    (m : Move) (id : Nat) :
    .drained id ∈ (w.step fails m).2 ↔
      m = .flushTurn id ∧ FlushDue w id ∧
        ∀ worker, w.session.active = some worker →
          ∃ other, other ≠ id ∧ (other, .joining worker) ∈ w.flushes := by
  constructor
  · intro hdrained
    obtain ⟨rfl, hdue⟩ := due_of_drained hdrained
    exact ⟨rfl, hdue, (h.drained_iff_of_due hw fails hdue).mp hdrained⟩
  · rintro ⟨rfl, hdue, hall⟩
    exact (h.drained_iff_of_due hw fails hdue).mpr hall

/-! ## Without a reset -/

/-- Nothing was reset: a worker that has not ended is the active one, so there is one at most, and
every flush that waits for the model does so for the response that is under way. -/
structure Undisturbed (w : World) : Prop where
  sound : Sound w
  watched : Watched w
  solo : (w.workers = [] ∧ w.session.active = none) ∨
    ∃ id stage, w.workers = [(id, stage)] ∧ w.session.active = some id
  since : ∀ v, v.outstanding = [] → Since v w

theorem undisturbed_new (config : CueConfig) (clock : Millis) : Undisturbed (new config clock) := by
  refine ⟨sound_new config clock, watched_new config clock, .inl ⟨rfl, rfl⟩, ?_⟩
  intro v _
  refine ⟨?_, ?_⟩ <;> intros <;> contradiction

theorem Undisturbed.response_eq {w : World} (h : Undisturbed w) {id : Nat} {segment : Segment}
    {response : Nat} (hm : (id, .waiting segment response) ∈ w.flushes) :
    response = w.session.response := by
  rcases (h.since (new w.session.config 0) rfl).flush id segment response hm with hold | hr
  · cases hold
  · exact hr

theorem Undisturbed.workers_eq {w : World} (h : Undisturbed w) {id : Nat} {stage : WorkerStage}
    (hl : w.workers.lookup id = some stage) :
    w.workers = [(id, stage)] ∧ w.session.active = some id := by
  rcases h.solo with ⟨hnone, -⟩ | ⟨k, place, hone, hactive⟩
  · rw [hnone] at hl
    cases hl
  · have hm := mem_of_lookup hl
    rw [hone] at hm
    cases List.mem_singleton.mp hm
    exact ⟨hone, hactive⟩

theorem Undisturbed.workers_eq_nil {w : World} (h : Undisturbed w)
    (hactive : w.session.active = none) : w.workers = [] := by
  rcases h.solo with ⟨hnone, -⟩ | ⟨k, place, -, ha⟩
  · exact hnone
  · rw [hactive] at ha
    cases ha

theorem Undisturbed.solo_feed {w : World} (h : Undisturbed w) (fails : Trigger → Bool)
    (chunk : Text) (canWork : Bool) :
    let v := (w.feed fails chunk canWork).1
    (v.workers = [] ∧ v.session.active = none) ∨
      ∃ id stage, v.workers = [(id, stage)] ∧ v.session.active = some id := by
  intro v
  have hplaces := Session.samePlaces_heard w.session chunk
  rcases feed_cases fails w chunk canWork with ⟨-, hfed⟩ | ⟨hfed, -⟩ | ⟨hfed, hidle⟩
  · simp only [v, hfed]
    exact h.solo
  · simp only [v, hfed]
    rw [hplaces.active]
    exact h.solo
  · simp only [v, hfed]
    rw [h.workers_eq_nil hidle]
    exact .inr ⟨_, .ready, rfl, congrArg some hplaces.nextWorker⟩

theorem Undisturbed.solo_afterWorker {w : World} (h : Undisturbed w) {id : Nat}
    {stage : WorkerStage} (hl : w.workers.lookup id = some stage) {t : Session.Turn WorkerStage}
    (ht : Session.Worked id w.session t) :
    let v := (w.afterWorker id t).1
    (v.workers = [] ∧ v.session.active = none) ∨
      ∃ id stage, v.workers = [(id, stage)] ∧ v.session.active = some id := by
  intro v
  obtain ⟨hworkers, hactive⟩ := h.workers_eq hl
  simp only [v, afterWorker]
  rw [hworkers, put_singleton]
  cases ht with
  | revoked hr _ _ => exact absurd hactive hr
  | @asks segment others _ hasks _ hstage =>
    rw [hstage]
    exact .inr ⟨id, .waiting segment others, rfl, hasks⟩
  | ends _ hends _ hstage =>
    rw [hstage]
    exact .inl ⟨rfl, hends⟩

theorem Undisturbed.step {w : World} (h : Undisturbed w) (fails : Trigger → Bool) {m : Move}
    (hm : m.isReset = false) : Undisturbed (w.step fails m).1 := by
  refine ⟨h.sound.step fails m, h.watched.step h.sound fails m, ?_, ?_⟩
  · have hs := step_spec fails w m
    generalize w.step fails m = r at hs ⊢
    cases hs with
    | feed chunk canWork => exact h.solo_feed fails chunk canWork
    | workerTurn hl => exact h.solo_afterWorker hl (Session.worked_work _ _)
    | workerAnswer a hl => exact h.solo_afterWorker hl (Session.worked_resumeWork _ _ _ _ _ _)
    | @flushTurn id stage hl hstage =>
      have hactive := (Session.active_startFlush w.lives id w.session).1
      simp only [afterFlush]
      rw [hactive]
      exact h.solo
    | @flushAnswer id segment response a hl =>
      have hactive := (Session.flushed_resumeFlush fails w.session id (Classifier.settled a)
        response [.answered (.flush id) a]).active
      simp only [afterFlush]
      rw [hactive]
      exact h.solo
    | reset => cases hm
    | fullReset => cases hm
    | _ => exact h.solo
  · exact fun v hv => (h.since v hv).step h.sound fails hm

theorem Undisturbed.run {w : World} (h : Undisturbed w) (fails : Trigger → Bool) {ms : List Move}
    (hms : ∀ m ∈ ms, m.isReset = false) : Undisturbed (w.run fails ms).1 := by
  induction ms generalizing w with
  | nil => exact h
  | cons m rest ih =>
    obtain ⟨hm, hrest⟩ := List.forall_mem_cons.mp hms
    exact ih (h.step fails hm) hrest

/-! ## A flush that is alone -/

/-- As long as no other flush is called, a flush that has not asked the model stays the only one, until
it drains the buffer. -/
theorem alone_step {w : World} {id : Nat} {stage : FlushStage} (hone : w.flushes = [(id, stage)])
    (hstage : stage.isWaiting = false) {m : Move} (hm : m ≠ .flush) (fails : Trigger → Bool) :
    (∃ next, (w.step fails m).1.flushes = [(id, next)] ∧ next.isWaiting = false) ∨
      (m = .flushTurn id ∧ FlushDue w id ∧ .drained id ∈ (w.step fails m).2) := by
  have hs := step_spec fails w m
  generalize w.step fails m = r at hs ⊢
  cases hs with
  | flush => exact absurd rfl hm
  | @flushTurn k place hl hplace =>
    have hmem := mem_of_lookup hl
    rw [hone] at hmem
    cases List.mem_singleton.mp hmem
    rcases Session.startFlush_cases w.lives id w.session with ⟨worker, -, -, hstart⟩ |
      ⟨-, hstart⟩
    · rw [hstart]
      simp only [afterFlush]
      rw [hone, put_singleton]
      exact .inl ⟨.joining worker, rfl, rfl⟩
    · rw [hstart]
      exact .inr ⟨rfl, ⟨_, hl, hplace⟩, drained_mem_finish id _⟩
  | @flushAnswer k segment response a hl =>
    have hmem := mem_of_lookup hl
    rw [hone] at hmem
    cases List.mem_singleton.mp hmem
    cases hstage
  | _ => exact .inl ⟨stage, hone, hstage⟩

/-- If it is over in the end, there was a turn in which it drained the buffer. -/
theorem exists_drain {w : World} {id : Nat} {stage : FlushStage} (hone : w.flushes = [(id, stage)])
    (hstage : stage.isWaiting = false) {ms : List Move} (hms : ∀ m ∈ ms, m ≠ .flush)
    (fails : Trigger → Bool) (hover : (w.run fails ms).1.flushes = []) :
    ∃ mid later, ms = mid ++ .flushTurn id :: later ∧
      let d := (w.run fails mid).1
      FlushDue d id ∧ .drained id ∈ (d.step fails (.flushTurn id)).2 ∧
        ∃ place, d.flushes = [(id, place)] ∧ place.isWaiting = false := by
  induction ms generalizing w stage with
  | nil =>
    rw [show (w.run fails []).1 = w from rfl, hone] at hover
    cases hover
  | cons m rest ih =>
    obtain ⟨hm, hrest⟩ := List.forall_mem_cons.mp hms
    rcases alone_step hone hstage hm fails with ⟨next, hnext, hwaits⟩ | ⟨rfl, hdue, hdrained⟩
    · obtain ⟨mid, later, rfl, hfound⟩ := ih hnext hwaits hrest hover
      exact ⟨m :: mid, later, rfl, hfound⟩
    · exact ⟨[], rest, rfl, hdue, hdrained, stage, hone, hstage⟩

/-- A flush that is alone when it drains the buffer finds no worker and no call, and leaves nothing in
the buffer and no call but its own. -/
theorem Undisturbed.drained_alone {w : World} (h : Undisturbed w) {id : Nat} {stage : FlushStage}
    (hone : w.flushes = [(id, stage)]) (hstage : stage.isWaiting = false) (hdue : FlushDue w id)
    (fails : Trigger → Bool) (hdrained : .drained id ∈ (w.step fails (.flushTurn id)).2) :
    w.session.active = none ∧ w.outstanding = [] ∧
      (w.step fails (.flushTurn id)).1.session.buffer.text = [] ∧
      (w.step fails (.flushTurn id)).1.workers = [] ∧
      ∀ a ∈ (w.step fails (.flushTurn id)).1.outstanding, a = .flush id := by
  have hactive : w.session.active = none := by
    cases ha : w.session.active with
    | none => rfl
    | some worker =>
      obtain ⟨other, hne, hm⟩ := (h.watched.drained_iff_of_due h.sound fails hdue).mp hdrained worker ha
      rw [hone] at hm
      cases List.mem_singleton.mp hm
      exact absurd rfl hne
  have hworkers := h.workers_eq_nil hactive
  rw [step_flushTurn_of_due fails hdue] at hdrained ⊢
  rcases Session.startFlush_cases w.lives id w.session with ⟨worker, -, -, hstart⟩ | ⟨-, hstart⟩
  · rw [hstart] at hdrained
    cases hdrained
  · refine ⟨hactive, ?_, ?_, hworkers, ?_⟩
    · unfold outstanding
      rw [hworkers, hone]
      simp [hstage]
    · rw [hstart]
      simp only [afterFlush]
      rw [Session.finish_session, Session.drain_eq]
      rfl
    · intro a ha
      cases a with
      | feeder => exact absurd ha (not_feeder_mem_outstanding _)
      | worker k =>
        obtain ⟨segment, others, hm⟩ := worker_mem_outstanding.mp ha
        rw [show (w.afterFlush id (w.session.startFlush w.lives id)).1.workers = w.workers from rfl,
          hworkers] at hm
        cases hm
      | flush k =>
        obtain ⟨segment, response, hm⟩ := flush_mem_outstanding.mp ha
        rcases mem_put hm with hm | ⟨x, -, he⟩
        · rw [hone] at hm
          cases List.mem_singleton.mp hm
          rfl
        · cases he
          rfl

/-- A flush that is called when no other one is under way and that is over before the next one is
called: all that was told before it drained the buffer is done with, and whatever is handed over
later was told later. -/
theorem Undisturbed.flush_alone {w : World} (h : Undisturbed w) (hnone : w.flushes = [])
    (fails : Trigger → Bool) {after : List Move}
    (hafter : ∀ m ∈ after, m ≠ .flush ∧ m.isReset = false)
    (hover : (w.run fails (.flush :: after)).1.flushes = []) :
    ∃ mid later, after = mid ++ .flushTurn w.nextFlush :: later ∧
      let d := (w.run fails (.flush :: mid)).1
      let e := (d.step fails (.flushTurn w.nextFlush)).1
      .drained w.nextFlush ∈ (d.step fails (.flushTurn w.nextFlush)).2 ∧
        d.session.active = none ∧ d.outstanding = [] ∧ e.session.buffer.text = [] ∧
        (∀ a ∈ e.outstanding, a = .flush w.nextFlush) ∧
        ∀ x ∈ segmentsOf (e.run fails later).2, x.text <:+: told later := by
  have hcalled : Undisturbed (w.step fails .flush).1 := h.step fails rfl
  have hone : (w.step fails .flush).1.flushes = [(w.nextFlush, .ready)] := by
    show w.flushes ++ [(w.nextFlush, .ready)] = _
    rw [hnone]
    rfl
  obtain ⟨mid, later, rfl, hdue, hdrained, place, hplace, hwaits⟩ :=
    exists_drain hone rfl (fun m hm => (hafter m hm).1) fails hover
  have hd : Undisturbed ((w.step fails .flush).1.run fails mid).1 :=
    hcalled.run fails fun m hm => (hafter m (List.mem_append_left _ hm)).2
  obtain ⟨hactive, hcalls, hempty, hworkers, hown⟩ :=
    hd.drained_alone hplace hwaits hdue fails hdrained
  refine ⟨mid, later, rfl, hdrained, hactive, hcalls, hempty, hown, ?_⟩
  have hrecent : Recent 0 [] (((w.step fails .flush).1.run fails mid).1.step fails
      (.flushTurn w.nextFlush)).1 := by
    refine ⟨hempty ▸ List.nil_suffix, ?_⟩
    intro k segment others hm
    rw [hworkers] at hm
    cases hm
  have hlater := (hrecent.play_of_revoked (Nat.zero_le _) (fun k _ => Nat.zero_le k)
    (later.map fun m => ⟨m, fails⟩)).2
  rwa [play_map, acts_map] at hlater

end World

end CueStream
