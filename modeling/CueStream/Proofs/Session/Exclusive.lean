-- Whose calls of the model wait for their answers while moves are made. A call
-- of the response that is under way is one of the active worker or of a flush,
-- and as long as each flush is left to itself it is not one of both.
import CueStream.Proofs.Session.Outstanding
import CueStream.Proofs.Session.Reset

namespace CueStream

namespace World

/-! ## The calls of one response -/

/-- Whatever was not outstanding in `v` belongs to the response that is under way. -/
structure Since (v w : World) : Prop where
  worker : ∀ id segment others, (id, .waiting segment others) ∈ w.workers →
    .worker id ∈ v.outstanding ∨ w.session.active = some id
  flush : ∀ id segment response, (id, .waiting segment response) ∈ w.flushes →
    .flush id ∈ v.outstanding ∨ response = w.session.response

theorem since_self (w : World) : Since w w := by
  refine ⟨?_, ?_⟩
  · intro id segment others h
    exact .inl (worker_mem_outstanding.mpr ⟨segment, others, h⟩)
  · intro id segment response h
    exact .inl (flush_mem_outstanding.mpr ⟨segment, response, h⟩)

theorem Since.withSession {v w : World} (h : Since v w) {s : Session}
    (hs : w.session.SamePlaces s) : Since v { w with session := s } := by
  refine ⟨?_, ?_⟩
  · intro id segment others hm
    rw [hs.active]
    exact h.worker id segment others hm
  · intro id segment response hm
    rw [hs.response]
    exact h.flush id segment response hm

theorem Since.feed {v w : World} (h : Since v w) (fails : Trigger → Bool) (chunk : Text)
    (canWork : Bool) : Since v (w.feed fails chunk canWork).1 := by
  have hplaces := Session.samePlaces_heard w.session chunk
  rcases feed_cases fails w chunk canWork with ⟨-, hfed⟩ | ⟨hfed, -⟩ | ⟨hfed, hidle⟩
  · rw [hfed]
    exact h
  · rw [hfed]
    exact h.withSession hplaces
  · rw [hfed]
    refine ⟨?_, ?_⟩
    · intro id segment others hm
      rcases List.mem_append.mp hm with hm | hm
      · rcases h.worker id segment others hm with hold | ha
        · exact .inl hold
        · rw [hidle] at ha
          cases ha
      · cases List.mem_singleton.mp hm
    · intro id segment response hm
      rcases h.flush id segment response hm with hold | hr
      · exact .inl hold
      · exact .inr (hr.trans hplaces.response.symm)

theorem Since.afterWorker {v w : World} (h : Since v w) (hw : Sound w) {id : Nat}
    {stage : WorkerStage} (hl : w.workers.lookup id = some stage) {t : Session.Turn WorkerStage}
    (ht : Session.Worked id w.session t) (hf : Session.SameFrame w.session t.session) :
    Since v (w.afterWorker id t).1 := by
  refine ⟨?_, ?_⟩
  · intro k segment others hm
    show _ ∨ t.session.active = some k
    rcases mem_put_cases hw.workers_nodup (Option.isSome_of_eq_some hl) hm with ⟨hm, hne⟩ |
      ⟨x, hx, he⟩
    · rcases h.worker k segment others hm with hold | ha
      · exact .inl hold
      · refine .inr ?_
        cases ht with
        | revoked _ hsession _ => rwa [hsession]
        | asks hactive _ _ _ =>
          rw [hactive] at ha
          cases ha
          exact absurd rfl hne
        | ends hactive _ _ _ =>
          rw [hactive] at ha
          cases ha
          exact absurd rfl hne
    · cases he
      refine .inr ?_
      cases ht with
      | revoked _ _ hstage =>
        rw [hstage] at hx
        cases hx
      | asks _ hactive _ _ => exact hactive
      | ends _ _ _ hstage =>
        rw [hstage] at hx
        cases hx
  · intro k segment response hm
    show _ ∨ response = t.session.response
    rw [hf.response]
    exact h.flush k segment response hm

theorem Since.afterFlush {v w : World} (h : Since v w) {id : Nat} {t : Session.Turn FlushStage}
    (ht : w.session.Flushed t) : Since v (w.afterFlush id t).1 := by
  refine ⟨?_, ?_⟩
  · intro k segment others hm
    show _ ∨ t.session.active = some k
    rw [ht.active]
    exact h.worker k segment others hm
  · intro k segment response hm
    show _ ∨ response = t.session.response
    rw [ht.frame.response]
    rcases mem_put hm with hm | ⟨x, hx, he⟩
    · exact h.flush k segment response hm
    · cases he
      exact .inr (ht.stage segment response hx)

theorem Since.step {v w : World} (h : Since v w) (hw : Sound w) (fails : Trigger → Bool) {m : Move}
    (hm : m.isReset = false) : Since v (w.step fails m).1 := by
  have hs := step_spec fails w m
  generalize w.step fails m = r at hs ⊢
  cases hs with
  | still => exact h
  | feed chunk canWork => exact h.feed fails chunk canWork
  | flush =>
    refine ⟨h.worker, ?_⟩
    intro k segment response hm
    rcases List.mem_append.mp hm with hm | hm
    · exact h.flush k segment response hm
    · cases List.mem_singleton.mp hm
  | workerTurn hl =>
    exact h.afterWorker hw hl (Session.worked_work _ _) (Session.sameFrame_work _ _ _)
  | workerAnswer a hl =>
    exact h.afterWorker hw hl (Session.worked_resumeWork _ _ _ _ _ _)
      (Session.sameFrame_resumeWork _ _ _ _ _)
  | flushTurn hl hstage => exact h.afterFlush (Session.flushed_startFlush _ _ _)
  | flushAnswer a hl => exact h.afterFlush (Session.flushed_resumeFlush _ _ _ _ _ _)
  | reset => cases hm
  | fullReset => cases hm
  | playback c length => exact h.withSession ⟨rfl, rfl, rfl, rfl⟩
  | setClock time => exact h.withSession ⟨rfl, rfl, rfl, rfl⟩

theorem Since.play {v w : World} (h : Since v w) (hw : Sound w) {beats : List (Beat Move)}
    (hbeats : ∀ b ∈ beats, b.act.isReset = false) : Since v (w.play beats).1 := by
  induction beats generalizing w with
  | nil => exact h
  | cons b rest ih =>
    obtain ⟨hb, hrest⟩ := List.forall_mem_cons.mp hbeats
    exact ih (h.step hw b.fails hb) (hw.step b.fails b.act) hrest

/-! ## One flush at a time -/

end World

/-- The flush is under way in the response with this number. One that waits for an answer on behalf
of another response has nothing left to do. -/
def FlushStage.isUnderWay (response : Nat) : FlushStage → Bool
  | waiting _ r => r = response
  | _ => true

/-- The flush waits for the model in the response with this number. -/
def FlushStage.isAsking (response : Nat) : FlushStage → Bool
  | waiting _ r => r = response
  | _ => false

namespace World

/-- The move leaves a flush to itself: no flush is called while another one is under way, and
nothing is fed while a flush waits for the model. -/
def Admits (w : World) : Move → Prop
  | .feed _ _ => ∀ e ∈ w.flushes, e.2.isAsking w.session.response = false
  | .flush => ∀ e ∈ w.flushes, e.2.isUnderWay w.session.response = false
  | _ => True

instance (w : World) : (m : Move) → Decidable (w.Admits m)
  | .feed _ _ =>
    inferInstanceAs (Decidable (∀ e ∈ w.flushes, e.2.isAsking w.session.response = false))
  | .flush =>
    inferInstanceAs (Decidable (∀ e ∈ w.flushes, e.2.isUnderWay w.session.response = false))
  | .workerTurn _ => isTrue trivial
  | .flushTurn _ => isTrue trivial
  | .workerAnswer _ _ => isTrue trivial
  | .flushAnswer _ _ => isTrue trivial
  | .reset => isTrue trivial
  | .fullReset => isTrue trivial
  | .playback _ _ => isTrue trivial
  | .setClock _ => isTrue trivial

/-- Every move of a play leaves the flushes to themselves. -/
def Ordered (w : World) : List (Beat Move) → Prop
  | [] => True
  | b :: rest => w.Admits b.act ∧ Ordered (w.step b.fails b.act).1 rest

instance decidableOrdered (w : World) : (beats : List (Beat Move)) → Decidable (Ordered w beats)
  | [] => isTrue trivial
  | b :: rest =>
    have := decidableOrdered (w.step b.fails b.act).1 rest
    inferInstanceAs (Decidable (w.Admits b.act ∧ Ordered (w.step b.fails b.act).1 rest))

/-- Every move of a run leaves the flushes to themselves. -/
def Orderly (fails : Trigger → Bool) (w : World) (ms : List Move) : Prop :=
  w.Ordered (ms.map fun m => ⟨m, fails⟩)

instance (fails : Trigger → Bool) (w : World) (ms : List Move) : Decidable (Orderly fails w ms) :=
  inferInstanceAs (Decidable (w.Ordered _))

/-- At most one flush is under way; no worker is active while it waits for the model; and the active
worker is one that a flush waits for, or will have to wait for. -/
structure Exclusive (w : World) : Prop where
  unique : ∀ d ∈ w.flushes, ∀ e ∈ w.flushes, d.2.isUnderWay w.session.response = true →
    e.2.isUnderWay w.session.response = true → d.1 = e.1
  idle : ∀ id segment, (id, .waiting segment w.session.response) ∈ w.flushes →
    w.session.active = none
  watched : ∀ worker, w.session.active = some worker →
    w.session.awaited = some worker ∨ ∃ id, (id, .joining worker) ∈ w.flushes

theorem exclusive_new (config : CueConfig) (clock : Millis) : Exclusive (new config clock) := by
  refine ⟨?_, ?_, ?_⟩ <;> intros <;> contradiction

theorem Exclusive.withSession {w : World} (h : Exclusive w) {s : Session}
    (hs : w.session.SamePlaces s) : Exclusive { w with session := s } := by
  obtain ⟨hunique, hidle, hwatched⟩ := h
  refine ⟨?_, ?_, ?_⟩
  · exact hs.response ▸ hunique
  · exact hs.response ▸ hs.active ▸ hidle
  · exact hs.active ▸ hs.awaited ▸ hwatched

theorem Exclusive.feed {w : World} (h : Exclusive w) {chunk : Text} {canWork : Bool}
    (hadmits : w.Admits (.feed chunk canWork)) (fails : Trigger → Bool) :
    Exclusive (w.feed fails chunk canWork).1 := by
  have hplaces := Session.samePlaces_heard w.session chunk
  rcases feed_cases fails w chunk canWork with ⟨-, hfed⟩ | ⟨hfed, -⟩ | ⟨hfed, -⟩
  · rw [hfed]
    exact h
  · rw [hfed]
    exact h.withSession hplaces
  · have hresponse : (w.session.heard chunk).hired.response = w.session.response :=
      hplaces.response
    rw [hfed]
    refine ⟨?_, ?_, ?_⟩
    · rw [hresponse]
      exact h.unique
    · intro id segment hm
      rw [hresponse] at hm
      have hasking := hadmits _ hm
      simp [FlushStage.isAsking] at hasking
    · intro worker ha
      exact .inl ha

theorem Exclusive.flush {w : World} (h : Exclusive w) (hadmits : w.Admits .flush) :
    Exclusive { w with
      flushes := w.flushes ++ [(w.nextFlush, .ready)], nextFlush := w.nextFlush + 1 } := by
  have hnew (e : Nat × FlushStage) (he : e ∈ w.flushes ++ [(w.nextFlush, .ready)])
      (hu : e.2.isUnderWay w.session.response = true) : e.1 = w.nextFlush := by
    rcases List.mem_append.mp he with he | he
    · rw [hadmits e he] at hu
      cases hu
    · rw [List.mem_singleton.mp he]
  refine ⟨?_, ?_, ?_⟩
  · intro d hd e he hdu heu
    rw [hnew d hd hdu, hnew e he heu]
  · intro id segment hm
    rcases List.mem_append.mp hm with hm | hm
    · exact h.idle id segment hm
    · cases List.mem_singleton.mp hm
  · intro worker ha
    refine (h.watched worker ha).imp_right ?_
    rintro ⟨id, hm⟩
    exact ⟨id, List.mem_append_left _ hm⟩

theorem Exclusive.afterWorker {w : World} (h : Exclusive w) {id : Nat}
    {t : Session.Turn WorkerStage} (ht : Session.Worked id w.session t)
    (hf : Session.SameFrame w.session t.session) : Exclusive (w.afterWorker id t).1 := by
  have hunique := h.unique
  have hidle := h.idle
  rw [← hf.response] at hunique hidle
  refine ⟨hunique, ?_, ?_⟩
  · intro k segment hm
    show t.session.active = none
    have hnone := hidle k segment hm
    cases ht with
    | revoked _ hsession _ => rwa [hsession]
    | asks ha _ _ _ =>
      rw [ha] at hnone
      cases hnone
    | ends _ hactive _ _ => exact hactive
  · intro worker hworker
    change t.session.active = some worker at hworker
    show t.session.awaited = some worker ∨ _
    cases ht with
    | revoked _ hsession _ =>
      rw [hsession] at hworker ⊢
      exact h.watched worker hworker
    | asks ha hactive hawaited _ =>
      rw [hawaited]
      exact h.watched worker (ha.trans (hactive.symm.trans hworker))
    | ends _ hactive _ _ =>
      rw [hactive] at hworker
      cases hworker

/-- What a flush that has its turn is put in place of was under way, so that no second one comes to
be under way by it. -/
theorem Exclusive.unique_put {w : World} (h : Exclusive w) {id : Nat} {stage : FlushStage}
    (hl : w.flushes.lookup id = some stage)
    (hstage : stage.isUnderWay w.session.response = true) (v : Option FlushStage) :
    ∀ d ∈ put id v w.flushes, ∀ e ∈ put id v w.flushes,
      d.2.isUnderWay w.session.response = true → e.2.isUnderWay w.session.response = true →
      d.1 = e.1 := by
  have hold (e : Nat × FlushStage) (he : e ∈ put id v w.flushes)
      (hu : e.2.isUnderWay w.session.response = true) : e.1 = id := by
    rcases mem_put he with he | ⟨x, -, rfl⟩
    · exact h.unique e he (id, stage) (mem_of_lookup hl) hu hstage
    · rfl
  intro d hd e he hdu heu
  rw [hold d hd hdu, hold e he heu]

/-- A flush that has its turn and finds nobody to wait for is the only one, and no worker is
active. -/
theorem Exclusive.idle_of_flushTurn {w : World} (h : Exclusive w) (hw : Sound w) {id : Nat}
    {stage : FlushStage} (hl : w.flushes.lookup id = some stage)
    (hstage : stage = .ready ∨ ∃ worker, stage = .joining worker ∧ w.lives worker = false)
    (hdead : ∀ worker, w.session.awaited = some worker → w.lives worker = false) :
    w.session.active = none := by
  have hunderWay : stage.isUnderWay w.session.response = true := by
    rcases hstage with rfl | ⟨worker, rfl, -⟩ <;> rfl
  cases ha : w.session.active with
  | none => rfl
  | some worker =>
    exfalso
    have hlives := hw.active_lives worker ha
    rcases h.watched worker ha with hawaited | ⟨k, hm⟩
    · rw [hdead worker hawaited] at hlives
      cases hlives
    · have hk : k = id := h.unique _ hm _ (mem_of_lookup hl) rfl hunderWay
      have hlk := lookup_of_mem hw.flushes_nodup hm
      rw [hk, hl] at hlk
      cases hlk
      rcases hstage with hready | ⟨worker', hjoining, hend⟩
      · cases hready
      · cases hjoining
        rw [hend] at hlives
        cases hlives

theorem Exclusive.flushTurn {w : World} (h : Exclusive w) (hw : Sound w) {id : Nat}
    {stage : FlushStage} (hl : w.flushes.lookup id = some stage)
    (hstage : stage = .ready ∨ ∃ worker, stage = .joining worker ∧ w.lives worker = false) :
    Exclusive (w.afterFlush id (w.session.startFlush w.lives id)).1 := by
  have hunderWay : stage.isUnderWay w.session.response = true := by
    rcases hstage with rfl | ⟨worker, rfl, -⟩ <;> rfl
  obtain ⟨hactive, hawaited, hf⟩ := Session.active_startFlush w.lives id w.session
  have hunique := h.unique_put hl hunderWay (w.session.startFlush w.lives id).stage
  rw [← hf.response] at hunique
  rcases Session.startFlush_cases w.lives id w.session with ⟨worker, ha, hlives, hstart⟩ |
    ⟨hdead, hstart⟩
  · -- the flush goes on to wait for the active worker
    have hworker := hw.awaited_active worker ha
    have hjoins : (id, FlushStage.joining worker) ∈ put id (some (.joining worker)) w.flushes :=
      mem_of_lookup (lookup_put_self hw.flushes_nodup (Option.isSome_of_eq_some hl))
    refine ⟨hunique, ?_, ?_⟩
    · intro k segment hm
      rw [hstart] at hm ⊢
      rcases mem_put hm with hm | ⟨x, hx, he⟩
      · exact h.idle k segment hm
      · cases he
        cases hx
    · intro k hk
      rw [hstart] at hk ⊢
      rw [hworker] at hk
      cases hk
      exact .inr ⟨id, hjoins⟩
  · have hnone := h.idle_of_flushTurn hw hl hstage hdead
    refine ⟨hunique, ?_, ?_⟩
    · intro k segment hm
      exact hactive.trans hnone
    · intro k hk
      change (w.session.startFlush w.lives id).session.active = some k at hk
      rw [hactive, hnone] at hk
      cases hk

theorem Exclusive.flushAnswer {w : World} (h : Exclusive w) (hw : Sound w) {id : Nat}
    {segment : Segment} {response : Nat}
    (hl : w.flushes.lookup id = some (.waiting segment response)) {t : Session.Turn FlushStage}
    (hstage : t.stage = none) (hsession : t.session = { w.session with gates := t.session.gates }) :
    Exclusive (w.afterFlush id t).1 := by
  unfold afterFlush
  rw [hstage, hsession]
  refine ⟨?_, ?_, ?_⟩
  · have hold {e : Nat × FlushStage} (he : e ∈ put id none w.flushes) : e ∈ w.flushes := by
      rcases mem_put he with he | ⟨x, hx, -⟩
      · exact he
      · cases hx
    intro d hd e he
    exact h.unique d (hold hd) e (hold he)
  · intro k segment hm
    rcases mem_put hm with hm | ⟨x, hx, -⟩
    · exact h.idle k segment hm
    · cases hx
  · intro worker ha
    refine (h.watched worker ha).imp_right ?_
    rintro ⟨k, hm⟩
    refine ⟨k, mem_put_of_ne hm ?_⟩
    rintro rfl
    rw [lookup_of_mem hw.flushes_nodup hm] at hl
    cases hl

/-- A reset puts the flushes that wait for the model behind, and adds none to those under way. -/
theorem Exclusive.reset {w : World} (h : Exclusive w) (hw : Sound w) (gates : Gates) :
    Exclusive { w with session := { w.session.reset with gates := gates } } := by
  refine ⟨?_, ?_, ?_⟩
  · have hold (e : Nat × FlushStage) (he : e ∈ w.flushes)
        (hu : e.2.isUnderWay (w.session.response + 1) = true) :
        e.2.isUnderWay w.session.response = true := by
      obtain ⟨k, stage⟩ := e
      cases stage with
      | ready => rfl
      | joining worker => rfl
      | waiting segment response =>
        have := hw.response_le k segment response he
        simp only [FlushStage.isUnderWay, decide_eq_true_eq] at hu
        omega
    intro d hd e he hdu heu
    exact h.unique d hd e he (hold d hd hdu) (hold e he heu)
  · intro k segment hm
    rfl
  · intro worker ha
    cases ha

theorem Exclusive.step {w : World} (h : Exclusive w) (hw : Sound w) {m : Move}
    (hadmits : w.Admits m) (fails : Trigger → Bool) : Exclusive (w.step fails m).1 := by
  have hs := step_spec fails w m
  generalize w.step fails m = r at hs ⊢
  cases hs with
  | still => exact h
  | feed chunk canWork => exact h.feed hadmits fails
  | flush => exact h.flush hadmits
  | workerTurn hl => exact h.afterWorker (Session.worked_work _ _) (Session.sameFrame_work _ _ _)
  | workerAnswer a hl =>
    exact h.afterWorker (Session.worked_resumeWork _ _ _ _ _ _)
      (Session.sameFrame_resumeWork _ _ _ _ _)
  | flushTurn hl hstage => exact h.flushTurn hw hl hstage
  | @flushAnswer id segment response a hl =>
    obtain ⟨hstage, heq⟩ :=
      Session.resumeFlush_eq fails w.session id (Classifier.settled a) response
    exact h.flushAnswer hw hl hstage heq
  | reset => exact h.reset hw w.session.gates
  | fullReset => exact h.reset hw w.session.gates.reset
  | playback c length => exact h.withSession ⟨rfl, rfl, rfl, rfl⟩
  | setClock time => exact h.withSession ⟨rfl, rfl, rfl, rfl⟩

theorem Exclusive.play {w : World} (h : Exclusive w) (hw : Sound w) {beats : List (Beat Move)}
    (hbeats : w.Ordered beats) : Exclusive (w.play beats).1 := by
  induction beats generalizing w with
  | nil => exact h
  | cons b rest ih => exact ih (h.step hw hbeats.1 b.fails) (hw.step b.fails b.act) hbeats.2

end World

end CueStream
