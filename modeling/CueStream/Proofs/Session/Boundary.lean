-- A segment that is complete never lies in the buffer without somebody to take
-- it out. A worker sees that nothing is complete and gives up its place in one
-- slice, and text is fed and a worker started in one slice. So whichever of the
-- two comes first, the other one takes it into account.
import CueStream.Proofs.Session.Passing
import CueStream.Proofs.Session.Slice

namespace CueStream

/-! ## What a slice can do -/

namespace Session

/-- The ways in which a slice of a worker comes out. The worker was revoked and leaves the session
alone; or it stays the active one, and goes on unless the receiver broke down; or it sees that
nothing is complete and gives up its place; or it leaves. -/
inductive WorkSliced (fails : Trigger → Bool) (id : Nat) (s : Session) (place : WorkerPlace)
    (t : Turn WorkerPlace) : Prop
  | revoked (h : s.active ≠ some id) (hsession : t.session = s)
  | stays {next : WorkerPlace} (h : s.active = some id) (hactive : t.session.active = some id)
      (hawaited : t.session.awaited = s.awaited) (hstage : t.stage = some next)
      (hnext : next = .leaving → ∃ i : Intent, (s.emit fails (.worker id) i.triggers).2.2 = false)
  | vain (h : s.active = some id) (hplace : place = .going [])
      (hboundary : s.buffer.hasBoundary = false) (hsession : t.session = s.release id)
      (hstage : t.stage = some .leaving)
  | left (h : s.active = some id) (hplace : place = .leaving) (hsession : t.session = s.release id)
      (hstage : t.stage = none)

theorem workSlice_of_revoked (fails : Trigger → Bool) {id : Nat} {s : Session}
    (h : s.active ≠ some id) (place : WorkerPlace) : (s.workSlice fails id place).session = s := by
  cases place with
  | going batch =>
    cases batch with
    | nil =>
      rw [workSlice, if_pos h]
    | cons segment others =>
      rw [workSlice]
      split <;> rfl
  | waiting segment others => rfl
  | told i others =>
    rw [workSlice, if_pos h]
  | checking others => rfl
  | leaving => exact release_of_revoked h

theorem workSliced (fails : Trigger → Bool) (id : Nat) (s : Session) (place : WorkerPlace) :
    WorkSliced fails id s place (s.workSlice fails id place) := by
  by_cases ha : s.active = some id
  · cases place with
    | going batch =>
      cases batch with
      | nil =>
        rw [workSlice, if_neg (not_not_intro ha)]
        split
        · have hdraw := draw_eq s
          refine .stays ha ?_ ?_ rfl (by simp)
          · rw [hdraw]
            exact ha
          · rw [hdraw]
        · rename_i hboundary
          exact .vain ha rfl (by simpa using hboundary) rfl rfl
      | cons segment others =>
        rw [workSlice]
        split
        · exact .stays ha ha rfl rfl (by simp)
        · exact .stays ha ha rfl rfl (by simp)
    | waiting segment others => exact .stays ha ha rfl rfl (by simp)
    | told i others =>
      have hpass := pass_eq s i.triggers
      rw [workSlice, if_neg (not_not_intro ha)]
      refine .stays ha ?_ ?_ rfl ?_
      · show (s.pass i.triggers).1.active = some id
        rw [hpass]
        exact ha
      · show (s.pass i.triggers).1.awaited = s.awaited
        rw [hpass]
      · intro hleaving
        refine ⟨i, ?_⟩
        by_contra htaken
        rw [if_pos (by simpa using htaken)] at hleaving
        cases hleaving
    | checking others =>
      have hstage : (s.workSlice fails id (.checking others)).stage = some (.going others) := by
        simp only [workSlice, ha, if_true]
      exact .stays ha ha rfl hstage (by simp)
    | leaving => exact .left ha rfl rfl rfl
  · exact .revoked ha (workSlice_of_revoked fails ha place)

theorem sameFrame_workSlice (fails : Trigger → Bool) (id : Nat) (s : Session)
    (place : WorkerPlace) : SameFrame s (s.workSlice fails id place).session :=
  workSlice_keeps (fun t ts h => h.trans (sameFrame_pass t ts))
    (fun t _ h => h.trans (sameFrame_draw t)) (fun t k h => h.trans (sameFrame_release t k)) .rfl
    fails id place

/-- A slice of a flush leaves the workers where they are, and brings no boundary. -/
structure FlushSliced (s : Session) (t : Turn FlushPlace) : Prop where
  active : t.session.active = s.active
  awaited : t.session.awaited = none ∨ t.session.awaited = s.awaited
  frame : SameFrame s t.session
  boundary : t.session.buffer.hasBoundary = true → s.buffer.hasBoundary = true

theorem FlushSliced.of_session {s : Session} {t : Turn FlushPlace} (h : t.session = s) :
    FlushSliced s t := by
  subst h
  exact ⟨rfl, .inr rfl, .rfl, fun h => h⟩

theorem flushSliced (fails : Trigger → Bool) (lives : Nat → Bool) (id : Nat) (s : Session)
    (place : FlushPlace) : FlushSliced s (s.flushSlice fails lives id place) := by
  cases place with
  | ready =>
    rw [flushSlice]
    split
    · exact .of_session rfl
    · exact ⟨rfl, .inl rfl, ⟨rfl, rfl, rfl, rfl, rfl, rfl, rfl⟩, fun h => h⟩
  | joining worker => exact .of_session rfl
  | draining =>
    have hdrain : FlushSliced s ⟨s.drain.1, none, []⟩ := by
      refine ⟨?_, .inr ?_, sameFrame_drain s, ?_⟩
      · rw [drain_eq]
      · rw [drain_eq]
      · rw [drain_eq]
        intro hboundary
        cases hboundary
    rw [flushSlice]
    split
    · rename_i drained hnone
      rw [hnone] at hdrain
      exact ⟨hdrain.active, hdrain.awaited, hdrain.frame, hdrain.boundary⟩
    · rename_i drained segment hsome
      rw [hsome] at hdrain
      exact ⟨hdrain.active, hdrain.awaited, hdrain.frame, hdrain.boundary⟩
  | asking segment response =>
    rw [flushSlice]
    split <;> exact .of_session rfl
  | waiting segment response => exact .of_session rfl
  | told i response =>
    rw [flushSlice, (resumeFlush_eq fails s id i response).2]
    exact ⟨rfl, .inr rfl, ⟨rfl, rfl, rfl, rfl, rfl, rfl, rfl⟩, fun h => h⟩

end Session

/-! ## The boundary in every run -/

namespace Sliced

/-- Numbers of workers are never given out again; the active worker is there and has more to do; and
over a boundary there is an active worker. -/
structure Attended (w : Sliced) : Prop where
  lives_lt : ∀ id, w.lives id = true → id < w.session.nextWorker
  active : ∀ id, w.session.active = some id →
    ∃ place, w.workers.lookup id = some place ∧ place ≠ .leaving
  boundary : w.session.buffer.hasBoundary = true → w.session.active.isSome = true

theorem attended_new (config : CueConfig) (clock : Millis) : Attended (new config clock) := by
  refine ⟨?_, ?_, ?_⟩ <;> intros <;> contradiction

/-- A change of the session that leaves the workers where they are, and brings no boundary. -/
theorem Attended.withSession {w : Sliced} (h : Attended w) {s : Session}
    (hactive : s.active = w.session.active) (hnext : s.nextWorker = w.session.nextWorker)
    (hboundary : s.buffer.hasBoundary = true → w.session.active.isSome = true) :
    Attended { w with session := s } := by
  refine ⟨?_, ?_, ?_⟩
  · exact hnext ▸ h.lives_lt
  · exact hactive ▸ h.active
  · exact hactive ▸ hboundary

theorem Attended.reset {w : Sliced} (h : Attended w) :
    Attended { w with session := w.session.reset } := by
  refine ⟨h.lives_lt, ?_, ?_⟩
  · intro id ha
    cases ha
  · intro hb
    cases hb

theorem Attended.hired {w : Sliced} (h : Attended w) {s : Session}
    (hnext : s.nextWorker = w.session.nextWorker) :
    Attended { w with
      session := s.hired, workers := w.workers ++ [(w.session.nextWorker, .going [])] } := by
  have hfresh : w.workers.lookup w.session.nextWorker = none := by
    cases hl : w.workers.lookup w.session.nextWorker with
    | none => rfl
    | some place =>
      have hlt := h.lives_lt w.session.nextWorker (by simp [lives, hl])
      exact absurd hlt (Nat.lt_irrefl _)
  refine ⟨?_, ?_, fun _ => rfl⟩
  · intro id hl
    show id < s.nextWorker + 1
    rw [hnext]
    unfold lives at hl
    rw [List.lookup_append, Option.isSome_or, Bool.or_eq_true] at hl
    rcases hl with hl | hl
    · exact Nat.lt_succ_of_lt (h.lives_lt id hl)
    · by_cases hid : id = w.session.nextWorker
      · exact hid ▸ Nat.lt_succ_self _
      · rw [List.lookup_cons, show (id == w.session.nextWorker) = false by simpa using hid] at hl
        cases hl
  · intro id ha
    cases ha
    refine ⟨.going [], ?_, by simp⟩
    rw [hnext, List.lookup_append, hfresh]
    simp

theorem Attended.feed {w : Sliced} (h : Attended w) (fails : Trigger → Bool) (chunk : Text) :
    Attended (w.step fails (.feed chunk true)).1 := by
  unfold step
  by_cases hc : chunk = []
  · subst hc
    simp only [Session.feed_nil, Option.map_none, Option.toList_none, List.append_nil]
    exact h
  · have hheard := Session.heard_eq w.session chunk
    have hplaces := Session.samePlaces_heard w.session chunk
    rcases Session.feed_cases w.session hc true with ⟨hs, hw, hnone⟩ | ⟨hs, hw, -⟩
    · simp only [hs, hw, Option.map_none, Option.toList_none, List.append_nil]
      refine h.withSession hplaces.active hplaces.nextWorker ?_
      intro hboundary
      rw [hheard] at hboundary
      by_contra hidle
      rw [Option.not_isSome_iff_eq_none] at hidle
      rw [hnone rfl hidle] at hboundary
      cases hboundary
    · simp only [hs, hw, Option.map_some, Option.toList_some]
      exact h.hired hplaces.nextWorker

/-- A slice of a worker brings no worker to life. -/
theorem lives_of_afterWorker {w : Sliced} {id k : Nat} {old : WorkerPlace}
    (hl : w.workers.lookup id = some old) (t : Session.Turn WorkerPlace)
    (hk : (w.afterWorker id t).1.lives k = true) : w.lives k = true := by
  by_cases hid : k = id
  · subst hid
    simp [lives, hl]
  · unfold lives afterWorker at hk
    rwa [lookup_put_of_ne hid] at hk

theorem Attended.afterWorker {w : Sliced} (h : Attended w) {id : Nat} {place : WorkerPlace}
    (hl : w.workers.lookup id = some place) {t : Session.Turn WorkerPlace}
    (hnext : t.session.nextWorker = w.session.nextWorker)
    (ht : Session.WorkSliced unfailing id w.session place t) : Attended (w.afterWorker id t).1 := by
  have hlives : ∀ k, (w.afterWorker id t).1.lives k = true → k < t.session.nextWorker := by
    intro k hk
    exact hnext ▸ h.lives_lt k (lives_of_afterWorker hl t hk)
  cases ht with
  | revoked hrevoked hsession =>
    refine ⟨hlives, ?_, ?_⟩
    · intro k hk
      have hactive : w.session.active = some k := by
        rw [← hsession]
        exact hk
      have hne : k ≠ id := by
        rintro rfl
        exact hrevoked hactive
      obtain ⟨place, hplace, hstays⟩ := h.active k hactive
      exact ⟨place, (lookup_put_of_ne hne _ _).trans hplace, hstays⟩
    · unfold Sliced.afterWorker
      rw [hsession]
      exact h.boundary
  | @stays next _ hactive _ hstage hleaving =>
    refine ⟨hlives, ?_, ?_⟩
    · intro k hk
      have hid : id = k := Option.some.inj (hactive.symm.trans hk)
      subst hid
      refine ⟨next, ?_, ?_⟩
      · unfold Sliced.afterWorker
        rw [hstage]
        exact lookup_put_some hl _
      · intro hn
        obtain ⟨i, hbroke⟩ := hleaving hn
        rw [Session.emit_unfailing] at hbroke
        cases hbroke
    · intro _
      unfold Sliced.afterWorker
      rw [hactive]
      rfl
  | vain ha _ hboundary hsession _ =>
    have hgone : t.session.active = none ∧ t.session.buffer.hasBoundary = false := by
      rw [hsession]
      unfold Session.release
      rw [if_pos ha]
      exact ⟨rfl, hboundary⟩
    refine ⟨hlives, ?_, ?_⟩
    · intro k hk
      cases hgone.1.symm.trans hk
    · intro hb
      cases hgone.2.symm.trans hb
  | left ha hplace _ _ =>
    obtain ⟨place', hl', hstays⟩ := h.active id ha
    rw [hl] at hl'
    cases hl'
    exact absurd hplace hstays

theorem Attended.workerTurn {w : Sliced} (h : Attended w) {id : Nat} {place : WorkerPlace}
    (hl : w.workers.lookup id = some place) :
    Attended (w.afterWorker id (w.session.workSlice unfailing id place)).1 :=
  h.afterWorker hl (Session.sameFrame_workSlice unfailing id w.session place).nextWorker
    (Session.workSliced unfailing id w.session place)

theorem Attended.workerAnswer {w : Sliced} (h : Attended w) {id : Nat} {segment : Segment}
    {others : List Segment} (hl : w.workers.lookup id = some (.waiting segment others)) (i : Intent)
    (events : List Event) :
    Attended (w.afterWorker id ⟨w.session, some (.told i others), events⟩).1 := by
  refine h.afterWorker hl rfl ?_
  by_cases ha : w.session.active = some id
  · exact .stays ha ha rfl rfl (by simp)
  · exact .revoked ha rfl

theorem Attended.afterFlush {w : Sliced} (h : Attended w) (id : Nat) {t : Session.Turn FlushPlace}
    (ht : Session.FlushSliced w.session t) : Attended (w.afterFlush id t).1 := by
  obtain ⟨h1, h2, h3⟩ := h.withSession ht.active ht.frame.nextWorker fun hb => h.boundary (ht.boundary hb)
  exact ⟨h1, h2, h3⟩

/-- One slice. -/
theorem Attended.step {w : Sliced} (h : Attended w) {x : Slice}
    (hx : ∀ chunk, x ≠ .feed chunk false) : Attended (w.step unfailing x).1 := by
  have hspec := step_spec unfailing w x
  generalize w.step unfailing x = after at hspec ⊢
  cases hspec with
  | still => exact h
  | feed chunk canWork =>
    cases canWork with
    | false => exact absurd rfl (hx chunk)
    | true => exact h.feed unfailing chunk
  | flush => exact ⟨h.lives_lt, h.active, h.boundary⟩
  | workerTurn hl => exact h.workerTurn hl
  | flushTurn hl => exact h.afterFlush _ (Session.flushSliced _ _ _ _ _)
  | workerAnswer a hl => exact h.workerAnswer hl (Classifier.settled a) _
  | flushAnswer a hl => exact h.afterFlush _ (.of_session rfl)
  | reset => exact h.reset
  | resetGates => exact h.withSession rfl rfl h.boundary
  | playback c length => exact h.withSession rfl rfl h.boundary
  | setClock time => exact h.withSession rfl rfl h.boundary

/-- A run in which workers can be started whenever something is fed. -/
theorem Attended.run {w : Sliced} (h : Attended w) {xs : List Slice}
    (hxs : ∀ chunk, .feed chunk false ∉ xs) : Attended (w.run unfailing xs).1 := by
  induction xs generalizing w with
  | nil => exact h
  | cons x rest ih =>
    have hx : ∀ chunk, x ≠ .feed chunk false := by
      rintro chunk rfl
      exact hxs chunk List.mem_cons_self
    exact ih (h.step hx) fun chunk hm => hxs chunk (List.mem_cons_of_mem x hm)

end Sliced

/-! ## A worker for every boundary -/

/-- If a segment in the buffer is complete, a worker is active that has not ended and is not about
to. -/
def Sliced.Minded (w : Sliced) : Prop :=
  w.session.buffer.hasBoundary = true →
    ∃ id place, w.session.active = some id ∧ w.workers.lookup id = some place ∧ place ≠ .leaving

/-- If a segment in the buffer is complete, a worker is active that has not ended. -/
def World.Minded (w : World) : Prop :=
  w.session.buffer.hasBoundary = true → ∃ id, w.session.active = some id ∧ w.lives id = true

theorem Sliced.Attended.minded {w : Sliced} (h : Attended w) : w.Minded := by
  intro hboundary
  obtain ⟨id, ha⟩ := Option.isSome_iff_exists.mp (h.boundary hboundary)
  obtain ⟨place, hl, hplace⟩ := h.active id ha
  exact ⟨id, place, ha, hl, hplace⟩

theorem World.minded_of_sliced {w : World} (h : w.sliced.Minded) : w.Minded := by
  intro hboundary
  obtain ⟨id, place, hactive, hl, -⟩ := h hboundary
  refine ⟨id, hactive, ?_⟩
  rw [← w.lives_sliced]
  unfold Sliced.lives
  exact Option.isSome_iff_exists.mpr ⟨place, hl⟩

/-- As long as the receiver does not break down, and workers can be started whenever something is
fed, no boundary is left alone: whenever nobody holds the session, a worker minds it. This holds
between any two slices, and so between any two moves. -/
theorem World.no_boundary_is_left_alone (config : CueConfig) (clock : Millis) :
    (∀ xs : List Slice, (∀ chunk, .feed chunk false ∉ xs) →
        ((Sliced.new config clock).run unfailing xs).1.Minded) ∧
      ∀ ms : List Move, (∀ chunk, .feed chunk false ∉ ms) →
        ((World.new config clock).run unfailing ms).1.Minded := by
  have hslices (xs : List Slice) (hxs : ∀ chunk, .feed chunk false ∉ xs) :
      ((Sliced.new config clock).run unfailing xs).1.Minded :=
    ((Sliced.attended_new config clock).run hxs).minded
  refine ⟨hslices, ?_⟩
  intro ms hms
  obtain ⟨xs, hrun, hfed⟩ := (World.new config clock).run_in_slices unfailing ms
  have hxs : ∀ chunk, .feed chunk false ∉ xs := by
    intro chunk hm
    have hmem : (chunk, false) ∈ xs.filterMap Slice.fed? := List.mem_filterMap.mpr ⟨_, hm, rfl⟩
    rw [hfed] at hmem
    obtain ⟨m, hm', hchunk⟩ := List.mem_filterMap.mp hmem
    cases m <;> cases hchunk
    exact hms chunk hm'
  have hminded := hslices xs hxs
  rw [show Sliced.new config clock = (World.new config clock).sliced from rfl, hrun] at hminded
  exact minded_of_sliced hminded

/-- A second sentence is fed when the first worker has just given up its place, but has not left
yet. -/
theorem World.no_boundary_is_left_to_a_leaving_worker :
    let config : CueConfig := { gestures := [], expressions := [] }
    let first := "Rain is coming.\nMore".toList
    let second := " to come.\nAnd".toList
    let xs : List Slice :=
      [.feed first true, .workerTurn 0, .workerTurn 0, .workerAnswer 0 .crash, .workerTurn 0,
        .workerTurn 0, .workerTurn 0, .feed second true]
    let ms : List Move := [.feed first true, .workerTurn 0, .feed second true]
    let w := ((Sliced.new config 10000).run unfailing xs).1
    let v := ((World.new config 10000).run unfailing ms).1
    ((∀ chunk, .feed chunk false ∉ xs) ∧ ∀ chunk, .feed chunk false ∉ ms) ∧
      (w.session.buffer.hasBoundary = true ∧ w.session.active = some 1 ∧
        w.workers = [(0, .leaving), (1, .going [])] ∧ w.Minded) ∧
      v.session.buffer.hasBoundary = true ∧ v.session.active = some 0 ∧ v.Minded := by
  intro config first second xs ms w v
  have hxs : ∀ chunk, .feed chunk false ∉ xs := by
    intro chunk
    simp [xs]
  have hms : ∀ chunk, .feed chunk false ∉ ms := by
    intro chunk
    simp [ms]
  obtain ⟨hslices, hmoves⟩ := World.no_boundary_is_left_alone config 10000
  refine ⟨⟨hxs, hms⟩, ⟨?_, ?_, ?_, hslices xs hxs⟩, ?_, ?_, hmoves ms hms⟩
  all_goals decide +kernel

end CueStream
