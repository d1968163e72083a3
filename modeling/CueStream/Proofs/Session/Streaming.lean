-- A world in the course of a response: text comes in, one worker at most
-- classifies it, and a flush takes the rest.
import CueStream.Proofs.Session.Exclusive
import CueStream.Proofs.Session.Noting
import CueStream.Proofs.Session.Passing

namespace CueStream

theorem put_singleton {α : Type} (id : Nat) (v : Option α) (x : α) :
    put id v [(id, x)] = (v.map fun y => (id, y)).toList := by
  simp [put]

namespace World

/-- The segments that workers have drawn and not handed over yet. -/
def batch (w : World) : List Segment :=
  w.workers.flatMap fun e => e.2.others

/-! ## Before the flush -/

/-- How a world stands to which the text of `b` was fed, before a flush takes the rest. The segments
that were `handed` over and those of the batch are what was noted; one worker at most is there, and
it is the active one; it is there as long as something is complete; and the flush, if it was called,
has not asked the model. -/
structure Streaming (b : Buffer) (handed : List Segment) (w : World) : Prop where
  tells : w.session.Tells b (handed ++ w.batch)
  solo : (w.workers = [] ∧ w.session.active = none) ∨
    ∃ id stage, w.workers = [(id, stage)] ∧ w.session.active = some id
  idle : w.session.active = none → w.session.buffer.hasBoundary = false
  flush : (w.nextFlush = 0 ∧ w.flushes = []) ∨
    (w.nextFlush = 1 ∧ ∃ stage, w.flushes = [(0, stage)] ∧ stage.isWaiting = false)

theorem streaming_new (config : CueConfig) (h : 1 ≤ config.minSegmentChars) (clock : Millis) :
    Streaming (new config clock).session.buffer [] (new config clock) :=
  ⟨Session.tells_new config h clock, .inl ⟨rfl, rfl⟩, fun _ => rfl, .inl ⟨rfl, rfl⟩⟩

theorem Streaming.withSession {b : Buffer} {handed : List Segment} {w : World}
    (h : Streaming b handed w) {s : Session} (hbuffer : s.buffer = w.session.buffer)
    (hseen : s.seen = w.session.seen) (hactive : s.active = w.session.active) :
    Streaming b handed { w with session := s } := by
  refine ⟨h.tells.congr hbuffer hseen, ?_, ?_, h.flush⟩
  · rw [hactive]
    exact h.solo
  · rw [hactive, hbuffer]
    exact h.idle

theorem Streaming.feed {b : Buffer} {handed : List Segment} {w : World} (h : Streaming b handed w)
    (fails : Trigger → Bool) (chunk : Text) :
    Streaming (b.append chunk) handed (w.feed fails chunk true).1 := by
  have htells : (w.feed fails chunk true).1.session.Tells (b.append chunk) (handed ++ w.batch) :=
    h.tells.feed chunk true
  have hplaces := Session.samePlaces_heard w.session chunk
  rcases feed_cases fails w chunk true with ⟨rfl, hfed⟩ | ⟨hfed, hnone⟩ | ⟨hfed, hidle⟩
  · rw [hfed, Buffer.append_nil]
    exact h
  · have hbuffer : (w.session.heard chunk).buffer = w.session.buffer.append chunk := by
      rw [Session.heard_eq]
    rw [hfed] at htells ⊢
    refine ⟨htells, ?_, ?_, h.flush⟩
    · rw [hplaces.active]
      exact h.solo
    · rw [hplaces.active, hbuffer]
      exact hnone rfl
  · have hempty : w.workers = [] := by
      rcases h.solo with ⟨hworkers, -⟩ | ⟨id, stage, -, ha⟩
      · exact hworkers
      · rw [hidle] at ha
        cases ha
    have hbatch : w.batch = [] := by
      unfold batch
      rw [hempty]
      rfl
    rw [hfed, hbatch] at htells
    rw [hfed, hempty]
    refine ⟨htells, .inr ⟨w.session.nextWorker, .ready, rfl, ?_⟩, ?_, h.flush⟩
    · exact congrArg some hplaces.nextWorker
    · intro ha
      cases ha

theorem Streaming.called {b : Buffer} {handed : List Segment} {w : World}
    (h : Streaming b handed w) (hnext : w.nextFlush = 0) :
    Streaming b handed { w with
      flushes := w.flushes ++ [(w.nextFlush, .ready)], nextFlush := w.nextFlush + 1 } := by
  have hnone : w.flushes = [] := by
    rcases h.flush with ⟨-, hf⟩ | ⟨hone, -⟩
    · exact hf
    · omega
  refine ⟨h.tells, h.solo, h.idle, .inr ?_⟩
  rw [hnext, hnone]
  exact ⟨rfl, .ready, rfl, rfl⟩

/-- The worker has its turn: what it hands over is handed over, and what it keeps is the batch. -/
theorem Streaming.afterWorker {b : Buffer} {handed : List Segment} {w : World}
    (h : Streaming b handed w) {id : Nat} {stage : WorkerStage}
    (hworkers : w.workers = [(id, stage)]) {t : Session.Turn WorkerStage} {more : List Segment}
    (htells : t.session.Tells b (more ++ (t.stage.map WorkerStage.others).getD []))
    (ht : (∃ segment others, t.stage = some (.waiting segment others) ∧
        t.session.active = some id) ∨
      (t.stage = none ∧ t.session.active = none ∧ t.session.buffer.hasBoundary = false)) :
    Streaming b more (w.afterWorker id t).1 := by
  unfold World.afterWorker
  rw [hworkers, put_singleton]
  rcases ht with ⟨segment, others, hstage, hactive⟩ | ⟨hstage, hactive, hboundary⟩
  · rw [hstage] at htells ⊢
    refine ⟨?_, .inr ⟨id, .waiting segment others, rfl, hactive⟩, ?_, h.flush⟩
    · simpa [batch] using htells
    · intro hnone
      rw [show t.session.active = none from hnone] at hactive
      cases hactive
  · rw [hstage] at htells ⊢
    exact ⟨htells, .inl ⟨rfl, hactive⟩, fun _ => hboundary, h.flush⟩

theorem Streaming.active {b : Buffer} {handed : List Segment} {w : World} (h : Streaming b handed w)
    {id : Nat} {stage : WorkerStage} (hl : w.workers.lookup id = some stage) :
    w.workers = [(id, stage)] ∧ w.session.active = some id ∧ w.batch = stage.others := by
  rcases h.solo with ⟨hworkers, -⟩ | ⟨k, place, hworkers, hactive⟩
  · rw [hworkers] at hl
    cases hl
  · have hm := mem_of_lookup hl
    rw [hworkers] at hm
    cases List.mem_singleton.mp hm
    refine ⟨hworkers, hactive, ?_⟩
    unfold batch
    rw [hworkers]
    exact List.append_nil _

theorem Streaming.workerTurn {b : Buffer} {handed : List Segment} {w : World}
    (h : Streaming b handed w) {id : Nat} (hl : w.workers.lookup id = some .ready) :
    Streaming b (handed ++ segmentsOf (w.session.work id []).events)
      (w.afterWorker id (w.session.work id [])).1 := by
  obtain ⟨hworkers, hactive, hbatch⟩ := h.active hl
  have htells := h.tells
  rw [hbatch] at htells
  apply h.afterWorker hworkers (htells.work hactive)
  rcases Session.work_cases hactive [] with ⟨segment, others, hstage, ha, -⟩ |
    ⟨hstage, ha, -, hboundary⟩
  · exact .inl ⟨segment, others, hstage, ha⟩
  · exact .inr ⟨hstage, ha, hboundary⟩

theorem Streaming.workerAnswer {b : Buffer} {handed : List Segment} {w : World}
    (h : Streaming b handed w) {id : Nat} {segment : Segment} {others : List Segment}
    (hl : w.workers.lookup id = some (.waiting segment others)) (i : Intent) (a : Answer) :
    let t := (w.session.resumeWork unfailing id i others).after [.answered (.worker id) a]
    Streaming b (handed ++ segmentsOf t.events) (w.afterWorker id t).1 := by
  intro t
  obtain ⟨hworkers, hactive, hbatch⟩ := h.active hl
  have hpassed : (w.session.pass i.triggers).1.active = some id := by
    rw [Session.pass_eq]
    exact hactive
  have htells := h.tells.pass i.triggers
  rw [hbatch] at htells
  have hresume : w.session.resumeWork unfailing id i others =
      ((w.session.pass i.triggers).1.work id others).after
        (w.session.emit unfailing (.worker id) i.triggers).2.1 := by
    rw [Session.resumeWork_of_active hactive, Session.emit_unfailing, if_pos rfl]
  have hsegments : segmentsOf t.events =
      segmentsOf ((w.session.pass i.triggers).1.work id others).events := by
    have hnone : segmentsOf [Event.answered (.worker id) a] = [] := rfl
    simp only [t, hresume, Session.Turn.after, segmentsOf_append, Session.segmentsOf_emit, hnone,
      List.nil_append]
  have hturn : t.session = ((w.session.pass i.triggers).1.work id others).session ∧
      t.stage = ((w.session.pass i.triggers).1.work id others).stage := by
    simp only [t, hresume]
    exact ⟨rfl, rfl⟩
  rw [hsegments]
  apply h.afterWorker hworkers
  · rw [hturn.1, hturn.2]
    exact htells.work hpassed
  · rw [hturn.1, hturn.2]
    rcases Session.work_cases hpassed others with ⟨next, rest, hstage, ha, -⟩ |
      ⟨hstage, ha, -, hboundary⟩
    · exact .inl ⟨next, rest, hstage, ha⟩
    · exact .inr ⟨hstage, ha, hboundary⟩

/-! ## From the flush on -/

/-- How a world stands after the flush has taken the rest: everything is handed over, the buffer is
empty, and only the flush may still wait for the model. -/
structure Drained (b : Buffer) (handed : List Segment) (w : World) : Prop where
  handed : handed = firstOfEachKey b.segments
  empty : w.session.buffer.text = []
  workers : w.workers = []
  active : w.session.active = none
  flush : w.nextFlush = 1 ∧ (w.flushes = [] ∨
    ∃ segment, w.flushes = [(0, .waiting segment w.session.response)])

theorem Drained.withSession {b : Buffer} {handed : List Segment} {w : World}
    (h : Drained b handed w) {s : Session} (hbuffer : s.buffer = w.session.buffer)
    (hactive : s.active = w.session.active) (hresponse : s.response = w.session.response) :
    Drained b handed { w with session := s } := by
  refine ⟨h.handed, ?_, h.workers, hactive.trans h.active, ?_⟩
  · rw [hbuffer]
    exact h.empty
  · rw [hresponse]
    exact h.flush

/-- The flush has its turn: it waits for the worker, or takes the rest. -/
theorem Streaming.flushTurn {b : Buffer} {handed : List Segment} {w : World}
    (h : Streaming b handed w) (hw : Sound w) (he : Exclusive w) {id : Nat} {stage : FlushStage}
    (hl : w.flushes.lookup id = some stage)
    (hstage : stage = .ready ∨ ∃ worker, stage = .joining worker ∧ w.lives worker = false) :
    let t := w.session.startFlush w.lives id
    Streaming b (handed ++ segmentsOf t.events) (w.afterFlush id t).1 ∨
      Drained b (handed ++ segmentsOf t.events) (w.afterFlush id t).1 := by
  intro t
  have hflush : w.nextFlush = 1 ∧ w.flushes = [(id, stage)] ∧ id = 0 := by
    have hm := mem_of_lookup hl
    rcases h.flush with ⟨-, hnone⟩ | ⟨hone, place, hflushes, -⟩
    · rw [hnone] at hm
      cases hm
    · rw [hflushes] at hm
      cases List.mem_singleton.mp hm
      exact ⟨hone, hflushes, rfl⟩
  obtain ⟨hone, hflushes, rfl⟩ := hflush
  unfold afterFlush
  rw [hflushes, put_singleton]
  rcases Session.startFlush_cases w.lives 0 w.session with ⟨worker, -, -, hstart⟩ |
    ⟨hdead, hstart⟩
  · refine .inl ?_
    simp only [t, hstart]
    rw [segmentsOf_nil, List.append_nil]
    exact ⟨h.tells.congr rfl rfl, h.solo, h.idle, .inr ⟨hone, .joining worker, rfl, rfl⟩⟩
  · refine .inr ?_
    have hnone := he.idle_of_flushTurn hw hl hstage hdead
    have hworkers : w.workers = [] := by
      rcases h.solo with ⟨hworkers, -⟩ | ⟨k, place, -, ha⟩
      · exact hworkers
      · rw [hnone] at ha
        cases ha
    have hbatch : w.batch = [] := by
      unfold batch
      rw [hworkers]
      rfl
    have htells : Session.Tells b handed { w.session with awaited := none } := by
      have := h.tells
      rw [hbatch, List.append_nil] at this
      exact this.congr rfl rfl
    have hsession : t.session = ({ w.session with awaited := none } : Session).drain.1 := by
      simp only [t, hstart]
      exact Session.finish_session _ _
    have hdrained := Session.drain_eq { w.session with awaited := none }
    refine ⟨?_, ?_, hworkers, ?_, hone, ?_⟩
    · simp only [t, hstart]
      exact htells.finish (h.idle hnone) 0
    · show t.session.buffer.text = []
      rw [hsession, hdrained]
      rfl
    · show t.session.active = none
      rw [hsession, hdrained]
      exact hnone
    · show (t.stage.map fun y => (0, y)).toList = [] ∨
        ∃ segment, (t.stage.map fun y => (0, y)).toList = [(0, .waiting segment t.session.response)]
      rw [hsession, hdrained]
      simp only [t, hstart]
      rcases Session.finish_stage 0 { w.session with awaited := none } with hover | ⟨segment, hasks⟩
      · rw [hover]
        exact .inl rfl
      · rw [hasks]
        exact .inr ⟨segment, rfl⟩

theorem Drained.flushAnswer {b : Buffer} {handed : List Segment} {w : World}
    (h : Drained b handed w) {id : Nat} {stage : FlushStage}
    (hl : w.flushes.lookup id = some stage) {t : Session.Turn FlushStage} (hstage : t.stage = none)
    (hsession : t.session = { w.session with gates := t.session.gates }) :
    Drained b handed (w.afterFlush id t).1 := by
  have hflushes : put id t.stage w.flushes = [] := by
    have hm := mem_of_lookup hl
    rcases h.flush.2 with hnone | ⟨segment, hone⟩
    · rw [hnone] at hm
      cases hm
    · rw [hone] at hm ⊢
      cases List.mem_singleton.mp hm
      rw [put_singleton, hstage]
      rfl
  unfold afterFlush
  rw [hflushes, hsession]
  exact ⟨h.handed, h.empty, h.workers, h.active, h.flush.1, .inl rfl⟩

end World

end CueStream
