-- Flushes that are under way when a reset comes. A flush that waits for the
-- model is told apart from the next response. One that has still to look at
-- the buffer is not, and takes the next response for its own.
import CueStream.Proofs.Session.Passing
import CueStream.Proofs.Session.Reset

namespace CueStream

namespace World

variable (fails : Trigger → Bool)

/-- One move is enough to end a revoked worker, whatever it waits for. -/
theorem Past.ends {n r : Nat} {w : World} (h : Past n r w) {worker : Nat} {stage : WorkerStage}
    (hl : w.workers.lookup worker = some stage) (hn : worker < n) :
    ∃ m : Move, m.told = [] ∧
      (w.step fails m).1 = { w with workers := put worker none w.workers } := by
  have hrevoked := h.not_active hn
  cases stage with
  | ready =>
    refine ⟨.workerTurn worker, rfl, ?_⟩
    simp only [World.step, hl]
    rw [Session.work_of_revoked hrevoked]
    rfl
  | waiting segment others =>
    refine ⟨.workerAnswer worker .crash, rfl, ?_⟩
    simp only [World.step, hl]
    rw [Session.resumeWork_of_revoked hrevoked]
    rfl

/-- A flush that waits for no worker any more empties the buffer, whoever filled it. -/
theorem drained_of_flushTurn {w : World} {id : Nat} {stage : FlushStage}
    (hl : w.flushes.lookup id = some stage)
    (hstage : stage = .ready ∨ ∃ worker, stage = .joining worker ∧ w.lives worker = false)
    (hawaited : w.session.awaited = none) :
    (w.step fails (.flushTurn id)).1.session.buffer.text = [] ∧
      .drained id ∈ (w.step fails (.flushTurn id)).2 := by
  have hstart : w.session.startFlush w.lives id = w.session.finish id := by
    unfold Session.startFlush
    rw [hawaited]
  have hturn : w.step fails (.flushTurn id) = w.afterFlush id (w.session.finish id) := by
    rcases hstage with rfl | ⟨worker, rfl, hdead⟩
    · simp only [World.step, hl, hstart]
    · simp only [World.step, hl, hdead, hstart]
      rfl
  rw [hturn]
  refine ⟨?_, ?_⟩
  · unfold afterFlush
    dsimp only
    rw [Session.finish_session, Session.drain_eq]
    rfl
  · unfold afterFlush Session.finish
    dsimp only
    split
    · exact List.mem_cons_self
    · split
      · exact List.mem_cons_self
      · exact List.mem_cons_self

/-- Feeding where no worker can be started leaves all tasks as they are. -/
theorem feed_outside (w : World) (chunk : Text) :
    (w.step fails (.feed chunk false)).1 =
      { w with session := (w.session.feed chunk false).session } := by
  simp only [World.step, World.feed, (Session.feed_of_not_canWork w.session chunk).1]
  simp

/-- A flush that has still to look at the buffer when a response begins takes what is fed to that
response, as soon as the worker that it waits for has ended. -/
theorem next_response_is_drained {w : World} (hw : Sound w) {n r : Nat} (hp : Past n r w)
    (hworkers : ∀ e ∈ w.workers, e.1 < n) (hbuffer : w.session.buffer.text = [])
    (hawaited : w.session.awaited = none) {id : Nat} {stage : FlushStage}
    (hl : w.flushes.lookup id = some stage)
    (hstage : ∀ segment response, stage ≠ .waiting segment response) (chunk : Text) :
    ∃ ms, told ms = chunk ∧
      (w.run fails ms).1.session.buffer.text = chunk ∧
      ((w.run fails ms).1.step fails (.flushTurn id)).1.session.buffer.text = [] ∧
      .drained id ∈ ((w.run fails ms).1.step fails (.flushTurn id)).2 := by
  have hfed : (w.run fails [.feed chunk false]).1 =
      { w with session := (w.session.feed chunk false).session } := feed_outside fails w chunk
  have hchunk (ms : List Move) (hms : told ms = []) : told (.feed chunk false :: ms) = chunk := by
    show chunk ++ told ms = chunk
    rw [hms, List.append_nil]
  have htext : (w.session.feed chunk false).session.buffer.text = chunk := by
    rw [Session.buffer_feed]
    unfold Buffer.append
    rw [hbuffer]
    rfl
  have hnobody : (w.session.feed chunk false).session.awaited = none :=
    (Session.feed_of_not_canWork w.session chunk).2.trans hawaited
  -- the turn of the flush comes when its worker has ended
  have hready : ∃ ms, told ms = chunk ∧
      (w.run fails ms).1.session = (w.session.feed chunk false).session ∧
      (w.run fails ms).1.flushes = w.flushes ∧
      (stage = .ready ∨
        ∃ worker, stage = .joining worker ∧ (w.run fails ms).1.lives worker = false) := by
    cases stage with
    | ready =>
      refine ⟨[.feed chunk false], hchunk [] rfl, ?_⟩
      rw [hfed]
      exact ⟨rfl, rfl, .inl rfl⟩
    | waiting segment response => exact absurd rfl (hstage segment response)
    | joining worker =>
      cases hworker : w.workers.lookup worker with
      | none =>
        refine ⟨[.feed chunk false], hchunk [] rfl, ?_⟩
        rw [hfed]
        refine ⟨rfl, rfl, .inr ⟨worker, rfl, ?_⟩⟩
        unfold lives
        rw [hworker]
        rfl
      | some place =>
        have hpast := hp.step fails (.feed chunk false)
        rw [feed_outside] at hpast
        obtain ⟨m, hm, hend⟩ := hpast.ends fails hworker (hworkers _ (mem_of_lookup hworker))
        have hrun : (w.run fails [.feed chunk false, m]).1 =
            { w with
              session := (w.session.feed chunk false).session
              workers := put worker none w.workers } := by
          rw [← hend, ← hfed]
          rfl
        refine ⟨[.feed chunk false, m], hchunk [m] (by rw [told, List.flatMap_singleton, hm]), ?_⟩
        rw [hrun]
        refine ⟨rfl, rfl, .inr ⟨worker, rfl, ?_⟩⟩
        unfold lives
        rw [lookup_put_self hw.workers_nodup (Option.isSome_of_eq_some hworker)]
        rfl
  obtain ⟨ms, htold, hsession, hflushes, hturn⟩ := hready
  have hdrained := drained_of_flushTurn fails (hflushes ▸ hl) hturn (hsession ▸ hnobody)
  exact ⟨ms, htold, by rw [hsession, htext], hdrained⟩

/-- In every run, whatever the receiver does at which time, a flush that is under way when a reset
comes leaves the next response alone in whatever follows, if and only if it waits for the model at
that moment. If it does not, then it may take any text that is fed after the reset out of the
buffer. -/
theorem flush_leaves_next_response_alone_iff (config : CueConfig) (clock : Millis)
    (before : List (Beat Move)) (fails : Trigger → Bool) (m : Move) (hm : m.isReset = true)
    (id : Nat) (stage : FlushStage)
    (hflush : (id, stage) ∈ ((new config clock).play before).1.flushes) :
    let v := (((new config clock).play before).1.step fails m).1
    (Inert v (.flush id) ↔ ∃ segment response, stage = .waiting segment response) ∧
      ((∀ segment response, stage ≠ .waiting segment response) → ∀ fails' chunk, ∃ ms,
        told ms = chunk ∧
          (v.run fails' ms).1.session.buffer.text = chunk ∧
          ((v.run fails' ms).1.step fails' (.flushTurn id)).1.session.buffer.text = [] ∧
          .drained id ∈ ((v.run fails' ms).1.step fails' (.flushTurn id)).2) := by
  generalize hplay : ((new config clock).play before).1 = w at hflush ⊢
  have hw : Sound w := hplay ▸ sound_play config clock before
  have hv := hw.step fails m
  have hp := past_reset fails w hm
  have hspent (segment : Segment) (response : Nat)
      (he : (id, .waiting segment response) ∈ w.flushes) :=
    (hw.spent_reset fails hm he).inert hv
  obtain ⟨gates, hstep⟩ := step_of_isReset fails w hm
  rw [hstep] at hv hp hspent ⊢
  have hl : w.flushes.lookup id = some stage := lookup_of_mem hw.flushes_nodup hflush
  have hdrains (hstage : ∀ segment response, stage ≠ .waiting segment response)
      (fails' : Trigger → Bool) (chunk : Text) :=
    next_response_is_drained fails' hv hp hw.workers_lt rfl rfl hl hstage chunk
  refine ⟨⟨?_, ?_⟩, hdrains⟩
  · intro hinert
    by_contra hstage
    obtain ⟨ms, -, htext, hempty, -⟩ :=
      hdrains (fun segment response he => hstage ⟨segment, response, he⟩) fails ['x']
    have hkept := hinert (ms.map fun m => ⟨m, fails⟩) ⟨.flushTurn id, fails⟩ rfl
    rw [play_map] at hkept
    rw [hkept.1, htext] at hempty
    cases hempty
  · rintro ⟨segment, response, rfl⟩
    exact hspent segment response hflush

/-- A flush waits for a worker when the reset comes, and is then a danger to the next response. -/
theorem flush_joining_is_not_inert :
    let config : CueConfig := { gestures := [], expressions := [] }
    let before : List (Beat Move) :=
      [⟨.feed "It rains here. Go".toList true, unfailing⟩, ⟨.workerTurn 0, unfailing⟩,
        ⟨.flush, unfailing⟩, ⟨.flushTurn 0, unfailing⟩]
    let w := ((new config 0).play before).1
    (0, .joining 0) ∈ w.flushes ∧ ¬ Inert (w.step unfailing .reset).1 (.flush 0) := by
  intro config before w
  have hflush : (0, .joining 0) ∈ w.flushes := by
    decide +kernel
  refine ⟨hflush, ?_⟩
  intro hinert
  obtain ⟨segment, response, he⟩ := (flush_leaves_next_response_alone_iff config 0 before unfailing
    .reset rfl 0 (.joining 0) hflush).1.mp hinert
  cases he

end World

end CueStream
