-- Tasks only look at a part of the session. A session that is cast anew in the
-- other parts, or in which workers and responses have later numbers, takes the
-- same turns, up to the numbers.
import CueStream.Proofs.Session.Turn

namespace CueStream

/-! ## Later numbers -/

/-- By how much the numbers of workers, flushes and responses are higher. -/
structure Ahead where
  workers : Nat
  flushes : Nat
  responses : Nat
  deriving DecidableEq, Repr

/-- The actor with the later number. -/
def Actor.ahead (k : Ahead) : Actor → Actor
  | feeder => feeder
  | worker id => worker (id + k.workers)
  | flush id => flush (id + k.flushes)

/-- The same event, with the later numbers of those who take part in it. -/
def Event.ahead (k : Ahead) : Event → Event
  | admitted a t time => admitted (a.ahead k) t time
  | delivered a t => delivered (a.ahead k) t
  | broke a t => broke (a.ahead k) t
  | submitted a segment => submitted (a.ahead k) segment
  | asked a call => asked (a.ahead k) call
  | answered a answer => answered (a.ahead k) answer
  | drained flush => drained (flush + k.flushes)
  | ended a => ended (a.ahead k)

/-- The same stage, with the later numbers of worker and response. -/
def FlushStage.ahead (k : Ahead) : FlushStage → FlushStage
  | ready => ready
  | joining worker => joining (worker + k.workers)
  | waiting segment response => waiting segment (response + k.responses)

/-- No number is later. -/
def Ahead.none : Ahead :=
  ⟨0, 0, 0⟩

theorem Actor.ahead_none (a : Actor) : a.ahead .none = a := by
  cases a <;> rfl

theorem Event.ahead_none (e : Event) : e.ahead .none = e := by
  cases e <;> simp only [Event.ahead, Actor.ahead_none]
  rfl

theorem FlushStage.ahead_none (stage : FlushStage) : stage.ahead .none = stage := by
  cases stage <;> rfl

namespace Session

/-! ## Sessions that are cast anew -/

/-- A change of sessions that keeps what segments are made and noted by, and moves on the numbers
of workers and responses. -/
structure Recast (k : Ahead) (g : Session → Session) : Prop where
  buffer : ∀ s, (g s).buffer = s.buffer
  seen : ∀ s, (g s).seen = s.seen
  active : ∀ s, (g s).active = s.active.map (· + k.workers)
  awaited : ∀ s, (g s).awaited = s.awaited.map (· + k.workers)
  nextWorker : ∀ s, (g s).nextWorker = s.nextWorker + k.workers
  response : ∀ s, (g s).response = s.response + k.responses
  emptied : ∀ s buffer,
    g { s with buffer := buffer, cursor := 0 } = { g s with buffer := buffer, cursor := 0 }
  noted : ∀ s seen, g { s with seen := seen } = { g s with seen := seen }
  placed : ∀ s active awaited, g { s with active := active, awaited := awaited } =
    { g s with active := active.map (· + k.workers), awaited := awaited.map (· + k.workers) }
  hired : ∀ s : Session, g s.hired = (g s).hired

/-- A turn in a session that is cast anew. -/
def Turn.recast {Stage : Type} (k : Ahead) (g : Session → Session) (stage : Stage → Stage)
    (t : Turn Stage) : Turn Stage :=
  ⟨g t.session, t.stage.map stage, t.events.map (Event.ahead k)⟩

theorem Turn.recast_after {Stage : Type} (k : Ahead) (g : Session → Session)
    (stage : Stage → Stage) (events : List Event) (t : Turn Stage) :
    (t.after events).recast k g stage =
      (t.recast k g stage).after (events.map (Event.ahead k)) := by
  unfold recast after
  rw [List.map_append]

/-- Without later numbers only the session is another one. -/
theorem Turn.recast_none {Stage : Type} (g : Session → Session) {stage : Stage → Stage}
    (hstage : ∀ x, stage x = x) (t : Turn Stage) :
    t.recast .none g stage = ⟨g t.session, t.stage, t.events⟩ := by
  have hevents : t.events.map (Event.ahead .none) = t.events :=
    (List.map_congr_left fun e _ => e.ahead_none).trans (List.map_id' t.events)
  have hid : stage = fun x => x := funext hstage
  unfold recast
  rw [hevents, hid, Option.map_id']

namespace Recast

variable {k : Ahead} {g : Session → Session}

theorem active_eq_iff (h : Recast k g) (s : Session) (id : Nat) :
    (g s).active = some (id + k.workers) ↔ s.active = some id := by
  rw [h.active]
  simp

theorem note (h : Recast k g) (s : Session) (segment : Segment) :
    (g s).note segment = (g (s.note segment).1, (s.note segment).2) := by
  by_cases hstop : segment.size < s.buffer.minChars ∨ s.seen.contains segment.key
  · have hstop' : segment.size < (g s).buffer.minChars ∨ (g s).seen.contains segment.key := by
      rw [h.buffer, h.seen]
      exact hstop
    unfold Session.note
    rw [if_pos hstop, if_pos hstop']
  · have hfresh : ¬(segment.size < (g s).buffer.minChars ∨ (g s).seen.contains segment.key) := by
      rw [h.buffer, h.seen]
      exact hstop
    unfold Session.note
    rw [if_neg hstop, if_neg hfresh, h.noted s (segment.key :: s.seen), h.seen]

theorem noteAll (h : Recast k g) (s : Session) (segments : List Segment) :
    (g s).noteAll segments = (g (s.noteAll segments).1, (s.noteAll segments).2) := by
  induction segments generalizing s with
  | nil => rfl
  | cons segment rest ih => simp only [Session.noteAll, h.note, ih]

theorem draw (h : Recast k g) (s : Session) : (g s).draw = (g s.draw.1, s.draw.2) := by
  have hnoted := h.noteAll { s with buffer := s.buffer.takeCompleted.2, cursor := 0 }
    s.buffer.takeCompleted.1
  rw [h.emptied s] at hnoted
  unfold Session.draw
  rw [h.buffer]
  exact hnoted

theorem drain (h : Recast k g) (s : Session) : (g s).drain = (g s.drain.1, s.drain.2) := by
  have hemptied := h.emptied s s.buffer.clear
  have hbuffer := h.buffer s
  cases hsegment : s.buffer.segment? s.buffer.text with
  | none =>
    have hnone : (g s).buffer.segment? (g s).buffer.text = none := by rw [hbuffer, hsegment]
    rw [drain_of_none hsegment, drain_of_none hnone, hemptied, hbuffer]
  | some segment =>
    have hsome : (g s).buffer.segment? (g s).buffer.text = some segment := by
      rw [hbuffer, hsegment]
    have hnote := h.note { s with buffer := s.buffer.clear, cursor := 0 } segment
    rw [hemptied] at hnote
    rw [drain_of_some hsegment, drain_of_some hsome, hbuffer]
    dsimp only
    rw [hnote]

theorem release (h : Recast k g) (s : Session) (id : Nat) :
    (g s).release (id + k.workers) = g (s.release id) := by
  have hactive := h.active_eq_iff s id
  unfold Session.release
  by_cases ha : s.active = some id
  · rw [if_pos ha, if_pos (hactive.mpr ha)]
    exact (h.placed s none none).symm
  · rw [if_neg ha, if_neg (fun hrecast => ha (hactive.mp hrecast))]

theorem startWorker (h : Recast k g) (s : Session) :
    (g s).startWorker = (g s.startWorker.1, s.startWorker.2.map (· + k.workers)) := by
  rw [startWorker_eq, startWorker_eq, h.active, h.buffer, Option.isNone_map]
  split
  · rw [h.hired, h.nextWorker]
    rfl
  · rfl

/-- The turn of a worker. -/
theorem work (h : Recast k g) {s : Session}
    (hcall : ∀ text, Classifier.call? (g s).config text = Classifier.call? s.config text) (id : Nat)
    (batch : List Segment) :
    (g s).work (id + k.workers) batch = (s.work id batch).recast k g (fun stage => stage) := by
  fun_induction Session.work id s batch with
  | case1 s segment others call hc =>
    rw [Session.work]
    simp only [hcall, hc]
    rfl
  | case2 s segment others hc ha ih =>
    have hactive := (h.active_eq_iff s id).mpr ha
    rw [Session.work]
    simp only [hcall, hc, hactive, if_true]
    rw [ih hcall]
    rfl
  | case3 s segment others hc ha =>
    have hactive := not_congr (h.active_eq_iff s id) |>.mpr ha
    rw [Session.work]
    simp only [hcall, hc, hactive, if_false]
    rfl
  | case4 s ha => exact work_of_revoked (not_congr (h.active_eq_iff s id) |>.mpr ha)
  | case5 s ha hb hlt ih =>
    have hactive : ¬(g s).active ≠ some (id + k.workers) :=
      not_not_intro ((h.active_eq_iff s id).mpr (Decidable.not_not.mp ha))
    have hboundary : (g s).buffer.hasBoundary = true := by rwa [h.buffer]
    have hdraw := h.draw s
    have hconfig : (g s.draw.1).config = (g s).config := by
      rw [← (sameFrame_draw (g s)).config, hdraw]
    rw [hconfig, (sameFrame_draw s).config] at ih
    rw [Session.work, if_neg hactive, dif_pos hboundary]
    show (g s).draw.1.work (id + k.workers) (g s).draw.2 = _
    rw [hdraw]
    exact ih hcall
  | case6 s ha hb =>
    have hactive : ¬(g s).active ≠ some (id + k.workers) :=
      not_not_intro ((h.active_eq_iff s id).mpr (Decidable.not_not.mp ha))
    have hboundary : ¬(g s).buffer.hasBoundary = true := by rwa [h.buffer]
    rw [Session.work, if_neg hactive, dif_neg hboundary, h.release]
    rfl

/-- A flush that takes the rest out. -/
theorem finish (h : Recast k g) {s : Session}
    (hcall : ∀ text, Classifier.call? (g s).config text = Classifier.call? s.config text)
    (id : Nat) :
    (g s).finish (id + k.flushes) = (s.finish id).recast k g (FlushStage.ahead k) := by
  have hdrain := h.drain s
  have hconfig : (g s.drain.1).config = (g s).config := by
    rw [← (sameFrame_drain (g s)).config, hdrain]
  rw [← (sameFrame_drain s).config, ← hconfig] at hcall
  unfold Session.finish
  rw [hdrain]
  generalize s.drain = d at hcall ⊢
  obtain ⟨drained, segment⟩ := d
  cases segment with
  | none => rfl
  | some segment =>
    simp only [hcall, h.response]
    split <;> rfl

/-- A flush that looks for a worker to wait for. -/
theorem startFlush (h : Recast k g) {s : Session}
    (hcall : ∀ text, Classifier.call? (g s).config text = Classifier.call? s.config text)
    {lives lives' : Nat → Bool} (hlives : ∀ id, lives' (id + k.workers) = lives id) (id : Nat) :
    (g s).startFlush lives' (id + k.flushes) =
      (s.startFlush lives id).recast k g (FlushStage.ahead k) := by
  have hawaited := h.awaited s
  have hplaced : g { s with awaited := none } = { g s with awaited := none } := by
    have hplaced := h.placed s s.active none
    rw [← h.active s] at hplaced
    exact hplaced
  have hfinish : Session.finish (id + k.flushes) { g s with awaited := none } =
      (Session.finish id { s with awaited := none }).recast k g (FlushStage.ahead k) := by
    have hfinish := h.finish (s := { s with awaited := none })
      (by rw [hplaced]; exact hcall) id
    rwa [hplaced] at hfinish
  unfold Session.startFlush
  cases hs : s.awaited with
  | none =>
    rw [hs] at hawaited
    rw [hawaited]
    exact h.finish hcall id
  | some worker =>
    rw [hs] at hawaited
    rw [hawaited]
    simp only [Option.map_some, hlives]
    split
    · rw [← hplaced]
      rfl
    · exact hfinish

end Recast

end Session

end CueStream
