-- A session in which workers and responses have later numbers. Whatever is done
-- to it comes to the same, and shows the same up to the numbers.
import CueStream.Proofs.Session.Recast

namespace CueStream

/-! ## Cues on their way -/

/-- Cues are handed over in the same way, whoever does it. -/
theorem deliver_ahead (k : Ahead) (fails : Trigger → Bool) (a : Actor) (ts : List Trigger) :
    deliver fails (a.ahead k) ts =
      ((deliver fails a ts).1.map (Event.ahead k), (deliver fails a ts).2) := by
  induction ts with
  | nil => rfl
  | cons t rest ih =>
    unfold deliver
    split
    · rfl
    · rw [ih]
      rfl

theorem map_admitted_ahead (k : Ahead) (a : Actor) (ts : List Trigger) (time : Millis) :
    (ts.map (Event.admitted a · time)).map (Event.ahead k) =
      ts.map (Event.admitted (a.ahead k) · time) := by
  rw [List.map_map]
  rfl

namespace Session

/-! ## One session -/

/-- The session with later numbers. -/
def ahead (k : Ahead) (s : Session) : Session :=
  { s with
    active := s.active.map (· + k.workers)
    nextWorker := s.nextWorker + k.workers
    awaited := s.awaited.map (· + k.workers)
    response := s.response + k.responses }

variable (k : Ahead) (s : Session)

theorem recast_ahead : Recast k (ahead k) where
  buffer _ := rfl
  seen _ := rfl
  active _ := rfl
  awaited _ := rfl
  nextWorker _ := rfl
  response _ := rfl
  emptied _ _ := rfl
  noted _ _ := rfl
  placed _ _ _ := rfl
  hired s := by
    have hnext : s.nextWorker + 1 + k.workers = s.nextWorker + k.workers + 1 :=
      Nat.add_right_comm _ _ _
    unfold ahead hired
    rw [hnext]
    rfl

theorem passOne_ahead (t : Trigger) :
    (s.ahead k).passOne t = ((s.passOne t).1.ahead k, (s.passOne t).2) := by
  unfold passOne ahead
  dsimp only
  split <;> rfl

theorem pass_ahead (ts : List Trigger) :
    (s.ahead k).pass ts = ((s.pass ts).1.ahead k, (s.pass ts).2) := by
  induction ts generalizing s with
  | nil => rfl
  | cons t rest ih => simp only [pass, passOne_ahead, ih]

theorem emit_ahead (fails : Trigger → Bool) (a : Actor) (ts : List Trigger) :
    (s.ahead k).emit fails (a.ahead k) ts =
      ((s.emit fails a ts).1.ahead k, (s.emit fails a ts).2.1.map (Event.ahead k),
        (s.emit fails a ts).2.2) := by
  unfold emit
  simp only [pass_ahead, deliver_ahead, List.map_append, map_admitted_ahead]
  rfl

theorem resumeWork_ahead (fails : Trigger → Bool) (id : Nat) (i : Intent)
    (others : List Segment) :
    (s.ahead k).resumeWork fails (id + k.workers) i others =
      (s.resumeWork fails id i others).recast k (ahead k) fun stage => stage := by
  have hactive := (recast_ahead k).active_eq_iff s id
  by_cases ha : s.active = some id
  · have hemit : (s.ahead k).emit fails (.worker (id + k.workers)) i.triggers =
        ((s.emit fails (.worker id) i.triggers).1.ahead k,
          (s.emit fails (.worker id) i.triggers).2.1.map (Event.ahead k),
          (s.emit fails (.worker id) i.triggers).2.2) :=
      emit_ahead k s fails (.worker id) i.triggers
    rw [resumeWork_of_active ha, resumeWork_of_active (hactive.mpr ha), hemit, pass_ahead]
    dsimp only
    split
    · rw [Turn.recast_after]
      exact congrArg (Turn.after _)
        ((recast_ahead k).work (s := (s.pass i.triggers).1) (fun _ => rfl) id others)
    · rw [(recast_ahead k).release]
      unfold Turn.recast
      rw [List.map_append]
      rfl
  · rw [resumeWork_of_revoked ha, resumeWork_of_revoked (not_congr hactive |>.mpr ha)]
    rfl

theorem resumeFlush_ahead (fails : Trigger → Bool) (id : Nat) (i : Intent) (response : Nat) :
    (s.ahead k).resumeFlush fails (id + k.flushes) i (response + k.responses) =
      (s.resumeFlush fails id i response).recast k (ahead k) (FlushStage.ahead k) := by
  by_cases hr : s.response = response
  · subst hr
    have hemit : (s.ahead k).emit fails (.flush (id + k.flushes)) i.triggers =
        ((s.emit fails (.flush id) i.triggers).1.ahead k,
          (s.emit fails (.flush id) i.triggers).2.1.map (Event.ahead k),
          (s.emit fails (.flush id) i.triggers).2.2) :=
      emit_ahead k s fails (.flush id) i.triggers
    have hcurrent := resumeFlush_of_current fails (s.ahead k) (id + k.flushes) i
    rw [hemit, pass_ahead] at hcurrent
    rw [resumeFlush_of_current]
    unfold Turn.recast
    rw [List.map_append]
    exact hcurrent
  · have hr' : (s.ahead k).response ≠ response + k.responses := by
      intro h
      exact hr (Nat.add_right_cancel h)
    rw [resumeFlush_of_over hr, resumeFlush_of_over hr']
    rfl

/-- Feeding. A worker that is started has a later number. -/
theorem feed_ahead (chunk : Text) (canWork : Bool) :
    (s.ahead k).feed chunk canWork =
      ⟨(s.feed chunk canWork).session.ahead k, (s.feed chunk canWork).admitted,
        (s.feed chunk canWork).worker.map (· + k.workers)⟩ := by
  unfold feed
  split
  · rfl
  · dsimp only
    have hpass := pass_ahead k
      { s with
        started := true
        buffer := s.buffer.append chunk
        cursor := (s.buffer.append chunk).text.byteLength }
      (keywordTriggers s.config (unscanned (s.buffer.append chunk).text s.cursor))
    cases canWork with
    | false => exact congrArg (fun passed => (⟨passed.1, passed.2, none⟩ : Fed)) hpass
    | true =>
      have hstart := (recast_ahead k).startWorker
      refine (congrArg (fun passed =>
        (⟨passed.1.startWorker.1, passed.2, passed.1.startWorker.2⟩ : Fed)) hpass).trans ?_
      rw [hstart]
      rfl

theorem reset_ahead : (s.ahead k).reset = s.reset.ahead k := by
  have hresponse : s.response + k.responses + 1 = s.response + 1 + k.responses :=
    Nat.add_right_comm _ _ _
  unfold ahead reset
  rw [hresponse]
  rfl

end Session

end CueStream
