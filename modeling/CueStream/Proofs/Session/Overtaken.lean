-- What becomes of the tasks that a reset has overtaken. Such a task has no say
-- any more, but it does not know yet: the segment that it has taken out of the
-- buffer it still hands over. Then it looks at the session, and leaves.
import CueStream.Proofs.Session.Acting

namespace CueStream

/-! ## Tasks that a reset has overtaken -/

/-- The segment that a worker hands over next, without a look at the session. -/
def WorkerPlace.next? : WorkerPlace → Option Segment
  | going (segment :: _) => some segment
  | _ => none

/-- The segment that a flush hands over next, without a look at the session. -/
def FlushPlace.next? : FlushPlace → Option Segment
  | asking segment _ => some segment
  | _ => none

/-- The worker is about to hand a segment over, or waits for the model. -/
def WorkerPlace.isEngaged : WorkerPlace → Bool
  | going (_ :: _) => true
  | waiting _ _ => true
  | _ => false

theorem WorkerPlace.next?_of_idle {place : WorkerPlace} (h : place.isEngaged = false) :
    place.next? = none := by
  cases place with
  | going batch =>
    cases batch with
    | nil => rfl
    | cons segment others => cases h
  | _ => rfl

namespace Session

/-- What is left of a task that a reset has overtaken: it leaves the session as it is, brings no cue
about, and hands over the segment that was next, if there was one, and none after it. -/
structure Fades {Place : Type} (next? : Place → Option Segment) (s : Session) (place : Place)
    (t : Turn Place) : Prop where
  session : t.session = s
  cues : ∀ e ∈ t.events, e.isCue = false
  handed : segmentsOf t.events = (next? place).toList
  stage : ∀ q, t.stage = some q → next? q = none

variable {fails : Trigger → Bool} {s : Session}

theorem fades_workSlice (fails : Trigger → Bool) {id : Nat} (h : s.active ≠ some id)
    (place : WorkerPlace) :
    Fades WorkerPlace.next? s place (s.workSlice fails id place) := by
  cases place with
  | going batch =>
    cases batch with
    | nil =>
      rw [workSlice, if_pos h]
      refine ⟨rfl, ?_, rfl, ?_⟩ <;> simp [WorkerPlace.next?]
    | cons segment others =>
      rw [workSlice]
      split
      · refine ⟨rfl, ?_, rfl, ?_⟩ <;> simp [Event.isCue, WorkerPlace.next?]
      · refine ⟨rfl, ?_, rfl, ?_⟩ <;> simp [Event.isCue, WorkerPlace.next?]
  | waiting segment others =>
    refine ⟨rfl, ?_, rfl, ?_⟩ <;> simp [workSlice, WorkerPlace.next?]
  | told i others =>
    rw [workSlice, if_pos h]
    refine ⟨rfl, ?_, rfl, ?_⟩ <;> simp [WorkerPlace.next?]
  | checking others =>
    refine ⟨rfl, ?_, rfl, ?_⟩ <;> simp [workSlice, h, WorkerPlace.next?]
  | leaving =>
    refine ⟨release_of_revoked h, ?_, rfl, ?_⟩ <;> simp [workSlice, Event.isCue]

/-- A worker that was revoked does not become busy again. -/
theorem isEngaged_of_revoked {id : Nat} (h : s.active ≠ some id) {place q : WorkerPlace}
    (hstage : (s.workSlice fails id place).stage = some q) (hq : q.isEngaged = true) :
    place.isEngaged = true := by
  cases place with
  | going batch =>
    cases batch with
    | nil =>
      rw [workSlice, if_pos h] at hstage
      cases hstage
      cases hq
    | cons segment others => rfl
  | waiting segment others => rfl
  | told i others =>
    rw [workSlice, if_pos h] at hstage
    cases hstage
    cases hq
  | checking others =>
    rw [workSlice, if_neg h] at hstage
    cases hstage
    cases hq
  | leaving => cases hstage

theorem fades_flushSlice (fails : Trigger → Bool) (lives : Nat → Bool) (id : Nat) {response : Nat}
    {place : FlushPlace} (hplace : place.response? = some response) (h : s.response ≠ response) :
    Fades FlushPlace.next? s place (s.flushSlice fails lives id place) := by
  cases place with
  | ready => cases hplace
  | joining worker => cases hplace
  | draining => cases hplace
  | asking segment r =>
    rw [flushSlice]
    split
    · refine ⟨rfl, ?_, rfl, ?_⟩ <;> simp [Event.isCue, FlushPlace.next?]
    · refine ⟨rfl, ?_, rfl, ?_⟩ <;> simp [Event.isCue, FlushPlace.next?]
  | waiting segment r =>
    refine ⟨rfl, ?_, rfl, ?_⟩ <;> simp [flushSlice, FlushPlace.next?]
  | told i r =>
    cases hplace
    rw [flushSlice, resumeFlush_of_over h]
    refine ⟨rfl, ?_, rfl, ?_⟩ <;> simp [Event.isCue]

end Session

namespace Sliced

/-! ## What an overtaken task still does -/

/-- The segment that a task hands over next, without a look at the session. -/
def next? (w : Sliced) : Actor → Option Segment
  | .feeder => none
  | .worker id => (w.workers.lookup id).bind WorkerPlace.next?
  | .flush id => (w.flushes.lookup id).bind FlushPlace.next?

/-- The task was started, and a reset has overtaken it: the worker is not the active one any more,
and the flush is over or has the last segment of a response that is over. -/
def Overtaken (w : Sliced) : Actor → Prop
  | .feeder => False
  | .worker id => id < w.session.nextWorker ∧ w.session.active ≠ some id
  | .flush id => id < w.nextFlush ∧ ∀ place, w.flushes.lookup id = some place →
      ∃ response, place.response? = some response ∧ response < w.session.response

/-- No slice brings a task back that was overtaken. -/
theorem Overtaken.step {w : Sliced} {a : Actor} (h : w.Overtaken a) (hw : Sound w)
    (fails : Trigger → Bool) (x : Slice) : (w.step fails x).1.Overtaken a := by
  have hgrows := grows_step fails w x
  cases a with
  | feeder => exact h
  | worker id =>
    obtain ⟨hid, hrevoked⟩ := h
    refine ⟨Nat.lt_of_lt_of_le hid hgrows.next, ?_⟩
    intro hactive
    rcases hgrows.active id hactive with ha | ha
    · exact hrevoked ha
    · omega
  | flush id =>
    obtain ⟨hid, hplace⟩ := h
    refine ⟨Nat.lt_of_lt_of_le hid nextFlush_step, ?_⟩
    intro q hq
    by_cases hx : x.task? = some (.flush id)
    · have hspec := step_spec fails w x
      generalize w.step fails x = after at hspec hgrows hq
      cases hspec with
      | still => exact hplace q hq
      | @flushTurn k place hl =>
        cases hx
        obtain ⟨response, hresponse, hlt⟩ := hplace place hl
        have hput := lookup_put_self
          (v := (w.session.flushSlice fails w.lives id place).stage) hw.flushes.nodup
          (Option.isSome_of_eq_some hl)
        rcases Session.response?_flushSlice (hput.symm.trans hq) with hsame | ⟨hnone, -⟩
        · exact ⟨response, hsame.trans hresponse, Nat.lt_of_lt_of_le hlt hgrows.response⟩
        · cases hnone.symm.trans hresponse
      | @flushAnswer k segment response a hl =>
        cases hx
        obtain ⟨r, hr, hlt⟩ := hplace _ hl
        cases hr
        cases (lookup_put_some hl _).symm.trans hq
        exact ⟨response, rfl, hlt⟩
      | _ => cases hx
    · rw [lookup_flushes_step hid hx] at hq
      obtain ⟨response, hresponse, hlt⟩ := hplace q hq
      exact ⟨response, hresponse, Nat.lt_of_lt_of_le hlt hgrows.response⟩

/-- In a slice of its own, an overtaken task leaves the session alone and brings no cue about; and
what it has handed over and hands over next is what it was to hand over next. -/
theorem Overtaken.turn {w : Sliced} {a : Actor} (h : w.Overtaken a) (hw : Sound w)
    (fails : Trigger → Bool) {x : Slice} (hx : x.task? = some a) :
    (w.step fails x).1.session = w.session ∧ (∀ e ∈ (w.step fails x).2, e.isCue = false) ∧
      segmentsOf (w.step fails x).2 ++ ((w.step fails x).1.next? a).toList =
        (w.next? a).toList := by
  have hspec := step_spec fails w x
  generalize w.step fails x = after at hspec ⊢
  cases hspec with
  | still => exact ⟨rfl, nofun, rfl⟩
  | @workerTurn id place hl =>
    cases hx
    have hfades := Session.fades_workSlice fails h.2 place
    generalize w.session.workSlice fails id place = t at hfades ⊢
    refine ⟨hfades.session, hfades.cues, ?_⟩
    have hput := lookup_put_self (v := t.stage) hw.workers.nodup (Option.isSome_of_eq_some hl)
    have hnext : (w.afterWorker id t).1.next? (.worker id) = none := by
      simp only [next?, afterWorker, hput]
      exact Option.bind_eq_none_iff.mpr hfades.stage
    rw [hnext]
    simp only [next?, hl, afterWorker, hfades.handed, Option.bind_some, Option.toList_none,
      List.append_nil]
  | @flushTurn id place hl =>
    cases hx
    obtain ⟨response, hresponse, hlt⟩ := h.2 place hl
    have hfades := Session.fades_flushSlice fails w.lives id hresponse (Nat.ne_of_gt hlt)
    generalize w.session.flushSlice fails w.lives id place = t at hfades ⊢
    refine ⟨hfades.session, hfades.cues, ?_⟩
    have hput := lookup_put_self (v := t.stage) hw.flushes.nodup (Option.isSome_of_eq_some hl)
    have hnext : (w.afterFlush id t).1.next? (.flush id) = none := by
      simp only [next?, afterFlush, hput]
      exact Option.bind_eq_none_iff.mpr hfades.stage
    rw [hnext]
    simp only [next?, hl, afterFlush, hfades.handed, Option.bind_some, Option.toList_none,
      List.append_nil]
  | @workerAnswer id segment others a hl =>
    cases hx
    refine ⟨rfl, by simp [afterWorker, Event.isCue], ?_⟩
    simp only [next?, afterWorker, hl, lookup_put_some hl]
    rfl
  | @flushAnswer id segment response a hl =>
    cases hx
    refine ⟨rfl, by simp [afterFlush, Event.isCue], ?_⟩
    simp only [next?, afterFlush, hl, lookup_put_some hl]
    rfl
  | _ => cases hx

/-- A task that was started hands over next what it was to, whatever the others do. -/
theorem Overtaken.next?_step {w : Sliced} {a : Actor} (h : w.Overtaken a) (fails : Trigger → Bool)
    {x : Slice} (hx : x.task? ≠ some a) : (w.step fails x).1.next? a = w.next? a := by
  cases a with
  | feeder => rfl
  | worker id => simp only [next?, lookup_workers_step h.1 hx]
  | flush id => simp only [next?, lookup_flushes_step h.1 hx]

/-- In any slice, what an overtaken task has handed over and hands over next is what it was to hand
over next. -/
theorem Overtaken.handed_step {w : Sliced} {a : Actor} (h : w.Overtaken a) (hw : Sound w)
    (fails : Trigger → Bool) (x : Slice) :
    segmentsOf (eventsBy (· = a) (w.step fails x).2) ++ ((w.step fails x).1.next? a).toList =
      (w.next? a).toList := by
  rw [eventsBy_of_actor (actor_step fails w x)]
  by_cases hx : x.task? = some a
  · have hactor : x.actor = a := by
      unfold Slice.actor
      rw [hx]
      rfl
    simp only [hactor, decide_true, if_true]
    exact (h.turn hw fails hx).2.2
  · have hactor : x.actor ≠ a := by
      unfold Slice.actor
      rintro rfl
      cases htask : x.task? with
      | none =>
        rw [htask] at h
        exact h
      | some b =>
        rw [htask] at hx
        exact hx rfl
    simp only [hactor, decide_false, Bool.false_eq_true, if_false, segmentsOf_nil, List.nil_append]
    rw [h.next?_step fails hx]

/-- So it is in every play: an overtaken task hands over the segment that was next, if there was
one, and none after it. -/
theorem Overtaken.handed_play {w : Sliced} {a : Actor} (h : w.Overtaken a) (hw : Sound w)
    (beats : List (Beat Slice)) :
    segmentsOf (eventsBy (· = a) (w.play beats).2) ++ ((w.play beats).1.next? a).toList =
      (w.next? a).toList := by
  induction beats generalizing w with
  | nil => rfl
  | cons b rest ih =>
    have hstep := h.handed_step hw b.fails b.act
    have hlater := ih (h.step hw b.fails b.act) (hw.step b.fails b.act)
    simp only [play, eventsBy_append, segmentsOf_append]
    rw [List.append_assoc, hlater, hstep]

/-- However a play goes on, the task leaves the session as it is and brings no cue about. -/
def Inert (w : Sliced) (a : Actor) : Prop :=
  ∀ (beats : List (Beat Slice)) (b : Beat Slice), b.act.task? = some a →
    ((w.play beats).1.step b.fails b.act).1.session = (w.play beats).1.session ∧
      ∀ e ∈ ((w.play beats).1.step b.fails b.act).2, e.isCue = false

theorem Overtaken.inert {w : Sliced} {a : Actor} (h : w.Overtaken a) (hw : Sound w) :
    Inert w a := by
  intro beats b hb
  have hkeeps (v : Sliced) (fails : Trigger → Bool) (x : Slice) (hv : Sound v ∧ v.Overtaken a) :
      Sound (v.step fails x).1 ∧ (v.step fails x).1.Overtaken a :=
    ⟨hv.1.step fails x, hv.2.step hv.1 fails x⟩
  obtain ⟨hsound, hover⟩ := play_keeps hkeeps ⟨hw, h⟩ beats
  obtain ⟨hsession, hcues, -⟩ := hover.turn hsound b.fails hb
  exact ⟨hsession, hcues⟩

/-! ## Old tasks and those of the response -/

/-- The tasks that a reset has overtaken and that have not ended yet. -/
def overtaken (w : Sliced) : List Actor :=
  tasks (fun e => w.session.active ≠ some e.1)
    (fun e => e.2.response?.any (· ≠ w.session.response)) w.workers w.flushes

theorem Sound.overtaken_of_mem {w : Sliced} (hw : Sound w) {a : Actor} (h : a ∈ w.overtaken) :
    w.Overtaken a := by
  cases a with
  | feeder => exact feeder_not_mem_tasks h
  | worker id =>
    obtain ⟨place, hm, hrevoked⟩ := worker_mem_tasks.mp h
    exact ⟨hw.workers.lt _ hm, by simpa using hrevoked⟩
  | flush id =>
    obtain ⟨place, hm, hover⟩ := flush_mem_tasks.mp h
    refine ⟨hw.flushes.lt _ hm, ?_⟩
    intro q hq
    cases (lookup_of_mem hw.flushes.nodup hm).symm.trans hq
    obtain ⟨response, hresponse, hne⟩ := (Option.any_eq_true _ _).mp hover
    have hle := hw.response_le _ hm response hresponse
    exact ⟨response, hresponse, Nat.lt_of_le_of_ne hle (by simpa using hne)⟩

/-- The `old` tasks are overtaken. Of the others, only the active worker is busy with a segment, and
a flush that has taken a last segment out has taken it out of the response that is under way. -/
structure Divided (old : List Actor) (w : Sliced) : Prop where
  sound : Sound w
  bygone : ∀ a ∈ old, w.Overtaken a
  worker : ∀ e ∈ w.workers, e.2.isEngaged = true →
    w.session.active = some e.1 ∨ .worker e.1 ∈ old
  flush : ∀ e ∈ w.flushes, ∀ response, e.2.response? = some response →
    response = w.session.response ∨ .flush e.1 ∈ old

theorem Sound.divided {w : Sliced} (h : Sound w) : Divided w.overtaken w := by
  refine ⟨h, fun a ha => h.overtaken_of_mem ha, ?_, ?_⟩
  · intro e he _
    by_cases hactive : w.session.active = some e.1
    · exact .inl hactive
    · exact .inr (worker_mem_tasks.mpr ⟨e.2, he, by simpa using hactive⟩)
  · intro e he response hresponse
    by_cases hcurrent : response = w.session.response
    · exact .inl hcurrent
    · refine .inr (flush_mem_tasks.mpr ⟨e.2, he, ?_⟩)
      simp [hresponse, hcurrent]

namespace Divided

variable {old : List Actor} {w : Sliced}

/-- The active worker was not overtaken. -/
theorem active_not_mem (h : Divided old w) {id : Nat} (ha : w.session.active = some id) :
    .worker id ∉ old :=
  fun hm => (h.bygone _ hm).2 ha

/-- Nor was a flush that goes on with the response that is under way. -/
theorem flush_not_mem (h : Divided old w) {id : Nat} {place : FlushPlace}
    (hl : w.flushes.lookup id = some place)
    (hcurrent : ∀ response, place.response? = some response → response = w.session.response) :
    .flush id ∉ old := by
  intro hm
  obtain ⟨response, hresponse, hlt⟩ := (h.bygone _ hm).2 place hl
  have hsame := hcurrent response hresponse
  omega

theorem feed (h : Divided old w) (fails : Trigger → Bool) (chunk : Text) (canWork : Bool) :
    Divided old (w.step fails (.feed chunk canWork)).1 := by
  have hsound := h.sound.feed fails chunk canWork
  have hover := fun a ha => (h.bygone a ha).step h.sound fails (.feed chunk canWork)
  have hplaces := Session.samePlaces_heard w.session chunk
  unfold step at hsound hover ⊢
  rcases w.session.feed_places chunk canWork with ⟨hworker, hsame⟩ | ⟨hworker, hidle, hsession⟩
  · simp only [hworker, Option.map_none, Option.toList_none, List.append_nil] at hsound hover ⊢
    exact ⟨hsound, hover, hsame.active ▸ h.worker, hsame.response ▸ h.flush⟩
  · simp only [hworker, hsession, Option.map_some, Option.toList_some] at hsound hover ⊢
    refine ⟨hsound, hover, List.forall_mem_append.mpr ⟨?_, ?_⟩, ?_⟩
    · intro e he hengaged
      refine .inr ((h.worker e he hengaged).resolve_left ?_)
      rw [hidle]
      nofun
    · simp [WorkerPlace.isEngaged]
    · show ∀ e ∈ w.flushes, ∀ response, e.2.response? = some response →
        response = (w.session.heard chunk).response ∨ .flush e.1 ∈ old
      rw [hplaces.response]
      exact h.flush

theorem workerTurn (h : Divided old w) (fails : Trigger → Bool) {id : Nat} {place : WorkerPlace}
    (hl : w.workers.lookup id = some place)
    (hover : ∀ a ∈ old, (w.afterWorker id (w.session.workSlice fails id place)).1.Overtaken a) :
    Divided old (w.afterWorker id (w.session.workSlice fails id place)).1 := by
  have hframe := Session.sameFrame_workSlice fails id w.session place
  have hsliced := Session.workSliced fails id w.session place
  refine ⟨h.sound.workerTurn fails hl, hover, ?_, ?_⟩
  · intro e he hengaged
    show (w.session.workSlice fails id place).session.active = some e.1 ∨ _
    by_cases ha : w.session.active = some id
    · -- the others are idle or old; the active worker itself is not busy when it gives up its place
      rcases mem_put_cases h.sound.workers.nodup (Option.isSome_of_eq_some hl) he with
        ⟨he, hne⟩ | ⟨q, hq, rfl⟩
      · rcases h.worker e he hengaged with hactive | hold
        · exact absurd (Option.some.inj (ha.symm.trans hactive)).symm hne
        · exact .inr hold
      · cases hsliced with
        | revoked hrevoked => exact absurd ha hrevoked
        | stays _ hactive => exact .inl hactive
        | vain _ _ _ _ hstage =>
          cases hq.symm.trans hstage
          cases hengaged
        | left _ _ _ hstage => cases hq.symm.trans hstage
    · rw [Session.workSlice_of_revoked fails ha place]
      refine forall_mem_put h.worker ?_ e he hengaged
      intro q hq hengaged
      exact h.worker (id, place) (mem_of_lookup hl) (Session.isEngaged_of_revoked ha hq hengaged)
  · show ∀ e ∈ w.flushes, ∀ response, e.2.response? = some response →
      response = (w.session.workSlice fails id place).session.response ∨ .flush e.1 ∈ old
    rw [hframe.response]
    exact h.flush

theorem flushTurn (h : Divided old w) (fails : Trigger → Bool) {id : Nat} {place : FlushPlace}
    (hl : w.flushes.lookup id = some place)
    (hover : ∀ a ∈ old,
      (w.afterFlush id (w.session.flushSlice fails w.lives id place)).1.Overtaken a) :
    Divided old (w.afterFlush id (w.session.flushSlice fails w.lives id place)).1 := by
  have hflush := Session.flushSliced fails w.lives id w.session place
  refine ⟨h.sound.flushTurn fails hl, hover, hflush.active ▸ h.worker, ?_⟩
  unfold afterFlush
  simp only [hflush.frame.response]
  refine forall_mem_put h.flush ?_
  intro q hq response hresponse
  rcases Session.response?_flushSlice hq with hsame | ⟨-, hcurrent⟩
  · exact h.flush (id, place) (mem_of_lookup hl) response (hsame ▸ hresponse)
  · exact .inl (Option.some.inj (hresponse.symm.trans hcurrent))

/-- One slice in which no response begins. -/
theorem step (h : Divided old w) (fails : Trigger → Bool) {x : Slice} (hx : x.isReset = false) :
    Divided old (w.step fails x).1 := by
  have hsound := h.sound.step fails x
  have hover := fun a ha => (h.bygone a ha).step h.sound fails x
  have hspec := step_spec fails w x
  generalize w.step fails x = after at hspec hsound hover ⊢
  cases hspec with
  | still => exact h
  | feed chunk canWork => exact h.feed fails chunk canWork
  | flush =>
    refine ⟨hsound, hover, h.worker, List.forall_mem_append.mpr ⟨h.flush, ?_⟩⟩
    simp [FlushPlace.response?]
  | workerTurn hl => exact h.workerTurn fails hl hover
  | flushTurn hl => exact h.flushTurn fails hl hover
  | @workerAnswer id segment others a hl =>
    refine ⟨hsound, hover, forall_mem_put h.worker ?_, h.flush⟩
    intro q hq hengaged
    cases hq
    cases hengaged
  | @flushAnswer id segment response a hl =>
    refine ⟨hsound, hover, h.worker, forall_mem_put h.flush ?_⟩
    intro q hq
    cases hq
    exact h.flush (id, .waiting segment response) (mem_of_lookup hl)
  | reset => cases hx
  | resetGates => exact ⟨hsound, hover, h.worker, h.flush⟩
  | playback c length => exact ⟨hsound, hover, h.worker, h.flush⟩
  | setClock time => exact ⟨hsound, hover, h.worker, h.flush⟩

/-- A play in which no response begins. -/
theorem play (h : Divided old w) {beats : List (Beat Slice)}
    (hbeats : ∀ b ∈ beats, b.act.isReset = false) : Divided old (w.play beats).1 := by
  induction beats generalizing w with
  | nil => exact h
  | cons b rest ih =>
    obtain ⟨hb, hrest⟩ := List.forall_mem_cons.mp hbeats
    exact ih (h.step b.fails hb) hrest

end Divided

end Sliced

end CueStream
