-- Who acts in a slice, and what stays as it is meanwhile. Everything that a
-- slice shows is brought about by the one that acts in it, and the other tasks
-- keep their places.
import CueStream.Proofs.Session.Boundary
import CueStream.Proofs.Session.Play

namespace CueStream

/-! ## Who acts in a slice -/

/-- Who acts in a slice. -/
def Slice.actor (x : Slice) : Actor :=
  x.task?.getD .feeder

namespace Session

theorem actor_workSlice (fails : Trigger → Bool) (id : Nat) (s : Session) (place : WorkerPlace) :
    ∀ e ∈ (s.workSlice fails id place).events, e.actor = .worker id := by
  cases place with
  | going batch =>
    cases batch with
    | nil =>
      rw [workSlice]
      split
      · simp
      · split <;> simp
    | cons segment others =>
      rw [workSlice]
      split <;> simp [Event.actor]
  | waiting segment others => simp [workSlice]
  | told i others =>
    rw [workSlice]
    split
    · simp
    · exact fun e he => actor_of_cues he
  | checking others => simp [workSlice]
  | leaving => simp [workSlice, Event.actor]

theorem actor_flushSlice (fails : Trigger → Bool) (lives : Nat → Bool) (id : Nat) (s : Session)
    (place : FlushPlace) :
    ∀ e ∈ (s.flushSlice fails lives id place).events, e.actor = .flush id := by
  cases place with
  | ready =>
    rw [flushSlice]
    split <;> simp
  | joining worker => simp [flushSlice]
  | draining =>
    rw [flushSlice]
    split <;> simp [Event.actor]
  | asking segment response =>
    rw [flushSlice]
    split <;> simp [Event.actor]
  | waiting segment response => simp [flushSlice]
  | told i response =>
    intro e he
    by_cases hresponse : s.response = response
    · subst hresponse
      rw [flushSlice, resumeFlush_of_current] at he
      rcases List.mem_append.mp he with he | he
      · exact actor_of_cues he
      · rw [List.mem_singleton.mp he]
        rfl
    · rw [flushSlice, resumeFlush_of_over hresponse] at he
      rw [List.mem_singleton.mp he]
      rfl

/-- A worker asks about the segments that it hands over, and about nothing else. -/
theorem callsOf_workSlice (fails : Trigger → Bool) (id : Nat) (s : Session) (place : WorkerPlace) :
    callsOf (s.workSlice fails id place).events =
      questions s.config (segmentsOf (s.workSlice fails id place).events) := by
  cases place with
  | going batch =>
    cases batch with
    | nil =>
      rw [workSlice]
      split
      · rfl
      · split <;> rfl
    | cons segment others =>
      rw [workSlice]
      split
      · rename_i call hcall
        exact (questions_of_some hcall).symm
      · rename_i hcall
        exact (questions_of_none hcall).symm
  | waiting segment others => rfl
  | told i others =>
    rw [workSlice]
    split
    · rfl
    · have hcalls := callsOf_emit fails (.worker id) s i.triggers
      have hsegments := segmentsOf_emit fails (.worker id) s i.triggers
      dsimp only
      rw [hcalls, hsegments]
      rfl
  | checking others => rfl
  | leaving => rfl

theorem callsOf_flushSlice (fails : Trigger → Bool) (lives : Nat → Bool) (id : Nat) (s : Session)
    (place : FlushPlace) :
    callsOf (s.flushSlice fails lives id place).events =
      questions s.config (segmentsOf (s.flushSlice fails lives id place).events) := by
  cases place with
  | ready =>
    rw [flushSlice]
    split <;> rfl
  | joining worker => rfl
  | draining =>
    rw [flushSlice]
    split <;> rfl
  | asking segment response =>
    rw [flushSlice]
    split
    · rename_i call hcall
      exact (questions_of_some hcall).symm
    · rename_i hcall
      exact (questions_of_none hcall).symm
  | waiting segment response => rfl
  | told i response =>
    obtain ⟨hsegments, hcalls⟩ := segmentsOf_resumeFlush fails s id i response
    rw [flushSlice, hcalls, hsegments]
    rfl

theorem grows_workSlice (fails : Trigger → Bool) (id : Nat) (s : Session) (place : WorkerPlace) :
    s.Grows (s.workSlice fails id place).session := by
  refine (sameFrame_workSlice fails id s place).grows ?_
  intro k hk
  cases workSliced fails id s place with
  | revoked _ hsession => rwa [hsession] at hk
  | stays ha hactive _ _ _ => rwa [ha, ← hactive]
  | vain ha _ _ hsession _ | left ha _ hsession _ =>
    rw [hsession, release, if_pos ha] at hk
    cases hk

end Session

namespace Sliced

/-- What a slice shows is brought about by the one that acts in it. -/
theorem actor_step (fails : Trigger → Bool) (w : Sliced) (x : Slice) :
    ∀ e ∈ (w.step fails x).2, e.actor = x.actor := by
  have hspec := step_spec fails w x
  generalize w.step fails x = after at hspec ⊢
  cases hspec with
  | feed chunk canWork => exact fun e he => actor_of_cues he
  | workerTurn hl => exact Session.actor_workSlice fails _ w.session _
  | flushTurn hl => exact Session.actor_flushSlice fails w.lives _ w.session _
  | workerAnswer a hl =>
    intro e he
    rw [List.mem_singleton.mp he]
    rfl
  | flushAnswer a hl =>
    intro e he
    rw [List.mem_singleton.mp he]
    rfl
  | _ => nofun

theorem grows_step (fails : Trigger → Bool) (w : Sliced) (x : Slice) :
    w.session.Grows (w.step fails x).1.session := by
  have hspec := step_spec fails w x
  generalize w.step fails x = after at hspec ⊢
  cases hspec with
  | feed chunk canWork => exact Session.grows_feed _ chunk canWork
  | workerTurn hl => exact Session.grows_workSlice fails _ w.session _
  | @flushTurn id place hl =>
    have hflush := Session.flushSliced fails w.lives id w.session place
    exact hflush.frame.grows fun _ hk => hflush.active ▸ hk
  | reset => exact ⟨rfl, Nat.le_refl _, Nat.le_succ _, fun _ ha => nomatch ha⟩
  | _ => exact ⟨rfl, Nat.le_refl _, Nat.le_refl _, fun _ ha => .inl ha⟩

section Feeding

variable (fails : Trigger → Bool) (w : Sliced) (chunk : Text) (canWork : Bool)

/-- The keywords in fed text are acted out, and that is all that feeding shows. -/
theorem filterMap_feed {α : Type} {f : Event → Option α}
    (hf : ∀ t, f (.delivered .feeder t) = none ∧ f (.broke .feeder t) = none)
    (ha : ∀ t time, f (.admitted .feeder t time) = none) :
    (w.step fails (.feed chunk canWork)).2.filterMap f = [] := by
  show List.filterMap f (_ ++ _) = []
  rw [List.filterMap_append, filterMap_admitted ha, filterMap_deliver hf]
  rfl

theorem segmentsOf_feed : segmentsOf (w.step fails (.feed chunk canWork)).2 = [] :=
  filterMap_feed fails w chunk canWork (fun _ => ⟨rfl, rfl⟩) fun _ _ => rfl

theorem callsOf_feed : callsOf (w.step fails (.feed chunk canWork)).2 = [] :=
  filterMap_feed fails w chunk canWork (fun _ => ⟨rfl, rfl⟩) fun _ _ => rfl

end Feeding

/-- In every slice, the model is asked about the segments that are handed over. -/
theorem callsOf_step (fails : Trigger → Bool) (w : Sliced) (x : Slice) :
    callsOf (w.step fails x).2 = questions w.session.config (segmentsOf (w.step fails x).2) := by
  have hspec := step_spec fails w x
  generalize w.step fails x = after at hspec
  cases hspec with
  | feed chunk canWork =>
    rw [callsOf_feed, segmentsOf_feed]
    rfl
  | workerTurn hl => exact Session.callsOf_workSlice fails _ w.session _
  | flushTurn hl => exact Session.callsOf_flushSlice fails w.lives _ w.session _
  | _ => rfl

/-- What is configured stays through a play. -/
theorem config_play (w : Sliced) (beats : List (Beat Slice)) :
    (w.play beats).1.session.config = w.session.config :=
  play_keeps (P := fun v => v.session.config = w.session.config)
    (fun v fails x h => (grows_step fails v x).config.trans h) rfl beats

/-- In every play, each actor asks the model about the segments that it hands over, in their
order. -/
theorem callsOf_play (w : Sliced) (beats : List (Beat Slice)) (who : Actor → Bool) :
    callsOf (eventsBy who (w.play beats).2) =
      questions w.session.config (segmentsOf (eventsBy who (w.play beats).2)) := by
  induction beats generalizing w with
  | nil => rfl
  | cons b rest ih =>
    simp only [play, eventsBy_append, callsOf_append, segmentsOf_append, questions_append]
    rw [ih, (grows_step b.fails w b.act).config, eventsBy_of_actor (actor_step b.fails w b.act) who]
    split
    · rw [callsOf_step]
    · rfl

end Sliced

/-! ## The tasks of every play -/

/-- The response whose last segment a flush has taken out. -/
def FlushPlace.response? : FlushPlace → Option Nat
  | asking _ response => some response
  | waiting _ response => some response
  | told _ response => some response
  | _ => none

/-- A flush takes the last segment out for the response that is under way, and keeps to it. -/
theorem Session.response?_flushSlice {fails : Trigger → Bool} {lives : Nat → Bool} {id : Nat}
    {s : Session} {place q : FlushPlace}
    (hstage : (s.flushSlice fails lives id place).stage = some q) :
    q.response? = place.response? ∨ place.response? = none ∧ q.response? = some s.response := by
  cases place with
  | ready =>
    rw [flushSlice] at hstage
    split at hstage <;> cases hstage <;> exact .inl rfl
  | joining worker =>
    cases hlives : lives worker <;> simp only [flushSlice, hlives] at hstage <;> cases hstage <;>
      exact .inl rfl
  | draining =>
    have hframe := sameFrame_drain s
    rw [flushSlice] at hstage
    split at hstage
    · cases hstage
    · rename_i drained segment hdrain
      rw [hdrain] at hframe
      cases hstage
      exact .inr ⟨rfl, congrArg some hframe.response⟩
  | asking segment response =>
    rw [flushSlice] at hstage
    split at hstage <;> cases hstage <;> exact .inl rfl
  | waiting segment response =>
    cases hstage
    exact .inl rfl
  | told i response => cases hstage

namespace Sliced

/-- Numbers stand for one task each and are never given out again, the active worker has not ended,
and no flush is ahead of its response. -/
structure Sound (w : Sliced) : Prop where
  workers : Numbered w.session.nextWorker w.workers
  flushes : Numbered w.nextFlush w.flushes
  active_lives : ∀ id, w.session.active = some id → w.lives id = true
  response_le : ∀ e ∈ w.flushes, ∀ response, e.2.response? = some response →
    response ≤ w.session.response

theorem sound_new (config : CueConfig) (clock : Millis) : Sound (new config clock) :=
  ⟨.nil, .nil, nofun, nofun⟩

/-- A change of the session that moves nobody. -/
theorem Sound.withSession {w : Sliced} (h : Sound w) {s : Session}
    (hactive : s.active = w.session.active) (hnext : s.nextWorker = w.session.nextWorker)
    (hresponse : s.response = w.session.response) : Sound { w with session := s } :=
  ⟨hnext ▸ h.workers, h.flushes, hactive ▸ h.active_lives, hresponse ▸ h.response_le⟩

theorem Sound.feed {w : Sliced} (h : Sound w) (fails : Trigger → Bool) (chunk : Text)
    (canWork : Bool) : Sound (w.step fails (.feed chunk canWork)).1 := by
  unfold step
  rcases w.session.feed_places chunk canWork with ⟨hworker, hplaces⟩ | ⟨hworker, -, hsession⟩
  · simp only [hworker, Option.map_none, Option.toList_none, List.append_nil]
    exact h.withSession hplaces.active hplaces.nextWorker hplaces.response
  · have hheard := Session.samePlaces_heard w.session chunk
    simp only [hworker, hsession, Option.map_some, Option.toList_some]
    refine ⟨?_, h.flushes, ?_, ?_⟩
    · show Numbered ((w.session.heard chunk).nextWorker + 1) _
      rw [hheard.nextWorker]
      exact h.workers.concat _
    · intro id ha
      cases ha
      unfold lives
      rw [hheard.nextWorker, List.lookup_append, h.workers.lookup_next]
      simp
    · show ∀ e ∈ w.flushes, ∀ response, e.2.response? = some response →
        response ≤ (w.session.heard chunk).response
      rw [hheard.response]
      exact h.response_le

theorem Sound.workerTurn {w : Sliced} (h : Sound w) (fails : Trigger → Bool) {id : Nat}
    {place : WorkerPlace} (hl : w.workers.lookup id = some place) :
    Sound (w.afterWorker id (w.session.workSlice fails id place)).1 := by
  have hframe := Session.sameFrame_workSlice fails id w.session place
  have hsliced := Session.workSliced fails id w.session place
  generalize w.session.workSlice fails id place = t at hframe hsliced ⊢
  refine ⟨hframe.nextWorker ▸ h.workers.put hl t.stage, h.flushes, ?_, ?_⟩
  · intro k hk
    change t.session.active = some k at hk
    show ((put id t.stage w.workers).lookup k).isSome = true
    cases hsliced with
    | revoked hrevoked hsession =>
      rw [hsession] at hk
      have hne : k ≠ id := fun he => hrevoked (he ▸ hk)
      rw [lookup_put_of_ne hne]
      exact h.active_lives k hk
    | stays _ hactive _ hstage =>
      cases hactive.symm.trans hk
      rw [hstage, lookup_put_some hl]
      rfl
    | vain ha _ _ hsession _ | left ha _ hsession _ =>
      rw [hsession, Session.release, if_pos ha] at hk
      cases hk
  · show ∀ e ∈ w.flushes, ∀ response, e.2.response? = some response →
      response ≤ t.session.response
    rw [hframe.response]
    exact h.response_le

theorem Sound.flushTurn {w : Sliced} (h : Sound w) (fails : Trigger → Bool) {id : Nat}
    {place : FlushPlace} (hl : w.flushes.lookup id = some place) :
    Sound (w.afterFlush id (w.session.flushSlice fails w.lives id place)).1 := by
  have hflush := Session.flushSliced fails w.lives id w.session place
  have hstage := @Session.response?_flushSlice fails w.lives id w.session place
  generalize w.session.flushSlice fails w.lives id place = t at hflush hstage ⊢
  refine ⟨hflush.frame.nextWorker ▸ h.workers, h.flushes.put hl t.stage,
    hflush.active ▸ h.active_lives, ?_⟩
  unfold afterFlush
  simp only [hflush.frame.response]
  refine forall_mem_put h.response_le ?_
  intro q hq response hresponse
  rcases hstage hq with hsame | ⟨-, hcurrent⟩
  · exact h.response_le (id, place) (mem_of_lookup hl) response (hsame ▸ hresponse)
  · cases hcurrent.symm.trans hresponse
    exact Nat.le_refl _

theorem Sound.step {w : Sliced} (h : Sound w) (fails : Trigger → Bool) (x : Slice) :
    Sound (w.step fails x).1 := by
  have hspec := step_spec fails w x
  generalize w.step fails x = after at hspec ⊢
  cases hspec with
  | still => exact h
  | feed chunk canWork => exact h.feed fails chunk canWork
  | flush =>
    refine ⟨h.workers, h.flushes.concat _, h.active_lives,
      List.forall_mem_append.mpr ⟨h.response_le, ?_⟩⟩
    simp [FlushPlace.response?]
  | workerTurn hl => exact h.workerTurn fails hl
  | flushTurn hl => exact h.flushTurn fails hl
  | @workerAnswer id segment others a hl =>
    refine ⟨h.workers.put hl _, h.flushes, ?_, h.response_le⟩
    intro k hk
    unfold lives afterWorker
    by_cases hid : k = id
    · rw [hid, lookup_put_some hl]
      rfl
    · rw [lookup_put_of_ne hid]
      exact h.active_lives k hk
  | @flushAnswer id segment response a hl =>
    refine ⟨h.workers, h.flushes.put hl _, h.active_lives, forall_mem_put h.response_le ?_⟩
    intro q hq
    cases hq
    exact h.response_le (id, .waiting segment response) (mem_of_lookup hl)
  | reset =>
    refine ⟨h.workers, h.flushes, nofun, ?_⟩
    intro e he response hresponse
    exact Nat.le_succ_of_le (h.response_le e he response hresponse)
  | resetGates => exact h.withSession rfl rfl rfl
  | playback c length => exact h.withSession rfl rfl rfl
  | setClock time => exact h.withSession rfl rfl rfl

theorem Sound.play {w : Sliced} (h : Sound w) (beats : List (Beat Slice)) :
    Sound (w.play beats).1 :=
  play_keeps (fun _ fails x hv => hv.step fails x) h beats

/-! ## Other tasks stay at their places -/

section Places

variable {w : Sliced} {fails : Trigger → Bool} {x : Slice} {id : Nat}

theorem lookup_workers_step (hid : id < w.session.nextWorker) (hx : x.task? ≠ some (.worker id)) :
    (w.step fails x).1.workers.lookup id = w.workers.lookup id := by
  have hspec := step_spec fails w x
  generalize w.step fails x = after at hspec ⊢
  cases hspec with
  | feed chunk canWork =>
    unfold step
    rcases w.session.feed_places chunk canWork with ⟨hworker, -⟩ | ⟨hworker, -⟩
    · simp only [hworker, Option.map_none, Option.toList_none, List.append_nil]
    · have hne : (id == w.session.nextWorker) = false := by simpa using Nat.ne_of_lt hid
      simp only [hworker, Option.map_some, Option.toList_some, List.lookup_append,
        List.lookup_cons, hne, List.lookup_nil, Option.or_none]
  | @workerTurn k place hl =>
    refine lookup_put_of_ne ?_ _ _
    rintro rfl
    exact hx rfl
  | @workerAnswer k segment others a hl =>
    refine lookup_put_of_ne ?_ _ _
    rintro rfl
    exact hx rfl
  | _ => rfl

theorem lookup_flushes_step (hid : id < w.nextFlush) (hx : x.task? ≠ some (.flush id)) :
    (w.step fails x).1.flushes.lookup id = w.flushes.lookup id := by
  have hspec := step_spec fails w x
  generalize w.step fails x = after at hspec ⊢
  cases hspec with
  | flush =>
    have hne : (id == w.nextFlush) = false := by simpa using Nat.ne_of_lt hid
    simp only [List.lookup_append, List.lookup_cons, hne, List.lookup_nil, Option.or_none]
  | @flushTurn k place hl =>
    refine lookup_put_of_ne ?_ _ _
    rintro rfl
    exact hx rfl
  | @flushAnswer k segment response a hl =>
    refine lookup_put_of_ne ?_ _ _
    rintro rfl
    exact hx rfl
  | _ => rfl

theorem nextFlush_step : w.nextFlush ≤ (w.step fails x).1.nextFlush := by
  have hspec := step_spec fails w x
  generalize w.step fails x = after at hspec ⊢
  cases hspec with
  | flush => exact Nat.le_succ _
  | _ => exact Nat.le_refl _

end Places

end Sliced

end CueStream
