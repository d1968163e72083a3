-- Within one response no two segments with the same key are handed over, nor
-- one that is too short or has blanks at its ends. A task that a reset has
-- overtaken may still hand one segment over that was noted before the reset, and
-- that one is beside the account of the response.
import CueStream.Proofs.Session.Holding
import CueStream.Proofs.Session.Overtaken

namespace CueStream

/-! ## What tasks hold is proper -/

namespace Session

variable {s : Session} {fails : Trigger → Bool} {segment : Segment}

/-- What a worker hands over or holds after a slice it held before, or it has just drawn it. -/
theorem mem_passedOn_workSlice {id : Nat} {place : WorkerPlace}
    (h : segment ∈ (s.workSlice fails id place).passedOn WorkerPlace.held) :
    segment ∈ place.held ∨ segment ∈ s.draw.2 := by
  cases place with
  | going batch =>
    cases batch with
    | nil =>
      rw [workSlice] at h
      split at h
      · cases h
      · split at h
        · exact .inr h
        · cases h
    | cons first others =>
      rw [workSlice] at h
      split at h <;> exact .inl h
  | waiting first others => exact .inl h
  | told i others =>
    rw [workSlice] at h
    split at h
    · exact .inl h
    · unfold Turn.passedOn at h
      have hevents := segmentsOf_emit fails (.worker id) s i.triggers
      dsimp only at h
      rw [hevents] at h
      split at h
      · exact .inl h
      · cases h
  | checking others =>
    rw [workSlice] at h
    split at h
    · exact .inl h
    · cases h
  | leaving => cases h

/-- So it is with a flush, which takes out one segment at most. -/
theorem mem_passedOn_flushSlice {lives : Nat → Bool} {id : Nat} {place : FlushPlace}
    (h : segment ∈ (s.flushSlice fails lives id place).passedOn FlushPlace.held) :
    segment ∈ place.held ∨ s.drain.2 = some segment := by
  cases place with
  | ready =>
    rw [flushSlice] at h
    split at h <;> cases h
  | joining worker =>
    rw [flushSlice] at h
    split at h <;> cases h
  | draining =>
    rw [flushSlice] at h
    split at h
    · cases h
    · rename_i drained first hdrain
      rw [hdrain]
      rw [List.mem_singleton.mp h]
      exact .inr rfl
  | asking first response =>
    rw [flushSlice] at h
    split at h <;> exact .inl h
  | waiting first response => cases h
  | told i response =>
    have hevents := (segmentsOf_resumeFlush fails s id i response).1
    rw [flushSlice] at h
    unfold Turn.passedOn at h
    dsimp only at h
    rw [hevents] at h
    cases h

end Session

namespace Sliced

/-- The session measures segments as configured, and the tasks hold nothing but proper segments. -/
structure Proper (config : CueConfig) (w : Sliced) : Prop where
  minChars : w.session.buffer.minChars = config.minSegmentChars
  keyChars : w.session.buffer.keyChars = config.keyChars
  workers : ∀ e ∈ w.workers, ∀ segment ∈ e.2.held, segment.IsProper config
  flushes : ∀ e ∈ w.flushes, ∀ segment ∈ e.2.held, segment.IsProper config

namespace Proper

variable {config : CueConfig} {w : Sliced}

theorem new (config : CueConfig) (clock : Millis) : Proper config (new config clock) :=
  ⟨rfl, rfl, nofun, nofun⟩

theorem noted (h : Proper config w) : w.session.Noted config [] :=
  ⟨h.minChars, h.keyChars, ⟨nofun, .nil⟩, nofun⟩

/-- A change of the session that moves nobody and measures segments in the same way. -/
theorem withSession (h : Proper config w) {s : Session}
    (hmin : s.buffer.minChars = w.session.buffer.minChars)
    (hkey : s.buffer.keyChars = w.session.buffer.keyChars) :
    Proper config { w with session := s } :=
  ⟨hmin.trans h.minChars, hkey.trans h.keyChars, h.workers, h.flushes⟩

theorem workerTurn (h : Proper config w) (fails : Trigger → Bool) {id : Nat} {place : WorkerPlace}
    (hl : w.workers.lookup id = some place) :
    Proper config (w.afterWorker id (w.session.workSlice fails id place)).1 ∧
      ∀ segment ∈ segmentsOf (w.session.workSlice fails id place).events,
        segment.IsProper config := by
  have hframe := Session.sameFrame_workSlice fails id w.session place
  have hdrawn := h.noted.draw.unrepeated.proper
  rw [List.append_nil] at hdrawn
  have hpassed (segment : Segment)
      (hm : segment ∈ (w.session.workSlice fails id place).passedOn WorkerPlace.held) :
      segment.IsProper config := by
    rcases Session.mem_passedOn_workSlice hm with hheld | hnew
    · exact h.workers (id, place) (mem_of_lookup hl) segment hheld
    · exact hdrawn segment hnew
  refine ⟨⟨hframe.minChars.trans h.minChars, hframe.keyChars.trans h.keyChars,
    forall_mem_put h.workers ?_, h.flushes⟩, ?_⟩
  · intro q hq segment hm
    refine hpassed segment (List.mem_append_right _ ?_)
    rw [hq]
    exact hm
  · exact fun segment hm => hpassed segment (List.mem_append_left _ hm)

theorem flushTurn (h : Proper config w) (fails : Trigger → Bool) {id : Nat} {place : FlushPlace}
    (hl : w.flushes.lookup id = some place) :
    Proper config (w.afterFlush id (w.session.flushSlice fails w.lives id place)).1 ∧
      ∀ segment ∈ segmentsOf (w.session.flushSlice fails w.lives id place).events,
        segment.IsProper config := by
  have hframe := (Session.flushSliced fails w.lives id w.session place).frame
  have hdrained := h.noted.drain.unrepeated.proper
  rw [List.append_nil] at hdrained
  have hpassed (segment : Segment)
      (hm : segment ∈ (w.session.flushSlice fails w.lives id place).passedOn FlushPlace.held) :
      segment.IsProper config := by
    rcases Session.mem_passedOn_flushSlice hm with hheld | hnew
    · exact h.flushes (id, place) (mem_of_lookup hl) segment hheld
    · exact hdrained segment (by simp [hnew])
  refine ⟨⟨hframe.minChars.trans h.minChars, hframe.keyChars.trans h.keyChars, h.workers,
    forall_mem_put h.flushes ?_⟩, ?_⟩
  · intro q hq segment hm
    refine hpassed segment (List.mem_append_right _ ?_)
    rw [hq]
    exact hm
  · exact fun segment hm => hpassed segment (List.mem_append_left _ hm)

/-- One slice of any kind, and what is handed over in it. -/
theorem step (h : Proper config w) (fails : Trigger → Bool) (x : Slice) :
    Proper config (w.step fails x).1 ∧
      ∀ segment ∈ segmentsOf (w.step fails x).2, segment.IsProper config := by
  have hnone : ∀ segment ∈ ([] : List Segment), segment.IsProper config := List.forall_mem_nil _
  have hspec := step_spec fails w x
  generalize w.step fails x = after at hspec ⊢
  cases hspec with
  | still => exact ⟨h, hnone⟩
  | feed chunk canWork =>
    have hbuffer := w.session.buffer_feed chunk canWork
    rw [segmentsOf_feed]
    refine ⟨⟨?_, ?_, List.forall_mem_append.mpr ⟨h.workers, ?_⟩, h.flushes⟩, hnone⟩
    · show (w.session.feed chunk canWork).session.buffer.minChars = _
      rw [hbuffer]
      exact h.minChars
    · show (w.session.feed chunk canWork).session.buffer.keyChars = _
      rw [hbuffer]
      exact h.keyChars
    · simp [WorkerPlace.held]
  | flush =>
    refine ⟨⟨h.minChars, h.keyChars, h.workers, List.forall_mem_append.mpr ⟨h.flushes, ?_⟩⟩, hnone⟩
    simp [FlushPlace.held]
  | workerTurn hl => exact h.workerTurn fails hl
  | flushTurn hl => exact h.flushTurn fails hl
  | @workerAnswer id segment others a hl =>
    refine ⟨⟨h.minChars, h.keyChars, forall_mem_put h.workers ?_, h.flushes⟩, hnone⟩
    intro q hq
    cases hq
    exact h.workers (id, .waiting segment others) (mem_of_lookup hl)
  | @flushAnswer id segment response a hl =>
    refine ⟨⟨h.minChars, h.keyChars, h.workers, forall_mem_put h.flushes ?_⟩, hnone⟩
    intro q hq other hm
    cases hq
    cases hm
  | reset => exact ⟨h.withSession rfl rfl, hnone⟩
  | resetGates => exact ⟨h.withSession rfl rfl, hnone⟩
  | playback c length => exact ⟨h.withSession rfl rfl, hnone⟩
  | setClock time => exact ⟨h.withSession rfl rfl, hnone⟩

theorem play (h : Proper config w) (beats : List (Beat Slice)) :
    Proper config (w.play beats).1 ∧
      ∀ segment ∈ segmentsOf (w.play beats).2, segment.IsProper config := by
  induction beats generalizing w with
  | nil => exact ⟨h, nofun⟩
  | cons b rest ih =>
    obtain ⟨hnext, hhanded⟩ := h.step b.fails b.act
    obtain ⟨hend, hlater⟩ := ih hnext
    refine ⟨hend, ?_⟩
    simp only [Sliced.play, segmentsOf_append]
    intro segment hm
    rcases List.mem_append.mp hm with hm | hm
    · exact hhanded segment hm
    · exact hlater segment hm

end Proper

/-! ## The account of a response -/

variable {config : CueConfig} {old : List Actor} {handed : List Segment} {w : Sliced}

/-- The segments that were handed over by all but the `old` tasks. -/
def handedBeside (old : List Actor) (events : List Event) : List Segment :=
  segmentsOf (eventsBy (· ∉ old) events)

theorem handedBeside_of_actor {a : Actor} {events : List Event} (h : ∀ e ∈ events, e.actor = a)
    (old : List Actor) : handedBeside old events = if a ∈ old then [] else segmentsOf events := by
  unfold handedBeside
  rw [eventsBy_of_actor h]
  by_cases ha : a ∈ old <;> simp [ha, segmentsOf_nil]

/-- The segments that the active worker and the flushes of the response have taken out and not handed
over. -/
def held (w : Sliced) : List Segment :=
  WorkerPlace.heldBy w.session.active w.workers ++
    inHands (FlushPlace.heldFor w.session.response) w.flushes

/-- The `old` tasks are overtaken. What the others have handed over or hold is noted. -/
structure Accounts (config : CueConfig) (old : List Actor) (handed : List Segment) (w : Sliced) :
    Prop where
  divided : Divided old w
  noted : w.session.Noted config (handed ++ w.held)

namespace Accounts

theorem new (config : CueConfig) (clock : Millis) :
    Accounts config (new config clock).overtaken [] (new config clock) :=
  ⟨(sound_new config clock).divided, Session.noted_new config clock⟩

/-- What was handed over before need not be remembered, and the account can begin afresh. -/
theorem renew (h : Accounts config old handed w) : Accounts config w.overtaken [] w :=
  ⟨h.divided.sound.divided, h.noted.sublist (List.sublist_append_right _ _)⟩

theorem unrepeated (h : Accounts config old handed w) : config.Unrepeated handed :=
  (h.noted.sublist (List.sublist_append_left _ _)).unrepeated

/-- What a reset leaves in the hands of tasks belongs to no response that is under way. -/
theorem reset (h : Accounts config old handed w) :
    Accounts config (w.step unfailing .reset).1.overtaken [] (w.step unfailing .reset).1 := by
  have hflushes : inHands (FlushPlace.heldFor (w.session.response + 1)) w.flushes = [] := by
    refine List.flatMap_eq_nil_iff.mpr fun e he => ?_
    cases hresponse : e.2.response? with
    | none => exact FlushPlace.heldFor_of_none hresponse
    | some r =>
      have hle := h.divided.sound.response_le e he r hresponse
      exact FlushPlace.heldFor_of_over hresponse (by omega)
  refine ⟨(h.divided.sound.step unfailing .reset).divided, ?_⟩
  show w.session.reset.Noted config
    ([] ++ ([] ++ inHands (FlushPlace.heldFor (w.session.response + 1)) w.flushes))
  rw [hflushes]
  exact ⟨h.noted.minChars, h.noted.keyChars, ⟨nofun, .nil⟩, nofun⟩

/-- A new worker begins with empty hands. -/
theorem noted_feed (h : Accounts config old handed w) (fails : Trigger → Bool) (chunk : Text)
    (canWork : Bool) :
    (w.step fails (.feed chunk canWork)).1.session.Noted config
      (handed ++ (w.step fails (.feed chunk canWork)).1.held) := by
  unfold step
  rcases w.session.feed_places chunk canWork with ⟨hworker, hplaces⟩ | ⟨hworker, hidle, hsession⟩
  · have hbuffer := w.session.buffer_feed chunk canWork
    simp only [hworker, Option.map_none, Option.toList_none, List.append_nil]
    unfold held
    simp only [hplaces.active, hplaces.response]
    exact h.noted.congr (by rw [hbuffer]; rfl) (by rw [hbuffer]; rfl)
      (w.session.seen_feed chunk canWork)
  · have hheard := w.session.heard_eq chunk
    have hplaces := Session.samePlaces_heard w.session chunk
    have hself : (w.workers ++ [(w.session.nextWorker, WorkerPlace.going [])]).lookup
        w.session.nextWorker = some (.going []) := by
      rw [List.lookup_append, h.divided.sound.workers.lookup_next]
      simp
    have hnoted := h.noted
    unfold held at hnoted ⊢
    rw [hidle] at hnoted
    simp only [hworker, hsession, Option.map_some, Option.toList_some]
    show Session.Noted config (handed ++
      (WorkerPlace.heldBy (some (w.session.heard chunk).nextWorker) _ ++
        inHands (FlushPlace.heldFor (w.session.heard chunk).response) w.flushes)) _
    rw [hplaces.nextWorker, hplaces.response, WorkerPlace.heldBy_of_lookup hself]
    exact hnoted.congr (by rw [hheard]; rfl) (by rw [hheard]; rfl) (by rw [hheard]; rfl)

/-- A worker that was revoked changes nothing. If it is not old, it hands nothing over either. -/
theorem noted_turn_of_revoked (h : Accounts config old handed w) (fails : Trigger → Bool) {id : Nat}
    (ha : w.session.active ≠ some id) {place : WorkerPlace}
    (hl : w.workers.lookup id = some place) :
    (w.session.workSlice fails id place).session.Noted config
      (handed ++ handedBeside old (w.session.workSlice fails id place).events ++
        (w.afterWorker id (w.session.workSlice fails id place)).1.held) := by
  have hfades := Session.fades_workSlice fails ha place
  have hbeside : handedBeside old (w.session.workSlice fails id place).events = [] := by
    rw [handedBeside_of_actor (Session.actor_workSlice fails id w.session place)]
    split
    · rfl
    · rename_i hnew
      have hidle : place.isEngaged = false := by
        by_contra hengaged
        rcases h.divided.worker (id, place) (mem_of_lookup hl) (by simpa using hengaged) with
          hactive | hold
        · exact ha hactive
        · exact hnew hold
      rw [hfades.handed, WorkerPlace.next?_of_idle hidle]
      rfl
  rw [hbeside, List.append_nil]
  unfold held afterWorker
  simp only [hfades.session, WorkerPlace.heldBy_put ha]
  exact h.noted

/-- The active worker hands over what it holds, or goes on holding it, and is not old. -/
theorem noted_turn_of_active (h : Accounts config old handed w) (fails : Trigger → Bool) {id : Nat}
    (ha : w.session.active = some id) {place : WorkerPlace}
    (hl : w.workers.lookup id = some place) :
    (w.session.workSlice fails id place).session.Noted config
      (handed ++ handedBeside old (w.session.workSlice fails id place).events ++
        (w.afterWorker id (w.session.workSlice fails id place)).1.held) := by
  have hframe := Session.sameFrame_workSlice fails id w.session place
  have hsliced := Session.workSliced fails id w.session place
  have hslice := h.noted
  unfold held at hslice
  rw [ha, WorkerPlace.heldBy_of_lookup hl, ← List.append_assoc] at hslice
  replace hslice := hslice.workSlice fails ha
  rw [handedBeside_of_actor (Session.actor_workSlice fails id w.session place),
    if_neg (h.divided.active_not_mem ha)]
  generalize w.session.workSlice fails id place = t at hframe hslice hsliced ⊢
  have hheld : (WorkerPlace.heldBy t.session.active (put id t.stage w.workers)).Sublist
      ((t.stage.map WorkerPlace.held).getD []) := by
    cases hsliced with
    | revoked hrevoked => exact absurd ha hrevoked
    | stays _ hactive _ hstage =>
      rw [hactive, hstage, WorkerPlace.heldBy_of_lookup (lookup_put_some hl _)]
      exact .refl _
    | vain _ _ _ hsession | left _ _ hsession =>
      rw [hsession, Session.release, if_pos ha]
      exact List.nil_sublist _
  refine hslice.sublist ?_
  unfold Session.Turn.passedOn held afterWorker
  simp only [List.append_assoc, hframe.response]
  exact .append (.refl handed) (.append (.refl _) (.append hheld (.refl _)))

/-- A flush of the response hands over what it holds, or goes on holding it, and is not old. -/
theorem noted_flush_of_current (h : Accounts config old handed w) (fails : Trigger → Bool) {id : Nat}
    {place : FlushPlace} (hl : w.flushes.lookup id = some place)
    (hcurrent : ∀ r, place.response? = some r → r = w.session.response) :
    (w.session.flushSlice fails w.lives id place).session.Noted config
      (handed ++ handedBeside old (w.session.flushSlice fails w.lives id place).events ++
        (w.afterFlush id (w.session.flushSlice fails w.lives id place)).1.held) := by
  have hflush := Session.flushSliced fails w.lives id w.session place
  obtain ⟨rest, hbefore, hafter⟩ := inHands_put (FlushPlace.heldFor w.session.response) hl
  rw [FlushPlace.heldFor_of_current hcurrent] at hbefore
  -- what the flush holds afterwards it holds for the response as well
  have hstage : ((w.session.flushSlice fails w.lives id place).stage.map
      (FlushPlace.heldFor w.session.response)).getD [] =
      ((w.session.flushSlice fails w.lives id place).stage.map FlushPlace.held).getD [] := by
    cases hq : (w.session.flushSlice fails w.lives id place).stage with
    | none => rfl
    | some q =>
      refine FlushPlace.heldFor_of_current fun r hr => ?_
      rcases Session.response?_flushSlice hq with hsame | ⟨-, hnew⟩
      · exact hcurrent r (hsame ▸ hr)
      · exact Option.some.inj (hr.symm.trans hnew)
  have hheld := (hbefore.append_left (WorkerPlace.heldBy w.session.active w.workers)).trans
    (List.perm_append_comm_assoc _ _ _)
  have hnoted := h.noted.perm (hheld.append_left handed)
  rw [← List.append_assoc] at hnoted
  have hslice := hnoted.flushSlice fails w.lives id
  rw [handedBeside_of_actor (Session.actor_flushSlice fails w.lives id w.session place),
    if_neg (h.divided.flush_not_mem hl hcurrent)]
  generalize w.session.flushSlice fails w.lives id place = t at hflush hslice hstage ⊢
  refine hslice.perm ?_
  have hnext := (hafter t.stage).append_left (WorkerPlace.heldBy w.session.active w.workers)
  rw [hstage] at hnext
  unfold Session.Turn.passedOn held afterFlush
  simp only [hflush.active, hflush.frame.response]
  rw [← List.append_assoc handed, List.append_assoc (handed ++ _)]
  exact ((List.perm_append_comm_assoc _ _ _).trans hnext.symm).append_left _

/-- A flush of another response is old, and changes nothing. -/
theorem noted_flush_of_over (h : Accounts config old handed w) (fails : Trigger → Bool) {id r : Nat}
    {place : FlushPlace} (hl : w.flushes.lookup id = some place) (hr : place.response? = some r)
    (hne : r ≠ w.session.response) :
    (w.session.flushSlice fails w.lives id place).session.Noted config
      (handed ++ handedBeside old (w.session.flushSlice fails w.lives id place).events ++
        (w.afterFlush id (w.session.flushSlice fails w.lives id place)).1.held) := by
  have hold : .flush id ∈ old :=
    (h.divided.flush (id, place) (mem_of_lookup hl) r hr).resolve_left hne
  have hfades := Session.fades_flushSlice fails w.lives id hr (Ne.symm hne)
  obtain ⟨rest, hbefore, hafter⟩ := inHands_put (FlushPlace.heldFor w.session.response) hl
  rw [FlushPlace.heldFor_of_over hr hne] at hbefore
  have hstage : ((w.session.flushSlice fails w.lives id place).stage.map
      (FlushPlace.heldFor w.session.response)).getD [] = [] := by
    cases hq : (w.session.flushSlice fails w.lives id place).stage with
    | none => rfl
    | some q =>
      rcases Session.response?_flushSlice hq with hsame | ⟨hnone, -⟩
      · exact FlushPlace.heldFor_of_over (hsame.trans hr) hne
      · cases hnone.symm.trans hr
  have hheld := hbefore.trans ((hstage ▸ hafter _).symm)
  rw [handedBeside_of_actor (Session.actor_flushSlice fails w.lives id w.session place),
    if_pos hold, List.append_nil]
  unfold held afterFlush
  simp only [hfades.session]
  exact h.noted.perm ((hheld.append_left _).append_left _)

/-- An answer leaves the segments where they are. -/
theorem noted_workerAnswer (h : Accounts config old handed w) {id : Nat} {segment : Segment}
    {others : List Segment} (hl : w.workers.lookup id = some (.waiting segment others))
    (i : Intent) :
    w.session.Noted config
      (handed ++ { w with workers := put id (some (.told i others)) w.workers }.held) := by
  have hheld : WorkerPlace.heldBy w.session.active (put id (some (.told i others)) w.workers) =
      WorkerPlace.heldBy w.session.active w.workers := by
    by_cases ha : w.session.active = some id
    · rw [ha, WorkerPlace.heldBy_of_lookup hl,
        WorkerPlace.heldBy_of_lookup (lookup_put_some hl (.told i others))]
      rfl
    · exact WorkerPlace.heldBy_put ha
  unfold held
  simp only [hheld]
  exact h.noted

theorem noted_flushAnswer (h : Accounts config old handed w) {id : Nat} {segment : Segment}
    {response : Nat} (hl : w.flushes.lookup id = some (.waiting segment response)) (i : Intent) :
    w.session.Noted config
      (handed ++ { w with flushes := put id (some (.told i response)) w.flushes }.held) := by
  obtain ⟨rest, hbefore, hafter⟩ := inHands_put (FlushPlace.heldFor w.session.response) hl
  have hheld := hbefore.trans (hafter (some (.told i response))).symm
  exact h.noted.perm ((hheld.append_left _).append_left _)

/-- One slice in which no response begins. -/
theorem step (h : Accounts config old handed w) (fails : Trigger → Bool) {x : Slice}
    (hx : x.isReset = false) :
    Accounts config old (handed ++ handedBeside old (w.step fails x).2) (w.step fails x).1 := by
  refine ⟨h.divided.step fails hx, ?_⟩
  have hstill : w.session.Noted config (handed ++ handedBeside old [] ++ w.held) := by
    rw [show handedBeside old [] = [] from rfl, List.append_nil]
    exact h.noted
  have hspec := step_spec fails w x
  generalize w.step fails x = after at hspec ⊢
  cases hspec with
  | still => exact hstill
  | feed chunk canWork =>
    have hbeside : handedBeside old (w.step fails (.feed chunk canWork)).2 = [] := by
      rw [handedBeside_of_actor (actor_step fails w (.feed chunk canWork)), segmentsOf_feed]
      exact ite_self []
    rw [hbeside, List.append_nil]
    exact h.noted_feed fails chunk canWork
  | flush =>
    have hheld : inHands (FlushPlace.heldFor w.session.response)
        (w.flushes ++ [(w.nextFlush, .ready)]) =
        inHands (FlushPlace.heldFor w.session.response) w.flushes := by
      simp [inHands, FlushPlace.heldFor]
    unfold held at hstill ⊢
    simp only [hheld]
    exact hstill
  | @workerTurn id place hl =>
    by_cases ha : w.session.active = some id
    · exact h.noted_turn_of_active fails ha hl
    · exact h.noted_turn_of_revoked fails ha hl
  | @flushTurn id place hl =>
    cases hresponse : place.response? with
    | none => exact h.noted_flush_of_current fails hl (by simp [hresponse])
    | some r =>
      by_cases hr : r = w.session.response
      · subst hr
        refine h.noted_flush_of_current fails hl fun r hr => ?_
        exact Option.some.inj (hr.symm.trans hresponse)
      · exact h.noted_flush_of_over fails hl hresponse hr
  | @workerAnswer id segment others a hl =>
    have hbeside : handedBeside old [.answered (.worker id) a] = [] := by
      rw [handedBeside_of_actor (a := .worker id) (by simp [Event.actor])]
      exact ite_self []
    show w.session.Noted config (handed ++ handedBeside old [.answered (.worker id) a] ++ _)
    rw [hbeside, List.append_nil]
    exact h.noted_workerAnswer hl (Classifier.settled a)
  | @flushAnswer id segment response a hl =>
    have hbeside : handedBeside old [.answered (.flush id) a] = [] := by
      rw [handedBeside_of_actor (a := .flush id) (by simp [Event.actor])]
      exact ite_self []
    show w.session.Noted config (handed ++ handedBeside old [.answered (.flush id) a] ++ _)
    rw [hbeside, List.append_nil]
    exact h.noted_flushAnswer hl (Classifier.settled a)
  | reset => cases hx
  | resetGates => exact hstill.congr rfl rfl rfl
  | playback c length => exact hstill.congr rfl rfl rfl
  | setClock time => exact hstill.congr rfl rfl rfl

/-- A play in which no response begins. -/
theorem play (h : Accounts config old handed w) {beats : List (Beat Slice)}
    (hbeats : ∀ b ∈ beats, b.act.isReset = false) :
    Accounts config old (handed ++ handedBeside old (w.play beats).2) (w.play beats).1 := by
  induction beats generalizing handed w with
  | nil =>
    rw [show handedBeside old (w.play []).2 = [] from rfl, List.append_nil]
    exact h
  | cons b rest ih =>
    obtain ⟨hb, hrest⟩ := List.forall_mem_cons.mp hbeats
    have hlater := ih (h.step b.fails hb) hrest
    unfold handedBeside at hlater ⊢
    simp only [Sliced.play, eventsBy_append, segmentsOf_append]
    rwa [← List.append_assoc]

/-- Any play. The account begins afresh with each slice. -/
theorem play_on (h : Accounts config w.overtaken [] w) (beats : List (Beat Slice)) :
    Accounts config (w.play beats).1.overtaken [] (w.play beats).1 := by
  refine play_keeps (P := fun v => Accounts config v.overtaken [] v) (fun v fails x hv => ?_) h beats
  cases hx : x.isReset with
  | false => exact (hv.step fails hx).renew
  | true =>
    cases x with
    | reset => exact hv.reset
    | _ => cases hx

end Accounts

/-- In every play, no segment but a proper one is handed over. After it, until a reset comes, no two
of the segments that are handed over have the same key, but for those of overtaken tasks; and each of
these hands over the segment that was next, or none. -/
theorem unrepeated_play (config : CueConfig) (clock : Millis) (before : List (Beat Slice))
    {after : List (Beat Slice)} (hafter : ∀ b ∈ after, b.act.isReset = false) :
    let v := ((new config clock).play before).1
    let events := (v.play after).2
    (∀ segment ∈ segmentsOf events, segment.IsProper config) ∧
      config.Unrepeated (handedBeside v.overtaken events) ∧
      ∀ a ∈ v.overtaken,
        (segmentsOf (eventsBy (· = a) events)).Sublist (v.next? a).toList := by
  intro v events
  have hproper := ((Proper.new config clock).play before).1
  have haccounts : Accounts config v.overtaken [] v := (Accounts.new config clock).play_on before
  refine ⟨(hproper.play after).2, (haccounts.play hafter).unrepeated, ?_⟩
  intro a ha
  rw [← (haccounts.divided.bygone a ha).handed_play haccounts.divided.sound after]
  exact List.sublist_append_left _ _

/-- Where the `old` tasks hand nothing over, it is all handed over beside them. -/
theorem handedBeside_eq {old : List Actor} {events : List Event}
    (h : ∀ a ∈ old, segmentsOf (eventsBy (· = a) events) = []) :
    handedBeside old events = segmentsOf events := by
  unfold handedBeside segmentsOf eventsBy
  rw [List.filterMap_filter]
  refine List.filterMap_congr fun e he => ?_
  split
  · rfl
  · rename_i hold
    have hnone := List.filterMap_eq_nil_iff.mp (h e.actor (by simpa using hold)) e
    exact (hnone (List.mem_filter.mpr ⟨he, by simp⟩)).symm

end Sliced

namespace World

/-- Between two turns no task has a segment that it hands over without a look at the session. -/
theorem next?_sliced (w : World) (a : Actor) : w.sliced.next? a = none := by
  cases a with
  | feeder => rfl
  | worker id =>
    show ((w.workers.map fun e => (e.1, e.2.place)).lookup id).bind WorkerPlace.next? = none
    rw [lookup_map (fun _ => WorkerStage.place)]
    cases w.workers.lookup id with
    | none => rfl
    | some stage => cases stage <;> rfl
  | flush id =>
    show ((w.flushes.map fun e => (e.1, e.2.place)).lookup id).bind FlushPlace.next? = none
    rw [lookup_map (fun _ => FlushStage.place)]
    cases w.flushes.lookup id with
    | none => rfl
    | some stage => cases stage <;> rfl

/-- Between two resets, or before the first one, no two of the segments that are handed over have
the same key, and all are long enough and have no blanks at their ends, whoever hands them over.
Slice by slice there is one exception: a task that the reset has overtaken when it had just taken a
segment out hands that segment over, though the response knows nothing of its key. -/
theorem no_segment_is_handed_over_twice (config : CueConfig) (clock : Millis) :
    (∀ before after : List (Beat Move), (∀ b ∈ after, b.act.isReset = false) →
        config.Unrepeated
          (segmentsOf (((World.new config clock).play before).1.play after).2)) ∧
      ∀ before after : List (Beat Slice), (∀ b ∈ after, b.act.isReset = false) →
        let v := ((Sliced.new config clock).play before).1
        let events := (v.play after).2
        (∀ segment ∈ segmentsOf events, segment.IsProper config) ∧
          config.Unrepeated (segmentsOf (eventsBy (· ∉ v.overtaken) events)) ∧
          (∀ a ∈ v.overtaken,
            (segmentsOf (eventsBy (· = a) events)).Sublist (v.next? a).toList) ∧
          ((∀ a ∈ v.overtaken, v.next? a = none) → config.Unrepeated (segmentsOf events)) := by
  have hslices (before after : List (Beat Slice)) (hafter : ∀ b ∈ after, b.act.isReset = false)
      (hnone : ∀ a ∈ ((Sliced.new config clock).play before).1.overtaken,
        ((Sliced.new config clock).play before).1.next? a = none) :
      config.Unrepeated
        (segmentsOf (((Sliced.new config clock).play before).1.play after).2) := by
    obtain ⟨-, hbeside, hold⟩ := Sliced.unrepeated_play config clock before hafter
    rwa [Sliced.handedBeside_eq] at hbeside
    intro a ha
    have hsub := hold a ha
    rw [hnone a ha] at hsub
    exact List.eq_nil_of_sublist_nil hsub
  constructor
  · intro before after hafter
    obtain ⟨early, hearly, -⟩ := play_in_slices (World.new config clock) before
    obtain ⟨late, hlate, hresets⟩ := play_in_slices ((World.new config clock).play before).1 after
    have hplay := hslices early late (hresets hafter)
    rw [show Sliced.new config clock = (World.new config clock).sliced from rfl, hearly, hlate]
      at hplay
    exact hplay fun a _ => next?_sliced _ a
  · intro before after hafter
    obtain ⟨hproper, hbeside, hold⟩ :=
      Sliced.unrepeated_play config clock before hafter
    exact ⟨hproper, hbeside, hold, hslices before after hafter⟩

/-- A worker still holds a sentence when the reset comes. The same sentence comes twice in the next
response, and two flushes take the rest out. Slice by slice the worker has just drawn when the reset
comes, so it hands its sentence over before the new one comes. -/
theorem rain_is_handed_over_once :
    let config : CueConfig := { gestures := [], expressions := [], keyChars := 4 }
    let snow := "Snow is coming.\nRain is coming.\nMore".toList
    let rain := "Rain is coming.\nRain is here.\nMore to come".toList
    let before : List (Beat Move) :=
      [⟨.feed snow true, unfailing⟩, ⟨.workerTurn 0, unfailing⟩, ⟨.reset, unfailing⟩]
    let after : List (Beat Move) :=
      [⟨.feed rain true, unfailing⟩, ⟨.workerTurn 1, unfailing⟩,
        ⟨.workerAnswer 0 .crash, unfailing⟩, ⟨.flush, unfailing⟩, ⟨.flush, unfailing⟩,
        ⟨.flushTurn 0, unfailing⟩, ⟨.flushTurn 1, unfailing⟩]
    let early : List (Beat Slice) :=
      [⟨.feed rain true, unfailing⟩, ⟨.workerTurn 0, unfailing⟩, ⟨.reset, unfailing⟩]
    let late : List (Beat Slice) :=
      [⟨.feed rain true, unfailing⟩, ⟨.workerTurn 0, unfailing⟩, ⟨.workerTurn 1, unfailing⟩,
        ⟨.workerTurn 1, unfailing⟩, ⟨.workerAnswer 0 .crash, unfailing⟩,
        ⟨.workerTurn 0, unfailing⟩]
    let w := ((World.new config 10000).play before).1
    let v := ((Sliced.new config 10000).play early).1
    let events := (v.play late).2
    ((∀ b ∈ after, b.act.isReset = false) ∧
        (w.workers.map fun e => e.2.others.map Segment.key) = [["Rain".toList]] ∧
        (segmentsOf (w.play after).2).map Segment.key = ["Rain".toList, "More".toList] ∧
        config.Unrepeated (segmentsOf (w.play after).2)) ∧
      (∀ b ∈ late, b.act.isReset = false) ∧ v.overtaken = [.worker 0] ∧
      (v.next? (.worker 0)).map Segment.key = some "Rain".toList ∧
      (segmentsOf events).map Segment.key = ["Rain".toList, "Rain".toList] ∧
      config.Unrepeated (segmentsOf (eventsBy (· ∉ v.overtaken) events)) := by
  intro config snow rain before after early late w v events
  obtain ⟨hturns, hslices⟩ := no_segment_is_handed_over_twice config 10000
  have hafter : ∀ b ∈ after, b.act.isReset = false := by decide +kernel
  have hlate : ∀ b ∈ late, b.act.isReset = false := by decide +kernel
  refine ⟨⟨hafter, ?_, ?_, hturns before after hafter⟩, hlate, ?_, ?_, ?_,
    (hslices early late hlate).2.1⟩
  all_goals decide +kernel

/-- A worker has drawn a sentence when the reset comes, and hands it over after it. The same sentence
comes again, and the next worker hands it over as well. -/
theorem an_overtaken_worker_repeats_a_segment :
    ¬ ∀ (config : CueConfig) (clock : Millis) (before after : List (Beat Slice)),
      (∀ b ∈ after, b.act.isReset = false) →
        config.Unrepeated
          (segmentsOf (((Sliced.new config clock).play before).1.play after).2) := by
  intro h
  let rain := "Rain is coming.\nMore".toList
  have hunrepeated := h { gestures := [], expressions := [] } 10000
    [⟨.feed rain true, unfailing⟩, ⟨.workerTurn 0, unfailing⟩, ⟨.reset, unfailing⟩]
    [⟨.feed rain true, unfailing⟩, ⟨.workerTurn 0, unfailing⟩, ⟨.workerTurn 1, unfailing⟩,
      ⟨.workerTurn 1, unfailing⟩] (by decide +kernel)
  exact absurd hunrepeated.keys (by decide +kernel)

end World

end CueStream
