-- When nothing holds cues back. Without cooldowns, and with no clip that
-- blocks its channel, every gate stays open as long as the clock does not run
-- backwards, and the receiver gets all that the model names.
import CueStream.Proofs.Session.Outstanding

namespace CueStream

/-! ## Gates that stay open -/

/-- Nothing keeps the gate closed from `now` on. -/
structure Gate.Free (g : Gate) (now : Millis) : Prop where
  window : g.window = 0
  opened : ∀ t, g.openedAt = some t → t ≤ now
  idle : g.busyUntil = none

namespace Gate

theorem Free.allows {g : Gate} {now : Millis} (h : g.Free now) : g.allows now = true := by
  have hrested : g.rested now = true := by
    unfold rested
    rw [h.window]
    cases ht : g.openedAt with
    | none => rfl
    | some t => simp [h.opened t ht]
  unfold Gate.allows Gate.idle
  rw [hrested, h.idle]
  rfl

theorem Free.tryOpen {g : Gate} {now : Millis} (h : g.Free now) :
    (g.tryOpen now).1.Free now := by
  unfold Gate.tryOpen
  rw [if_pos h.allows]
  refine ⟨h.window, ?_, h.idle⟩
  intro t ht
  cases ht
  exact UInt64.le_refl now

theorem Free.later {g : Gate} {now then' : Millis} (h : g.Free now) (hle : now ≤ then') :
    g.Free then' :=
  ⟨h.window, fun t ht => UInt64.le_trans (h.opened t ht) hle, h.idle⟩

theorem Free.reset {g : Gate} {now : Millis} (h : g.Free now) : g.reset.Free now :=
  ⟨h.window, (fun _ ht => nomatch ht), rfl⟩

end Gate

/-- No cue is held back, on any channel. -/
structure Session.Free (s : Session) : Prop where
  unblocked : s.config.blockDuringPlayback = false
  gates : ∀ c, (s.gates.get c).Free s.clock

namespace Session

theorem free_new {config : CueConfig} (hcooldown : ∀ c, config.cooldown c = 0)
    (hblock : config.blockDuringPlayback = false) (clock : Millis) :
    Free (new config clock) := by
  refine ⟨hblock, ?_⟩
  intro c
  cases c with
  | gesture => exact ⟨hcooldown .gesture, (fun _ ht => nomatch ht), rfl⟩
  | expression => exact ⟨hcooldown .expression, (fun _ ht => nomatch ht), rfl⟩

theorem Free.congr {s t : Session} (h : Free s) (hconfig : t.config = s.config)
    (hgates : t.gates = s.gates) (hclock : t.clock = s.clock) : Free t := by
  refine ⟨hconfig ▸ h.unblocked, ?_⟩
  intro c
  rw [hgates, hclock]
  exact h.gates c

/-- A cue passes a gate that is open, and leaves it open. -/
theorem Free.passOne {s : Session} (h : Free s) (t : Trigger) :
    (s.passOne t).2 = true ∧ Free (s.passOne t).1 := by
  have hallows := (h.gates t.channel).allows
  have hopened := (h.gates t.channel).tryOpen
  have hone : s.passOne t =
      ({ s with gates := s.gates.set t.channel ((s.gates.get t.channel).tryOpen s.clock).1 },
        true) := by
    unfold Session.passOne
    simp only [Gate.tryOpen_snd, hallows, h.unblocked]
    simp
  rw [hone]
  refine ⟨rfl, h.unblocked, ?_⟩
  intro c
  by_cases hc : t.channel = c
  · subst hc
    rw [Gates.get_set_self]
    exact hopened
  · rw [Gates.get_set_of_ne _ _ hc]
    exact h.gates c

theorem Free.pass {s : Session} (h : Free s) (ts : List Trigger) :
    (s.pass ts).2 = ts ∧ Free (s.pass ts).1 := by
  induction ts generalizing s with
  | nil => exact ⟨rfl, h⟩
  | cons t rest ih =>
    obtain ⟨hpassed, hfree⟩ := h.passOne t
    obtain ⟨hrest, hlast⟩ := ih hfree
    simp only [Session.pass]
    rw [hpassed, hrest]
    exact ⟨rfl, hlast⟩

end Session

/-! ## Cues that reach the receiver -/

/-- A receiver that never breaks down. -/
def unfailing : Trigger → Bool :=
  fun _ => false

theorem deliver_unfailing (a : Actor) (ts : List Trigger) :
    deliver unfailing a ts = (ts.map (Event.delivered a), true) := by
  induction ts with
  | nil => rfl
  | cons t rest ih =>
    unfold deliver
    rw [ih]
    rfl

theorem cue?_of_no_cue (e : Event) (h : e.isCue = false) : e.cue? = none := by
  cases e <;> first | rfl | cases h

/-- What a task hands over counts as named by the model. -/
theorem cuesOf_delivered {a : Actor} (ha : a ≠ .feeder) (ts : List Trigger) :
    cuesOf (ts.map (Event.delivered a)) = ts := by
  have hcue : Event.cue? ∘ Event.delivered a = some := by
    funext t
    cases a with
    | feeder => exact absurd rfl ha
    | worker id => rfl
    | flush id => rfl
  unfold cuesOf
  rw [List.filterMap_map, hcue, List.filterMap_some]

namespace Session

/-- The receiver takes all that passes. -/
theorem emit_unfailing (a : Actor) (s : Session) (ts : List Trigger) :
    (s.emit unfailing a ts).2.2 = true := by
  unfold emit
  simp only [deliver_unfailing]

theorem cuesOf_emit {a : Actor} (ha : a ≠ .feeder) (s : Session) (ts : List Trigger) :
    cuesOf (s.emit unfailing a ts).2.1 = (s.pass ts).2 := by
  have hnone : cuesOf ((s.pass ts).2.map (Event.admitted a · s.clock)) = [] :=
    filterMap_admitted (fun _ _ => rfl) _ _
  unfold emit
  simp only [deliver_unfailing]
  rw [cuesOf_append, hnone]
  exact cuesOf_delivered ha _

theorem cuesOf_work (id : Nat) (s : Session) (batch : List Segment) :
    cuesOf (s.work id batch).events = [] :=
  filterMap_of_no_cue cue?_of_no_cue (no_cue_work id s batch)

theorem cuesOf_startFlush (lives : Nat → Bool) (id : Nat) (s : Session) :
    cuesOf (s.startFlush lives id).events = [] :=
  filterMap_of_no_cue cue?_of_no_cue (no_cue_startFlush lives id s)

/-- The active worker hands over what passes of what the model named, and goes on. -/
theorem cuesOf_resumeWork {s : Session} {id : Nat} (ha : s.active = some id) (i : Intent)
    (others : List Segment) :
    cuesOf (s.resumeWork unfailing id i others).events = (s.pass i.triggers).2 := by
  rw [resumeWork_of_active ha, emit_unfailing, if_pos rfl]
  unfold Turn.after
  rw [cuesOf_append, cuesOf_emit (by simp), cuesOf_work, List.append_nil]

/-- So does a flush of the response that is under way. -/
theorem cuesOf_resumeFlush (s : Session) (id : Nat) (i : Intent) :
    cuesOf (s.resumeFlush unfailing id i s.response).events = (s.pass i.triggers).2 := by
  rw [resumeFlush_of_current, cuesOf_append, cuesOf_emit (by simp)]
  exact List.append_nil _

theorem Free.resumeWork {s : Session} (h : Free s) {id : Nat} (ha : s.active = some id) (i : Intent)
    (others : List Segment) : Free (s.resumeWork unfailing id i others).session := by
  have hframe := sameFrame_work id (s.pass i.triggers).1 others
  rw [resumeWork_of_active ha, emit_unfailing, if_pos rfl]
  exact (h.pass i.triggers).2.congr hframe.config (gates_work _ _ _) hframe.clock

theorem Free.resumeFlush {s : Session} (h : Free s) (id : Nat) (i : Intent) :
    Free (s.resumeFlush unfailing id i s.response).session := by
  rw [resumeFlush_of_current]
  exact (h.pass i.triggers).2

theorem Free.feed {s : Session} (h : Free s) (chunk : Text) (canWork : Bool) :
    Free (s.feed chunk canWork).session := by
  by_cases hc : chunk = []
  · subst hc
    exact h
  · have hnext : Free { s with
        started := true
        buffer := s.buffer.append chunk
        cursor := (s.buffer.append chunk).text.byteLength } := ⟨h.unblocked, h.gates⟩
    have hheard : Free (s.heard chunk) := (hnext.pass _).2
    rcases feed_cases s hc canWork with ⟨hs, -⟩ | ⟨hs, -⟩
    · rw [hs]
      exact hheard
    · rw [hs]
      exact ⟨hheard.unblocked, hheard.gates⟩

end Session

/-! ## Runs that hold nothing back -/

/-- The time that a move sets the clock to. -/
def Move.time? : Move → Option Millis
  | .setClock time => some time
  | _ => none

/-- The cues that answers name, in order. -/
def named (answers : List Answer) : List Trigger :=
  answers.flatMap fun a => (Classifier.settled a).triggers

namespace World

/-- If everybody who waits for an answer will take it up, the receiver takes what passes the gates of
what the model names. -/
theorem cuesOf_step {w : World}
    (hworkers : ∀ id segment others, (id, .waiting segment others) ∈ w.workers →
      w.session.active = some id)
    (hflushes : ∀ id segment response, (id, .waiting segment response) ∈ w.flushes →
      response = w.session.response) (m : Move) :
    cuesOf (w.step unfailing m).2 =
      (answersOf (w.step unfailing m).2).flatMap
        fun a => (w.session.pass (Classifier.settled a).triggers).2 := by
  have hs := step_spec unfailing w m
  generalize w.step unfailing m = r at hs ⊢
  cases hs with
  | feed chunk canWork =>
    rw [cuesOf_feed, answersOf_feed]
    rfl
  | workerTurn hl =>
    simp only [afterWorker, Session.cuesOf_work, (Session.calls_work _ _ _).2]
    rfl
  | @workerAnswer id segment others a hl =>
    have hactive := hworkers id segment others (mem_of_lookup hl)
    have hcues := Session.cuesOf_resumeWork hactive (Classifier.settled a) others
    have hanswers :=
      (Session.calls_resumeWork unfailing id w.session (Classifier.settled a) others).2
    simp only [afterWorker, Session.Turn.after, cuesOf_append, answersOf_append, hcues, hanswers]
    exact (List.append_nil _).symm
  | flushTurn hl hstage =>
    simp only [afterFlush, Session.cuesOf_startFlush, (Session.calls_startFlush _ _ _).2]
    rfl
  | @flushAnswer id segment response a hl =>
    have hcurrent := hflushes id segment response (mem_of_lookup hl)
    subst hcurrent
    have hcues := Session.cuesOf_resumeFlush w.session id (Classifier.settled a)
    have hanswers := Session.answersOf_resumeFlush unfailing w.session id (Classifier.settled a)
      w.session.response
    simp only [afterFlush, Session.Turn.after, cuesOf_append, answersOf_append, hcues, hanswers]
    exact (List.append_nil _).symm
  | _ => rfl

theorem clock_step (fails : Trigger → Bool) (w : World) (m : Move) :
    (w.step fails m).1.session.clock = m.time?.getD w.session.clock := by
  have hs := step_spec fails w m
  generalize w.step fails m = r at hs ⊢
  cases hs with
  | still m htask => cases m <;> first | rfl | cases htask
  | feed chunk canWork =>
    show (w.session.feed chunk canWork).session.clock = w.session.clock
    by_cases hc : chunk = []
    · subst hc
      rfl
    · have hheard := Session.heard_eq w.session chunk
      rcases Session.feed_cases w.session hc canWork with ⟨hs, -⟩ | ⟨hs, -⟩
      · rw [hs, hheard]
      · rw [hs, hheard]
        rfl
  | workerTurn hl => exact (Session.sameFrame_work _ _ _).clock
  | workerAnswer a hl => exact (Session.sameFrame_resumeWork _ _ _ _ _).clock
  | flushTurn hl hstage => exact (Session.flushed_startFlush _ _ _).frame.clock
  | flushAnswer a hl => exact (Session.flushed_resumeFlush _ _ _ _ _ []).frame.clock
  | _ => rfl

/-- What holds between the clock and all later times holds so after the next move too. -/
theorem times_step {R : Millis → Millis → Prop} {w : World} {m : Move} {rest : List Move}
    (h : (w.session.clock :: (m :: rest).filterMap Move.time?).Pairwise R)
    (fails : Trigger → Bool) :
    (∀ time, m.time? = some time → R w.session.clock time) ∧
      ((w.step fails m).1.session.clock :: rest.filterMap Move.time?).Pairwise R := by
  rw [clock_step]
  cases ht : m.time? with
  | none =>
    rw [List.filterMap_cons_none ht] at h
    exact ⟨(fun _ hnone => nomatch hnone), h⟩
  | some time =>
    rw [List.filterMap_cons_some ht] at h
    obtain ⟨hclock, hrest⟩ := List.pairwise_cons.mp h
    refine ⟨?_, hrest⟩
    intro time' htime
    cases htime
    exact hclock time List.mem_cons_self

/-- As long as the clock goes forward and no clip is announced, nothing holds cues back. -/
theorem free_step {w : World} (h : w.session.Free) {m : Move}
    (hplay : ∀ c length, m ≠ .playback c length)
    (hclock : w.session.clock ≤ (w.step unfailing m).1.session.clock) :
    (w.step unfailing m).1.session.Free := by
  have hs := step_spec unfailing w m
  generalize w.step unfailing m = r at hs hclock ⊢
  cases hs with
  | still => exact h
  | feed chunk canWork => exact h.feed chunk canWork
  | flush => exact h
  | @workerTurn id hl =>
    have hframe := Session.sameFrame_work id w.session []
    exact h.congr hframe.config (Session.gates_work _ _ _) hframe.clock
  | @workerAnswer id segment others a hl =>
    by_cases ha : w.session.active = some id
    · exact h.resumeWork ha (Classifier.settled a) others
    · rw [Session.resumeWork_of_revoked ha]
      exact h
  | @flushTurn id stage hl hstage =>
    have hframe := (Session.active_startFlush w.lives id w.session).2.2
    exact h.congr hframe.config (Session.gates_startFlush _ _ _) hframe.clock
  | @flushAnswer id segment response a hl =>
    by_cases hr : w.session.response = response
    · subst hr
      exact h.resumeFlush id (Classifier.settled a)
    · rw [Session.resumeFlush_of_over hr]
      exact h
  | reset => exact ⟨h.unblocked, h.gates⟩
  | fullReset =>
    refine ⟨h.unblocked, ?_⟩
    intro c
    cases c with
    | gesture => exact (h.gates .gesture).reset
    | expression => exact (h.gates .expression).reset
  | playback c length => exact absurd rfl (hplay c length)
  | setClock time => exact ⟨h.unblocked, fun c => (h.gates c).later hclock⟩

theorem free_run {w : World} (h : w.session.Free) {ms : List Move}
    (hplay : ∀ c length, .playback c length ∉ ms)
    (hclock : (w.session.clock :: ms.filterMap Move.time?).Pairwise (· ≤ ·)) :
    (w.run unfailing ms).1.session.Free := by
  induction ms generalizing w with
  | nil => exact h
  | cons m rest ih =>
    obtain ⟨htime, hrest⟩ := times_step hclock unfailing
    have hforward : w.session.clock ≤ (w.step unfailing m).1.session.clock := by
      rw [clock_step]
      cases ht : m.time? with
      | none => exact UInt64.le_refl _
      | some time => exact htime time ht
    apply ih
    · apply free_step h _ hforward
      rintro c length rfl
      exact hplay c length List.mem_cons_self
    · intro c length hm
      exact hplay c length (List.mem_cons_of_mem m hm)
    · exact hrest

end World

end CueStream
