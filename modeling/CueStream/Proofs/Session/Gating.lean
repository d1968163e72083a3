-- What happens at the gate of one channel. Cues of the other channel make no
-- difference to it, so a move comes to one of four things there: cues arrive,
-- a clip is announced, the clock is set, or the gate is reset.
import CueStream.Proofs.Session.Passing
import CueStream.Proofs.Session.Play

namespace CueStream

/-! ## Cues at one gate -/

namespace Gate

/-- One cue arrives: the gate afterwards, and whether the cue passed. If clips block their channel,
the gate stays closed for the length of the stock clip. -/
def onCue (g : Gate) (block : Bool) (now : Millis) (t : Trigger) : Gate × Bool :=
  if g.allows now then
    (if block then (g.opened now).busy now (now + t.clipMs) else g.opened now, true)
  else (g, false)

/-- Cues arrive, one after the other: the gate afterwards, and the cues that passed. -/
def onCues (g : Gate) (block : Bool) (now : Millis) : List Trigger → Gate × List Trigger
  | [] => (g, [])
  | t :: rest =>
    let (g, passed) := g.onCue block now t
    let (g, others) := g.onCues block now rest
    (g, if passed then t :: others else others)

theorem onCue_of_allows {g : Gate} {now : Millis} (h : g.allows now = true) (block : Bool)
    (t : Trigger) :
    g.onCue block now t =
      (if block then (g.opened now).busy now (now + t.clipMs) else g.opened now, true) :=
  if_pos h

theorem onCue_of_not_allows {g : Gate} {now : Millis} (h : g.allows now = false) (block : Bool)
    (t : Trigger) : g.onCue block now t = (g, false) := by
  unfold onCue
  rw [if_neg (by simp [h])]

end Gate

theorem Gates.set_get (gs : Gates) (c : Channel) : gs.set c (gs.get c) = gs := by
  cases c <;> rfl

/-- The cues on a channel. -/
def onChannel (c : Channel) (ts : List Trigger) : List Trigger :=
  ts.filter (·.channel = c)

theorem onChannel_cons_self (t : Trigger) (ts : List Trigger) :
    onChannel t.channel (t :: ts) = t :: onChannel t.channel ts :=
  List.filter_cons_of_pos (decide_eq_true rfl)

theorem onChannel_cons_of_ne {c : Channel} {t : Trigger} (h : t.channel ≠ c) (ts : List Trigger) :
    onChannel c (t :: ts) = onChannel c ts :=
  List.filter_cons_of_neg (by simpa using h)

namespace Session

/-- A cue that arrives concerns the gate of its own channel alone. -/
theorem passOne_eq (s : Session) (t : Trigger) :
    s.passOne t =
      ({ s with
          gates := s.gates.set t.channel
            ((s.gates.get t.channel).onCue s.config.blockDuringPlayback s.clock t).1 },
        ((s.gates.get t.channel).onCue s.config.blockDuringPlayback s.clock t).2) := by
  unfold passOne
  cases h : (s.gates.get t.channel).allows s.clock with
  | true =>
    rw [Gate.onCue_of_allows h]
    simp only [Gate.tryOpen, h, if_true]
  | false =>
    rw [Gate.onCue_of_not_allows h, Gate.tryOpen_of_not_allows h, Gates.set_get]
    rfl

/-- What passes on a channel, and what becomes of its gate, depends on the cues of that channel
alone. -/
theorem pass_onChannel (s : Session) (ts : List Trigger) (c : Channel) :
    (s.pass ts).1.gates.get c =
        ((s.gates.get c).onCues s.config.blockDuringPlayback s.clock (onChannel c ts)).1 ∧
      onChannel c (s.pass ts).2 =
        ((s.gates.get c).onCues s.config.blockDuringPlayback s.clock (onChannel c ts)).2 := by
  induction ts generalizing s with
  | nil => exact ⟨rfl, rfl⟩
  | cons t rest ih =>
    obtain ⟨hgate, hpassed⟩ := ih (s.passOne t).1
    by_cases hc : t.channel = c
    · subst hc
      rw [onChannel_cons_self]
      simp only [pass, Gate.onCues]
      rw [passOne_eq] at hgate hpassed ⊢
      simp only [Gates.get_set_self] at hgate hpassed ⊢
      refine ⟨hgate, ?_⟩
      split
      · rw [onChannel_cons_self, hpassed]
      · exact hpassed
    · have hother : (s.passOne t).1.gates.get c = s.gates.get c := by
        rw [passOne_eq]
        exact Gates.get_set_of_ne _ _ hc
      have hsame : (s.passOne t).1.config = s.config ∧ (s.passOne t).1.clock = s.clock := by
        rw [passOne_eq]
        exact ⟨rfl, rfl⟩
      rw [hother, hsame.1, hsame.2] at hgate hpassed
      rw [onChannel_cons_of_ne hc]
      simp only [pass]
      refine ⟨hgate, ?_⟩
      split
      · rw [onChannel_cons_of_ne hc, hpassed]
      · exact hpassed

end Session

/-! ## What passed, and when -/

/-- The cue that passed the gate of a channel, and when it did. -/
def Event.admission? (c : Channel) : Event → Option (Trigger × Millis)
  | admitted _ t time => if t.channel = c then some (t, time) else none
  | _ => none

/-- The cues that passed the gate of a channel, in order, and when they did. -/
def admissions (c : Channel) (events : List Event) : List (Trigger × Millis) :=
  events.filterMap (Event.admission? c)

@[simp]
theorem admissions_append (c : Channel) (a b : List Event) :
    admissions c (a ++ b) = admissions c a ++ admissions c b :=
  List.filterMap_append

theorem admissions_of_no_cue (c : Channel) {events : List Event}
    (h : ∀ e ∈ events, e.isCue = false) : admissions c events = [] := by
  refine filterMap_of_no_cue ?_ h
  intro e he
  cases e <;> first | rfl | cases he

theorem admissions_admitted (c : Channel) (a : Actor) (ts : List Trigger) (time : Millis) :
    admissions c (ts.map (Event.admitted a · time)) = (onChannel c ts).map (·, time) := by
  induction ts with
  | nil => rfl
  | cons t rest ih =>
    unfold admissions at ih ⊢
    by_cases hc : t.channel = c
    · have hsome : (Event.admitted a t time).admission? c = some (t, time) := if_pos hc
      subst hc
      rw [onChannel_cons_self, List.map_cons, List.filterMap_cons_some hsome, ih]
      rfl
    · have hnone : (Event.admitted a t time).admission? c = none := if_neg hc
      rw [onChannel_cons_of_ne hc, List.map_cons, List.filterMap_cons_none hnone, ih]

theorem admissions_deliver (c : Channel) (fails : Trigger → Bool) (a : Actor) (ts : List Trigger) :
    admissions c (deliver fails a ts).1 = [] :=
  filterMap_deliver (fun _ => ⟨rfl, rfl⟩) fails ts

namespace Session

variable (c : Channel) (fails : Trigger → Bool) (s : Session)

theorem admissions_emit (a : Actor) (ts : List Trigger) :
    admissions c (s.emit fails a ts).2.1 = (onChannel c (s.pass ts).2).map (·, s.clock) := by
  unfold emit
  simp only [admissions_append, admissions_deliver, admissions_admitted, List.append_nil]

/-- The active worker passes on what the model named, and leaves the gates alone after that. -/
theorem resumeWork_at_gates {s : Session} {id : Nat} (h : s.active = some id) (i : Intent)
    (others : List Segment) :
    (s.resumeWork fails id i others).session.gates = (s.pass i.triggers).1.gates ∧
      admissions c (s.resumeWork fails id i others).events =
        (onChannel c (s.pass i.triggers).2).map (·, s.clock) := by
  rw [resumeWork_of_active h]
  split
  · refine ⟨gates_work _ _ _, ?_⟩
    unfold Turn.after
    rw [admissions_append, admissions_emit, admissions_of_no_cue c (no_cue_work _ _ _),
      List.append_nil]
  · refine ⟨gates_release _ _, ?_⟩
    rw [admissions_append, admissions_emit]
    exact List.append_nil _

end Session

/-! ## One move at one gate -/

/-- What a move comes to at a gate: the gate afterwards, the clock afterwards, and what passed. -/
inductive AtGate (block : Bool) (g : Gate) (now : Millis) (m : Move) :
    Gate → Millis → List (Trigger × Millis) → Prop
  | cues (ts : List Trigger) :
      AtGate block g now m (g.onCues block now ts).1 now ((g.onCues block now ts).2.map (·, now))
  | clip (stop : Millis) : AtGate block g now m (g.busy now stop) now []
  | time {time : Millis} (hm : m.time? = some time) : AtGate block g now m g time []
  | fresh (hm : m = .fullReset) : AtGate block g now m g.reset now []

namespace World

/-- The gate and the clock are as before, and nothing passed. -/
theorem atGate_of_still {block : Bool} {g g' : Gate} {now now' : Millis} {m : Move}
    {passed : List (Trigger × Millis)} (hgate : g' = g) (hclock : now' = now)
    (hpassed : passed = []) : AtGate block g now m g' now' passed := by
  rw [hgate, hclock, hpassed]
  exact .cues []

/-- Cues arrived, and some of them passed. -/
theorem atGate_of_pass {s t : Session} {m : Move} {c : Channel} (ts : List Trigger)
    {passed : List (Trigger × Millis)} (hgates : t.gates = (s.pass ts).1.gates)
    (hclock : t.clock = s.clock)
    (hpassed : passed = (onChannel c (s.pass ts).2).map (·, s.clock)) :
    AtGate s.config.blockDuringPlayback (s.gates.get c) s.clock m (t.gates.get c) t.clock passed := by
  obtain ⟨hgate, hcues⟩ := s.pass_onChannel ts c
  rw [hgates, hclock, hpassed, hgate, hcues]
  exact .cues _

variable (fails : Trigger → Bool) (w : World) (c : Channel)

theorem atGate_feed (chunk : Text) (canWork : Bool) (m : Move) :
    AtGate w.session.config.blockDuringPlayback (w.session.gates.get c) w.session.clock m
      ((w.feed fails chunk canWork).1.session.gates.get c)
      (w.feed fails chunk canWork).1.session.clock
      (admissions c (w.feed fails chunk canWork).2) := by
  by_cases hc : chunk = []
  · subst hc
    exact atGate_of_still rfl rfl rfl
  · have hne : chunk.isEmpty = false := List.isEmpty_eq_false_iff.mpr hc
    have hheard := Session.heard_eq w.session chunk
    have hclock : (w.feed fails chunk canWork).1.session.clock = w.session.clock :=
      clock_step fails w (.feed chunk canWork)
    have hgates : (w.feed fails chunk canWork).1.session.gates =
        (w.session.heard chunk).gates := by
      unfold World.feed
      rcases Session.feed_cases w.session hc canWork with ⟨hs, -⟩ | ⟨hs, -⟩
      · simp only [hs]
      · simp only [hs]
        rfl
    -- the cues pass when the text is in the buffer already
    refine atGate_of_pass (s := { w.session with
        started := true
        buffer := w.session.buffer.append chunk
        cursor := (w.session.buffer.append chunk).text.byteLength }) _ hgates hclock ?_
    unfold World.feed
    simp only [admissions_append, admissions_deliver, admissions_admitted, List.append_nil]
    simp only [Session.feed, hne, Bool.false_eq_true, if_false]

/-- Every move comes to one of four things at a gate. -/
theorem atGate_step (m : Move) :
    AtGate w.session.config.blockDuringPlayback (w.session.gates.get c) w.session.clock m
      ((w.step fails m).1.session.gates.get c) (w.step fails m).1.session.clock
      (admissions c (w.step fails m).2) := by
  have hs := step_spec fails w m
  generalize w.step fails m = r at hs ⊢
  cases hs with
  | still => exact atGate_of_still rfl rfl rfl
  | feed chunk canWork => exact atGate_feed fails w c chunk canWork _
  | flush => exact atGate_of_still rfl rfl rfl
  | @workerTurn id hl =>
    refine atGate_of_still ?_ (Session.sameFrame_work _ _ _).clock
      (admissions_of_no_cue c (Session.no_cue_work _ _ _))
    simp only [afterWorker, Session.gates_work]
  | @workerAnswer id segment others a hl =>
    have hclock := (Session.sameFrame_resumeWork fails id w.session (Classifier.settled a)
      others).clock
    by_cases ha : w.session.active = some id
    · obtain ⟨hgates, hpassed⟩ :=
        Session.resumeWork_at_gates c fails ha (Classifier.settled a) others
      exact atGate_of_pass (Classifier.settled a).triggers hgates hclock hpassed
    · rw [Session.resumeWork_of_revoked ha]
      exact atGate_of_still rfl rfl rfl
  | @flushTurn id stage hl hstage =>
    refine atGate_of_still ?_ (Session.active_startFlush _ _ _).2.2.clock
      (admissions_of_no_cue c (Session.no_cue_startFlush _ _ _))
    simp only [afterFlush, Session.gates_startFlush]
  | @flushAnswer id segment response a hl =>
    by_cases hr : w.session.response = response
    · subst hr
      rw [Session.resumeFlush_of_current]
      refine atGate_of_pass (Classifier.settled a).triggers rfl
        (Session.sameFrame_pass _ _).clock ?_
      simp only [afterFlush, Session.Turn.after, admissions_append, Session.admissions_emit]
      exact List.append_nil _
    · rw [Session.resumeFlush_of_over hr]
      exact atGate_of_still rfl rfl rfl
  | reset => exact atGate_of_still rfl rfl rfl
  | fullReset =>
    cases c with
    | gesture => exact .fresh rfl
    | expression => exact .fresh rfl
  | playback d length =>
    by_cases hd : d = c
    · subst hd
      simp only [Session.playback, Gates.get_set_self]
      exact .clip _
    · refine atGate_of_still ?_ rfl rfl
      exact Gates.get_set_of_ne _ _ hd
  | setClock time => exact .time rfl

end World

/-! ## A whole run at one gate -/

/-- A law about a gate, the clock, and all that has passed the gate so far, which no operation of the
gate breaks. The clock goes as `R` says. -/
structure Gate.Law (block : Bool) (R : Millis → Millis → Prop)
    (P : Gate → Millis → List (Trigger × Millis) → Prop) : Prop where
  cue : ∀ {g now passed} (t : Trigger), P g now passed → g.allows now = true →
    P (g.onCue block now t).1 now (passed ++ [(t, now)])
  clip : ∀ {g now passed} (stop : Millis), P g now passed → P (g.busy now stop) now passed
  time : ∀ {g now passed} (later : Millis), P g now passed → R now later → P g later passed

namespace Gate

variable {block : Bool} {R : Millis → Millis → Prop}
  {P : Gate → Millis → List (Trigger × Millis) → Prop}

theorem Law.cues (h : Law block R P) {g : Gate} {now : Millis} {passed : List (Trigger × Millis)}
    (hp : P g now passed) (ts : List Trigger) :
    P (g.onCues block now ts).1 now (passed ++ (g.onCues block now ts).2.map (·, now)) := by
  induction ts generalizing g passed with
  | nil =>
    rw [onCues, List.map_nil, List.append_nil]
    exact hp
  | cons t rest ih =>
    simp only [onCues]
    cases hallows : g.allows now with
    | true =>
      have hcue := h.cue t hp hallows
      rw [onCue_of_allows hallows] at hcue ⊢
      have := ih hcue
      rwa [List.append_assoc] at this
    | false =>
      rw [onCue_of_not_allows hallows]
      exact ih hp

/-- No move but a full reset breaks the law. -/
theorem Law.step (h : Law block R P) {g g' : Gate} {now now' : Millis} {m : Move}
    {passed others : List (Trigger × Millis)} (hgate : AtGate block g now m g' now' others)
    (hp : P g now passed) (hm : m ≠ .fullReset)
    (htime : ∀ time, m.time? = some time → R now time) : P g' now' (passed ++ others) := by
  cases hgate with
  | cues ts => exact h.cues hp ts
  | clip stop =>
    rw [List.append_nil]
    exact h.clip stop hp
  | time ht =>
    rw [List.append_nil]
    exact h.time _ hp (htime _ ht)
  | fresh hfull => exact absurd hfull hm

/-- Neither does a play without a full reset, on any channel. -/
theorem Law.play {w : World} (h : Law w.session.config.blockDuringPlayback R P) (c : Channel)
    {passed : List (Trigger × Millis)} (hp : P (w.session.gates.get c) w.session.clock passed)
    {beats : List (Beat Move)} (hbeats : .fullReset ∉ acts beats)
    (htimes : (w.session.clock :: (acts beats).filterMap Move.time?).Pairwise R) :
    P ((w.play beats).1.session.gates.get c) (w.play beats).1.session.clock
      (passed ++ admissions c (w.play beats).2) := by
  induction beats generalizing w passed with
  | nil =>
    rw [show admissions c (w.play []).2 = [] from rfl, List.append_nil]
    exact hp
  | cons b rest ih =>
    rw [acts_cons] at hbeats htimes
    obtain ⟨htime, hrest⟩ := World.times_step htimes b.fails
    obtain ⟨hact, hfull⟩ := not_or.mp (List.mem_cons.not.mp hbeats)
    have hstep := h.step (World.atGate_step b.fails w c b.act) hp (Ne.symm hact) htime
    have hconfig := (World.grows_step b.fails w b.act).config
    simp only [World.play, admissions_append]
    rw [← List.append_assoc]
    rw [← hconfig] at h
    exact ih h hstep hfull hrest

end Gate

end CueStream
