-- The two channels are apart. Two runs that differ in the lexicon, the cooldown
-- and the clips of one channel, and in what the model says about it, look the
-- same to somebody who watches the other channel only.
import CueStream.Proofs.Session.Alike

namespace CueStream

/-! ## Moves that are alike -/

/-- The same move, up to what an answer says about the other channel. -/
inductive Move.AlikeOn (c : Channel) : Move → Move → Prop
  | same (m : Move) : AlikeOn c m m
  | workerAnswer (id : Nat) {a b : Answer}
      (h : (Classifier.settled b).cue? c = (Classifier.settled a).cue? c) :
      AlikeOn c (.workerAnswer id a) (.workerAnswer id b)
  | flushAnswer (id : Nat) {a b : Answer}
      (h : (Classifier.settled b).cue? c = (Classifier.settled a).cue? c) :
      AlikeOn c (.flushAnswer id a) (.flushAnswer id b)

/-- The same moves one after the other, up to clips that are announced for the other channel. -/
inductive MovesAlikeOn (c : Channel) : List Move → List Move → Prop
  | nil : MovesAlikeOn c [] []
  | move {m m' : Move} {ms ms' : List Move} (h : m.AlikeOn c m') (rest : MovesAlikeOn c ms ms') :
      MovesAlikeOn c (m :: ms) (m' :: ms')
  | left {d : Channel} (h : d ≠ c) (length : Millis) {ms ms' : List Move}
      (rest : MovesAlikeOn c ms ms') : MovesAlikeOn c (.playback d length :: ms) ms'
  | right {d : Channel} (h : d ≠ c) (length : Millis) {ms ms' : List Move}
      (rest : MovesAlikeOn c ms ms') : MovesAlikeOn c ms (.playback d length :: ms')

/-- Two worlds with the same tasks that differ at most in the other channel. -/
structure World.AlikeOn (c : Channel) (w v : World) : Prop where
  session : w.session.AlikeOn c v.session
  rest : v = { w with session := v.session }

/-! ## What can be seen of moves -/

/-- What can be seen of a move: its events, and the buffer and the phase afterwards. -/
structure Sight where
  events : List Event
  buffered : Text
  phase : Phase
  deriving DecidableEq, Repr

/-- The move announces a clip for another channel. -/
def Move.isAside (c : Channel) : Move → Bool
  | .playback d _ => d ≠ c
  | _ => false

/-- What can be seen of moves, one after the other, apart from clips that are announced for the
other channel. -/
def World.sights (fails : Trigger → Bool) (c : Channel) (w : World) : List Move → List Sight
  | [] => []
  | m :: rest =>
    let (v, events) := w.step fails m
    let later := v.sights fails c rest
    if m.isAside c then later
    else ⟨visible c events, v.session.buffer.text, v.session.phase⟩ :: later

/-! ## Two worlds -/

namespace World

namespace AlikeOn

variable {c : Channel} {w v : World}

theorem workers (h : w.AlikeOn c v) : v.workers = w.workers := by
  rw [h.rest]

theorem flushes (h : w.AlikeOn c v) : v.flushes = w.flushes := by
  rw [h.rest]

theorem lives (h : w.AlikeOn c v) : v.lives = w.lives := by
  rw [h.rest]
  rfl

/-- What changes only the sessions, and keeps them alike. -/
theorem session_only (h : w.AlikeOn c v) {s t : Session} (hst : s.AlikeOn c t) :
    AlikeOn c { w with session := s } { v with session := t } := by
  refine ⟨hst, ?_⟩
  rw [h.rest]

theorem afterWorker (h : w.AlikeOn c v) (id : Nat) {t u : Session.Turn WorkerStage}
    (htu : t.AlikeOn c u) :
    (w.afterWorker id t).1.AlikeOn c (v.afterWorker id u).1 ∧
      visible c (v.afterWorker id u).2 = visible c (w.afterWorker id t).2 := by
  refine ⟨⟨htu.session, ?_⟩, htu.events⟩
  unfold World.afterWorker
  rw [h.rest, htu.stage]

theorem afterFlush (h : w.AlikeOn c v) (id : Nat) {t u : Session.Turn FlushStage}
    (htu : t.AlikeOn c u) :
    (w.afterFlush id t).1.AlikeOn c (v.afterFlush id u).1 ∧
      visible c (v.afterFlush id u).2 = visible c (w.afterFlush id t).2 := by
  refine ⟨⟨htu.session, ?_⟩, htu.events⟩
  unfold World.afterFlush
  rw [h.rest, htu.stage]

theorem feed (h : w.AlikeOn c v) {fails : Trigger → Bool} (hfails : Reliable fails c)
    (chunk : Text) (canWork : Bool) :
    (w.feed fails chunk canWork).1.AlikeOn c (v.feed fails chunk canWork).1 ∧
      visible c (v.feed fails chunk canWork).2 = visible c (w.feed fails chunk canWork).2 := by
  obtain ⟨hsession, hadmitted, hworker⟩ := h.session.feed chunk canWork
  refine ⟨⟨hsession, ?_⟩, ?_⟩
  · simp only [World.feed, hworker]
    rw [h.rest]
  · simp only [World.feed, visible_append, visible_admitted]
    rw [(deliver_onChannel hfails .feeder _).1, (deliver_onChannel hfails .feeder _).1, hadmitted,
      h.session.clock]

theorem workerAnswer (h : w.AlikeOn c v) {fails : Trigger → Bool} (hfails : Reliable fails c)
    (id : Nat) {a b : Answer}
    (hab : (Classifier.settled b).cue? c = (Classifier.settled a).cue? c) :
    (w.step fails (.workerAnswer id a)).1.AlikeOn c (v.step fails (.workerAnswer id b)).1 ∧
      visible c (v.step fails (.workerAnswer id b)).2 =
        visible c (w.step fails (.workerAnswer id a)).2 := by
  simp only [World.step, h.workers]
  split
  · exact h.afterWorker id ((h.session.resumeWork hfails id hab _).after rfl)
  · exact ⟨h, rfl⟩

theorem flushAnswer (h : w.AlikeOn c v) {fails : Trigger → Bool} (hfails : Reliable fails c)
    (id : Nat) {a b : Answer}
    (hab : (Classifier.settled b).cue? c = (Classifier.settled a).cue? c) :
    (w.step fails (.flushAnswer id a)).1.AlikeOn c (v.step fails (.flushAnswer id b)).1 ∧
      visible c (v.step fails (.flushAnswer id b)).2 =
        visible c (w.step fails (.flushAnswer id a)).2 := by
  simp only [World.step, h.flushes]
  split
  · exact h.afterFlush id ((h.session.resumeFlush hfails id hab _).after rfl)
  · exact ⟨h, rfl⟩

/-- One move. -/
theorem step (h : w.AlikeOn c v) {fails : Trigger → Bool} (hfails : Reliable fails c)
    {m m' : Move} (hm : m.AlikeOn c m') :
    (w.step fails m).1.AlikeOn c (v.step fails m').1 ∧
      visible c (v.step fails m').2 = visible c (w.step fails m).2 := by
  cases hm with
  | workerAnswer id hab => exact h.workerAnswer hfails id hab
  | flushAnswer id hab => exact h.flushAnswer hfails id hab
  | same =>
    cases m with
    | feed chunk canWork => exact h.feed hfails chunk canWork
    | flush =>
      refine ⟨⟨h.session, ?_⟩, rfl⟩
      simp only [World.step]
      rw [h.rest]
    | workerTurn id =>
      simp only [World.step, h.workers]
      split
      · exact h.afterWorker id (h.session.work id [])
      · exact ⟨h, rfl⟩
    | flushTurn id =>
      simp only [World.step, h.flushes, h.lives]
      split
      · exact h.afterFlush id (h.session.startFlush w.lives id)
      · split
        · exact ⟨h, rfl⟩
        · exact h.afterFlush id (h.session.startFlush w.lives id)
      · exact ⟨h, rfl⟩
    | workerAnswer id a => exact h.workerAnswer hfails id rfl
    | flushAnswer id a => exact h.flushAnswer hfails id rfl
    | reset => exact ⟨h.session_only h.session.reset, rfl⟩
    | fullReset => exact ⟨h.session_only h.session.fullReset, rfl⟩
    | playback d length => exact ⟨h.session_only (h.session.playback d length), rfl⟩
    | setClock time =>
      refine ⟨h.session_only ⟨h.session.config, ?_, h.session.gate⟩, rfl⟩
      rw [h.session.rest]

/-- Moves, one after the other. A clip that is announced for the other channel on one side only is
not seen there, and the worlds are as alike as before. -/
theorem sights {fails : Trigger → Bool} (hfails : Reliable fails c) {ms ms' : List Move}
    (hms : MovesAlikeOn c ms ms') (h : w.AlikeOn c v) :
    v.sights fails c ms' = w.sights fails c ms := by
  induction hms generalizing w v with
  | nil => rfl
  | @move m m' ms ms' hm _ ih =>
    obtain ⟨hstep, hevents⟩ := h.step hfails hm
    have haside : m'.isAside c = m.isAside c := by cases hm <;> rfl
    simp only [World.sights]
    rw [ih hstep, haside, hevents, hstep.session.buffer, hstep.session.phase]
  | @left d hd length ms ms' _ ih =>
    have hw : AlikeOn c { w with session := w.session.playback d length } v :=
      ⟨h.session.playback_left hd length, h.rest⟩
    rw [ih hw]
    simp only [World.sights, Move.isAside, hd, decide_true, ne_eq, not_false_eq_true, if_true]
    rfl
  | @right d hd length ms ms' _ ih =>
    have hv : w.AlikeOn c { v with session := v.session.playback d length } :=
      ⟨h.session.playback_right hd length, by rw [h.rest]⟩
    rw [← ih hv]
    simp only [World.sights, Move.isAside, hd, decide_true, ne_eq, not_false_eq_true, if_true]
    rfl

end AlikeOn

/-- Two new worlds are alike on a channel if their configurations are. -/
theorem new_alikeOn {c : Channel} {config config' : CueConfig} (h : config.AlikeOn c config')
    (clock : Millis) : (new config clock).AlikeOn c (new config' clock) := by
  refine ⟨⟨h, ?_, ?_⟩, rfl⟩
  all_goals
    cases c
    all_goals
      unfold CueConfig.AlikeOn at h
      rw [h]
      rfl

/-- A clip for another channel is not seen at once. -/
theorem step_aside (fails : Trigger → Bool) {c : Channel} (w : World) {m : Move}
    (hm : m.isAside c = true) :
    (w.step fails m).2 = [] ∧ (w.step fails m).1.session.buffer = w.session.buffer ∧
      (w.step fails m).1.session.phase = w.session.phase := by
  cases m with
  | playback d length => exact ⟨rfl, rfl, rfl⟩
  | _ => cases hm

/-- Take two runs that differ at most in one channel: in its lexicon and its cooldown, in the clips
that are announced for it, and in the cues that the model names for it. Then after every move the
same was seen on the other channel, the same was submitted and asked, and the buffers and the phases
are the same. A clip that is announced for the one channel is not seen on the other. -/
theorem channels_are_apart {fails : Trigger → Bool} {c : Channel} (hfails : Reliable fails c)
    {config config' : CueConfig} (hconfig : config.AlikeOn c config') (clock : Millis)
    {ms ms' : List Move} (hms : MovesAlikeOn c ms ms') :
    (new config' clock).sights fails c ms' = (new config clock).sights fails c ms ∧
      ∀ (w : World) (m : Move), m.isAside c = true →
        (w.step fails m).2 = [] ∧ (w.step fails m).1.session.buffer = w.session.buffer ∧
          (w.step fails m).1.session.phase = w.session.phase :=
  ⟨(new_alikeOn hconfig clock).sights hfails hms, fun w _ hm => step_aside fails w hm⟩

/-- Rain makes the one smile and the other sad, who may also look sad again at once. They nod
alike. -/
theorem nods_do_not_depend_on_looks :
    let config : CueConfig :=
      { gestureCooldown := 0, gestures := [⟨.nod, 1, ["yes".toList]⟩]
        expressions := [⟨.smile, 1, ["rain".toList]⟩] }
    let config' : CueConfig :=
      { config with expressionCooldown := 0, expressions := [⟨.sad, 1, ["rain".toList]⟩] }
    let text := "Yes, rain is coming.\nMore".toList
    let nod := Answer.text "\x7b\"gesture\": \"nod\"\x7d".toList
    let sadNod := Answer.text "\x7b\"gesture\": \"nod\", \"expression\": \"sad\"\x7d".toList
    let ms : List Move :=
      [.feed text true, .playback .expression 900, .workerTurn 0, .workerAnswer 0 nod]
    let ms' : List Move := [.feed text true, .workerTurn 0, .workerAnswer 0 sadNod]
    let happened := ((new config 10000).run unfailing ms).2
    let happened' := ((new config' 10000).run unfailing ms').2
    (Reliable unfailing .gesture ∧ config.AlikeOn .gesture config' ∧
        MovesAlikeOn .gesture ms ms') ∧
      admissions .expression happened = [(.expression .smile, 10000)] ∧
      admissions .expression happened' = [(.expression .sad, 10000), (.expression .sad, 10000)] ∧
      admissions .gesture happened = [(.gesture .nod, 10000), (.gesture .nod, 10000)] ∧
      (new config' 10000).sights unfailing .gesture ms' =
        (new config 10000).sights unfailing .gesture ms := by
  intro config config' text nod sadNod ms ms' happened happened'
  have hfails : Reliable unfailing .gesture := fun _ _ => rfl
  have hconfig : config.AlikeOn .gesture config' := rfl
  have hnods : (Classifier.settled sadNod).cue? .gesture = (Classifier.settled nod).cue? .gesture :=
    by decide +kernel
  have hms : MovesAlikeOn .gesture ms ms' :=
    .move (.same _) (.left (by decide) 900 (.move (.same _) (.move (.workerAnswer 0 hnods) .nil)))
  exact ⟨⟨hfails, hconfig, hms⟩, by decide +kernel, by decide +kernel, by decide +kernel,
    (channels_are_apart hfails hconfig 10000 hms).1⟩

end World

end CueStream
