-- Two sessions that differ at most in one channel. Whoever watches the other
-- channel sees the same of both, whatever is done to them.
import CueStream.Proofs.Session.Gating
import CueStream.Proofs.Session.Recast

namespace CueStream

/-! ## Alike on one channel -/

/-- Two configurations that differ at most in the lexicon and the cooldown of the other channel. -/
def CueConfig.AlikeOn (c : Channel) (a b : CueConfig) : Prop :=
  match c with
  | .gesture =>
    b = { a with expressionCooldown := b.expressionCooldown, expressions := b.expressions }
  | .expression => b = { a with gestureCooldown := b.gestureCooldown, gestures := b.gestures }

/-- The cue that an intent asks for on a channel. -/
def Intent.cue? (i : Intent) : Channel → Option Trigger
  | .gesture => i.gesture.map .gesture
  | .expression => i.expression.map .expression

/-- Two sessions that differ at most in the other channel. -/
structure Session.AlikeOn (c : Channel) (s t : Session) : Prop where
  config : s.config.AlikeOn c t.config
  rest : t = { s with config := t.config, gates := t.gates }
  gate : t.gates.get c = s.gates.get c

/-! ## What can be seen -/

/-- The event can be seen by somebody who watches one channel only. What the model answers is not
seen by anybody. -/
def Event.isOn (c : Channel) : Event → Bool
  | admitted _ t _ => t.channel = c
  | delivered _ t => t.channel = c
  | broke _ t => t.channel = c
  | answered _ _ => false
  | _ => true

/-- The part of the events that can be seen. -/
def visible (c : Channel) (events : List Event) : List Event :=
  events.filter (Event.isOn c)

@[simp]
theorem visible_append (c : Channel) (a b : List Event) :
    visible c (a ++ b) = visible c a ++ visible c b :=
  List.filter_append a b

/-! ## The cues on one channel -/

theorem onChannel_append (c : Channel) (a b : List Trigger) :
    onChannel c (a ++ b) = onChannel c a ++ onChannel c b :=
  List.filter_append a b

theorem onChannel_triggers (c : Channel) (i : Intent) :
    onChannel c i.triggers = (i.cue? c).toList := by
  rcases i with ⟨_ | g, _ | e⟩ <;> cases c <;> rfl

namespace CueConfig.AlikeOn

variable {c : Channel} {a b : CueConfig}

/-- The model is asked the same. -/
theorem call? (h : a.AlikeOn c b) (text : Text) :
    Classifier.call? b text = Classifier.call? a text := by
  cases c
  all_goals
    unfold AlikeOn at h
    rw [h]
    rfl

theorem blockDuringPlayback (h : a.AlikeOn c b) :
    b.blockDuringPlayback = a.blockDuringPlayback := by
  cases c
  all_goals
    unfold AlikeOn at h
    rw [h]

/-- The same keywords are found for the channel. -/
theorem keywordTriggers (h : a.AlikeOn c b) (text : Text) :
    onChannel c (Session.keywordTriggers b text) =
      onChannel c (Session.keywordTriggers a text) := by
  unfold Session.keywordTriggers
  cases c with
  | gesture =>
    have hlexicon : b.gestures = a.gestures := by
      unfold AlikeOn at h
      rw [h]
    have hnone (o : Option (Lexicon.Hit Expression)) :
        onChannel .gesture (o.map fun h => Trigger.expression h.label).toList = [] := by
      cases o <;> rfl
    rw [onChannel_append, onChannel_append, hnone, hnone, hlexicon]
  | expression =>
    have hlexicon : b.expressions = a.expressions := by
      unfold AlikeOn at h
      rw [h]
    have hnone (o : Option (Lexicon.Hit Gesture)) :
        onChannel .expression (o.map fun h => Trigger.gesture h.label).toList = [] := by
      cases o <;> rfl
    rw [onChannel_append, onChannel_append, hnone, hnone, hlexicon]

end CueConfig.AlikeOn

/-- The receiver never breaks down over a cue of another channel. -/
def Reliable (fails : Trigger → Bool) (c : Channel) : Prop :=
  ∀ t : Trigger, t.channel ≠ c → fails t = false

/-- If it is only over cues of one channel that the receiver may break down, then what is seen
there, and whether it does, depends on the cues of that channel alone. -/
theorem deliver_onChannel {fails : Trigger → Bool} {c : Channel} (hfails : Reliable fails c)
    (a : Actor) (ts : List Trigger) :
    visible c (deliver fails a ts).1 = (deliver fails a (onChannel c ts)).1 ∧
      (deliver fails a ts).2 = (deliver fails a (onChannel c ts)).2 := by
  induction ts with
  | nil => exact ⟨rfl, rfl⟩
  | cons t rest ih =>
    obtain ⟨hevents, htaken⟩ := ih
    by_cases hc : t.channel = c
    · subst hc
      have hbroke : (Event.broke a t).isOn t.channel = true := decide_eq_true rfl
      have hdelivered : (Event.delivered a t).isOn t.channel = true := decide_eq_true rfl
      rw [onChannel_cons_self]
      unfold deliver
      split
      · exact ⟨List.filter_cons_of_pos hbroke, rfl⟩
      · refine ⟨?_, htaken⟩
        exact (List.filter_cons_of_pos hdelivered).trans (congrArg (_ :: ·) hevents)
    · have hdelivered : (Event.delivered a t).isOn c = false := decide_eq_false hc
      rw [onChannel_cons_of_ne hc, deliver, if_neg (by simp [hfails t hc])]
      refine ⟨?_, htaken⟩
      rw [← hevents]
      exact List.filter_cons_of_neg (by simp [hdelivered])

theorem visible_admitted (c : Channel) (a : Actor) (time : Millis) (ts : List Trigger) :
    visible c (ts.map (Event.admitted a · time)) =
      (onChannel c ts).map (Event.admitted a · time) := by
  unfold visible onChannel
  rw [List.filter_map]
  rfl

theorem Gates.get_reset (gs : Gates) (c : Channel) : gs.reset.get c = (gs.get c).reset := by
  cases c <;> rfl

namespace Session

/-! ## Passing the gates -/

namespace AlikeOn

variable {c : Channel} {s t : Session}

theorem clock (h : s.AlikeOn c t) : t.clock = s.clock := by
  rw [h.rest]

theorem active (h : s.AlikeOn c t) : t.active = s.active := by
  rw [h.rest]

theorem response (h : s.AlikeOn c t) : t.response = s.response := by
  rw [h.rest]

/-- Cues that are the same on the channel come to the same there. -/
theorem pass (h : s.AlikeOn c t) {ts us : List Trigger} (hts : onChannel c us = onChannel c ts) :
    (s.pass ts).1.AlikeOn c (t.pass us).1 ∧
      onChannel c (t.pass us).2 = onChannel c (s.pass ts).2 := by
  obtain ⟨hgate, hpassed⟩ := s.pass_onChannel ts c
  obtain ⟨hgate', hpassed'⟩ := t.pass_onChannel us c
  rw [h.config.blockDuringPlayback, h.clock, h.gate, hts] at hgate' hpassed'
  refine ⟨⟨?_, ?_, hgate'.trans hgate.symm⟩, hpassed'.trans hpassed.symm⟩
  · rw [pass_eq s, pass_eq t]
    exact h.config
  · rw [pass_eq s, pass_eq t, h.rest]

/-- So they are delivered the same. -/
theorem emit (h : s.AlikeOn c t) {fails : Trigger → Bool} (hfails : Reliable fails c) (a : Actor)
    {ts us : List Trigger} (hts : onChannel c us = onChannel c ts) :
    visible c (t.emit fails a us).2.1 = visible c (s.emit fails a ts).2.1 ∧
      (t.emit fails a us).2.2 = (s.emit fails a ts).2.2 := by
  obtain ⟨-, hpassed⟩ := h.pass hts
  obtain ⟨hevents, htaken⟩ := deliver_onChannel hfails a (s.pass ts).2
  obtain ⟨hevents', htaken'⟩ := deliver_onChannel hfails a (t.pass us).2
  unfold Session.emit
  simp only [visible_append, visible_admitted]
  rw [hevents, hevents', htaken, htaken', hpassed, h.clock]
  exact ⟨rfl, rfl⟩

end AlikeOn

/-! ## Without the gates -/

/-- The same session under another configuration and with other gates. -/
def refit (s : Session) (config : CueConfig) (gates : Gates) : Session :=
  { s with config := config, gates := gates }

section Refit

variable (config : CueConfig) (gates : Gates)

theorem recast_refit : Recast .none fun s => s.refit config gates where
  buffer _ := rfl
  seen _ := rfl
  active _ := Option.map_id'.symm
  awaited _ := Option.map_id'.symm
  nextWorker _ := rfl
  response _ := rfl
  emptied _ _ := rfl
  noted _ _ := rfl
  placed s active awaited := by
    have hactive : active.map (· + Ahead.none.workers) = active := Option.map_id'
    have hawaited : awaited.map (· + Ahead.none.workers) = awaited := Option.map_id'
    rw [hactive, hawaited]
    rfl
  hired _ := rfl

theorem release_refit (s : Session) (id : Nat) :
    (s.refit config gates).release id = (s.release id).refit config gates :=
  (recast_refit config gates).release s id

theorem startWorker_refit (s : Session) :
    (s.refit config gates).startWorker =
      (s.startWorker.1.refit config gates, s.startWorker.2) := by
  have hworker : s.startWorker.2.map (· + Ahead.none.workers) = s.startWorker.2 :=
    Option.map_id'
  rw [(recast_refit config gates).startWorker s, hworker]

variable {config}

theorem work_refit {s : Session}
    (hcall : ∀ text, Classifier.call? config text = Classifier.call? s.config text) (id : Nat)
    (batch : List Segment) :
    (s.refit config gates).work id batch =
      ⟨(s.work id batch).session.refit config gates, (s.work id batch).stage,
        (s.work id batch).events⟩ :=
  ((recast_refit config gates).work hcall id batch).trans (Turn.recast_none _ (fun _ => rfl) _)

theorem startFlush_refit {s : Session}
    (hcall : ∀ text, Classifier.call? config text = Classifier.call? s.config text)
    (lives : Nat → Bool) (id : Nat) :
    (s.refit config gates).startFlush lives id =
      ⟨(s.startFlush lives id).session.refit config gates, (s.startFlush lives id).stage,
        (s.startFlush lives id).events⟩ :=
  ((recast_refit config gates).startFlush hcall (fun _ => rfl) id).trans
    (Turn.recast_none _ FlushStage.ahead_none _)

end Refit

/-! ## The turns of tasks -/

/-- Two turns that differ at most in the other channel. -/
structure Turn.AlikeOn {Stage : Type} (c : Channel) (t u : Turn Stage) : Prop where
  session : t.session.AlikeOn c u.session
  stage : u.stage = t.stage
  events : visible c u.events = visible c t.events

theorem Turn.AlikeOn.after {Stage : Type} {c : Channel} {t u : Turn Stage} (h : t.AlikeOn c u)
    {events events' : List Event} (hevents : visible c events' = visible c events) :
    (t.after events).AlikeOn c (u.after events') := by
  refine ⟨h.session, h.stage, ?_⟩
  unfold Turn.after
  rw [visible_append, visible_append, hevents, h.events]

namespace AlikeOn

variable {c : Channel} {s t : Session}

/-- What leaves the gates alone keeps them alike. -/
theorem refit (h : s.AlikeOn c t) {s' : Session} (hconfig : s'.config = s.config)
    (hgates : s'.gates = s.gates) : s'.AlikeOn c (s'.refit t.config t.gates) := by
  refine ⟨?_, rfl, ?_⟩
  · rw [hconfig]
    exact h.config
  · rw [hgates]
    exact h.gate

theorem work (h : s.AlikeOn c t) (id : Nat) (batch : List Segment) :
    (s.work id batch).AlikeOn c (t.work id batch) := by
  have hwork := work_refit t.gates h.config.call? id batch
  rw [show s.refit t.config t.gates = t from h.rest.symm] at hwork
  rw [hwork]
  exact ⟨h.refit (sameFrame_work id s batch).config (gates_work id s batch), rfl, rfl⟩

theorem release (h : s.AlikeOn c t) (id : Nat) : (s.release id).AlikeOn c (t.release id) := by
  have hrelease := release_refit t.config t.gates s id
  rw [show s.refit t.config t.gates = t from h.rest.symm] at hrelease
  rw [hrelease]
  exact h.refit (sameFrame_release s id).config (gates_release s id)

theorem resumeWork (h : s.AlikeOn c t) {fails : Trigger → Bool} (hfails : Reliable fails c)
    (id : Nat) {i j : Intent} (hij : j.cue? c = i.cue? c) (others : List Segment) :
    (s.resumeWork fails id i others).AlikeOn c (t.resumeWork fails id j others) := by
  have hcues : onChannel c j.triggers = onChannel c i.triggers := by
    rw [onChannel_triggers, onChannel_triggers, hij]
  obtain ⟨hevents, htaken⟩ := h.emit hfails (.worker id) hcues
  have hpass := (h.pass hcues).1
  by_cases ha : s.active = some id
  · rw [resumeWork_of_active ha, resumeWork_of_active (h.active.trans ha), htaken]
    split
    · exact (hpass.work id others).after hevents
    · refine ⟨hpass.release id, rfl, ?_⟩
      rw [visible_append, visible_append, hevents]
  · have ha' : t.active ≠ some id := fun hactive => ha (h.active.symm.trans hactive)
    rw [resumeWork_of_revoked ha, resumeWork_of_revoked ha']
    exact ⟨h, rfl, rfl⟩

theorem startFlush (h : s.AlikeOn c t) (lives : Nat → Bool) (id : Nat) :
    (s.startFlush lives id).AlikeOn c (t.startFlush lives id) := by
  have hstart := startFlush_refit t.gates h.config.call? lives id
  rw [show s.refit t.config t.gates = t from h.rest.symm] at hstart
  rw [hstart]
  exact ⟨h.refit (active_startFlush lives id s).2.2.config (gates_startFlush lives id s), rfl, rfl⟩

theorem resumeFlush (h : s.AlikeOn c t) {fails : Trigger → Bool} (hfails : Reliable fails c)
    (id : Nat) {i j : Intent} (hij : j.cue? c = i.cue? c) (response : Nat) :
    (s.resumeFlush fails id i response).AlikeOn c (t.resumeFlush fails id j response) := by
  have hcues : onChannel c j.triggers = onChannel c i.triggers := by
    rw [onChannel_triggers, onChannel_triggers, hij]
  by_cases hr : s.response = response
  · subst hr
    have ht := resumeFlush_of_current fails t id j
    rw [h.response] at ht
    rw [ht, resumeFlush_of_current]
    refine ⟨(h.pass hcues).1, rfl, ?_⟩
    rw [visible_append, visible_append, (h.emit hfails (.flush id) hcues).1]
  · have hr' : t.response ≠ response := fun hresponse => hr (h.response.symm.trans hresponse)
    rw [resumeFlush_of_over hr, resumeFlush_of_over hr']
    exact ⟨h, rfl, rfl⟩

/-! ## Feeding -/

theorem startWorker (h : s.AlikeOn c t) :
    s.startWorker.1.AlikeOn c t.startWorker.1 ∧ t.startWorker.2 = s.startWorker.2 := by
  have hstart := startWorker_refit t.config t.gates s
  rw [show s.refit t.config t.gates = t from h.rest.symm] at hstart
  rw [hstart]
  refine ⟨h.refit ?_ ?_, rfl⟩
  · rw [startWorker_eq]
    split <;> rfl
  · rw [startWorker_eq]
    split <;> rfl

theorem feed (h : s.AlikeOn c t) (chunk : Text) (canWork : Bool) :
    (s.feed chunk canWork).session.AlikeOn c (t.feed chunk canWork).session ∧
      onChannel c (t.feed chunk canWork).admitted = onChannel c (s.feed chunk canWork).admitted ∧
      (t.feed chunk canWork).worker = (s.feed chunk canWork).worker := by
  by_cases hc : chunk.isEmpty = true
  · unfold Session.feed
    rw [if_pos hc, if_pos hc]
    exact ⟨h, rfl, rfl⟩
  · have hbuffer : t.buffer = s.buffer := by rw [h.rest]
    have hcursor : t.cursor = s.cursor := by rw [h.rest]
    have hnext : Session.AlikeOn c
        { s with
          started := true
          buffer := s.buffer.append chunk
          cursor := (s.buffer.append chunk).text.byteLength }
        { t with
          started := true
          buffer := t.buffer.append chunk
          cursor := (t.buffer.append chunk).text.byteLength } := by
      refine ⟨h.config, ?_, h.gate⟩
      rw [h.rest]
    obtain ⟨hpass, hpassed⟩ := hnext.pass (h.config.keywordTriggers
      (unscanned (s.buffer.append chunk).text s.cursor))
    unfold Session.feed
    rw [if_neg hc, if_neg hc]
    simp only [hbuffer, hcursor] at hpass hpassed ⊢
    cases canWork with
    | false => exact ⟨hpass, hpassed, rfl⟩
    | true =>
      obtain ⟨hstart, hworker⟩ := hpass.startWorker
      exact ⟨hstart, hpassed, hworker⟩

theorem buffer (h : s.AlikeOn c t) : t.buffer = s.buffer := by
  rw [h.rest]

theorem phase (h : s.AlikeOn c t) : t.phase = s.phase := by
  rw [h.rest]
  rfl

/-! ## The changes that no task makes -/

theorem reset (h : s.AlikeOn c t) : s.reset.AlikeOn c t.reset :=
  ⟨h.config, by rw [h.rest]; rfl, h.gate⟩

theorem fullReset (h : s.AlikeOn c t) : s.fullReset.AlikeOn c t.fullReset := by
  refine ⟨h.config, by rw [h.rest]; rfl, ?_⟩
  calc t.gates.reset.get c = (t.gates.get c).reset := t.gates.get_reset c
    _ = (s.gates.get c).reset := by rw [h.gate]
    _ = s.gates.reset.get c := (s.gates.get_reset c).symm

theorem playback (h : s.AlikeOn c t) (d : Channel) (length : Millis) :
    (s.playback d length).AlikeOn c (t.playback d length) := by
  refine ⟨h.config, by rw [h.rest]; rfl, ?_⟩
  by_cases hd : d = c
  · subst hd
    simp only [Session.playback, Gates.get_set_self, h.gate, h.clock]
  · simp only [Session.playback, Gates.get_set_of_ne _ _ hd, h.gate]

/-- A clip on the other channel makes no difference, on whichever side it is announced. -/
theorem playback_left (h : s.AlikeOn c t) {d : Channel} (hd : d ≠ c) (length : Millis) :
    (s.playback d length).AlikeOn c t := by
  refine ⟨h.config, h.rest, ?_⟩
  simp only [Session.playback, Gates.get_set_of_ne _ _ hd, h.gate]

theorem playback_right (h : s.AlikeOn c t) {d : Channel} (hd : d ≠ c) (length : Millis) :
    s.AlikeOn c (t.playback d length) := by
  refine ⟨h.config, by rw [h.rest]; rfl, ?_⟩
  simp only [Session.playback, Gates.get_set_of_ne _ _ hd, h.gate]

end AlikeOn

end Session

end CueStream
