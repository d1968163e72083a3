-- What becomes of a cue that has passed its gate. The receiver is called for it,
-- unless it has just broken down over the gesture that passed together with it.
-- So a gate is opened for nothing in one case only, and only that of expressions.
import CueStream.Proofs.Session.Gating
import CueStream.Proofs.Session.Play
import Mathlib.Data.List.Induction

namespace CueStream

/-! ## Calls of the receiver -/

/-- The cue on a channel that the receiver is called for, whether it takes the cue or breaks down
over it. -/
def Event.callback? (c : Channel) : Event → Option Trigger
  | delivered _ t => if t.channel = c then some t else none
  | broke _ t => if t.channel = c then some t else none
  | _ => none

/-- The cues on a channel that the receiver was called for, in order. -/
def callbacks (c : Channel) (events : List Event) : List Trigger :=
  events.filterMap (Event.callback? c)

@[simp]
theorem callbacks_append (c : Channel) (a b : List Event) :
    callbacks c (a ++ b) = callbacks c a ++ callbacks c b :=
  List.filterMap_append

theorem callbacks_of_no_cue (c : Channel) {events : List Event}
    (h : ∀ e ∈ events, e.isCue = false) : callbacks c events = [] := by
  refine filterMap_of_no_cue ?_ h
  intro e he
  cases e <;> first | rfl | cases he

theorem callbacks_admitted (c : Channel) (a : Actor) (ts : List Trigger) (time : Millis) :
    callbacks c (ts.map (Event.admitted a · time)) = [] :=
  filterMap_admitted (fun _ _ => rfl) ts time

/-- The receiver is called for no other cues than those that are handed over. -/
theorem callbacks_deliver (c : Channel) (fails : Trigger → Bool) (a : Actor) (ts : List Trigger) :
    (callbacks c (deliver fails a ts).1).Sublist (onChannel c ts) := by
  induction ts with
  | nil => exact .slnil
  | cons t rest ih =>
    have hcall : callbacks c [.broke a t] = callbacks c [.delivered a t] := rfl
    have hfirst : callbacks c [.delivered a t] = onChannel c [t] := by
      by_cases hc : t.channel = c
      · simp [callbacks, Event.callback?, onChannel, hc]
      · simp [callbacks, Event.callback?, onChannel, hc]
    have hsplit : onChannel c (t :: rest) = onChannel c [t] ++ onChannel c rest :=
      List.filter_append [t] rest
    simp only [deliver]
    split
    · rw [hcall, hfirst, hsplit]
      exact List.sublist_append_left _ _
    · show (callbacks c ([.delivered a t] ++ (deliver fails a rest).1)).Sublist _
      rw [callbacks_append, hfirst, hsplit]
      exact .append (.refl _) ih

/-! ## The last cue that passed -/

/-- What comes after a cue has passed the gate of a channel for nothing: the receiver is not called
for it, because it breaks down over the gesture that passed together with it. -/
structure Wasted (c : Channel) (a : Actor) (later : List Event) : Prop where
  channel : c = .expression
  uncalled : callbacks c later = []
  broken : ∃ g rest, later = .broke a (.gesture g) :: rest

/-- The last cue that passed the gate of a channel did so at this time, and the receiver was called
for it since, once, unless it was wasted. -/
def LastPassed (c : Channel) (time : Millis) (events : List Event) : Prop :=
  ∃ earlier a t later, events = earlier ++ .admitted a t time :: later ∧ t.channel = c ∧
    admissions c later = [] ∧ (callbacks c later = [t] ∨ Wasted c a later)

namespace LastPassed

variable {c : Channel} {time : Millis} {events : List Event}

theorem behind (h : LastPassed c time events) (before : List Event) :
    LastPassed c time (before ++ events) := by
  obtain ⟨earlier, a, t, later, rfl, hrest⟩ := h
  exact ⟨before ++ earlier, a, t, later, by simp, hrest⟩

/-- What happens on the other channel makes no difference. -/
theorem before (h : LastPassed c time events) {more : List Event}
    (hadmissions : admissions c more = []) (hcallbacks : callbacks c more = []) :
    LastPassed c time (events ++ more) := by
  obtain ⟨earlier, a, t, later, rfl, hchannel, hlater, hcalled⟩ := h
  refine ⟨earlier, a, t, later ++ more, by simp, hchannel, ?_, ?_⟩
  · rw [admissions_append, hlater, hadmissions]
    rfl
  · rw [callbacks_append, hcallbacks, List.append_nil]
    refine hcalled.imp_right ?_
    rintro ⟨hc, huncalled, g, rest, rfl⟩
    exact ⟨hc, by rw [callbacks_append, huncalled, hcallbacks]; rfl, g, rest ++ more, rfl⟩

end LastPassed

/-! ## Cues on their way -/

/-- A gate remembers when the last cue passed. -/
theorem Gate.openedAt_onCues (g : Gate) (block : Bool) (now : Millis) (ts : List Trigger) :
    ((g.onCues block now ts).2 = [] ∧ (g.onCues block now ts).1.openedAt = g.openedAt) ∨
      ((g.onCues block now ts).2 ≠ [] ∧ (g.onCues block now ts).1.openedAt = some now) := by
  induction ts generalizing g with
  | nil => exact .inl ⟨rfl, rfl⟩
  | cons t rest ih =>
    simp only [onCues]
    cases hallows : g.allows now with
    | true =>
      have hopened : (g.onCue block now t).1.openedAt = some now := by
        rw [onCue_of_allows hallows]
        cases block <;> rfl
      rw [show (g.onCue block now t).2 = true by rw [onCue_of_allows hallows], if_pos rfl]
      exact .inr ⟨List.cons_ne_nil _ _, (ih _).elim (·.2.trans hopened) (·.2)⟩
    | false =>
      rw [onCue_of_not_allows hallows]
      exact ih g

/-- Of what an intent asks for, what passes is an intent again. -/
theorem Session.exists_intent_of_pass (s : Session) (i : Intent) :
    ∃ j : Intent, (s.pass i.triggers).2 = j.triggers := by
  obtain ⟨gesture, expression⟩ := i
  have hone (s : Session) (t : Trigger) :
      (s.pass [t]).2 = [t] ∨ (s.pass [t]).2 = [] := by
    simp only [pass]
    split
    · exact .inl rfl
    · exact .inr rfl
  have hexpression (s : Session) :
      ∃ e : Option Expression, (s.pass (expression.map Trigger.expression).toList).2 =
        (e.map Trigger.expression).toList := by
    cases expression with
    | none => exact ⟨none, rfl⟩
    | some e => exact (hone s (.expression e)).elim (⟨some e, ·⟩) (⟨none, ·⟩)
  cases gesture with
  | none =>
    obtain ⟨e, he⟩ := hexpression s
    exact ⟨⟨none, e⟩, he⟩
  | some g =>
    obtain ⟨e, he⟩ := hexpression (s.passOne (.gesture g)).1
    by_cases hg : (s.passOne (.gesture g)).2
    · refine ⟨⟨some g, e⟩, ?_⟩
      simp only [Intent.triggers, Option.map_some, Option.toList_some, List.singleton_append, pass,
        hg, he, if_true]
    · refine ⟨⟨none, e⟩, ?_⟩
      simp only [Intent.triggers, Option.map_some, Option.toList_some, List.singleton_append, pass,
        hg, he, Bool.false_eq_true, if_false]
      rfl

/-- The cues that an intent names go through their gates and on to the receiver. -/
theorem lastPassed_of_intent (fails : Trigger → Bool) (a : Actor) (time : Millis) (j : Intent)
    {c : Channel} (h : onChannel c j.triggers ≠ []) :
    LastPassed c time
      (j.triggers.map (Event.admitted a · time) ++ (deliver fails a j.triggers).1) := by
  obtain ⟨gesture, expression⟩ := j
  have hhanded (earlier : List Event) (t : Trigger) (ht : t.channel = c) :
      LastPassed c time (earlier ++ .admitted a t time :: (deliver fails a [t]).1) := by
    refine ⟨earlier, a, t, (deliver fails a [t]).1, rfl, ht, admissions_deliver c fails a [t], ?_⟩
    left
    simp only [deliver]
    split
    · simp [callbacks, Event.callback?, ht]
    · simp [callbacks, Event.callback?, ht]
  cases gesture with
  | none =>
    cases expression with
    | none => exact absurd rfl h
    | some e =>
      cases c with
      | gesture => exact absurd rfl h
      | expression => exact hhanded [] (.expression e) rfl
  | some g =>
    cases expression with
    | none =>
      cases c with
      | gesture => exact hhanded [] (.gesture g) rfl
      | expression => exact absurd rfl h
    | some e =>
      cases c with
      | gesture =>
        refine ⟨[], a, .gesture g, .admitted a (.expression e) time ::
          (deliver fails a [.gesture g, .expression e]).1, rfl, rfl,
          admissions_deliver .gesture fails a _, .inl ?_⟩
        simp only [deliver]
        cases fails (.gesture g) <;> cases fails (.expression e) <;> rfl
      | expression =>
        refine ⟨[.admitted a (.gesture g) time], a, .expression e,
          (deliver fails a [.gesture g, .expression e]).1, rfl, rfl,
          admissions_deliver .expression fails a _, ?_⟩
        cases hg : fails (.gesture g) with
        | false =>
          left
          simp only [deliver, hg]
          cases fails (.expression e) <;> rfl
        | true =>
          -- the receiver breaks down over the gesture before it hears of the expression
          have hdeliver : (deliver fails a [.gesture g, .expression e]).1 =
              [.broke a (.gesture g)] := by
            simp [deliver, hg]
          rw [hdeliver]
          exact .inr ⟨rfl, rfl, g, [], rfl⟩

/-! ## One move at one gate -/

/-- What a move comes to at the gate of a channel: nothing; or a cue passes, and the receiver is
called for it or it is wasted; or the gate is reset. -/
inductive Spending (c : Channel) (s t : Session) (m : Move) (events : List Event) : Prop
  | nothing (hadmissions : admissions c events = []) (hcallbacks : callbacks c events = [])
      (hgate : (t.gates.get c).openedAt = (s.gates.get c).openedAt)
  | cue (hpassed : LastPassed c s.clock events)
      (hgate : (t.gates.get c).openedAt = some s.clock)
  | fresh (hm : m = .fullReset) (hadmissions : admissions c events = [])
      (hcallbacks : callbacks c events = []) (hgate : (t.gates.get c).openedAt = none)

namespace Spending

variable {c : Channel} {s t : Session} {m : Move} {events : List Event}

theorem of_no_cue (hevents : ∀ e ∈ events, e.isCue = false)
    (hgates : t.gates = s.gates) : Spending c s t m events :=
  .nothing (admissions_of_no_cue c hevents) (callbacks_of_no_cue c hevents) (by rw [hgates])

/-- The cues of an intent are passed on, and besides there are no cues. -/
theorem of_emit (fails : Trigger → Bool) (a : Actor) {i : Intent} (before after : List Event)
    (hbefore : ∀ e ∈ before, e.isCue = false) (hafter : ∀ e ∈ after, e.isCue = false)
    (hevents : events = before ++ (s.emit fails a i.triggers).2.1 ++ after)
    (hgates : t.gates = (s.pass i.triggers).1.gates) : Spending c s t m events := by
  obtain ⟨hgate, hpassed⟩ := s.pass_onChannel i.triggers c
  obtain ⟨j, hj⟩ := s.exists_intent_of_pass i
  have hopened := Gate.openedAt_onCues (s.gates.get c) s.config.blockDuringPlayback s.clock
    (onChannel c i.triggers)
  have hcues : (s.emit fails a i.triggers).2.1 =
      j.triggers.map (Event.admitted a · s.clock) ++ (deliver fails a j.triggers).1 := by
    unfold Session.emit
    simp only [hj]
  rw [← hpassed, ← hgate, ← hgates, hj] at hopened
  subst hevents
  rcases hopened with ⟨hnone, hsame⟩ | ⟨hsome, hnow⟩
  · have hadmissions : admissions c (s.emit fails a i.triggers).2.1 = [] := by
      rw [Session.admissions_emit, hj, hnone]
      rfl
    have hcallbacks : callbacks c (s.emit fails a i.triggers).2.1 = [] := by
      have hsub := callbacks_deliver c fails a j.triggers
      rw [hnone] at hsub
      rw [hcues, callbacks_append, callbacks_admitted, List.nil_append]
      exact List.sublist_nil.mp hsub
    refine .nothing ?_ ?_ hsame
    · rw [admissions_append, admissions_append, admissions_of_no_cue c hbefore, hadmissions,
        admissions_of_no_cue c hafter]
      rfl
    · rw [callbacks_append, callbacks_append, callbacks_of_no_cue c hbefore, hcallbacks,
        callbacks_of_no_cue c hafter]
      rfl
  · refine .cue ?_ hnow
    rw [hcues]
    exact ((lastPassed_of_intent fails a s.clock j hsome).behind before).before
      (admissions_of_no_cue c hafter) (callbacks_of_no_cue c hafter)

end Spending

namespace World

variable (fails : Trigger → Bool) (w : World) (c : Channel)

theorem spending_feed (chunk : Text) (canWork : Bool) (m : Move) :
    Spending c w.session (w.feed fails chunk canWork).1.session m
      (w.feed fails chunk canWork).2 := by
  by_cases hc : chunk = []
  · subst hc
    exact .of_no_cue (List.forall_mem_nil (Event.isCue · = false)) rfl
  · have hne : chunk.isEmpty = false := List.isEmpty_eq_false_iff.mpr hc
    -- the cues pass when the text is in the buffer already
    let next := { w.session with
      started := true
      buffer := w.session.buffer.append chunk
      cursor := (w.session.buffer.append chunk).text.byteLength }
    let found : Intent :=
      ⟨(Lexicon.best? (Session.unscanned (w.session.buffer.append chunk).text w.session.cursor)
          w.session.config.gestures).map (·.label),
        (Lexicon.best? (Session.unscanned (w.session.buffer.append chunk).text w.session.cursor)
          w.session.config.expressions).map (·.label)⟩
    have hfound : Session.keywordTriggers w.session.config
        (Session.unscanned (w.session.buffer.append chunk).text w.session.cursor) =
          found.triggers := by
      simp only [Session.keywordTriggers, Intent.triggers, found, Option.map_map]
      rfl
    have hgates : (w.feed fails chunk canWork).1.session.gates =
        (next.pass found.triggers).1.gates := by
      rw [← hfound]
      unfold World.feed
      rcases Session.feed_cases w.session hc canWork with ⟨hs, -⟩ | ⟨hs, -⟩
      · simp only [hs]
        rfl
      · simp only [hs]
        rfl
    have hevents : (w.feed fails chunk canWork).2 = (next.emit fails .feeder found.triggers).2.1 := by
      rw [← hfound]
      unfold World.feed Session.emit
      simp only [Session.feed, hne, Bool.false_eq_true, if_false]
      rfl
    have hnext : Spending c next (w.feed fails chunk canWork).1.session m
        (w.feed fails chunk canWork).2 :=
      .of_emit fails .feeder [] [] (List.forall_mem_nil _) (List.forall_mem_nil _)
        (by rw [hevents]; simp) hgates
    cases hnext with
    | nothing hadmissions hcallbacks hgate => exact .nothing hadmissions hcallbacks hgate
    | cue hpassed hgate => exact .cue hpassed hgate
    | fresh hm hadmissions hcallbacks hgate => exact .fresh hm hadmissions hcallbacks hgate

theorem spending_step (m : Move) :
    Spending c w.session (w.step fails m).1.session m (w.step fails m).2 := by
  have hs := step_spec fails w m
  generalize w.step fails m = r at hs ⊢
  cases hs with
  | still => exact .of_no_cue (List.forall_mem_nil _) rfl
  | feed chunk canWork => exact spending_feed fails w c chunk canWork _
  | flush => exact .of_no_cue (List.forall_mem_nil _) rfl
  | @workerTurn id hl =>
    exact .of_no_cue (Session.no_cue_work _ _ _) (Session.gates_work _ _ _)
  | @workerAnswer id segment others a hl =>
    by_cases ha : w.session.active = some id
    · simp only [afterWorker, Session.Turn.after, Session.resumeWork_of_active ha]
      split
      · refine .of_emit fails (.worker id) [.answered (.worker id) a] _ (by simp [Event.isCue])
          (Session.no_cue_work id (w.session.pass (Classifier.settled a).triggers).1 others) ?_
          (Session.gates_work _ _ _)
        simp
      · refine .of_emit fails (.worker id) [.answered (.worker id) a] [.ended (.worker id)]
          (by simp [Event.isCue]) (by simp [Event.isCue]) ?_ (Session.gates_release _ _)
        simp
    · rw [Session.resumeWork_of_revoked ha]
      exact .of_no_cue (by simp [afterWorker, Session.Turn.after, Event.isCue]) rfl
  | @flushTurn id stage hl hstage =>
    exact .of_no_cue (Session.no_cue_startFlush _ _ _) (Session.gates_startFlush _ _ _)
  | @flushAnswer id segment response a hl =>
    by_cases hr : w.session.response = response
    · subst hr
      rw [Session.resumeFlush_of_current]
      exact .of_emit fails (.flush id) [.answered (.flush id) a] [.ended (.flush id)]
        (by simp [Event.isCue]) (by simp [Event.isCue])
        (by simp [afterFlush, Session.Turn.after]) rfl
    · rw [Session.resumeFlush_of_over hr]
      exact .of_no_cue (by simp [afterFlush, Session.Turn.after, Event.isCue]) rfl
  | reset => exact .of_no_cue (List.forall_mem_nil _) rfl
  | fullReset => cases c <;> exact .fresh rfl rfl rfl rfl
  | playback d length =>
    refine .nothing rfl rfl ?_
    by_cases hd : d = c
    · subst hd
      simp only [Session.playback, Gates.get_set_self]
      rfl
    · simp only [Session.playback, Gates.get_set_of_ne _ _ hd]
  | setClock time => exact .of_no_cue (List.forall_mem_nil _) rfl

/-! ## Whole runs -/

/-- Whenever a gate remembers that a cue has passed, that cue was the last one to pass. -/
theorem lastPassed_play (config : CueConfig) (clock : Millis) (beats : List (Beat Move)) :
    ∀ time, (((new config clock).play beats).1.session.gates.get c).openedAt = some time →
      LastPassed c time ((new config clock).play beats).2 := by
  induction beats using List.reverseRecOn with
  | nil =>
    intro time h
    cases c <;> cases h
  | append_singleton beats b ih =>
    intro time h
    rw [play_snoc] at h ⊢
    have hstep := spending_step b.fails ((new config clock).play beats).1 c b.act
    cases hstep with
    | nothing hadmissions hcallbacks hgate =>
      exact (ih time (hgate ▸ h)).before hadmissions hcallbacks
    | cue hpassed hgate =>
      rw [hgate] at h
      cases h
      exact hpassed.behind _
    | fresh _ _ _ hgate =>
      rw [hgate] at h
      cases h

/-- In every run, with a receiver that may break down over any cue at any time: if a gate remembers
that a cue passed at some time, then the last cue that passed it did so at that time and the receiver
was called for it, once. And a move in which the receiver is called for no cue of a channel leaves
the gate of that channel as it was. There is one exception to both: an expression that passes
together with a gesture over which the receiver breaks down. Its gate stays opened, and the receiver
is not called for it. -/
theorem only_a_breakdown_wastes_a_gate (config : CueConfig) (clock : Millis)
    (beats : List (Beat Move)) (c : Channel) :
    let w := (new config clock).play beats
    (∀ time, (w.1.session.gates.get c).openedAt = some time → LastPassed c time w.2) ∧
      ∀ b : Beat Move, b.act ≠ .fullReset →
        let after := w.1.step b.fails b.act
        callbacks c after.2 = [] →
          (after.1.session.gates.get c).openedAt = (w.1.session.gates.get c).openedAt ∨
            ∃ earlier a t later,
              after.2 = earlier ++ .admitted a t w.1.session.clock :: later ∧ t.channel = c ∧
                Wasted c a later := by
  intro w
  refine ⟨lastPassed_play c config clock beats, ?_⟩
  intro b hb after huncalled
  cases spending_step b.fails w.1 c b.act with
  | nothing _ _ hgate => exact .inl hgate
  | cue hpassed hgate =>
    obtain ⟨earlier, a, t, later, hevents, hchannel, -, hcalled | hwasted⟩ := hpassed
    · have hcallbacks : callbacks c later = [] := by
        have hall : callbacks c after.2 = [] := huncalled
        rw [show after.2 = _ from hevents, ← List.singleton_append, callbacks_append,
          callbacks_append, List.append_eq_nil_iff, List.append_eq_nil_iff] at hall
        exact hall.2.2
      rw [hcallbacks] at hcalled
      cases hcalled
    · exact .inr ⟨earlier, a, t, later, hevents, hchannel, hwasted⟩
  | fresh hm _ _ _ => exact absurd hm hb

/-- The receiver breaks down over a nod, so it never hears of the smile that passed with it. When the
same word comes again, the gate of the smile is still closed. -/
theorem a_nod_that_breaks_down_wastes_a_smile :
    let config : CueConfig :=
      { gestures := [⟨.nod, 1, ["yes".toList]⟩], expressions := [⟨.smile, 1, ["great".toList]⟩] }
    let beats : List (Beat Move) := [⟨.feed "Yes, great.".toList true, (· = .gesture .nod)⟩]
    let again : Beat Move := ⟨.feed " It is great.".toList true, unfailing⟩
    let w := (new config 10000).play beats
    let after := w.1.step again.fails again.act
    ((w.1.session.gates.get .expression).openedAt = some 10000 ∧
        LastPassed .expression 10000 w.2) ∧
      w.2 = [.admitted .feeder (.gesture .nod) 10000, .admitted .feeder (.expression .smile) 10000,
        .broke .feeder (.gesture .nod)] ∧
      (again.act ≠ .fullReset ∧ callbacks .expression after.2 = []) ∧
      ((after.1.session.gates.get .expression).openedAt =
          (w.1.session.gates.get .expression).openedAt ∨
        ∃ earlier a t later,
          after.2 = earlier ++ .admitted a t w.1.session.clock :: later ∧
            t.channel = .expression ∧ Wasted .expression a later) := by
  intro config beats again w after
  obtain ⟨hlast, hquiet⟩ := only_a_breakdown_wastes_a_gate config 10000 beats .expression
  have hopened : (w.1.session.gates.get .expression).openedAt = some 10000 := by decide +kernel
  have hagain : again.act ≠ .fullReset := nofun
  have huncalled : callbacks .expression after.2 = [] := by decide +kernel
  have hkept := hquiet again hagain huncalled
  refine ⟨⟨hopened, hlast 10000 hopened⟩, by decide +kernel, ⟨hagain, huncalled⟩, ?_⟩
  simpa only [w, after] using hkept

end World

end CueStream
