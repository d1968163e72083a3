-- Which part of the text is searched for keywords when a piece is fed, and
-- what the search has to do with the cues that are acted out. As long as the
-- text has no gap, nobody takes any of it out of the buffer, and the part that
-- is searched is the piece and the word that it continues.
import CueStream.Proofs.Lexicon.Keyword
import CueStream.Proofs.Segment.Splitting
import CueStream.Proofs.Session.Passing

namespace CueStream

open Lexicon Text

/-! ## The part that is searched -/

namespace Text

/-- The end of `t` that belongs to the word that `chunk` goes on with. -/
def continued (t chunk : Text) : Text :=
  if chunk.head?.any isWordChar then (t.reverse.takeWhile isWordChar).reverse else []

theorem continued_suffix (t chunk : Text) : continued t chunk <:+ t := by
  unfold continued
  split
  · rw [← List.reverse_prefix, List.reverse_reverse]
    exact List.takeWhile_prefix isWordChar
  · exact List.nil_suffix

theorem letters_of_continued (t chunk : Text) : ∀ c ∈ continued t chunk, isWordChar c = true := by
  intro c hc
  unfold continued at hc
  split at hc
  · exact List.mem_takeWhile_imp (List.mem_reverse.mp hc)
  · cases hc

theorem continued_of_word {chunk : Text} (h : chunk.head?.any isWordChar = true) (t : Text) :
    continued t chunk = (t.reverse.takeWhile isWordChar).reverse := by
  unfold continued
  rw [if_pos h]

theorem continued_of_not_word {chunk : Text} (h : chunk.head?.any isWordChar = false) (t : Text) :
    continued t chunk = [] := by
  unfold continued
  rw [if_neg (by simp [h])]

/-- Word characters in front of a word belong to it. -/
theorem continued_append {x chunk : Text} (hx : ∀ c ∈ x, isWordChar c = true)
    (h : chunk.head?.any isWordChar = true) (t : Text) :
    continued (t ++ x) chunk = continued t chunk ++ x := by
  have hrev : ∀ c ∈ x.reverse, isWordChar c = true := fun c hc => hx c (List.mem_reverse.mp hc)
  rw [continued_of_word h, continued_of_word h, List.reverse_append,
    List.takeWhile_append_of_pos hrev, List.reverse_append, List.reverse_reverse]

/-- In front of a word that goes on stands what is left when its characters are dropped. -/
theorem append_continued {chunk : Text} (h : chunk.head?.any isWordChar = true) (t : Text) :
    (t.reverse.dropWhile isWordChar).reverse ++ continued t chunk = t := by
  rw [continued_of_word h, ← List.reverse_append, List.takeWhile_append_dropWhile,
    List.reverse_reverse]

/-- No word reaches over the start of what is searched. -/
theorem exists_apart_continued (t chunk : Text) :
    ∃ front, front ++ continued t chunk = t ∧ Apart front (continued t chunk ++ chunk) := by
  cases hword : chunk.head?.any isWordChar with
  | true =>
    refine ⟨_, append_continued hword t, .inl ?_⟩
    rw [List.getLast?_reverse]
    exact isEdge_head?_dropWhile t.reverse
  | false =>
    refine ⟨t, ?_, .inr ?_⟩
    · rw [continued_of_not_word hword, List.append_nil]
    · rw [continued_of_not_word hword, List.nil_append]
      unfold isEdge
      rw [hword]
      rfl

theorem byteLength_reverse (t : Text) : byteLength t.reverse = byteLength t := by
  induction t with
  | nil => rfl
  | cons c rest ih =>
    rw [List.reverse_cons, byteLength_append, ih, byteLength_cons, byteLength_cons, byteLength_nil]
    omega

end Text

namespace Session

theorem scanStart_zero (t : Text) : scanStart t 0 = 0 := by
  unfold scanStart
  rw [splitAtByte?_zero]
  simp

theorem unscanned_zero (t : Text) : unscanned t 0 = t := by
  unfold unscanned
  rw [scanStart_zero, splitAtByte?_zero]

/-- A text that was searched up to `chunk` is cut in front of the word that the chunk goes on with. -/
theorem splitAtByte?_scanStart {front t chunk : Text} (h : front ++ continued t chunk = t) :
    (t ++ chunk).splitAtByte? (scanStart (t ++ chunk) t.byteLength) =
      some (front, continued t chunk ++ chunk) := by
  have hwhole : t ++ chunk = front ++ (continued t chunk ++ chunk) := by
    rw [← List.append_assoc, h]
  have hstart : scanStart (t ++ chunk) t.byteLength = front.byteLength := by
    unfold scanStart
    rw [splitAtByte?_append]
    cases hword : chunk.head?.any isWordChar with
    | true =>
      have hfront : (t.reverse.dropWhile isWordChar).reverse = front :=
        List.append_cancel_right ((append_continued hword t).trans h.symm)
      rw [← hfront, byteLength_reverse]
      simp only [hword, if_true]
    | false =>
      rw [continued_of_not_word hword, List.append_nil] at h
      simp [hword, h]
  rw [hstart, hwhole, splitAtByte?_append]

/-- Of a text that was searched up to `chunk`, the chunk is searched, with the word that it goes on
with. -/
theorem unscanned_append (t chunk : Text) :
    unscanned (t ++ chunk) t.byteLength = continued t chunk ++ chunk := by
  obtain ⟨front, hfront, -⟩ := exists_apart_continued t chunk
  unfold unscanned
  rw [splitAtByte?_scanStart hfront]

end Session

/-! ## Cues and keywords -/

namespace CueConfig

/-- The keywords of a channel. -/
def keywords (config : CueConfig) : Channel → List Text
  | .gesture => config.gestures.flatMap (·.keywords)
  | .expression => config.expressions.flatMap (·.keywords)

/-- The lexicon of the channel finds something in the text. -/
def hears (config : CueConfig) (c : Channel) (text : Text) : Bool :=
  match c with
  | .gesture => (best? text config.gestures).isSome
  | .expression => (best? text config.expressions).isSome

theorem hears_iff (config : CueConfig) (c : Channel) (text : Text) :
    config.hears c text = true ↔
      ∃ keyword ∈ config.keywords c, keywordMatches text.lowercase keyword = true := by
  cases c with
  | gesture => exact isSome_best?_iff text config.gestures
  | expression => exact isSome_best?_iff text config.expressions

end CueConfig

namespace Session

/-- On a channel a cue is found in a text if its lexicon finds something. -/
theorem exists_mem_keywordTriggers_iff (config : CueConfig) (text : Text) (c : Channel) :
    (∃ t ∈ keywordTriggers config text, t.channel = c) ↔ config.hears c text = true := by
  unfold keywordTriggers CueConfig.hears
  cases hg : best? text config.gestures <;> cases he : best? text config.expressions <;>
    cases c <;> simp [Trigger.channel]

/-- What passes the gates was there before. -/
theorem mem_of_mem_pass {s : Session} {ts : List Trigger} {t : Trigger} (h : t ∈ (s.pass ts).2) :
    t ∈ ts := by
  induction ts generalizing s with
  | nil => exact h
  | cons u rest ih =>
    simp only [pass] at h
    split at h
    · rcases List.mem_cons.mp h with rfl | h
      · exact List.mem_cons_self
      · exact List.mem_cons_of_mem u (ih h)
    · exact List.mem_cons_of_mem u (ih h)

end Session

/-- The cue that an event shows a keyword to stand for. -/
def Event.heard? : Event → Option Trigger
  | admitted .feeder t _ => some t
  | delivered .feeder t => some t
  | broke .feeder t => some t
  | _ => none

/-- The cues that keywords in fed text stand for, as far as they passed their gates. -/
def heardOf (events : List Event) : List Trigger :=
  events.filterMap Event.heard?

namespace World

/-- A cue that feeding shows was found in the part that is searched. -/
theorem mem_keywordTriggers_of_heard {fails : Trigger → Bool} {w : World} {chunk : Text}
    {canWork : Bool} {t : Trigger} (h : t ∈ heardOf (w.step fails (.feed chunk canWork)).2) :
    chunk ≠ [] ∧
      t ∈ Session.keywordTriggers w.session.config
        (Session.unscanned (w.session.buffer.text ++ chunk) w.session.cursor) := by
  by_cases hc : chunk = []
  · subst hc
    cases h
  · refine ⟨hc, ?_⟩
    have hne : chunk.isEmpty = false := List.isEmpty_eq_false_iff.mpr hc
    obtain ⟨e, he, ht⟩ := List.mem_filterMap.mp h
    simp only [World.step, World.feed, Session.feed, hne, Bool.false_eq_true, if_false,
      List.mem_append] at he
    rcases he with he | he
    · obtain ⟨u, hu, rfl⟩ := List.mem_map.mp he
      cases ht
      exact Session.mem_of_mem_pass hu
    · obtain ⟨u, hu, he⟩ := mem_of_mem_deliver he
      have htu : t = u := by
        rcases he with rfl | rfl <;> cases ht <;> rfl
      rw [htu]
      exact Session.mem_of_mem_pass hu

/-- With open gates, the receiver gets every cue that is found. -/
theorem delivered_of_mem_keywordTriggers {w : World} (h : w.session.Free) {chunk : Text}
    (hc : chunk ≠ []) {t : Trigger}
    (ht : t ∈ Session.keywordTriggers w.session.config
      (Session.unscanned (w.session.buffer.text ++ chunk) w.session.cursor)) (canWork : Bool) :
    .delivered .feeder t ∈ (w.step unfailing (.feed chunk canWork)).2 := by
  have hne : chunk.isEmpty = false := List.isEmpty_eq_false_iff.mpr hc
  have hnext : Session.Free { w.session with
      started := true
      buffer := w.session.buffer.append chunk
      cursor := (w.session.buffer.append chunk).text.byteLength } := ⟨h.unblocked, h.gates⟩
  have hpassed := (hnext.pass (Session.keywordTriggers w.session.config
    (Session.unscanned (w.session.buffer.text ++ chunk) w.session.cursor))).1
  simp only [World.step, World.feed, Session.feed, hne, Bool.false_eq_true, if_false]
  rw [List.mem_append, deliver_unfailing]
  refine .inr (List.mem_map.mpr ⟨t, ?_, rfl⟩)
  rw [← hpassed] at ht
  exact ht

/-! ## As long as the text has no gap -/

/-- A world to which the text `t` was fed that has no gap yet: all of it is in the buffer and was
searched, and there are no tasks. -/
structure Gathering (t : Text) (w : World) : Prop where
  text : w.session.buffer.text = t
  cursor : w.session.cursor = t.byteLength
  workers : w.workers = []
  flushes : w.flushes = []

theorem gathering_new (config : CueConfig) (clock : Millis) : Gathering [] (new config clock) :=
  ⟨rfl, rfl, rfl, rfl⟩

/-- Where nothing is complete, feeding starts no worker. -/
theorem feed_of_not_boundary (fails : Trigger → Bool) (w : World) {chunk : Text} (hc : chunk ≠ [])
    (hb : (w.session.buffer.append chunk).hasBoundary = false) (canWork : Bool) :
    (w.feed fails chunk canWork).1 = { w with session := w.session.heard chunk } := by
  obtain ⟨hsession, hworker⟩ := Session.feed_eq w.session hc canWork
  have hstart : (w.session.heard chunk).startWorker = (w.session.heard chunk, none) := by
    rw [Session.startWorker_eq, Session.heard_eq]
    simp only [hb, Bool.and_false, Bool.false_eq_true, if_false]
  rw [hstart, ite_self] at hsession hworker
  unfold World.feed
  simp only [hsession, hworker, Option.map_none, Option.toList_none, List.append_nil]

theorem feed_nil (fails : Trigger → Bool) (w : World) (canWork : Bool) :
    (w.feed fails [] canWork).1 = w := by
  unfold World.feed
  simp [Session.feed_nil]

theorem Gathering.feed {t : Text} {w : World} (h : Gathering t w) {chunk : Text}
    (hgap : (t ++ chunk).hasGap = false) (fails : Trigger → Bool) (canWork : Bool) :
    Gathering (t ++ chunk) (w.feed fails chunk canWork).1 := by
  by_cases hc : chunk = []
  · subst hc
    rw [feed_nil, List.append_nil]
    exact h
  · have htext : (w.session.buffer.append chunk).text = t ++ chunk := by
      unfold Buffer.append
      rw [h.text]
    have hb : (w.session.buffer.append chunk).hasBoundary = false := by
      unfold Buffer.hasBoundary
      rw [htext, hgap]
    rw [feed_of_not_boundary fails w hc hb canWork, Session.heard_eq]
    refine ⟨htext, ?_, h.workers, h.flushes⟩
    show (w.session.buffer.append chunk).text.byteLength = (t ++ chunk).byteLength
    rw [htext]

theorem Gathering.step {t : Text} {w : World} (h : Gathering t w) {m : Move}
    (hm : m ≠ .flush ∧ m.isReset = false) (hgap : (t ++ m.told).hasGap = false)
    (fails : Trigger → Bool) : Gathering (t ++ m.told) (w.step fails m).1 := by
  have hs := step_spec fails w m
  generalize w.step fails m = r at hs ⊢
  cases hs with
  | still m htask =>
    rw [told_of_task htask, List.append_nil]
    exact h
  | feed chunk canWork => exact h.feed hgap fails canWork
  | flush => exact absurd rfl hm.1
  | workerTurn hl =>
    rw [h.workers] at hl
    cases hl
  | workerAnswer a hl =>
    rw [h.workers] at hl
    cases hl
  | flushTurn hl hstage =>
    rw [h.flushes] at hl
    cases hl
  | flushAnswer a hl =>
    rw [h.flushes] at hl
    cases hl
  | reset => cases hm.2
  | fullReset => cases hm.2
  | playback c length =>
    rw [show (Move.playback c length).told = [] from rfl, List.append_nil]
    exact ⟨h.text, h.cursor, h.workers, h.flushes⟩
  | setClock time =>
    rw [show (Move.setClock time).told = [] from rfl, List.append_nil]
    exact ⟨h.text, h.cursor, h.workers, h.flushes⟩

theorem Gathering.run {t : Text} {w : World} (h : Gathering t w) {ms : List Move}
    (hms : ∀ m ∈ ms, m ≠ .flush ∧ m.isReset = false) (hgap : (t ++ told ms).hasGap = false)
    (fails : Trigger → Bool) : Gathering (t ++ told ms) (w.run fails ms).1 := by
  induction ms generalizing w t with
  | nil =>
    rw [told_nil, List.append_nil]
    exact h
  | cons m rest ih =>
    obtain ⟨hm, hrest⟩ := List.forall_mem_cons.mp hms
    rw [told_cons, ← List.append_assoc] at hgap ⊢
    exact ih (h.step hm (hasGap_of_append hgap) fails) hrest hgap

/-- What is searched when a piece is fed. -/
theorem Gathering.unscanned {t : Text} {w : World} (h : Gathering t w) (chunk : Text) :
    Session.unscanned (w.session.buffer.text ++ chunk) w.session.cursor =
      Text.continued t chunk ++ chunk := by
  rw [h.text, h.cursor, Session.unscanned_append]

end World

end CueStream
