-- What is searched a second time. A keyword that was searched for in full is
-- not found again, but for the word that a piece goes on with and for what is
-- left in the buffer after segments were drawn.
import CueStream.Proofs.Session.Scanning

namespace CueStream

open Lexicon Text

namespace Session

/-! ## Drawing starts the search anew -/

/-- Nothing was taken out of the buffer, or something was taken off its front and the search starts
at the front again. -/
def Drew (s t : Session) : Prop :=
  (t.buffer.text = s.buffer.text ∧ t.cursor = s.cursor) ∨
    (t.buffer.text <:+ s.buffer.text ∧ t.buffer.text.length < s.buffer.text.length ∧ t.cursor = 0)

theorem Drew.rfl {s : Session} : Drew s s :=
  .inl ⟨.refl _, .refl _⟩

theorem Drew.of_eq {s t : Session} (hbuffer : t.buffer = s.buffer) (hcursor : t.cursor = s.cursor) :
    Drew s t :=
  .inl ⟨congrArg Buffer.text hbuffer, hcursor⟩

theorem Drew.trans {s t u : Session} (h : Drew s t) (h' : Drew t u) : Drew s u := by
  rcases h with ⟨htext, hcursor⟩ | ⟨hsuffix, hlt, hcursor⟩
  · rcases h' with ⟨htext', hcursor'⟩ | h'
    · exact .inl ⟨htext'.trans htext, hcursor'.trans hcursor⟩
    · rw [htext] at h'
      exact .inr h'
  · rcases h' with ⟨htext', hcursor'⟩ | ⟨hsuffix', hlt', hcursor'⟩
    · rw [← htext'] at hsuffix hlt
      exact .inr ⟨hsuffix, hlt, hcursor'.trans hcursor⟩
    · exact .inr ⟨hsuffix'.trans hsuffix, Nat.lt_trans hlt' hlt, hcursor'⟩

theorem Drew.suffix {s t : Session} (h : Drew s t) : t.buffer.text <:+ s.buffer.text := by
  rcases h with ⟨htext, -⟩ | ⟨hsuffix, -⟩
  · exact htext ▸ List.suffix_refl _
  · exact hsuffix

theorem drew_draw {s : Session} (h : s.buffer.hasBoundary = true) : Drew s s.draw.1 := by
  rw [draw_eq]
  exact .inr ⟨(Text.split_infix s.buffer.text).1, length_split_lt h, .refl _⟩

theorem drew_release (s : Session) (id : Nat) : Drew s (s.release id) := by
  unfold release
  split
  · exact .of_eq (.refl _) (.refl _)
  · exact .rfl

theorem drew_work (id : Nat) (s : Session) (batch : List Segment) :
    Drew s (s.work id batch).session :=
  work_keeps (fun _ hb h => h.trans (drew_draw hb)) (fun t k h => h.trans (drew_release t k)) .rfl
    id batch

theorem drew_pass (s : Session) (ts : List Trigger) : Drew s (s.pass ts).1 := by
  rw [pass_eq]
  exact .of_eq (.refl _) (.refl _)

theorem drew_resumeWork (fails : Trigger → Bool) (id : Nat) (s : Session) (i : Intent)
    (others : List Segment) : Drew s (s.resumeWork fails id i others).session :=
  resumeWork_keeps (fun t ts h => h.trans (drew_pass t ts)) (fun _ hb h => h.trans (drew_draw hb))
    (fun t k h => h.trans (drew_release t k)) .rfl fails id i others

end Session

namespace World

theorem drew_step {w : World} (hflushes : w.flushes = []) {m : Move}
    (hm : m ≠ .flush ∧ m.isReset = false) (htold : m.told = []) (fails : Trigger → Bool) :
    w.session.Drew (w.step fails m).1.session ∧ (w.step fails m).1.flushes = [] := by
  have hs := step_spec fails w m
  generalize w.step fails m = r at hs ⊢
  cases hs with
  | still => exact ⟨.rfl, hflushes⟩
  | feed chunk canWork =>
    rw [show chunk = [] from htold, feed_nil]
    exact ⟨.rfl, hflushes⟩
  | flush => exact absurd rfl hm.1
  | workerTurn hl => exact ⟨Session.drew_work _ _ _, hflushes⟩
  | workerAnswer a hl => exact ⟨Session.drew_resumeWork _ _ _ _ _, hflushes⟩
  | flushTurn hl hstage =>
    rw [hflushes] at hl
    cases hl
  | flushAnswer a hl =>
    rw [hflushes] at hl
    cases hl
  | reset => cases hm.2
  | fullReset => cases hm.2
  | playback c length => exact ⟨.of_eq rfl rfl, hflushes⟩
  | setClock time => exact ⟨.of_eq rfl rfl, hflushes⟩

theorem drew_run {w : World} (hflushes : w.flushes = []) {ms : List Move}
    (hms : ∀ m ∈ ms, m ≠ .flush ∧ m.isReset = false) (htold : told ms = [])
    (fails : Trigger → Bool) :
    w.session.Drew (w.run fails ms).1.session ∧ (w.run fails ms).1.flushes = [] := by
  induction ms generalizing w with
  | nil => exact ⟨.rfl, hflushes⟩
  | cons m rest ih =>
    obtain ⟨hm, hrest⟩ := List.forall_mem_cons.mp hms
    rw [told_cons] at htold
    obtain ⟨hfirst, hlater⟩ := List.append_eq_nil_iff.mp htold
    obtain ⟨hdrew, hnone⟩ := drew_step hflushes hm hfirst fails
    obtain ⟨hdrew', hnone'⟩ := ih hnone hrest hlater
    exact ⟨hdrew.trans hdrew', hnone'⟩

/-- What is in the buffer is the end of what was told, and there are no flushes. -/
structure Ending (t : Text) (w : World) : Prop where
  text : w.session.buffer.text <:+ t
  flushes : w.flushes = []

theorem Ending.step {t : Text} {w : World} (h : Ending t w) {m : Move}
    (hm : m ≠ .flush ∧ m.isReset = false) (fails : Trigger → Bool) :
    Ending (t ++ m.told) (w.step fails m).1 := by
  by_cases htold : m.told = []
  · obtain ⟨hdrew, hnone⟩ := drew_step h.flushes hm htold fails
    rw [htold, List.append_nil]
    exact ⟨hdrew.suffix.trans h.text, hnone⟩
  · cases m with
    | feed chunk canWork =>
      refine ⟨?_, ?_⟩
      · show (w.session.feed chunk canWork).session.buffer.text <:+ t ++ chunk
        obtain ⟨front, hfront⟩ := h.text
        rw [Session.buffer_feed, ← hfront, List.append_assoc]
        exact ⟨front, rfl⟩
      · exact h.flushes
    | _ => exact absurd rfl htold

theorem Ending.run {t : Text} {w : World} (h : Ending t w) {ms : List Move}
    (hms : ∀ m ∈ ms, m ≠ .flush ∧ m.isReset = false) (fails : Trigger → Bool) :
    Ending (t ++ told ms) (w.run fails ms).1 := by
  induction ms generalizing w t with
  | nil =>
    rw [told_nil, List.append_nil]
    exact h
  | cons m rest ih =>
    obtain ⟨hm, hrest⟩ := List.forall_mem_cons.mp hms
    rw [told_cons, ← List.append_assoc]
    exact ih (h.step hm fails) hrest

theorem ending_new (config : CueConfig) (clock : Millis) : Ending [] (new config clock) :=
  ⟨List.nil_suffix, rfl⟩

/-! ## The text that is searched again -/

/-- The run has just begun, or its last move fed a piece. -/
def JustFed (ms : List Move) : Prop :=
  ms = [] ∨ ∃ first chunk canWork, chunk ≠ [] ∧ ms = first ++ [.feed chunk canWork]

/-- All of the buffer was searched when a piece was just fed. -/
theorem JustFed.cursor {ms : List Move} (h : JustFed ms) (fails : Trigger → Bool)
    (config : CueConfig) (clock : Millis) :
    ((new config clock).run fails ms).1.session.cursor =
      ((new config clock).run fails ms).1.session.buffer.text.byteLength := by
  rcases h with rfl | ⟨first, chunk, canWork, hc, rfl⟩
  · rfl
  · rw [run_snoc]
    exact Session.cursor_feed _ hc canWork

/-- The text in front of `chunk` that is searched again with it: the word that it goes on with, or
all that is left in the buffer if segments were drawn since `v`. -/
def searchedAgain (v w : World) (chunk : Text) : Text :=
  if w.session.buffer.text = v.session.buffer.text then
    continued w.session.buffer.text chunk
  else w.session.buffer.text

theorem searchedAgain_suffix (v w : World) (chunk : Text) :
    searchedAgain v w chunk <:+ w.session.buffer.text := by
  unfold searchedAgain
  split
  · exact continued_suffix _ _
  · exact List.suffix_refl _

theorem unscanned_of_drew {v w : World} (hdrew : v.session.Drew w.session)
    (hcursor : v.session.cursor = v.session.buffer.text.byteLength) (chunk : Text) :
    Session.unscanned (w.session.buffer.text ++ chunk) w.session.cursor =
      searchedAgain v w chunk ++ chunk := by
  unfold searchedAgain
  rcases hdrew with ⟨htext, hsame⟩ | ⟨-, hlt, hzero⟩
  · rw [if_pos htext, hsame, hcursor, ← htext, Session.unscanned_append]
  · have hne : w.session.buffer.text ≠ v.session.buffer.text := by
      intro he
      rw [he] at hlt
      exact Nat.lt_irrefl _ hlt
    rw [if_neg hne, hzero, Session.unscanned_zero]

/-! ## No keyword is heard twice -/

/-- Wherever the keyword occurs in `front ++ rest`, in whatever case, it ends in `front`. -/
def EndsWithin (keyword front rest : Text) : Prop :=
  ∀ n ≤ (caseless (front ++ rest)).length,
    keyword.caseless <+: (caseless (front ++ rest)).drop n →
      n + keyword.caseless.length ≤ front.caseless.length

instance (keyword front rest : Text) : Decidable (EndsWithin keyword front rest) :=
  inferInstanceAs (Decidable (∀ n ≤ (caseless (front ++ rest)).length,
    keyword.caseless <+: (caseless (front ++ rest)).drop n →
      n + keyword.caseless.length ≤ front.caseless.length))

/-- Then it does not count in the rest. -/
theorem EndsWithin.not_counts {keyword front rest : Text} (h : EndsWithin keyword front rest) :
    keywordMatches rest.lowercase keyword = false := by
  rw [← Bool.not_eq_true]
  intro hcounts
  obtain ⟨hne, a, b, hab⟩ := infix_of_keywordMatches hcounts
  have hpos : 0 < keyword.caseless.length := by
    rw [← map_unify_lowercase, List.length_map]
    exact List.length_pos_iff.mpr (lowercase_ne_nil hne)
  have hrest : caseless (front ++ rest) =
      (front.caseless ++ a.map unify) ++ (keyword.caseless ++ b.map unify) := by
    rw [caseless_append, ← map_unify_lowercase rest, ← hab, List.map_append, List.map_append,
      map_unify_lowercase]
    simp only [List.append_assoc]
  have hends := h (front.caseless ++ a.map unify).length
  rw [hrest, List.drop_left] at hends
  have hwithin := hends (List.prefix_append _ _).length_le (List.prefix_append _ _)
  rw [List.length_append] at hwithin
  omega

/-- In every run of feeds and turns of the worker, without a flush and without a reset, with
whatever gates and whatever receiver: a piece is searched together with the word that it goes on
with and, if segments were drawn since the last piece was fed, with all that they left in the buffer.
If every occurrence of every keyword of a channel ends in front of that, the piece gets the channel
no cue. -/
theorem no_keyword_is_heard_twice (fails : Trigger → Bool) (config : CueConfig) (clock : Millis)
    (before after : List Move) (chunk : Text) (canWork : Bool) (c : Channel)
    (hms : ∀ m ∈ before ++ after, m ≠ .flush ∧ m.isReset = false)
    (hbefore : JustFed before) (hafter : told after = []) :
    let v := ((new config clock).run fails before).1
    let w := (v.run fails after).1
    ∃ front, told (before ++ after) = front ++ searchedAgain v w chunk ∧
      ((∀ keyword ∈ config.keywords c, keyword ≠ [] →
          EndsWithin keyword front (searchedAgain v w chunk ++ chunk)) →
        ∀ cue ∈ heardOf (w.step fails (.feed chunk canWork)).2, cue.channel ≠ c) := by
  intro v w
  have hbeforems : ∀ m ∈ before, m ≠ .flush ∧ m.isReset = false := fun m hm =>
    hms m (List.mem_append_left _ hm)
  have hafterms : ∀ m ∈ after, m ≠ .flush ∧ m.isReset = false := fun m hm =>
    hms m (List.mem_append_right _ hm)
  have hv : Ending (told before) v := (ending_new config clock).run hbeforems fails
  have hw : Ending (told before) w := by
    have := hv.run hafterms fails
    rwa [hafter, List.append_nil] at this
  have hdrew : v.session.Drew w.session := (drew_run hv.flushes hafterms hafter fails).1
  have hconfig : w.session.config = config :=
    (config_run fails v after).trans (config_run fails (new config clock) before)
  obtain ⟨front, hfront⟩ := (searchedAgain_suffix v w chunk).trans hw.text
  refine ⟨front, by rw [told_append, hafter, List.append_nil, hfront], ?_⟩
  rintro hends cue hcue rfl
  obtain ⟨-, hfound⟩ := mem_keywordTriggers_of_heard hcue
  rw [unscanned_of_drew hdrew (hbefore.cursor fails config clock), hconfig] at hfound
  have hhears := (Session.exists_mem_keywordTriggers_iff config _ _).mp ⟨cue, hfound, rfl⟩
  obtain ⟨keyword, hk, hcounts⟩ := (CueConfig.hears_iff _ _ _).mp hhears
  have hne := (infix_of_keywordMatches hcounts).1
  rw [(hends keyword hk hne).not_counts] at hcounts
  cases hcounts

/-- Segments were drawn, and the keyword was in one of them. -/
theorem no_keyword_is_heard_twice_after_a_draw :
    let config : CueConfig :=
      { gestureCooldown := 0, expressionCooldown := 0, gestures := []
        expressions := [.ofStrings .smile 5 ["great"]] }
    let before := [Move.feed "It is great. Fine".toList true]
    let v := ((new config 0).run unfailing before).1
    let w := (v.run unfailing [.workerTurn 0]).1
    searchedAgain v w "ly done".toList = "Fine".toList ∧
      ∀ cue ∈ heardOf (w.step unfailing (.feed "ly done".toList true)).2,
        cue.channel ≠ .expression := by
  intro config before v w
  have hagain : searchedAgain v w "ly done".toList = "Fine".toList := by decide +kernel
  refine ⟨hagain, ?_⟩
  obtain ⟨front, hfront, hnone⟩ := no_keyword_is_heard_twice unfailing config 0 before
    [.workerTurn 0] "ly done".toList true .expression (by decide)
    (.inr ⟨[], _, true, by decide, rfl⟩) rfl
  apply hnone
  have hagain' : searchedAgain ((new config 0).run unfailing before).1
      (((new config 0).run unfailing before).1.run unfailing [.workerTurn 0]).1
      "ly done".toList = "Fine".toList := hagain
  rw [hagain'] at hfront ⊢
  have hpart : front = "It is great. ".toList := by
    have hboth : front ++ "Fine".toList = "It is great. ".toList ++ "Fine".toList := hfront.symm
    exact List.append_cancel_right hboth
  rw [hpart]
  intro keyword hk _
  rw [List.mem_singleton.mp hk]
  decide +kernel

/-- If every occurrence of every keyword of a channel ends in what was told before, the piece gets the
channel no cue. -/
def HearsNothingAgain (fails : Trigger → Bool) (config : CueConfig) (clock : Millis)
    (ms : List Move) (chunk : Text) (canWork : Bool) (c : Channel) : Prop :=
  (∀ keyword ∈ config.keywords c, keyword ≠ [] → EndsWithin keyword (told ms) chunk) →
    ∀ cue ∈ heardOf (((new config clock).run fails ms).1.step fails (.feed chunk canWork)).2,
      cue.channel ≠ c

/-- The word that a piece goes on with is searched again, so a keyword at its start is heard a second
time, although no worker has had a turn. And what a worker has left in the buffer is searched again,
so a keyword in it is heard a second time, although the piece goes on with no word. -/
theorem a_keyword_is_heard_again_where_the_search_comes_back :
    (¬ ∀ (fails : Trigger → Bool) (config : CueConfig) (clock : Millis) (ms : List Move)
        (chunk : Text) (canWork : Bool) (c : Channel),
        (∀ m ∈ ms, m ≠ .flush ∧ m.isReset = false) → (∀ m ∈ ms, m.task? = none) →
          HearsNothingAgain fails config clock ms chunk canWork c) ∧
      ¬ ∀ (fails : Trigger → Bool) (config : CueConfig) (clock : Millis) (ms : List Move)
        (chunk : Text) (canWork : Bool) (c : Channel),
        (∀ m ∈ ms, m ≠ .flush ∧ m.isReset = false) → continued (told ms) chunk = [] →
          HearsNothingAgain fails config clock ms chunk canWork c := by
  constructor
  · intro h
    have hnone := h unfailing
      { gestureCooldown := 0, expressionCooldown := 0, gestures := []
        expressions := [.ofStrings .smile 5 ["great"]] }
      0 [.feed "It is great".toList true] "ly so".toList true .expression (by decide) (by decide)
      (by decide +kernel) (.expression .smile) (by decide +kernel)
    exact hnone rfl
  · intro h
    have hnone := h unfailing
      { gestureCooldown := 0, expressionCooldown := 0, expressions := []
        gestures := [.ofStrings .shakeHead 6 ["no"]] }
      0 [.feed "It rains in here. Oh no".toList true, .workerTurn 0] ", thanks".toList true .gesture
      (by decide) (by decide +kernel) (by decide +kernel) (.gesture .shakeHead) (by decide +kernel)
    exact hnone rfl

end World

end CueStream
