-- Keywords in a text that arrives piece by piece. Where the pieces are cut
-- makes no difference to a keyword that is one word or one character, and a
-- longer one is found if it is cut in its first word at most. What is found in
-- a piece is a keyword of the whole text unless the piece ends inside a word.
import CueStream.Proofs.Session.Scanning

namespace CueStream

open Lexicon Text

/-! ## The piece with the end of a stretch -/

/-- Some move feeds the last character of what is told up to a place. -/
theorem exists_feed_of_told {ms : List Move} {u v : Text} (hu : u ≠ []) (h : told ms = u ++ v) :
    ∃ before chunk canWork after u' v', ms = before ++ .feed chunk canWork :: after ∧
      chunk = u' ++ v' ∧ u' ≠ [] ∧ told before ++ u' = u ∧ v' <+: v := by
  induction ms generalizing u with
  | nil => exact absurd (List.append_eq_nil_iff.mp h.symm).1 hu
  | cons m rest ih =>
    rw [told_cons] at h
    rcases List.append_eq_append_iff.mp h with ⟨u', hu', hrest⟩ | ⟨v', hv', hrest⟩
    · by_cases hnil : u' = []
      · -- the place is the end of what this move feeds
        rw [hnil, List.append_nil] at hu'
        cases m with
        | feed chunk canWork =>
          exact ⟨[], chunk, canWork, rest, chunk, [], rfl, (List.append_nil _).symm,
            fun hn => hu (hu'.trans hn), hu'.symm, List.nil_prefix⟩
        | _ => exact absurd hu' hu
      · obtain ⟨before, chunk, canWork, after, w, v', rfl, hchunk, hw, hbefore, hv'⟩ :=
          ih hnil hrest
        refine ⟨m :: before, chunk, canWork, after, w, v', rfl, hchunk, hw, ?_, hv'⟩
        rw [hu', ← hbefore, told_cons, List.append_assoc]
    · cases m with
      | feed chunk canWork =>
        exact ⟨[], chunk, canWork, rest, u, v', rfl, hv', hu, rfl, ⟨_, hrest.symm⟩⟩
      | _ => exact absurd (List.append_eq_nil_iff.mp hv'.symm).1 hu

/-- A piece ends inside the stretch `x`, which stands behind `a`, at most in the middle of its first
word. -/
def CutInFirstWord (a x : Text) (ms : List Move) : Prop :=
  ∀ before after x₁ x₂, ms = before ++ after → told before = a ++ x₁ → x = x₁ ++ x₂ →
    x₁ ≠ [] → x₂ ≠ [] → (∀ c ∈ x₁, isWordChar c = true) ∧ x₂.head?.any isWordChar = true

/-- No cut inside a solid stretch leaves its first word. -/
theorem cutInFirstWord_of_solid {x : Text} (h : Solid x) (a : Text) (ms : List Move) :
    CutInFirstWord a x ms := by
  rintro before after x₁ x₂ - - rfl h₁ h₂
  have h₁ := List.length_pos_iff.mpr h₁
  have h₂' := List.length_pos_iff.mpr h₂
  rcases h with hone | hword
  · rw [List.length_append] at hone
    omega
  · refine ⟨fun c hc => hword c (List.mem_append_left _ hc), ?_⟩
    obtain ⟨d, more, rfl⟩ := List.exists_cons_of_ne_nil h₂
    exact hword d (List.mem_append_right _ List.mem_cons_self)

/-- Then all of the stretch is searched at once when its last character is fed. -/
theorem CutInFirstWord.exists_feed {a x b : Text} {ms : List Move} (h : CutInFirstWord a x ms)
    (hx : x ≠ []) (htold : told ms = a ++ x ++ b) :
    ∃ before chunk canWork after a' b', ms = before ++ .feed chunk canWork :: after ∧
      chunk ≠ [] ∧ a' <:+ a ∧ b' <+: b ∧
      continued (told before) chunk ++ chunk = a' ++ x ++ b' := by
  have hne : a ++ x ≠ [] := fun hn => hx (List.append_eq_nil_iff.mp hn).2
  obtain ⟨before, chunk, canWork, after, u, b', hms, rfl, hu, hbefore, hb'⟩ :=
    exists_feed_of_told hne htold
  refine ⟨before, u ++ b', canWork, after, ?_⟩
  have hchunk : u ++ b' ≠ [] := fun hn => hu (List.append_eq_nil_iff.mp hn).1
  rcases List.append_eq_append_iff.mp hbefore with ⟨y, rfl, rfl⟩ | ⟨x₁, hx₁, rfl⟩
  · -- the stretch starts in the piece
    obtain ⟨front, hfront⟩ := continued_suffix (told before) (y ++ x ++ b')
    refine ⟨continued (told before) (y ++ x ++ b') ++ y, b', hms, hchunk, ⟨front, ?_⟩, hb', ?_⟩
    · rw [← List.append_assoc, hfront]
    · simp only [List.append_assoc]
  · by_cases hnil : x₁ = []
    · rw [hnil, List.append_nil] at hx₁
      rw [hnil, List.nil_append]
      refine ⟨continued (told before) (u ++ b'), b', hms, hchunk, ?_, hb', ?_⟩
      · exact hx₁ ▸ continued_suffix (told before) (u ++ b')
      · rw [List.append_assoc]
    · obtain ⟨hword, hhead⟩ := h before _ x₁ u hms hx₁ rfl hnil hu
      have hhead' : (u ++ b').head?.any isWordChar = true := by
        rw [List.head?_append_of_ne_nil _ hu]
        exact hhead
      refine ⟨continued a (u ++ b'), b', hms, hchunk, continued_suffix _ _, hb', ?_⟩
      rw [hx₁, continued_append hword hhead']
      simp only [List.append_assoc]

namespace World

/-! ## Nothing is lost but what is cut between words -/

/-- A run from the start, without a flush and without a reset, that never holds a cue back: there
are no cooldowns, no clip blocks its channel, and the clock does not run backwards. -/
structure Unhindered (config : CueConfig) (clock : Millis) (ms : List Move) : Prop where
  cooldown : ∀ c, config.cooldown c = 0
  unblocked : config.blockDuringPlayback = false
  streaming : ∀ m ∈ ms, m ≠ .flush ∧ m.isReset = false
  unplayed : ∀ c length, .playback c length ∉ ms
  forward : (clock :: ms.filterMap Move.time?).Pairwise (· ≤ ·)

theorem Unhindered.of_append {config : CueConfig} {clock : Millis} {a b : List Move}
    (h : Unhindered config clock (a ++ b)) : Unhindered config clock a := by
  have hforward := h.forward
  rw [List.filterMap_append] at hforward
  refine ⟨h.cooldown, h.unblocked, ?_, ?_, ?_⟩
  · exact fun m hm => h.streaming m (List.mem_append_left b hm)
  · exact fun c length hm => h.unplayed c length (List.mem_append_left b hm)
  · exact hforward.sublist ((List.sublist_append_left _ _).cons_cons clock)

/-- The receiver got a cue of the channel for a keyword. -/
def Heard (c : Channel) (events : List Event) : Prop :=
  ∃ t, t.channel = c ∧ .delivered .feeder t ∈ events

/-- A channel that hears something in what is searched with a piece gets its cue. -/
theorem Unhindered.heard_of_hears {config : CueConfig} {clock : Millis} {before after : List Move}
    {chunk : Text} {canWork : Bool}
    (h : Unhindered config clock (before ++ .feed chunk canWork :: after))
    (hgap : (told before).hasGap = false) (hc : chunk ≠ []) {c : Channel}
    (hhears : config.hears c (continued (told before) chunk ++ chunk) = true) :
    Heard c ((new config clock).run unfailing (before ++ .feed chunk canWork :: after)).2 := by
  have hbefore := h.of_append
  have hgather : Gathering (told before) ((new config clock).run unfailing before).1 :=
    (gathering_new config clock).run hbefore.streaming hgap unfailing
  have hfree : ((new config clock).run unfailing before).1.session.Free :=
    free_run (Session.free_new h.cooldown h.unblocked clock) hbefore.unplayed hbefore.forward
  have hconfig : ((new config clock).run unfailing before).1.session.config = config :=
    config_run unfailing (new config clock) before
  obtain ⟨t, ht, hchannel⟩ := (Session.exists_mem_keywordTriggers_iff config _ c).mpr hhears
  refine ⟨t, hchannel, ?_⟩
  have hdelivered : .delivered .feeder t ∈
      (((new config clock).run unfailing before).1.step unfailing (.feed chunk canWork)).2 := by
    apply delivered_of_mem_keywordTriggers hfree hc
    rw [hgather.unscanned, hconfig]
    exact ht
  rw [run_append]
  exact List.mem_append_right _ (List.mem_append_left _ hdelivered)

/-- A keyword that counts in whatever is cut out of the text around a stretch is heard, unless the
stretch is cut behind its first word. -/
theorem Unhindered.heard_of_stretch {config : CueConfig} {clock : Millis} {ms : List Move}
    (h : Unhindered config clock ms) (hgap : (told ms).hasGap = false) {c : Channel}
    {keyword : Text} (hk : keyword ∈ config.keywords c) {a x b : Text}
    (htold : told ms = a ++ x ++ b) (hx : x ≠ []) (hcut : CutInFirstWord a x ms)
    (hcounts : ∀ a' b', a' <:+ a → b' <+: b → a' ++ x ++ b' <:+: told ms →
      keywordMatches (lowercase (a' ++ x ++ b')) keyword = true) :
    Heard c ((new config clock).run unfailing ms).2 := by
  obtain ⟨before, chunk, canWork, after, a', b', rfl, hc, ha', hb', hsearched⟩ :=
    hcut.exists_feed hx htold
  have hinfix : a' ++ x ++ b' <:+: told (before ++ .feed chunk canWork :: after) := by
    obtain ⟨a₀, rfl⟩ := ha'
    obtain ⟨b₀, rfl⟩ := hb'
    refine ⟨a₀, b₀, ?_⟩
    rw [htold]
    simp only [List.append_assoc]
  rw [told_append] at hgap
  apply h.heard_of_hears (hasGap_of_append hgap) hc
  rw [hsearched, CueConfig.hears_iff]
  exact ⟨keyword, hk, hcounts a' b' ha' hb' hinfix⟩

/-- A solid keyword is heard wherever the text is cut. -/
theorem Unhindered.heard_of_solid {config : CueConfig} {clock : Millis} {ms : List Move}
    (h : Unhindered config clock ms) (hgap : (told ms).hasGap = false) {c : Channel}
    {keyword : Text} (hk : keyword ∈ config.keywords c) (hcontext : Contextless keyword (told ms))
    (hsolid : Solid keyword.lowercase)
    (hcounts : keywordMatches (told ms).lowercase keyword = true) :
    Heard c ((new config clock).run unfailing ms).2 := by
  obtain ⟨f, hf, hlower⟩ := hcontext.exists_charwise
  rw [hlower _ (List.infix_refl _)] at hcounts
  obtain ⟨a, x, b, htold, hx, hsolidx, hpieces⟩ := hf.exists_stretch hsolid hcounts
  apply h.heard_of_stretch hgap hk htold hx (cutInFirstWord_of_solid hsolidx a ms)
  intro a' b' ha' hb' hinfix
  rw [hlower _ hinfix]
  exact hpieces a' b' ha' hb'

/-- A keyword that counts wherever it stands is heard if it is cut in its first word at most. -/
theorem Unhindered.heard_of_long {config : CueConfig} {clock : Millis} {ms : List Move}
    (h : Unhindered config clock ms) (hgap : (told ms).hasGap = false) {c : Channel}
    {keyword : Text} (hk : keyword ∈ config.keywords c) (hne : keyword ≠ [])
    (hcontext : Contextless keyword (told ms)) (hlong : isShort keyword = false) {a x b : Text}
    (htold : told ms = a ++ x ++ b) (hstands : keyword.lowercase <:+: x.lowercase)
    (hcut : CutInFirstWord a x ms) : Heard c ((new config clock).run unfailing ms).2 := by
  obtain ⟨f, hf, hlower⟩ := hcontext.exists_charwise
  have hx : x ≠ [] := by
    rintro rfl
    exact lowercase_ne_nil hne (List.eq_nil_of_infix_nil hstands)
  have hxf : keyword.lowercase <:+: x.flatMap f := by
    have hcounts := keywordMatches_of_infix hne hlong hstands
    rw [hlower x ⟨a, b, htold.symm⟩] at hcounts
    exact (infix_of_keywordMatches hcounts).2
  apply h.heard_of_stretch hgap hk htold hx hcut
  intro a' b' _ _ hinfix
  rw [hlower _ hinfix]
  apply keywordMatches_of_infix hne hlong
  rw [List.flatMap_append, List.flatMap_append]
  exact hxf.trans ⟨_, _, rfl⟩

end World

/-- A text that is not solid can be cut so that the second piece goes on with less than the first
one. -/
theorem exists_cut_of_not_solid {t : Text} (hne : t ≠ []) (h : ¬ Solid t) :
    ∃ x₁ x₂, x₁ ≠ [] ∧ x₂ ≠ [] ∧ t = x₁ ++ x₂ ∧ continued x₁ x₂ = [] := by
  unfold Solid at h
  rw [not_or] at h
  obtain ⟨hone, hword⟩ := h
  have hother : ∃ c ∈ t, isWordChar c = false := by
    simpa using hword
  obtain ⟨c, hc, hcw⟩ := hother
  obtain ⟨front, rest, rfl⟩ := List.append_of_mem hc
  by_cases hfront : front = []
  · have hrest : rest ≠ [] := by
      rintro rfl
      rw [hfront] at hone
      exact hone rfl
    refine ⟨[c], rest, by simp, hrest, by rw [hfront]; rfl, ?_⟩
    unfold continued
    simp [hcw]
  · refine ⟨front, c :: rest, hfront, by simp, rfl, ?_⟩
    exact continued_of_not_word (by simpa using hcw) front

namespace World

/-- Less than the only keyword of a channel is not heard on it. -/
theorem not_hears_of_shorter {config : CueConfig} {c : Channel} {keyword piece : Text}
    (hk : config.keywords c = [keyword]) (hpiece : piece <:+: keyword.lowercase)
    (hshorter : piece.length < keyword.lowercase.length) : config.hears c piece = false := by
  rw [← Bool.not_eq_true, CueConfig.hears_iff, hk]
  rintro ⟨other, ho, hcounts⟩
  rw [List.mem_singleton.mp ho, lowercase_of_infix hpiece] at hcounts
  have hle := (infix_of_keywordMatches hcounts).2.length_le
  omega

/-- What a channel gets for a piece, it hears in what is searched with it. -/
theorem Gathering.hears_of_heard {t : Text} {w : World} (h : Gathering t w)
    {fails : Trigger → Bool} {chunk : Text} {canWork : Bool} {cue : Trigger}
    (hcue : cue ∈ heardOf (w.step fails (.feed chunk canWork)).2) :
    chunk ≠ [] ∧
      w.session.config.hears cue.channel (continued t chunk ++ chunk) = true := by
  obtain ⟨hc, hfound⟩ := mem_keywordTriggers_of_heard hcue
  rw [h.unscanned] at hfound
  exact ⟨hc, (Session.exists_mem_keywordTriggers_iff _ _ _).mp ⟨cue, hfound, rfl⟩⟩

/-- If the only keyword of a channel is fed in two pieces and the second piece is searched on its
own, the channel gets nothing. -/
theorem not_heard_of_cut {config : CueConfig} {c : Channel} {keyword x₁ x₂ : Text}
    (hk : config.keywords c = [keyword]) (hgap : keyword.lowercase.hasGap = false)
    (hcut : keyword.lowercase = x₁ ++ x₂) (h₁ : x₁ ≠ []) (h₂ : x₂ ≠ [])
    (hcontinued : continued x₁ x₂ = []) (clock : Millis) (fails : Trigger → Bool) :
    ∀ cue ∈ heardOf ((new config clock).run fails [.feed x₁ true, .feed x₂ true]).2,
      cue.channel ≠ c := by
  have h₁ := List.length_pos_iff.mpr h₁
  have h₂ := List.length_pos_iff.mpr h₂
  have hlength : keyword.lowercase.length = x₁.length + x₂.length := by
    rw [hcut, List.length_append]
  have hfirst : config.hears c x₁ = false := by
    apply not_hears_of_shorter hk _ (by omega)
    rw [hcut]
    exact (List.prefix_append x₁ x₂).isInfix
  have hsecond : config.hears c x₂ = false := by
    apply not_hears_of_shorter hk _ (by omega)
    rw [hcut]
    exact (List.suffix_append x₁ x₂).isInfix
  have hstart := gathering_new config clock
  have hnone : continued [] x₁ = [] := List.eq_nil_of_suffix_nil (continued_suffix [] x₁)
  have hgather : Gathering x₁ ((new config clock).step fails (.feed x₁ true)).1 := by
    rw [hcut] at hgap
    exact hstart.feed (hasGap_of_append hgap) fails true
  have hconfig : ((new config clock).step fails (.feed x₁ true)).1.session.config = config :=
    (grows_step fails (new config clock) _).config
  rintro cue hcue rfl
  simp only [World.run, List.append_nil] at hcue
  unfold heardOf at hcue
  rw [List.filterMap_append] at hcue
  rcases List.mem_append.mp hcue with hcue | hcue
  · obtain ⟨-, hhears⟩ := hstart.hears_of_heard hcue
    rw [hnone, List.nil_append] at hhears
    rw [show (new config clock).session.config = config from rfl, hfirst] at hhears
    cases hhears
  · obtain ⟨-, hhears⟩ := hgather.hears_of_heard hcue
    rw [hcontinued, List.nil_append, hconfig, hsecond] at hhears
    cases hhears

/-- A text without a gap is fed piece by piece, and nothing is held back. A keyword that counts in
the text is heard if it consists of word characters or is a single character, wherever the text is
cut; and if it need not be a word, it is heard as long as it is cut inside its first word at most.
Every other keyword can be cut in two so that nothing is heard of it. -/
theorem keywords_are_heard_across_pieces (config : CueConfig) (clock : Millis) (c : Channel) :
    (∀ ms, Unhindered config clock ms → (told ms).hasGap = false →
      ∀ keyword ∈ config.keywords c, Contextless keyword (told ms) →
        (Solid keyword.lowercase → keywordMatches (told ms).lowercase keyword = true →
          Heard c ((new config clock).run unfailing ms).2) ∧
        (keyword ≠ [] → isShort keyword = false → ∀ a x b, told ms = a ++ x ++ b →
          keyword.lowercase <:+: x.lowercase → CutInFirstWord a x ms →
          Heard c ((new config clock).run unfailing ms).2)) ∧
      ∀ keyword, config.keywords c = [keyword] → keyword ≠ [] →
        keyword.lowercase.hasGap = false → ¬ Solid keyword.lowercase →
        config.hears c keyword.lowercase = true ∧
          ∃ x₁ x₂, x₁ ≠ [] ∧ x₂ ≠ [] ∧ keyword.lowercase = x₁ ++ x₂ ∧
            ∀ fails, ∀ cue ∈
              heardOf ((new config clock).run fails [.feed x₁ true, .feed x₂ true]).2,
              cue.channel ≠ c := by
  refine ⟨?_, ?_⟩
  · intro ms h hgap keyword hk hcontext
    refine ⟨?_, ?_⟩
    · intro hsolid hcounts
      exact h.heard_of_solid hgap hk hcontext hsolid hcounts
    · intro hne hlong a x b htold hstands hcut
      exact h.heard_of_long hgap hk hne hcontext hlong htold hstands hcut
  · intro keyword hk hne hgap hsolid
    have hlower := lowercase_ne_nil hne
    refine ⟨?_, ?_⟩
    · rw [CueConfig.hears_iff, hk, lowercase_of_infix (List.infix_refl _)]
      exact ⟨keyword, List.mem_singleton_self keyword, keywordMatches_lowercase_self hne⟩
    · obtain ⟨x₁, x₂, h₁, h₂, hcut, hcontinued⟩ := exists_cut_of_not_solid hlower hsolid
      exact ⟨x₁, x₂, h₁, h₂, hcut, not_heard_of_cut hk hgap hcut h₁ h₂ hcontinued clock⟩

/-- A word that is cut, two words that are cut in the first one, and two words that are cut behind
it. -/
theorem keywords_are_heard_across_two_pieces :
    let config : CueConfig :=
      { gestureCooldown := 0, expressionCooldown := 0,
        gestures := [.ofStrings .nod 5 ["correct", "of course"]],
        expressions := [.ofStrings .sad 5 ["too bad"]] }
    let word := [Move.feed "That is cor".toList true, .feed "rect, yes".toList true]
    let words := [Move.feed "o".toList true, .feed "f course".toList true]
    Heard .gesture ((new config 0).run unfailing word).2 ∧
      Heard .gesture ((new config 0).run unfailing words).2 ∧
      ∃ x₁ x₂, "too bad".toList = x₁ ++ x₂ ∧
        ∀ cue ∈ heardOf ((new config 0).run unfailing [.feed x₁ true, .feed x₂ true]).2,
          cue.channel ≠ .expression := by
  intro config word words
  have hcooldown : ∀ c, config.cooldown c = 0 := by
    intro c
    cases c <;> rfl
  have hword : Unhindered config 0 word :=
    ⟨hcooldown, rfl, by decide, by simp [word], by decide⟩
  have hwords : Unhindered config 0 words :=
    ⟨hcooldown, rfl, by decide, by simp [words], by decide⟩
  have hcut : CutInFirstWord [] "of course".toList words := by
    rintro before after x₁ x₂ hms hbefore hx h₁ h₂
    match before with
    | [] => exact absurd hbefore.symm h₁
    | [m] =>
      simp only [words, List.cons_append, List.nil_append, List.cons_eq_cons] at hms
      obtain ⟨rfl, -⟩ := hms
      have hx₁ : x₁ = ['o'] := hbefore.symm
      rw [hx₁] at hx ⊢
      have hx₂ : x₂ = "f course".toList := (List.cons_eq_cons.mp hx).2.symm
      rw [hx₂]
      exact ⟨List.all_eq_true.mp (by decide +kernel), by decide +kernel⟩
    | m :: n :: more =>
      simp only [words, List.cons_append, List.cons_eq_cons, List.nil_eq,
        List.append_eq_nil_iff] at hms
      obtain ⟨rfl, rfl, rfl, -⟩ := hms
      have hx₁ : x₁ = "of course".toList := hbefore.symm
      rw [hx₁, List.self_eq_append_right] at hx
      exact absurd hx h₂
  obtain ⟨hheard, -⟩ := keywords_are_heard_across_pieces config 0 .gesture
  refine ⟨?_, ?_, ?_⟩
  · exact (hheard word hword (by decide +kernel) "correct".toList (by decide)
      (by decide +kernel)).1 (by decide +kernel) (by decide +kernel)
  · exact (hheard words hwords (by decide +kernel) "of course".toList (by decide)
      (by decide +kernel)).2 (by decide) (by decide +kernel) [] _ [] rfl
      (by decide +kernel) hcut
  · obtain ⟨-, hlost⟩ := keywords_are_heard_across_pieces config 0 .expression
    obtain ⟨-, x₁, x₂, -, -, hx, hnone⟩ := hlost "too bad".toList rfl (by decide)
      (by decide +kernel) (by decide +kernel)
    have hlower : lowercase "too bad".toList = "too bad".toList := by decide +kernel
    exact ⟨x₁, x₂, hlower.symm.trans hx, hnone unfailing⟩

/-! ## Nothing else is found but at the end of a piece -/

/-- What a channel gets for a piece is a keyword of the text, if the piece does not end inside a
word of the text and if the short keywords consist of word characters. -/
theorem Gathering.hears_of_apart {t : Text} {w : World} (h : Gathering t w)
    {fails : Trigger → Bool} {chunk rest : Text} {canWork : Bool} {cue : Trigger}
    (hkeywords : ∀ keyword ∈ w.session.config.keywords cue.channel,
      Contextless keyword (t ++ chunk ++ rest) ∧
        (isShort keyword = true → ∀ x ∈ keyword.lowercase, isWordChar x = true))
    (hapart : Apart chunk rest)
    (hcue : cue ∈ heardOf (w.step fails (.feed chunk canWork)).2) :
    w.session.config.hears cue.channel (t ++ chunk ++ rest) = true := by
  obtain ⟨hc, hhears⟩ := h.hears_of_heard hcue
  obtain ⟨keyword, hk, hcounts⟩ := (CueConfig.hears_iff _ _ _).mp hhears
  obtain ⟨hcontext, hshort⟩ := hkeywords keyword hk
  obtain ⟨f, hf, hlower⟩ := hcontext.exists_charwise
  obtain ⟨front, hfront, hstart⟩ := exists_apart_continued t chunk
  have hend : Apart (continued t chunk ++ chunk) rest := by
    unfold Apart
    rw [List.getLast?_append_of_ne_nil _ hc]
    exact hapart
  have hwhole : t ++ chunk ++ rest = front ++ (continued t chunk ++ chunk) ++ rest := by
    rw [← List.append_assoc front, hfront]
  rw [hlower _ ⟨front, rest, hwhole.symm⟩] at hcounts
  rw [CueConfig.hears_iff]
  refine ⟨keyword, hk, ?_⟩
  rw [hlower _ (List.infix_refl _), hwhole]
  exact hf.keywordMatches_of_piece hshort hstart hend hcounts

/-- A text without a gap is fed piece by piece. Whatever the gates are like, a cue that a channel
gets for a piece stands for a keyword of the whole text, if the piece does not end inside a word of
the text and the short keywords of the channel consist of word characters. The end of a piece is
taken for the end of a word, though: every short keyword is heard when it is fed as a piece, also
where the next piece shows that it was only the start of a word. -/
theorem keywords_of_pieces_are_keywords_of_the_text (config : CueConfig) (clock : Millis)
    (c : Channel) :
    (∀ fails ms chunk canWork rest, (∀ m ∈ ms, m ≠ .flush ∧ m.isReset = false) →
      (told ms ++ chunk ++ rest).hasGap = false →
      (∀ keyword ∈ config.keywords c, Contextless keyword (told ms ++ chunk ++ rest) ∧
        (isShort keyword = true → ∀ x ∈ keyword.lowercase, isWordChar x = true)) →
      Apart chunk rest →
      (∃ cue ∈ heardOf (((new config clock).run fails ms).1.step fails (.feed chunk canWork)).2,
        cue.channel = c) →
      config.hears c (told ms ++ chunk ++ rest) = true) ∧
      ∀ keyword, config.keywords c = [keyword] → keyword ≠ [] → isShort keyword = true →
        ∀ x, isWordChar x = true → Unicode.lowerForm x = [x] →
          Unhindered config clock [.feed keyword.lowercase true, .feed [x] true] →
          config.hears c (keyword.lowercase ++ [x]) = false ∧
            Heard c ((new config clock).run unfailing
              [.feed keyword.lowercase true, .feed [x] true]).2 := by
  refine ⟨?_, ?_⟩
  · rintro fails ms chunk canWork rest hms hgap hkeywords hapart ⟨cue, hcue, rfl⟩
    have hgather : Gathering (told ms) ((new config clock).run fails ms).1 :=
      (gathering_new config clock).run hms
        (hasGap_of_append (hasGap_of_append hgap)) fails
    have hconfig : ((new config clock).run fails ms).1.session.config = config :=
      config_run fails (new config clock) ms
    rw [← hconfig] at hkeywords ⊢
    exact hgather.hears_of_apart hkeywords hapart hcue
  · intro keyword hk hne hshort x hx hlower hfree
    have hlowercase := lowercase_ne_nil hne
    refine ⟨?_, ?_⟩
    · have hfixed : lowercase (keyword.lowercase ++ [x]) = keyword.lowercase ++ [x] := by
        apply lowercase_eq_self
        intro d hd
        rcases List.mem_append.mp hd with hd | hd
        · exact lowerForm_of_mem_lowercase hd
        · rw [List.mem_singleton.mp hd]
          exact hlower
      rw [← Bool.not_eq_true, CueConfig.hears_iff, hk]
      rintro ⟨other, ho, hcounts⟩
      rw [List.mem_singleton.mp ho, hfixed, keywordMatches_eq, hshort, if_pos rfl,
        containsWord_concat _ hx, Bool.and_false] at hcounts
      cases hcounts
    · have hfirst : Unhindered config clock ([] ++ [.feed keyword.lowercase true, .feed [x] true]) :=
        hfree
      apply hfirst.heard_of_hears rfl hlowercase
      have hnone : continued (told []) keyword.lowercase = [] :=
        List.eq_nil_of_suffix_nil (continued_suffix [] keyword.lowercase)
      rw [hnone, List.nil_append, CueConfig.hears_iff, hk,
        lowercase_of_infix (List.infix_refl _)]
      exact ⟨keyword, List.mem_singleton_self keyword, keywordMatches_lowercase_self hne⟩

/-- A word in two pieces, and a word whose first piece is a word itself. -/
theorem keywords_of_two_pieces_are_keywords_of_the_text :
    let config : CueConfig :=
      { gestureCooldown := 0, expressionCooldown := 0,
        gestures := [.ofStrings .shakeHead 8 ["no"]], expressions := [] }
    config.hears .gesture "I say no, sir".toList = true ∧
      config.hears .gesture "noo".toList = false ∧
      Heard .gesture ((new config 0).run unfailing
        [.feed "no".toList true, .feed ['o'] true]).2 := by
  intro config
  obtain ⟨hsound, hends⟩ := keywords_of_pieces_are_keywords_of_the_text config 0 .gesture
  have hfree : Unhindered config 0 [.feed (lowercase "no".toList) true, .feed ['o'] true] := by
    refine ⟨?_, rfl, by decide, by simp, by decide⟩
    intro c
    cases c <;> rfl
  have hlower : lowercase "no".toList = "no".toList := by decide +kernel
  have hno := hends "no".toList rfl (by decide) (by decide +kernel) 'o' (by decide +kernel)
    (by decide +kernel) hfree
  rw [hlower] at hno
  refine ⟨?_, hno⟩
  apply hsound unfailing [.feed "I say n".toList true] "o, ".toList true "sir".toList (by decide)
    (by decide +kernel) _ (by decide +kernel) ⟨.gesture .shakeHead, by decide +kernel, rfl⟩
  intro keyword hk
  rw [List.mem_singleton.mp hk]
  exact ⟨by decide +kernel, fun _ => List.all_eq_true.mp (by decide +kernel)⟩

end World

end CueStream
