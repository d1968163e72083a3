-- How far apart the cues of one channel are, in every run. Its cooldown lies
-- between any two of them, whatever the clock does. And while a clip plays
-- there is none, as long as the clock does not run backwards.
import CueStream.Proofs.Gate.Times
import CueStream.Proofs.Session.Gating

namespace CueStream

namespace Gate

/-! ## Cooldowns -/

theorem onCue_opened {g : Gate} {now : Millis} (h : g.allows now = true) (block : Bool)
    (t : Trigger) :
    (g.onCue block now t).1.window = g.window ∧ (g.onCue block now t).1.openedAt = some now := by
  rw [onCue_of_allows h]
  cases block <;> exact ⟨rfl, rfl⟩

/-- No operation changes the window. -/
theorem law_window (block : Bool) (window : Millis) :
    Law block (fun _ _ => True) fun g _ _ => g.window = window := by
  refine ⟨?_, ?_, ?_⟩
  · exact fun t h hallows => (onCue_opened hallows block t).1.trans h
  · exact fun _ h => h
  · exact fun _ h _ => h

/-- The cooldown lies between any two of the cues that passed, and the gate remembers when the last
one did. -/
structure Paced (cooldown : Millis) (g : Gate) (passed : List (Trigger × Millis)) : Prop where
  window : g.window = cooldown
  apart : passed.Pairwise fun a b => a.2.toNat + cooldown.toNat ≤ b.2.toNat
  last : ∀ a ∈ passed, ∃ last, g.openedAt = some last ∧ a.2 ≤ last

/-- Every operation keeps the cooldown, wherever the clock is set. -/
theorem law_paced (block : Bool) (cooldown : Millis) :
    Law block (fun _ _ => True) fun g _ passed => g.Paced cooldown passed := by
  refine ⟨?_, ?_, ?_⟩
  · intro g now passed t h hallows
    obtain ⟨hwindow, hopened⟩ := onCue_opened hallows block t
    have hlater (a : Trigger × Millis) (ha : a ∈ passed) :
        a.2.toNat + cooldown.toNat ≤ now.toNat := by
      obtain ⟨last, hlast, hle⟩ := h.last a ha
      have := le_of_allows hallows hlast
      rw [h.window] at this
      rw [UInt64.le_iff_toNat_le] at hle
      omega
    refine ⟨hwindow.trans h.window, ?_, ?_⟩
    · rw [List.pairwise_append]
      refine ⟨h.apart, List.pairwise_singleton _ _, ?_⟩
      intro a ha b hb
      rw [List.mem_singleton.mp hb]
      exact hlater a ha
    · intro a ha
      refine ⟨now, hopened, ?_⟩
      rcases List.mem_append.mp ha with ha | ha
      · have := hlater a ha
        rw [UInt64.le_iff_toNat_le]
        omega
      · rw [List.mem_singleton.mp ha]
        exact UInt64.le_refl now
  · exact fun _ h => ⟨h.window, h.apart, h.last⟩
  · exact fun _ h _ => h

/-! ## Clips -/

/-- No cue passes before `stop`, if the clock goes forward from `now`. -/
def ClosedUntil (stop : Nat) (g : Gate) (now : Millis) : Prop :=
  stop ≤ now.toNat ∨ ∃ last, g.busyUntil = some last ∧ stop ≤ last.toNat

theorem ClosedUntil.le_of_allows {stop : Nat} {g : Gate} {now : Millis} (h : g.ClosedUntil stop now)
    (hallows : g.allows now = true) : stop ≤ now.toNat := by
  rcases h with h | ⟨last, hlast, hle⟩
  · exact h
  · unfold allows idle at hallows
    rw [hlast] at hallows
    simp only [Option.all_some, Bool.and_eq_true, decide_eq_true_eq] at hallows
    have := UInt64.le_iff_toNat_le.mp hallows.2
    omega

theorem ClosedUntil.busy {stop : Nat} {g : Gate} {now : Millis} (h : g.ClosedUntil stop now)
    (stop' : Millis) : (g.busy now stop').ClosedUntil stop now := by
  rcases h with h | ⟨current, hcurrent, hle⟩
  · exact .inl h
  · obtain ⟨last, hlast, -, hkept⟩ := busyUntil_busy g now stop'
    rcases hkept current hcurrent with hover | hlonger
    · exact .inl (Nat.le_trans hle (UInt64.le_iff_toNat_le.mp hover))
    · exact .inr ⟨last, hlast, Nat.le_trans hle (UInt64.le_iff_toNat_le.mp hlonger)⟩

theorem closedUntil_busy (g : Gate) (now stop : Millis) :
    (g.busy now stop).ClosedUntil stop.toNat now := by
  obtain ⟨last, hlast, hle, -⟩ := busyUntil_busy g now stop
  exact .inr ⟨last, hlast, UInt64.le_iff_toNat_le.mp hle⟩

theorem ClosedUntil.later {stop : Nat} {g : Gate} {now later : Millis} (h : g.ClosedUntil stop now)
    (hle : now ≤ later) : g.ClosedUntil stop later :=
  h.imp_left fun h => Nat.le_trans h (UInt64.le_iff_toNat_le.mp hle)

/-- As the clock goes forward, nothing passes before `stop`. -/
theorem law_closedUntil (block : Bool) (stop : Nat) :
    Law block (· ≤ ·) fun g now passed =>
      g.ClosedUntil stop now ∧ ∀ a ∈ passed, stop ≤ a.2.toNat := by
  refine ⟨?_, ?_, ?_⟩
  · rintro g now passed t ⟨hclosed, hpassed⟩ hallows
    have hstop := hclosed.le_of_allows hallows
    refine ⟨.inl hstop, ?_⟩
    intro a ha
    rcases List.mem_append.mp ha with ha | ha
    · exact hpassed a ha
    · rw [List.mem_singleton.mp ha]
      exact hstop
  · exact fun stop' h => ⟨h.1.busy stop', h.2⟩
  · exact fun later h hle => ⟨h.1.later hle, h.2⟩

/-- When the stock clip of a cue ends that passed, if no clock is too short for that. -/
def clipEnd (a : Trigger × Millis) : Nat :=
  a.2.toNat + a.1.clipMs.toNat

/-- The clip of every cue that passed is over when the next one passes, or still keeps the gate
closed. -/
structure Covered (g : Gate) (now : Millis) (passed : List (Trigger × Millis)) : Prop where
  apart : passed.Pairwise fun a b => clipEnd a < UInt64.size → clipEnd a ≤ b.2.toNat
  closed : ∀ a ∈ passed, clipEnd a < UInt64.size → g.ClosedUntil (clipEnd a) now

/-- If clips block their channel, every operation keeps them, as the clock goes forward. -/
theorem law_covered : Law true (· ≤ ·) Covered := by
  refine ⟨?_, ?_, ?_⟩
  · intro g now passed t h hallows
    have hover (a : Trigger × Millis) (ha : a ∈ passed) (hsize : clipEnd a < UInt64.size) :
        clipEnd a ≤ now.toNat := (h.closed a ha hsize).le_of_allows hallows
    rw [onCue_of_allows hallows]
    refine ⟨?_, ?_⟩
    · rw [List.pairwise_append]
      refine ⟨h.apart, List.pairwise_singleton _ _, ?_⟩
      intro a ha b hb hsize
      rw [List.mem_singleton.mp hb]
      exact hover a ha hsize
    · intro a ha hsize
      rcases List.mem_append.mp ha with ha | ha
      · exact .inl (hover a ha hsize)
      · rw [List.mem_singleton.mp ha] at hsize ⊢
        have hend : clipEnd (t, now) = (now + t.clipMs).toNat := (toNat_add_of_lt hsize).symm
        rw [hend]
        exact closedUntil_busy _ now _
  · exact fun stop h => ⟨h.apart, fun a ha hsize => (h.closed a ha hsize).busy stop⟩
  · exact fun later h hle => ⟨h.apart, fun a ha hsize => (h.closed a ha hsize).later hle⟩

end Gate

theorem AtGate.window {block : Bool} {g g' : Gate} {now now' : Millis} {m : Move}
    {passed : List (Trigger × Millis)} (h : AtGate block g now m g' now' passed) :
    g'.window = g.window := by
  cases h with
  | cues ts =>
    have hlaw := Gate.law_window block g.window
    exact @Gate.Law.cues block _ _ hlaw g now [] rfl ts
  | _ => rfl

/-! ## Runs -/

namespace World

/-- The gate of a channel has the cooldown of the channel for its window. -/
theorem window_play (config : CueConfig) (clock : Millis) (beats : List (Beat Move)) (c : Channel) :
    (((new config clock).play beats).1.session.gates.get c).window = config.cooldown c := by
  have hnew : ((new config clock).session.gates.get c).window = config.cooldown c := by
    cases c <;> rfl
  refine play_keeps (P := fun w => (w.session.gates.get c).window = config.cooldown c) ?_ hnew beats
  intro w fails m h
  exact (atGate_step fails w c m).window.trans h

/-- In every run, whatever the clock and the receiver do and whoever the cues come from: between any
two cues that pass the gate of a channel without a full reset in between lies the cooldown of the
channel. -/
theorem the_cooldown_lies_between_cues (config : CueConfig) (clock : Millis)
    (before beats : List (Beat Move)) (hbeats : .fullReset ∉ acts beats) (c : Channel) :
    let w := ((new config clock).play before).1
    (admissions c (w.play beats).2).Pairwise fun a b =>
      a.2.toNat + (config.cooldown c).toNat ≤ b.2.toNat := by
  intro w
  have hstart : (w.session.gates.get c).Paced (config.cooldown c) [] :=
    ⟨window_play config clock before c, .nil, List.forall_mem_nil _⟩
  have hlaw := Gate.law_paced w.session.config.blockDuringPlayback (config.cooldown c)
  have hany : (w.session.clock :: (acts beats).filterMap Move.time?).Pairwise fun _ _ => True :=
    List.pairwise_of_forall fun _ _ => trivial
  exact (hlaw.play c hstart hbeats hany).apart

/-- Two nods, the second one named by the model. The reset in between, the clock that jumps back and
the receiver that breaks down over the first one let no nod through before its time. -/
theorem the_cooldown_lies_between_two_nods :
    let config : CueConfig := { gestures := [⟨.nod, 1, ["yes".toList]⟩], expressions := [] }
    let calm (ms : List Move) : List (Beat Move) := ms.map fun m => ⟨m, unfailing⟩
    let beats : List (Beat Move) :=
      ⟨.feed "Yes.".toList true, fun _ => true⟩ ::
        calm [.setClock 13999, .feed " Yes.".toList true, .reset, .setClock 100,
          .feed "Yes, it rains.".toList true, .flush, .setClock 14000, .flushTurn 0,
          .flushAnswer 0 (.text "\x7b\"gesture\": \"nod\"\x7d".toList)]
    let nods := admissions .gesture ((new config 10000).play beats).2
    .fullReset ∉ acts beats ∧ nods = [(.gesture .nod, 10000), (.gesture .nod, 14000)] ∧
      nods.Pairwise fun a b => a.2.toNat + (config.cooldown .gesture).toNat ≤ b.2.toNat := by
  intro config calm beats nods
  have hbeats : .fullReset ∉ acts beats := by decide
  exact ⟨hbeats, by decide +kernel,
    the_cooldown_lies_between_cues config 10000 [] beats hbeats .gesture⟩

/-- From any moment on, as the clock goes forward and until the next full reset: after a clip was
announced for a channel no cue passes the gate of the channel before the clip ends, or before the
last millisecond of the clock. And if clips block their channel, no cue passes before the stock clip
of an earlier one ends. -/
theorem no_cue_passes_while_a_clip_plays (w : World) (beats : List (Beat Move))
    (hbeats : .fullReset ∉ acts beats)
    (hclock : (w.session.clock :: (acts beats).filterMap Move.time?).Pairwise (· ≤ ·))
    (c : Channel) :
    (∀ fails length, ∀ a ∈ admissions c ((w.step fails (.playback c length)).1.play beats).2,
        min (w.session.clock.toNat + length.toNat) (UInt64.size - 1) ≤ a.2.toNat) ∧
      (w.session.config.blockDuringPlayback = true →
        (admissions c (w.play beats).2).Pairwise fun a b =>
          a.2.toNat + a.1.clipMs.toNat < UInt64.size →
            a.2.toNat + a.1.clipMs.toNat ≤ b.2.toNat) := by
  refine ⟨?_, ?_⟩
  · intro fails length
    have hend : (w.session.clock.plus length).toNat =
        min (w.session.clock.toNat + length.toNat) (UInt64.size - 1) := Millis.toNat_plus _ _
    have hclosed : ((w.session.playback c length).gates.get c).ClosedUntil
        (w.session.clock.plus length).toNat w.session.clock := by
      simp only [Session.playback, Gates.get_set_self]
      exact Gate.closedUntil_busy _ _ _
    rw [← hend]
    have hlaw := Gate.law_closedUntil w.session.config.blockDuringPlayback
      (w.session.clock.plus length).toNat
    exact (hlaw.play (w := (w.step fails (.playback c length)).1) c
      ⟨hclosed, List.forall_mem_nil _⟩ hbeats hclock).2
  · intro hblock
    have hstart : (w.session.gates.get c).Covered w.session.clock [] :=
      ⟨.nil, List.forall_mem_nil _⟩
    have hlaw : Gate.Law w.session.config.blockDuringPlayback (· ≤ ·) Gate.Covered :=
      hblock ▸ Gate.law_covered
    exact (hlaw.play c hstart hbeats hclock).apart

/-- A nod takes 1200 milliseconds. A clip that is announced holds it back, and so does an earlier
nod, although the receiver broke down over it. -/
theorem no_nod_passes_while_a_clip_plays :
    let config : CueConfig :=
      { gestureCooldown := 0, blockDuringPlayback := true,
        gestures := [⟨.nod, 1, ["yes".toList]⟩], expressions := [] }
    let calm (ms : List Move) : List (Beat Move) := ms.map fun m => ⟨m, unfailing⟩
    let beats : List (Beat Move) :=
      ⟨.feed "Yes.".toList true, fun _ => true⟩ ::
        calm [.playback .gesture 3, .setClock 11199, .feed " Yes.".toList true, .setClock 11200,
          .feed " Yes.".toList true]
    let w := new config 10000
    let afterClip :=
      admissions .gesture ((w.step unfailing (.playback .gesture 1150)).1.play beats).2
    let nods := admissions .gesture (w.play beats).2
    (.fullReset ∉ acts beats ∧
        (w.session.clock :: (acts beats).filterMap Move.time?).Pairwise (· ≤ ·) ∧
        config.blockDuringPlayback = true) ∧
      afterClip = [(.gesture .nod, 11199)] ∧
      (∀ a ∈ afterClip,
        min (w.session.clock.toNat + (1150 : Millis).toNat) (UInt64.size - 1) ≤ a.2.toNat) ∧
      nods = [(.gesture .nod, 10000), (.gesture .nod, 11200)] ∧
      nods.Pairwise fun a b =>
        a.2.toNat + a.1.clipMs.toNat < UInt64.size → a.2.toNat + a.1.clipMs.toNat ≤ b.2.toNat := by
  intro config calm beats w afterClip nods
  have hbeats : .fullReset ∉ acts beats := by decide
  have hclock : (w.session.clock :: (acts beats).filterMap Move.time?).Pairwise (· ≤ ·) := by decide
  obtain ⟨hclip, hnods⟩ := no_cue_passes_while_a_clip_plays w beats hbeats hclock .gesture
  exact ⟨⟨hbeats, hclock, rfl⟩, by decide +kernel, hclip unfailing 1150, by decide +kernel,
    hnods rfl⟩

end World

end CueStream
