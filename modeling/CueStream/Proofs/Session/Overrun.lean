-- Clips that outlast the clock. The end of a clip that is announced stops at the
-- last millisecond, but the end of the stock clip of a cue that passes goes on
-- from zero. Such a clip is over before it has begun, and holds nothing back.
import CueStream.Proofs.Session.Pacing

namespace CueStream

/-! ## The end of a clip as a number -/

/-- A sum that is too great for the clock begins again at zero, and does not reach the start. -/
theorem toNat_add_of_le {a b : UInt64} (h : UInt64.size ≤ a.toNat + b.toNat) :
    (a + b).toNat + UInt64.size = a.toNat + b.toNat := by
  have ha : a.toNat < UInt64.size := a.toNat_lt_size
  have hb : b.toNat < UInt64.size := b.toNat_lt_size
  have hmod : (a + b).toNat = (a.toNat + b.toNat) % UInt64.size := UInt64.toNat_add a b
  rw [hmod, Nat.mod_eq_sub_mod h, Nat.mod_eq_of_lt (by omega)]
  omega

theorem toNat_add_iff (a b : UInt64) :
    (a + b).toNat = a.toNat + b.toNat ↔ a.toNat + b.toNat < UInt64.size := by
  refine ⟨?_, toNat_add_of_lt⟩
  intro h
  rw [← h]
  exact (a + b).toNat_lt_size

theorem Trigger.clipMs_pos (t : Trigger) : 0 < t.clipMs.toNat := by
  rcases t with g | e
  · cases g <;> decide
  · cases e <;> decide

/-! ## The gate behind a cue -/

namespace Gate

/-- The clip of a cue that passes takes the place of every earlier one, since none plays any more. -/
theorem onCue_blocking {g : Gate} {now : Millis} (h : g.allows now = true) (t : Trigger) :
    (g.onCue true now t).1 = ⟨g.window, some now, some (now + t.clipMs)⟩ := by
  rw [onCue_of_allows h]
  unfold allows idle at h
  rw [Bool.and_eq_true] at h
  have hidle := h.2
  simp only [if_true, opened, busy]
  cases hb : g.busyUntil with
  | none => rfl
  | some current =>
    rw [hb, Option.all_some, decide_eq_true_iff] at hidle
    simp only [UInt64.not_lt.mpr hidle, if_false]

/-- Of several cues in one go, the last one that passes decides. -/
theorem onCues_blocking (g : Gate) (now : Millis) (ts : List Trigger) :
    ((g.onCues true now ts).2 = [] ∧ (g.onCues true now ts).1 = g) ∨
      ∃ t, (g.onCues true now ts).2.getLast? = some t ∧
        (g.onCues true now ts).1 = ⟨g.window, some now, some (now + t.clipMs)⟩ := by
  induction ts generalizing g with
  | nil => exact .inl ⟨rfl, rfl⟩
  | cons t rest ih =>
    simp only [onCues]
    cases hallows : g.allows now with
    | false =>
      rw [onCue_of_not_allows hallows]
      exact ih g
    | true =>
      have hpassed : (g.onCue true now t).2 = true := by rw [onCue_of_allows hallows]
      have hgate := onCue_blocking hallows t
      rw [hpassed, if_pos rfl]
      right
      rcases ih (g.onCue true now t).1 with ⟨hnone, hsame⟩ | ⟨u, hlast, hnext⟩
      · exact ⟨t, by rw [hnone]; rfl, hsame.trans hgate⟩
      · refine ⟨u, ?_, ?_⟩
        · rw [List.getLast?_cons, hlast]
          rfl
        · rw [hnext, hgate]

/-- A clip that outlasts the clock is over at once. -/
theorem idle_of_outlasting {g : Gate} {now length : Millis}
    (hbusy : g.busyUntil = some (now + length)) (h : UInt64.size ≤ now.toNat + length.toNat)
    {later : Millis} (hlater : now ≤ later) : g.idle later = true := by
  rw [idle_iff hbusy, UInt64.le_iff_toNat_le]
  have hsum := toNat_add_of_le h
  have hlt : length.toNat < UInt64.size := length.toNat_lt_size
  have hle := UInt64.le_iff_toNat_le.mp hlater
  omega

/-- A clip keeps the gate closed for its length exactly if it ends on the clock. -/
theorem not_idle_iff {g : Gate} {now length : Millis} (hbusy : g.busyUntil = some (now + length))
    (hlength : 0 < length.toNat) :
    (∀ later, now ≤ later → later.toNat < now.toNat + length.toNat → g.idle later = false) ↔
      now.toNat + length.toNat < UInt64.size := by
  constructor
  · intro hclosed
    by_contra hoverrun
    have hnow := hclosed now (UInt64.le_refl now) (by omega)
    rw [idle_of_outlasting hbusy (Nat.le_of_not_lt hoverrun) (UInt64.le_refl now)] at hnow
    cases hnow
  · intro hfits later _ hlater
    rw [← Bool.not_eq_true, idle_iff hbusy, UInt64.le_iff_toNat_le, toNat_add_of_lt hfits]
    exact Nat.not_le_of_lt hlater

/-- A clip that outlasts the clock leaves nothing but the cooldown. -/
theorem allows_iff_of_outlasting {g : Gate} {now length : Millis} (hopened : g.openedAt = some now)
    (hbusy : g.busyUntil = some (now + length)) (h : UInt64.size ≤ now.toNat + length.toNat)
    {later : Millis} (hlater : now ≤ later) :
    g.allows later = true ↔ now.toNat + g.window.toNat ≤ later.toNat := by
  unfold allows
  rw [idle_of_outlasting hbusy h hlater, Bool.and_true, rested_iff hopened]

end Gate

/-! ## The gate behind a move -/

/-- When a cue has passed a gate at which clips block, its clip is what the gate is closed for. -/
theorem AtGate.of_last {g g' : Gate} {now now' : Millis} {m : Move}
    {passed : List (Trigger × Millis)} (h : AtGate true g now m g' now' passed) {t : Trigger}
    {time : Millis} (hlast : passed.getLast? = some (t, time)) :
    time = now ∧ g' = ⟨g.window, some now, some (now + t.clipMs)⟩ := by
  cases h with
  | cues ts =>
    rw [List.getLast?_map, Option.map_eq_some_iff] at hlast
    obtain ⟨u, hu, hpair⟩ := hlast
    cases hpair
    rcases g.onCues_blocking now ts with ⟨hnone, -⟩ | ⟨u', hu', hgate⟩
    · rw [hnone] at hu
      cases hu
    · rw [hu] at hu'
      cases hu'
      exact ⟨rfl, hgate⟩
  | clip | time | fresh => cases hlast

namespace World

/-- Clips block their channel, and a move lets a cue pass on it, whoever makes the move and whatever
the gate was like before. The end of the clip is worked out without an overflow exactly if it is a
time of the clock. Exactly then the gate is closed until the clip ends, and no cue passes in any run
before that. Otherwise the clip counts for nothing, and the next cue passes as soon as the cooldown is
over. A clip that is announced in the place of the move is kept up to the last millisecond of the
clock in any case. -/
theorem a_clip_counts_iff_it_ends_on_the_clock (fails : Trigger → Bool) (w : World)
    (hblock : w.session.config.blockDuringPlayback = true) (m : Move) (c : Channel) (t : Trigger)
    (now : Millis) (h : (admissions c (w.step fails m).2).getLast? = some (t, now)) :
    let after := (w.step fails m).1
    let gate := after.session.gates.get c
    now = w.session.clock ∧
      (gate.busyUntil = some (now + t.clipMs) ∧
        ((now + t.clipMs).toNat = now.toNat + t.clipMs.toNat ↔
          now.toNat + t.clipMs.toNat < UInt64.size)) ∧
      ((∀ later, now ≤ later → later.toNat < now.toNat + t.clipMs.toNat →
          gate.idle later = false) ↔ now.toNat + t.clipMs.toNat < UInt64.size) ∧
      (now.toNat + t.clipMs.toNat < UInt64.size →
        ∀ fails' ms, .fullReset ∉ ms →
          (after.session.clock :: ms.filterMap Move.time?).Pairwise (· ≤ ·) →
            ∀ a ∈ admissions c (after.run fails' ms).2,
              now.toNat + t.clipMs.toNat ≤ a.2.toNat) ∧
      (UInt64.size ≤ now.toNat + t.clipMs.toNat →
        ∀ later, now ≤ later →
          (gate.allows later = true ↔ now.toNat + gate.window.toNat ≤ later.toNat)) ∧
      ∀ length later, later.toNat < min (now.toNat + length.toNat) (UInt64.size - 1) →
        ((w.step fails (.playback c length)).1.session.gates.get c).idle later = false := by
  intro after gate
  have hgate := atGate_step fails w c m
  rw [hblock] at hgate
  obtain ⟨rfl, heq⟩ := hgate.of_last h
  have hopened : gate.openedAt = some w.session.clock := congrArg Gate.openedAt heq
  have hbusy : gate.busyUntil = some (w.session.clock + t.clipMs) := congrArg Gate.busyUntil heq
  refine ⟨rfl, ⟨hbusy, toNat_add_iff _ _⟩, Gate.not_idle_iff hbusy t.clipMs_pos, ?_, ?_, ?_⟩
  · intro hfits fails' ms hms hclock
    have hclosed : gate.ClosedUntil (w.session.clock.toNat + t.clipMs.toNat) after.session.clock :=
      .inr ⟨_, hbusy, Nat.le_of_eq (toNat_add_of_lt hfits).symm⟩
    have hlaw := Gate.law_closedUntil after.session.config.blockDuringPlayback
      (w.session.clock.toNat + t.clipMs.toNat)
    rw [← acts_map fails' ms] at hms hclock
    rw [← play_map]
    exact (hlaw.play c ⟨hclosed, List.forall_mem_nil _⟩ hms hclock).2
  · intro hoverrun later hlater
    exact Gate.allows_iff_of_outlasting hopened hbusy hoverrun hlater
  · intro length later hlater
    have hclip : (w.step fails (.playback c length)).1.session.gates.get c =
        (w.session.gates.get c).busy w.session.clock (w.session.clock.plus length) := by
      simp only [step, Session.playback, Gates.get_set_self]
    obtain ⟨last, hlast, hle, -⟩ := Gate.busyUntil_busy (w.session.gates.get c) w.session.clock
      (w.session.clock.plus length)
    rw [UInt64.le_iff_toNat_le, Millis.toNat_plus] at hle
    rw [hclip]
    unfold Gate.idle
    rw [hlast, Option.all_some, decide_eq_false_iff_not, UInt64.le_iff_toNat_le]
    omega

/-- A nod takes 1200 milliseconds. One second before the end of the clock it holds no other nod back,
although a clip of that length would that is announced. -/
theorem a_nod_at_the_end_of_the_clock_counts_for_nothing :
    let config : CueConfig :=
      { gestureCooldown := 0, blockDuringPlayback := true,
        gestures := [⟨.nod, 1, ["yes".toList]⟩], expressions := [] }
    let now : Millis := 18446744073709550616
    let w := new config now
    let nod := w.step unfailing (.feed "Yes.".toList true)
    let clip := w.step unfailing (.playback .gesture 1200)
    let again : List Move := [.setClock (now + 1), .feed " Yes.".toList true]
    (w.session.config.blockDuringPlayback = true ∧
        (admissions .gesture nod.2).getLast? = some (.gesture .nod, now)) ∧
      UInt64.size ≤ now.toNat + (Trigger.gesture .nod).clipMs.toNat ∧
      (nod.1.session.gates.get .gesture).allows (now + 1) = true ∧
      admissions .gesture (nod.1.run unfailing again).2 = [(.gesture .nod, now + 1)] ∧
      (clip.1.session.gates.get .gesture).idle (now + 1) = false := by
  intro config now w nod clip again
  have hpassed : (admissions .gesture nod.2).getLast? = some (.gesture .nod, now) := by
    decide +kernel
  obtain ⟨-, -, -, -, hopen, hclip⟩ := a_clip_counts_iff_it_ends_on_the_clock unfailing w rfl
    (.feed "Yes.".toList true) .gesture (.gesture .nod) now hpassed
  have hoverrun : UInt64.size ≤ now.toNat + (Trigger.gesture .nod).clipMs.toNat := by decide
  refine ⟨⟨rfl, hpassed⟩, hoverrun, ?_, by decide +kernel, ?_⟩
  · exact (hopen hoverrun (now + 1) (by decide)).mpr (by decide +kernel)
  · exact hclip 1200 (now + 1) (by decide)

end World

end CueStream
