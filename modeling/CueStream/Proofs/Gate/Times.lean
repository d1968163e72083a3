-- When a gate lets a trigger through, by its two times as numbers: the window
-- after the last trigger is over, and no clip plays any more.
import CueStream.Gate

namespace CueStream

/-! ## Times as numbers -/

theorem Millis.toNat_plus (start length : Millis) :
    (start.plus length).toNat = min (start.toNat + length.toNat) (UInt64.size - 1) := by
  unfold Millis.plus
  apply UInt64.toNat_ofNat_of_lt
  have : (0 : Nat) < UInt64.size := by decide
  omega

theorem toNat_max (a b : UInt64) : (max a b).toNat = max a.toNat b.toNat := by
  show (if a ≤ b then b else a).toNat = _
  split
  · rename_i h
    exact (Nat.max_eq_right (UInt64.le_iff_toNat_le.mp h)).symm
  · rename_i h
    have hlt := UInt64.lt_iff_toNat_lt.mp (UInt64.not_le.mp h)
    exact (Nat.max_eq_left (Nat.le_of_lt hlt)).symm

theorem toNat_add_of_lt {a b : UInt64} (h : a.toNat + b.toNat < UInt64.size) :
    (a + b).toNat = a.toNat + b.toNat := by
  rw [UInt64.toNat_add]
  exact Nat.mod_eq_of_lt h

namespace Gate

/-! ## The window -/

/-- The cooldown after the last cue is over. -/
theorem rested_iff {g : Gate} {last : Millis} (hopened : g.openedAt = some last) (now : Millis) :
    g.rested now = true ↔ last.toNat + g.window.toNat ≤ now.toNat := by
  unfold rested
  rw [hopened, Option.all_some, Bool.and_eq_true, decide_eq_true_iff, decide_eq_true_iff]
  constructor
  · rintro ⟨hlast, hwindow⟩
    rw [UInt64.le_iff_toNat_le, UInt64.toNat_sub_of_le _ _ hlast] at hwindow
    have := UInt64.le_iff_toNat_le.mp hlast
    omega
  · intro h
    have hlast : last ≤ now := UInt64.le_iff_toNat_le.mpr (by omega)
    refine ⟨hlast, ?_⟩
    rw [UInt64.le_iff_toNat_le, UInt64.toNat_sub_of_le _ _ hlast]
    omega

/-- A gate that lets a cue through is past its window after the last one. -/
theorem le_of_allows {g : Gate} {now last : Millis} (h : g.allows now = true)
    (hopened : g.openedAt = some last) : last.toNat + g.window.toNat ≤ now.toNat := by
  unfold allows at h
  rw [Bool.and_eq_true] at h
  exact (rested_iff hopened now).mp h.1

/-! ## Clips -/

/-- The clip that was noted until `stop` is over. -/
theorem idle_iff {g : Gate} {stop : Millis} (hbusy : g.busyUntil = some stop) (now : Millis) :
    g.idle now = true ↔ stop ≤ now := by
  unfold idle
  rw [hbusy, Option.all_some, decide_eq_true_iff]

/-- A clip that is announced closes the gate until its end at least, and cuts no clip short that still
plays. -/
theorem busyUntil_busy (g : Gate) (now stop : Millis) :
    ∃ last, (g.busy now stop).busyUntil = some last ∧ stop ≤ last ∧
      ∀ current, g.busyUntil = some current → current ≤ now ∨ current ≤ last := by
  unfold busy
  cases hg : g.busyUntil with
  | none => exact ⟨stop, rfl, UInt64.le_refl stop, fun _ hnone => nomatch hnone⟩
  | some current =>
    by_cases hnow : now < current
    · have hmax := toNat_max current stop
      refine ⟨max current stop, by simp [hnow], ?_, ?_⟩
      · rw [UInt64.le_iff_toNat_le]
        omega
      · intro c hc
        cases hc
        rw [UInt64.le_iff_toNat_le, UInt64.le_iff_toNat_le]
        omega
    · refine ⟨stop, by simp [hnow], UInt64.le_refl stop, ?_⟩
      intro c hc
      cases hc
      exact .inl (UInt64.not_lt.mp hnow)

/-- Once a clip is announced, both it and whatever was noted before have to be over. What is forgotten
is over already. -/
theorem idle_busy (g : Gate) {now later : Millis} (hnow : now ≤ later) (stop : Millis) :
    (g.busy now stop).idle later = true ↔ g.idle later = true ∧ stop ≤ later := by
  unfold busy idle
  cases hg : g.busyUntil with
  | none => simp
  | some current =>
    by_cases hplays : now < current
    · simp only [hplays, if_true, Option.all_some, decide_eq_true_eq, UInt64.le_iff_toNat_le,
        toNat_max]
      omega
    · have hover : current ≤ later := UInt64.le_trans (UInt64.not_lt.mp hplays) hnow
      simp [hplays, hover]

end Gate

end CueStream
