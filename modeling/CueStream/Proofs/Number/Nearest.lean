-- Rounding to a binary format. A quotient is rounded to a number that lies
-- near it, and to a given number if it lies nearer to that than to the middle
-- between it and its neighbours.
import CueStream.Number.Rounding
import Mathlib.Algebra.Order.Field.Basic
import Mathlib.Data.Nat.Cast.Order.Field
import Mathlib.Data.Rat.Cast.Order
import Mathlib.Tactic.Linarith
import Mathlib.Tactic.Positivity

namespace CueStream

@[simp]
theorem cast_twos (k : Nat) : (twos k : ℚ) = 2 ^ k := by
  simp [twos]

theorem twos_pos (k : Nat) : 0 < twos k :=
  Nat.two_pow_pos k

theorem twos_add (j k : Nat) : twos (j + k) = twos j * twos k :=
  Nat.pow_add 2 j k

theorem twos_succ (k : Nat) : twos (k + 1) = 2 * twos k :=
  Nat.pow_succ'

theorem twos_lt_iff {j k : Nat} : twos j < twos k ↔ j < k :=
  Nat.pow_lt_pow_iff_right (by decide)

/-- A quotient that lies within half a unit of a whole number is rounded to it. Halfway the number
has to be even. -/
theorem roundQuotient_eq {num den m : Nat} (hden : 0 < den) (hlow : 2 * (den * m) ≤ 2 * num + den)
    (hhigh : 2 * num ≤ 2 * (den * m) + den)
    (htie : 2 * (den * m) = 2 * num + den ∨ 2 * num = 2 * (den * m) + den → m % 2 = 0) :
    roundQuotient num den = m := by
  have hdm := Nat.div_add_mod num den
  have hlt := Nat.mod_lt num hden
  unfold roundQuotient
  generalize num / den = q at *
  generalize num % den = r at *
  dsimp only
  have hle : m ≤ q + 1 := by
    by_contra hgt
    have hfar : den * (q + 2) ≤ den * m := Nat.mul_le_mul_left den (by omega)
    rw [Nat.mul_add] at hfar
    omega
  have hge : q ≤ m := by
    by_contra hgt
    have hfar : den * (m + 1) ≤ den * q := Nat.mul_le_mul_left den (by omega)
    rw [Nat.mul_add] at hfar
    omega
  obtain rfl | rfl : m = q ∨ m = q + 1 := by omega
  · split
    · rfl
    split
    · omega
    · have heven := htie (by omega)
      omega
  · rw [Nat.mul_add] at *
    split
    · omega
    split
    · rfl
    · have heven := htie (by omega)
      omega

namespace BinaryFormat

variable (f : BinaryFormat)

/-! ## Units -/

theorem slack_le_iff {s k : Nat} : f.slack s ≤ k ↔ s < twos (k + f.precision) := by
  unfold slack twos
  split
  · rename_i hs
    rw [hs]
    exact ⟨fun _ => Nat.two_pow_pos _, fun _ => Nat.zero_le k⟩
  · rename_i hs
    have hlog : s.log2 < k + f.precision ↔ s < Nat.pow 2 (k + f.precision) := Nat.log2_lt hs
    rw [← hlog]
    omega

theorem slack_eq {s k : Nat} (hlt : s < twos (k + f.precision))
    (hle : k = 0 ∨ twos (k - 1 + f.precision) ≤ s) : f.slack s = k := by
  have hupper := (f.slack_le_iff).mpr hlt
  rcases hle with rfl | hle
  · omega
  · have hlower : ¬ f.slack s ≤ k - 1 := fun h => absurd ((f.slack_le_iff).mp h) (by omega)
    omega

theorem lt_of_slack (s : Nat) : s < twos (f.slack s + f.precision) :=
  (f.slack_le_iff).mp (Nat.le_refl _)

theorem le_of_slack {s : Nat} (h : 0 < f.slack s) : twos (f.slack s - 1 + f.precision) ≤ s := by
  by_contra hlt
  have := (f.slack_le_iff).mpr (Nat.lt_of_not_le hlt)
  omega

/-- A number of the format: not too large, and with no more bits than there are. -/
structure Fits (s : Nat) : Prop where
  small : s < twos (f.scale + f.limit)
  whole : twos (f.slack s) ∣ s

/-- Half of the distance to the next number of the format, in steps. -/
def half (s : Nat) : ℚ := 2 ^ f.slack s / 2

/-- What lies this near to a number is rounded to it, unless it lies below the least number of the
same size. -/
structure Near (s : Nat) (x : ℚ) : Prop where
  low : s - f.half s ≤ x
  high : x ≤ s + f.half s
  even : x = s - f.half s ∨ x = s + f.half s → s / twos (f.slack s) % 2 = 0

/-- The number is not the least one of its size, so that its neighbours are alike. -/
def Inner (s : Nat) : Prop :=
  f.slack s = 0 ∨ twos (f.slack s - 1 + f.precision) < s

/-! ## Rounding -/

variable {f} {num den s : Nat}

/-- What it means for a quotient to lie near a number, in whole numbers. -/
theorem Near.whole (hden : 0 < den) (h : f.Near s ((num : ℚ) / den)) :
    2 * (den * s) ≤ 2 * num + den * twos (f.slack s) ∧
      2 * num ≤ 2 * (den * s) + den * twos (f.slack s) ∧
      (2 * (den * s) = 2 * num + den * twos (f.slack s) ∨
        2 * num = 2 * (den * s) + den * twos (f.slack s) → s / twos (f.slack s) % 2 = 0) := by
  have hpos : (0 : ℚ) < den := by exact_mod_cast hden
  obtain ⟨hlow, hhigh, heven⟩ := h
  unfold half at *
  rw [le_div_iff₀ hpos] at hlow
  rw [div_le_iff₀ hpos] at hhigh
  refine ⟨?_, ?_, ?_⟩
  · rw [← Nat.cast_le (α := ℚ)]
    push_cast [cast_twos]
    linarith
  · rw [← Nat.cast_le (α := ℚ)]
    push_cast [cast_twos]
    linarith
  · rintro (htie | htie)
    · refine heven (.inl ?_)
      have hcast := congrArg (Nat.cast (R := ℚ)) htie
      push_cast [cast_twos] at hcast
      rw [div_eq_iff hpos.ne']
      linarith
    · refine heven (.inr ?_)
      have hcast := congrArg (Nat.cast (R := ℚ)) htie
      push_cast [cast_twos] at hcast
      rw [div_eq_iff hpos.ne']
      linarith

/-- A quotient is rounded to a multiple of its unit that lies within half a unit of it. -/
theorem round?_eq_of_slack {k m : Nat} (hden : 0 < den)
    (hslack : f.slack (num * twos f.scale / den) = k) (hm : s = twos k * m)
    (hsmall : s < twos (f.scale + f.limit))
    (hlow : 2 * (den * s) ≤ 2 * (num * twos f.scale) + den * twos k)
    (hhigh : 2 * (num * twos f.scale) ≤ 2 * (den * s) + den * twos k)
    (htie : 2 * (den * s) = 2 * (num * twos f.scale) + den * twos k ∨
      2 * (num * twos f.scale) = 2 * (den * s) + den * twos k → m % 2 = 0) :
    f.round? num den = some s := by
  have hscaled : den * twos k * m = den * s := by rw [Nat.mul_assoc, ← hm]
  have hround : roundQuotient (num * twos f.scale) (den * twos k) = m := by
    refine roundQuotient_eq (Nat.mul_pos hden (twos_pos _)) ?_ ?_ ?_
    · rwa [hscaled]
    · rwa [hscaled]
    · rwa [hscaled]
  simp only [round?, hslack, hround]
  rw [Nat.mul_comm, ← hm, if_pos hsmall]

/-- The quotients from the least number of the same size up to the middle above a number have the
unit of that number. -/
theorem slack_div (hden : 0 < den) (hfits : f.Fits s)
    (hleast : f.slack s = 0 ∨ den * twos (f.slack s - 1 + f.precision) ≤ num)
    (hhigh : 2 * num ≤ 2 * (den * s) + den * twos (f.slack s)) :
    f.slack (num / den) = f.slack s := by
  obtain ⟨m, hm⟩ := hfits.whole
  have hupper := f.lt_of_slack s
  generalize f.slack s = k at *
  have hunit : 0 < den * twos k := Nat.mul_pos hden (twos_pos k)
  refine f.slack_eq ?_ (hleast.imp_right fun hle => ?_)
  · -- the next number is still not beyond the greatest one of this size
    have hnext : s + twos k ≤ twos (k + f.precision) := by
      rw [twos_add, hm] at hupper
      have hlt := Nat.lt_of_mul_lt_mul_left hupper
      rw [twos_add, hm, ← Nat.mul_succ]
      exact Nat.mul_le_mul_left _ hlt
    have hbound : den * (s + twos k) ≤ den * twos (k + f.precision) := Nat.mul_le_mul_left den hnext
    rw [Nat.mul_add] at hbound
    refine Nat.div_lt_of_lt_mul ?_
    omega
  · rwa [Nat.le_div_iff_mul_le hden, Nat.mul_comm]

/-- What lies near a number that is not the least one of its size is not below that one. -/
theorem Inner.least_le (hp : 0 < f.precision) (hfits : f.Fits s) (hinner : f.Inner s)
    (hlow : 2 * (den * s) ≤ 2 * num + den * twos (f.slack s)) :
    f.slack s = 0 ∨ den * twos (f.slack s - 1 + f.precision) ≤ num := by
  obtain ⟨m, hm⟩ := hfits.whole
  rcases hinner with hzero | hleast
  · exact .inl hzero
  generalize f.slack s = k at *
  rcases Nat.eq_zero_or_pos k with hzero | hk
  · exact .inl hzero
  have hexponent : k - 1 + f.precision = k + (f.precision - 1) := by omega
  have hnext : twos (k - 1 + f.precision) + twos k ≤ s := by
    rw [hexponent, twos_add, hm] at hleast ⊢
    have hlt := Nat.lt_of_mul_lt_mul_left hleast
    rw [← Nat.mul_succ]
    exact Nat.mul_le_mul_left _ hlt
  have hbound := Nat.mul_le_mul_left den hnext
  rw [Nat.mul_add] at hbound
  right
  omega

/-- What lies near a number of the format is rounded to it. -/
theorem round?_eq_of_near (hp : 0 < f.precision) (hden : 0 < den) (hfits : f.Fits s)
    (hinner : f.Inner s) (hnear : f.Near s ((num * 2 ^ f.scale : ℚ) / den)) :
    f.round? num den = some s := by
  have hexact : (num * 2 ^ f.scale : ℚ) = (num * twos f.scale : Nat) := by
    push_cast [cast_twos]
    rfl
  rw [hexact] at hnear
  obtain ⟨hlow, hhigh, htie⟩ := hnear.whole hden
  obtain ⟨m, hm⟩ := hfits.whole
  have hquotient : s / twos (f.slack s) = m := Nat.div_eq_of_eq_mul_right (twos_pos _) hm
  rw [hquotient] at htie
  exact round?_eq_of_slack hden (slack_div hden hfits (hinner.least_le hp hfits hlow) hhigh) hm
    hfits.small hlow hhigh htie

/-- Below the least number of a size the unit is half as large. -/
theorem slack_div_below (hp : 0 < f.precision) (hden : 0 < den) {j : Nat}
    (hlow : 2 * (den * twos (j + f.precision)) ≤ 2 * num + den * twos j)
    (hhigh : num < den * twos (j + f.precision)) : f.slack (num / den) = j := by
  refine f.slack_eq (Nat.div_lt_of_lt_mul hhigh) ?_
  rcases Nat.eq_zero_or_pos j with hzero | hj
  · exact .inl hzero
  have hexponent : j + f.precision = j - 1 + f.precision + 1 := by omega
  have hunit : den * twos j ≤ den * twos (j - 1 + f.precision) :=
    Nat.mul_le_mul_left den (Nat.pow_le_pow_right (by decide) (by omega))
  rw [hexponent, twos_succ, Nat.mul_left_comm den 2] at hlow
  rw [Nat.le_div_iff_mul_le hden, Nat.mul_comm]
  right
  omega

/-- What lies near the least number of a size is rounded to it. The next number below is half as far
away as the next one above. -/
theorem round?_eq_of_near_least (hp : 0 < f.precision) (hden : 0 < den) {j : Nat}
    (hs : s = twos (j + f.precision)) (hfits : f.Fits s)
    (hlow : (s - f.half s / 2 : ℚ) < num * 2 ^ f.scale / den)
    (hhigh : (num * 2 ^ f.scale / den : ℚ) < s + f.half s) : f.round? num den = some s := by
  have hslack : f.slack s = j + 1 := by
    refine f.slack_eq ?_ (.inr (Nat.le_of_eq ?_))
    · rw [hs]
      exact Nat.pow_lt_pow_right (by decide) (by omega)
    · rw [hs, Nat.add_sub_cancel]
  have hpos : (0 : ℚ) < den := by exact_mod_cast hden
  have hlownat : 2 * (den * s) < 2 * (num * twos f.scale) + den * twos j := by
    rw [half, hslack, lt_div_iff₀ hpos, pow_succ] at hlow
    rw [← Nat.cast_lt (α := ℚ)]
    push_cast [cast_twos]
    linarith
  have hhighnat : 2 * (num * twos f.scale) < 2 * (den * s) + den * twos (j + 1) := by
    rw [half, hslack, div_lt_iff₀ hpos, pow_succ] at hhigh
    rw [← Nat.cast_lt (α := ℚ)]
    push_cast [cast_twos, pow_succ]
    linarith
  rcases Nat.lt_or_ge (num * twos f.scale) (den * s) with hbelow | habove
  · have hunit : f.slack (num * twos f.scale / den) = j := by
      rw [hs] at hlownat hbelow
      exact slack_div_below hp hden hlownat.le hbelow
    refine round?_eq_of_slack hden hunit (m := twos f.precision) ?_ hfits.small ?_ ?_ ?_
    · rw [hs, twos_add]
    · omega
    · omega
    · omega
  · have hunit : f.slack (num * twos f.scale / den) = j + 1 := by
      rw [← hslack]
      refine slack_div hden hfits (.inr ?_) (by rw [hslack]; exact hhighnat.le)
      rw [hslack, Nat.add_sub_cancel, ← hs]
      exact habove
    obtain ⟨m, hm⟩ := hfits.whole
    rw [hslack] at hm
    refine round?_eq_of_slack hden hunit hm hfits.small ?_ ?_ ?_
    · omega
    · omega
    · omega

/-- A number of the format is rounded to itself. -/
theorem round?_exact (hden : 0 < den) (hfits : f.Fits s) (h : num * twos f.scale = s * den) :
    f.round? num den = some s := by
  obtain ⟨m, hm⟩ := hfits.whole
  have hexact : num * twos f.scale / den = s := by
    rw [h, Nat.mul_div_cancel _ hden]
  have hscaled : den * twos (f.slack s) * m = num * twos f.scale := by
    rw [h, Nat.mul_assoc, ← hm, Nat.mul_comm]
  have hround : roundQuotient (num * twos f.scale) (den * twos (f.slack s)) = m := by
    refine roundQuotient_eq (Nat.mul_pos hden (twos_pos _)) ?_ ?_ ?_ <;> rw [hscaled]
    · omega
    · omega
    · have := Nat.mul_pos hden (twos_pos (f.slack s))
      omega
  simp only [round?, hexact, hround]
  rw [Nat.mul_comm, ← hm, if_pos hfits.small]

/-- The steps of the number nearest to `num / den`, however large it is. -/
def nearest (f : BinaryFormat) (num den : Nat) : Nat :=
  let unit := twos (f.slack (num * twos f.scale / den))
  roundQuotient (num * twos f.scale) (den * unit) * unit

theorem round?_eq_nearest (f : BinaryFormat) (num den : Nat) :
    f.round? num den =
      if f.nearest num den < twos (f.scale + f.limit) then some (f.nearest num den) else none := rfl

/-- What a quotient is rounded to lies within half a unit of it. -/
theorem nearest_near (hden : 0 < den) :
    |(f.nearest num den : ℚ) - num * 2 ^ f.scale / den| ≤
      2 ^ f.slack (num * twos f.scale / den) / 2 := by
  unfold nearest
  dsimp only
  generalize f.slack (num * twos f.scale / den) = k
  obtain ⟨hlow, hhigh⟩ :=
    roundQuotient_near (num * twos f.scale) (Nat.mul_pos hden (twos_pos k))
  generalize roundQuotient (num * twos f.scale) (den * twos k) = r at *
  have hpos : (0 : ℚ) < den := by exact_mod_cast hden
  rw [← Nat.cast_le (α := ℚ)] at hlow hhigh
  push_cast [cast_twos] at hlow hhigh ⊢
  rw [abs_sub_le_iff, sub_le_iff_le_add, sub_le_iff_le_add, ← sub_le_iff_le_add', le_div_iff₀ hpos,
    div_le_iff₀ hpos]
  constructor <;> linarith

/-- A quotient that is not too small is rounded with a small error, unless it is too large. -/
theorem round?_relative (hp : 0 < f.precision) (hden : 0 < den)
    (hlow : (2 : ℚ) ^ (f.precision - 1) ≤ num * 2 ^ f.scale / den)
    (hhigh : 2 * (num * 2 ^ f.scale / den : ℚ) < 2 ^ (f.scale + f.limit)) :
    ∃ s, f.round? num den = some s ∧
      |(s : ℚ) - num * 2 ^ f.scale / den| ≤ num * 2 ^ f.scale / den / 2 ^ f.precision := by
  have hnear : |(f.nearest num den : ℚ) - num * 2 ^ f.scale / den| ≤
      2 ^ f.slack (num * twos f.scale / den) / 2 := nearest_near hden
  have hpos : (0 : ℚ) < den := by exact_mod_cast hden
  have hfloor : ((num * twos f.scale / den : Nat) : ℚ) ≤ num * 2 ^ f.scale / den := by
    have hdiv := Nat.cast_div_le (α := ℚ) (m := num * twos f.scale) (n := den)
    push_cast [cast_twos] at hdiv ⊢
    exact hdiv
  have hleast : twos (f.precision - 1) ≤ num * twos f.scale / den := by
    rw [Nat.le_div_iff_mul_le hden, ← Nat.cast_le (α := ℚ)]
    push_cast [cast_twos]
    rwa [le_div_iff₀ hpos] at hlow
  have hunit : (2 : ℚ) ^ f.slack (num * twos f.scale / den) * 2 ^ (f.precision - 1) ≤
      (num * twos f.scale / den : Nat) := by
    have hwhole : twos (f.slack (num * twos f.scale / den)) * twos (f.precision - 1) ≤
        num * twos f.scale / den := by
      rcases Nat.eq_zero_or_pos (f.slack (num * twos f.scale / den)) with hzero | hk
      · rw [hzero]
        show 1 * _ ≤ _
        rwa [Nat.one_mul]
      · refine Nat.le_trans (Nat.le_of_eq ?_) (f.le_of_slack hk)
        rw [← twos_add]
        congr 1
        omega
    exact_mod_cast hwhole
  generalize f.slack (num * twos f.scale / den) = k at *
  generalize (num * 2 ^ f.scale / den : ℚ) = x at *
  have herror : (2 : ℚ) ^ k / 2 ≤ x / 2 ^ f.precision := by
    have hsplit : (2 : ℚ) ^ f.precision = 2 * 2 ^ (f.precision - 1) := by
      rw [← pow_succ']
      congr 1
      omega
    rw [hsplit, le_div_iff₀ (by positivity)]
    linarith
  have hsmall : f.nearest num den < twos (f.scale + f.limit) := by
    have hone : (1 : ℚ) ≤ 2 ^ f.precision := one_le_pow₀ (by norm_num)
    have hpositive : 0 ≤ x := (pow_nonneg (by norm_num) _).trans hlow
    have hless : x / 2 ^ f.precision ≤ x := div_le_self hpositive hone
    have hle := (abs_sub_le_iff.mp hnear).1
    rw [← Nat.cast_lt (α := ℚ), cast_twos]
    linarith
  exact ⟨_, by rw [round?_eq_nearest, if_pos hsmall], hnear.trans herror⟩

/-- Whatever is rounded to fits. -/
theorem fits_of_round? (hp : 0 < f.precision) (hden : 0 < den) (h : f.round? num den = some s) :
    f.Fits s := by
  rw [round?_eq_nearest] at h
  split at h
  · rename_i hsmall
    cases h
    refine ⟨hsmall, ?_⟩
    unfold nearest
    have hupper := f.lt_of_slack (num * twos f.scale / den)
    dsimp only
    generalize f.slack (num * twos f.scale / den) = k at *
    have hquotient := (roundQuotient_near (num * twos f.scale) (Nat.mul_pos hden (twos_pos k))).2
    generalize roundQuotient (num * twos f.scale) (den * twos k) = r at *
    have hnum := (Nat.div_lt_iff_lt_mul hden).mp hupper
    have hr : r ≤ twos f.precision := by
      by_contra hgt
      have hfar := Nat.mul_le_mul_left (den * twos k) (Nat.succ_le_of_lt (Nat.lt_of_not_le hgt))
      rw [twos_add] at hnum
      have hunit : 0 < den * twos k := Nat.mul_pos hden (twos_pos k)
      have hassoc : den * twos k * twos f.precision = twos k * twos f.precision * den := by
        rw [Nat.mul_assoc, Nat.mul_comm]
      rw [Nat.mul_succ, hassoc] at hfar
      omega
    rcases Nat.lt_or_eq_of_le hr with hlt | rfl
    · have hslack : f.slack (r * twos k) ≤ k := by
        rw [slack_le_iff, twos_add, Nat.mul_comm]
        exact Nat.mul_lt_mul_of_pos_left hlt (twos_pos k)
      exact (Nat.pow_dvd_pow 2 hslack).trans (Nat.dvd_mul_left _ _)
    · have hslack : f.slack (twos f.precision * twos k) ≤ k + 1 := by
        rw [slack_le_iff, ← twos_add]
        exact Nat.pow_lt_pow_right (by decide) (by omega)
      have hle : f.slack (twos f.precision * twos k) ≤ f.precision + k := by omega
      rw [← twos_add]
      rw [← twos_add] at hle
      exact Nat.pow_dvd_pow 2 hle
  · cases h

end BinaryFormat

end CueStream
