-- How far a numeral is read from what it says. Its digits are exact; the power
-- of ten and the product or quotient are rounded, so two small errors add up.
-- With a small power of ten nothing is lost that need not be.
import CueStream.Proofs.Number.Spelling

namespace CueStream

namespace BinaryFormat

theorem fits_mul_twos {f : BinaryFormat} {m k : Nat} (hm : m < twos f.precision)
    (hk : f.precision + k ≤ f.scale + f.limit) : f.Fits (m * twos k) := by
  have hlt : m * twos k < twos (f.precision + k) := by
    rw [twos_add]
    exact Nat.mul_lt_mul_of_pos_right hm (twos_pos k)
  have hslack : f.slack (m * twos k) ≤ k := by
    rwa [slack_le_iff, Nat.add_comm]
  exact ⟨Nat.lt_of_lt_of_le hlt (Nat.pow_le_pow_right (by decide) hk),
    (Nat.pow_dvd_pow 2 hslack).trans (Nat.dvd_mul_left _ _)⟩

/-! ## Doubles -/

-- the range of doubles is far wider than anything that is read here, so only
-- these bounds of it are used
theorem le_double_scale : 300 ≤ double.scale := by decide

theorem le_double_limit : 300 ≤ double.limit := by decide

/-- A whole number of up to 53 bits is a double. -/
theorem double_ofNat? {w : Nat} (hw : w < 2 ^ 53) :
    double.ofNat? w = some (w * twos double.scale) := by
  have hlimit := le_double_limit
  refine round?_exact Nat.one_pos (fits_mul_twos hw ?_) (Nat.mul_one _).symm
  have hp : double.precision = 53 := rfl
  omega

/-- What is known of a power of ten as a double. -/
structure NearTens (k p : Nat) : Prop where
  read : double.ofNat? (tens k) = some p
  near : |(p : ℚ) - 10 ^ k * 2 ^ double.scale| ≤ 10 ^ k * 2 ^ double.scale / 2 ^ 53
  least : (2 : ℚ) ^ double.scale ≤ 2 * p
  greatest : (p : ℚ) ≤ 2 ^ 201 * 2 ^ double.scale

theorem exists_nearTens {k : Nat} (hk : k ≤ 60) : ∃ p, NearTens k p := by
  have hone : (1 : ℚ) ≤ 10 ^ k := one_le_pow₀ (by norm_num)
  have hgreatest : (10 : ℚ) ^ k ≤ 2 ^ 200 :=
    (pow_le_pow_right₀ (by norm_num) hk).trans (by norm_num)
  have hpositive : (0 : ℚ) < 2 ^ double.scale := by positivity
  have hscale : (2 : ℚ) ^ 52 ≤ 2 ^ double.scale :=
    pow_le_pow_right₀ (by norm_num) (by have := le_double_scale; omega)
  have hleast : (2 : ℚ) ^ double.scale ≤ 10 ^ k * 2 ^ double.scale :=
    le_mul_of_one_le_left hpositive.le hone
  have hmost : (10 ^ k * 2 ^ double.scale : ℚ) ≤ 2 ^ 200 * 2 ^ double.scale := by gcongr
  have hlow : (2 : ℚ) ^ (double.precision - 1) ≤ tens k * 2 ^ double.scale / (1 : Nat) := by
    rw [cast_tens, Nat.cast_one, div_one]
    exact hscale.trans hleast
  have hhigh : 2 * (tens k * 2 ^ double.scale / (1 : Nat) : ℚ) < 2 ^ (double.scale + double.limit) := by
    have hlimit : (2 : ℚ) ^ 202 ≤ 2 ^ double.limit :=
      pow_le_pow_right₀ (by norm_num) (by have := le_double_limit; omega)
    rw [cast_tens, Nat.cast_one, div_one, pow_add]
    calc 2 * (10 ^ k * 2 ^ double.scale : ℚ) ≤ 2 * (2 ^ 200 * 2 ^ double.scale) := by gcongr
      _ < 2 ^ double.scale * 2 ^ 202 := by linarith
      _ ≤ 2 ^ double.scale * 2 ^ double.limit := by gcongr
  obtain ⟨p, hp, hrelative⟩ := round?_relative (by decide) Nat.one_pos hlow hhigh
  rw [cast_tens, Nat.cast_one, div_one] at hrelative
  have hnear : |(p : ℚ) - 10 ^ k * 2 ^ double.scale| ≤ 10 ^ k * 2 ^ double.scale / 2 ^ 53 :=
    hrelative
  obtain ⟨habove, hbelow⟩ := abs_sub_le_iff.mp hnear
  exact ⟨p, hp, hnear, by linarith, by linarith⟩

/-- The powers of ten up to the twenty-second are doubles. -/
theorem double_tens {k : Nat} (hk : k ≤ 22) :
    double.ofNat? (tens k) = some (tens k * twos double.scale) := by
  have hsplit : tens k * twos double.scale = 5 ^ k * twos (k + double.scale) := by
    rw [twos_add, ← Nat.mul_assoc]
    congr 1
    show 10 ^ k = 5 ^ k * 2 ^ k
    rw [← Nat.mul_pow]
  have hfive : 5 ^ k < twos double.precision :=
    Nat.lt_of_le_of_lt (Nat.pow_le_pow_right (by decide) hk) (by decide)
  refine round?_exact Nat.one_pos ?_ (Nat.mul_one _).symm
  rw [hsplit]
  refine fits_mul_twos hfive ?_
  have hp : double.precision = 53 := rfl
  have hlimit := le_double_limit
  omega

end BinaryFormat

namespace Numeral

open BinaryFormat

/-! ## Two roundings -/

/-- The share of a value by which a numeral may be read wrong. -/
def drift : ℚ := 1 / 2 ^ 52 + 1 / 2 ^ 100

/-- A quotient whose divisor is a little off is itself a little off. -/
theorem quotient_drift {value divisor exact quotient rounded : ℚ} (hexact : 0 < exact)
    (hvalue : 0 < value) (hdivisor : |divisor - exact| ≤ exact / 2 ^ 53)
    (hquotient : quotient * divisor = value * exact)
    (hrounded : |rounded - quotient| ≤ quotient / 2 ^ 53) :
    |rounded - value| ≤ value * drift := by
  obtain ⟨habove, hbelow⟩ := abs_sub_le_iff.mp hdivisor
  obtain ⟨hupper, hlower⟩ := abs_sub_le_iff.mp hrounded
  have hpositive : 0 < divisor := by linarith
  have hq : 0 < quotient :=
    (pos_iff_pos_of_mul_pos (by rw [hquotient]; positivity)).mpr hpositive
  have hleast : quotient * (1 - 1 / 2 ^ 53) ≤ value := by
    refine le_of_mul_le_mul_right ?_ hexact
    rw [← hquotient, mul_assoc]
    exact mul_le_mul_of_nonneg_left (by linarith) hq.le
  have hgreatest : value ≤ quotient * (1 + 1 / 2 ^ 53) := by
    refine le_of_mul_le_mul_right ?_ hexact
    rw [← hquotient, mul_assoc]
    exact mul_le_mul_of_nonneg_left (by linarith) hq.le
  unfold drift
  rw [abs_sub_le_iff]
  constructor <;> linarith

/-- A product one of whose factors is a little off is itself a little off. -/
theorem product_drift {factor exact other product rounded : ℚ} (hother : 0 < other)
    (hexact : 0 < exact) (hfactor : |factor - exact| ≤ exact / 2 ^ 53)
    (hproduct : product = other * factor) (hrounded : |rounded - product| ≤ product / 2 ^ 53) :
    |rounded - other * exact| ≤ other * exact * drift := by
  have hoff : |product - other * exact| ≤ other * exact / 2 ^ 53 := by
    rw [hproduct, ← mul_sub, abs_mul, abs_of_pos hother, mul_div_assoc]
    exact mul_le_mul_of_nonneg_left hfactor hother.le
  obtain ⟨habove, hbelow⟩ := abs_sub_le_iff.mp hoff
  obtain ⟨hupper, hlower⟩ := abs_sub_le_iff.mp hrounded
  have hvalue : 0 < other * exact := by positivity
  unfold drift
  rw [abs_sub_le_iff]
  constructor <;> linarith

/-! ## Reading -/

theorem double?_eq {n : Numeral} (h : n.spelled < 2 ^ 50) :
    n.double? = (if n.place < 0 then overPlaces? (n.spelled * twos double.scale) n.place.natAbs
      else timesPlaces? (n.spelled * twos double.scale) n.place.natAbs).map
        fun steps => ⟨n.negative, steps⟩ := by
  have hfits : n.spelled < UInt64.size := Nat.lt_trans h (by decide)
  unfold double?
  rw [gathered_eq hfits]
  dsimp only
  rw [double_ofNat? (Nat.lt_trans h (by decide)), Option.bind_some]

/-- A power of ten that is not too large is taken at once. -/
theorem overPlaces?_eq {steps k : Nat} (hk : k ≤ 60) : overPlaces? steps k = overTens? steps k := by
  have hparts : (k - 1) / greatestTens = 0 := Nat.div_eq_of_lt (by unfold greatestTens; omega)
  unfold overPlaces?
  dsimp only
  rw [hparts, overGreatestTens?, Option.bind_some, Nat.zero_mul, Nat.sub_zero]

/-- A double that is not as large or as small as doubles can be is rounded with a small error. -/
theorem exists_rounded {num den : Nat} {x : ℚ} (hden : 0 < den)
    (hx : (num * 2 ^ double.scale / den : ℚ) = x) (hlow : 2 ^ double.scale / 2 ^ 202 ≤ x)
    (hhigh : x ≤ 2 ^ double.scale * 2 ^ 252) :
    ∃ steps, double.round? num den = some steps ∧ |(steps : ℚ) - x| ≤ x / 2 ^ 53 := by
  have hscale : (2 : ℚ) ^ 254 ≤ 2 ^ double.scale :=
    pow_le_pow_right₀ (by norm_num) (by have := le_double_scale; omega)
  have hlimit : (2 : ℚ) ^ 254 ≤ 2 ^ double.limit :=
    pow_le_pow_right₀ (by norm_num) (by have := le_double_limit; omega)
  have hpositive : (0 : ℚ) < 2 ^ double.scale := by positivity
  have hleast : (2 : ℚ) ^ (double.precision - 1) ≤ num * 2 ^ double.scale / den := by
    rw [hx]
    refine le_trans ?_ hlow
    rw [le_div_iff₀ (by positivity)]
    calc (2 : ℚ) ^ 52 * 2 ^ 202 = 2 ^ 254 := by norm_num
      _ ≤ 2 ^ double.scale := hscale
  have hgreatest : 2 * (num * 2 ^ double.scale / den : ℚ) < 2 ^ (double.scale + double.limit) := by
    rw [hx, pow_add]
    calc 2 * x ≤ 2 * (2 ^ double.scale * 2 ^ 252) := by gcongr
      _ < 2 ^ double.scale * 2 ^ 254 := by
          norm_num
          linarith
      _ ≤ 2 ^ double.scale * 2 ^ double.limit := by gcongr
  obtain ⟨steps, hsteps, hnear⟩ := round?_relative (by decide) hden hleast hgreatest
  rw [hx] at hnear
  exact ⟨steps, hsteps, hnear⟩

/-- A whole number divided by a power of ten. -/
theorem exists_overPlaces {w k : Nat} (hw : 0 < w) (hshort : w < 2 ^ 50) (hk : k ≤ 60) :
    ∃ steps, overPlaces? (w * twos double.scale) k = some steps ∧
      |(steps : ℚ) - w * (1 / 10 ^ k) * 2 ^ double.scale| ≤
        w * (1 / 10 ^ k) * 2 ^ double.scale * drift := by
  obtain ⟨p, hp, hnear, hleast, hgreatest⟩ := exists_nearTens hk
  have hone : (1 : ℚ) ≤ w := by exact_mod_cast hw
  have hmost : (w : ℚ) ≤ 2 ^ 50 := by exact_mod_cast hshort.le
  have hscale : (0 : ℚ) < 2 ^ double.scale := by positivity
  have hpos : (0 : ℚ) < p := by linarith
  obtain ⟨x, hx⟩ : ∃ x : ℚ, ((w * twos double.scale : Nat) * 2 ^ double.scale / p : ℚ) = x :=
    ⟨_, rfl⟩
  have hsame : x * p = w * (2 ^ double.scale * 2 ^ double.scale) := by
    rw [← hx]
    push_cast [cast_twos]
    field_simp
  have hquotient : x * p =
      w * (1 / 10 ^ k) * 2 ^ double.scale * (10 ^ k * 2 ^ double.scale) := by
    rw [hsame]
    field_simp
  have hlow : (2 ^ double.scale / 2 ^ 202 : ℚ) ≤ x := by
    refine le_of_mul_le_mul_right ?_ hpos
    calc (2 ^ double.scale / 2 ^ 202 * p : ℚ)
        ≤ 2 ^ double.scale / 2 ^ 202 * (2 ^ 201 * 2 ^ double.scale) := by gcongr
      _ = 1 / 2 * (2 ^ double.scale * 2 ^ double.scale) := by ring
      _ ≤ w * (2 ^ double.scale * 2 ^ double.scale) := by gcongr; linarith
      _ = x * p := hsame.symm
  have hhigh : x ≤ 2 ^ double.scale * 2 ^ 252 := by
    refine le_of_mul_le_mul_right ?_ hpos
    calc x * p = w * (2 ^ double.scale * 2 ^ double.scale) := hsame
      _ ≤ 2 ^ 50 * (2 ^ double.scale * (2 * p)) := by gcongr
      _ = 2 ^ double.scale * 2 ^ 51 * p := by ring
      _ ≤ 2 ^ double.scale * 2 ^ 252 * p :=
          mul_le_mul_of_nonneg_right (mul_le_mul_of_nonneg_left (by norm_num) hscale.le) hpos.le
  obtain ⟨steps, hsteps, hrounded⟩ := exists_rounded (by exact_mod_cast hpos) hx hlow hhigh
  refine ⟨steps, ?_, quotient_drift (by positivity) (by positivity) hnear hquotient hrounded⟩
  rw [overPlaces?_eq hk]
  unfold overTens? div?
  rw [hp, Option.bind_some, hsteps]

/-- A whole number multiplied by a power of ten. -/
theorem exists_timesPlaces {w k : Nat} (hw : 0 < w) (hshort : w < 2 ^ 50) (hk : k ≤ 60) :
    ∃ steps, timesPlaces? (w * twos double.scale) k = some steps ∧
      |(steps : ℚ) - w * 10 ^ k * 2 ^ double.scale| ≤ w * 10 ^ k * 2 ^ double.scale * drift := by
  obtain ⟨p, hp, hnear, hleast, hgreatest⟩ := exists_nearTens hk
  have hone : (1 : ℚ) ≤ w := by exact_mod_cast hw
  have hmost : (w : ℚ) ≤ 2 ^ 50 := by exact_mod_cast hshort.le
  have hscale : (0 : ℚ) < 2 ^ double.scale := by positivity
  have hpos : (0 : ℚ) < p := by linarith
  have hx : ((w * twos double.scale * p : Nat) * 2 ^ double.scale /
      (twos (2 * double.scale) : Nat) : ℚ) = w * p := by
    rw [Nat.two_mul, twos_add]
    push_cast [cast_twos]
    field_simp
  have hlow : (2 ^ double.scale / 2 ^ 202 : ℚ) ≤ w * p := by
    calc (2 ^ double.scale / 2 ^ 202 : ℚ) ≤ 2 * p / 2 ^ 202 := by gcongr
      _ = 1 / 2 ^ 201 * p := by ring
      _ ≤ w * p := mul_le_mul_of_nonneg_right (le_trans (by norm_num) hone) hpos.le
  have hhigh : (w * p : ℚ) ≤ 2 ^ double.scale * 2 ^ 252 := by
    calc (w * p : ℚ) ≤ 2 ^ 50 * (2 ^ 201 * 2 ^ double.scale) :=
          mul_le_mul hmost hgreatest hpos.le (by positivity)
      _ = 2 ^ double.scale * 2 ^ 251 := by ring
      _ ≤ 2 ^ double.scale * 2 ^ 252 := mul_le_mul_of_nonneg_left (by norm_num) hscale.le
  obtain ⟨steps, hsteps, hrounded⟩ := exists_rounded (twos_pos _) hx hlow hhigh
  refine ⟨steps, ?_, ?_⟩
  · unfold timesPlaces? mul?
    rw [if_pos (by unfold greatestTens; omega), hp, Option.bind_some, hsteps]
  · rw [mul_assoc]
    exact product_drift (by linarith) (by positivity) hnear rfl hrounded

theorem zpow_of_neg {e : Int} (he : e < 0) : (10 : ℚ) ^ e = 1 / 10 ^ e.natAbs := by
  obtain ⟨k, rfl⟩ := Int.exists_eq_neg_ofNat he.le
  simp

theorem zpow_of_not_neg {e : Int} (he : ¬ e < 0) : (10 : ℚ) ^ e = 10 ^ e.natAbs := by
  obtain ⟨k, rfl⟩ := Int.eq_ofNat_of_zero_le (not_lt.mp he)
  simp

/-- What is read is nearly what the numeral says. -/
theorem exists_double {n : Numeral} (hpos : 0 < n.spelled) (hshort : n.spelled < 2 ^ 50)
    (hplace : n.place.natAbs ≤ 60) :
    ∃ steps, n.double? = some ⟨n.negative, steps⟩ ∧
      |(steps : ℚ) - n.spelled * 10 ^ n.place * 2 ^ double.scale| ≤
        n.spelled * 10 ^ n.place * 2 ^ double.scale * drift := by
  rw [double?_eq hshort]
  by_cases he : n.place < 0
  · obtain ⟨steps, hsteps, hnear⟩ := exists_overPlaces hpos hshort hplace
    rw [if_pos he, zpow_of_neg he, hsteps]
    exact ⟨steps, rfl, hnear⟩
  · obtain ⟨steps, hsteps, hnear⟩ := exists_timesPlaces hpos hshort hplace
    rw [if_neg he, zpow_of_not_neg he, hsteps]
    exact ⟨steps, rfl, hnear⟩

/-- With a small power of ten, what is a double is read as it is. -/
theorem double?_exact {n : Numeral} {steps : Nat} (hshort : n.spelled < 2 ^ 50)
    (hplace : n.place.natAbs ≤ 22) (hfits : double.Fits steps)
    (h : n.spelled * 10 ^ n.place * 2 ^ double.scale = (steps : ℚ)) :
    n.double? = some ⟨n.negative, steps⟩ := by
  have hp := double_tens hplace
  rw [double?_eq hshort]
  generalize n.spelled = w at *
  generalize n.place = e at *
  by_cases he : e < 0
  · rw [zpow_of_neg he] at h
    have htens : 0 < tens e.natAbs * twos double.scale := Nat.mul_pos (tens_pos _) (twos_pos _)
    have hexact : w * twos double.scale = steps * tens e.natAbs := by
      field_simp at h
      rw [← Nat.cast_inj (R := ℚ)]
      push_cast [cast_twos, cast_tens]
      linarith
    rw [if_pos he, overPlaces?_eq (by omega)]
    unfold overTens? div?
    rw [hp, Option.bind_some, round?_exact htens hfits]
    · rfl
    · rw [hexact, Nat.mul_assoc]
  · rw [zpow_of_not_neg he] at h
    have hexact : w * tens e.natAbs * twos double.scale = steps := by
      rw [← Nat.cast_inj (R := ℚ)]
      push_cast [cast_twos, cast_tens]
      exact h
    rw [if_neg he]
    unfold timesPlaces? mul?
    rw [if_pos (by unfold greatestTens; omega), hp, Option.bind_some,
      round?_exact (twos_pos _) hfits]
    · rfl
    · rw [Nat.two_mul, twos_add, ← hexact]
      ring

end Numeral

end CueStream
