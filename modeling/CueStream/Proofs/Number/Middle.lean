-- How near a decimal number of few digits comes to the middle between two
-- numbers of single precision. For each size of number two fractions that are
-- neighbours show it: everything else of few digits lies farther away.
import CueStream.Proofs.Number.Naming
import Mathlib.Tactic.LinearCombination

namespace CueStream

/-! ## Neighbours -/

/-- Two fractions `a / b` and `c / d`, the smaller one first. -/
structure Fractions where
  a : Nat
  b : Nat
  c : Nat
  d : Nat
  deriving DecidableEq, Repr

namespace Fractions

/-- How far the first fraction lies below `p / q`, as a count of `1 / (b * q)`. -/
def below (h : Fractions) (p q : Nat) : Nat := h.b * p - h.a * q

/-- How far the second fraction lies above `p / q`, as a count of `1 / (d * q)`. -/
def above (h : Fractions) (p q : Nat) : Nat := h.c * q - h.d * p

/-- The two fractions are neighbours, and `p / q` lies between them. -/
structure Enclose (h : Fractions) (p q : Nat) : Prop where
  neighbours : h.c * h.b = h.a * h.d + 1
  least : h.a * q ≤ h.b * p
  greatest : h.d * p < h.c * q

instance (h : Fractions) (p q : Nat) : Decidable (h.Enclose p q) :=
  decidable_of_iff (h.c * h.b = h.a * h.d + 1 ∧ h.a * q ≤ h.b * p ∧ h.d * p < h.c * q)
    ⟨fun ⟨hn, hl, hg⟩ => ⟨hn, hl, hg⟩, fun ⟨hn, hl, hg⟩ => ⟨hn, hl, hg⟩⟩

/-- A pair of numbers is `i` times the first fraction, with the second one taken away `j` times. -/
structure MadeOf (m n : Nat) (first second : Nat × Nat) (i j : Nat) : Prop where
  positive : 0 < i
  upper : m + j * second.1 = i * first.1
  lower : n + j * second.2 = i * first.2

/-- A fraction that is not as large as both neighbours together lies on one side of them, and it is
made up of them in a way that tells how far away it is. -/
theorem Enclose.apart {h : Fractions} {p q m n : Nat} (henclose : h.Enclose p q) (hn : 0 < n)
    (hbox : m < h.a + h.c ∨ n < h.b + h.d) :
    (∃ i j, MadeOf m n (h.a, h.b) (h.c, h.d) i j ∧
        n * p = m * q + (i * h.below p q + j * h.above p q)) ∨
      ∃ i j, MadeOf m n (h.c, h.d) (h.a, h.b) i j ∧
        m * q = n * p + (i * h.above p q + j * h.below p q) := by
  obtain ⟨hneighbours, hleast, hgreatest⟩ := henclose
  obtain ⟨low, hlow⟩ : ∃ low, h.below p q = low := ⟨_, rfl⟩
  obtain ⟨high, hhigh⟩ : ∃ high, h.above p q = high := ⟨_, rfl⟩
  have hlowsum : h.b * p = h.a * q + low := by unfold below at hlow; omega
  have hhighsum : h.c * q = h.d * p + high := by unfold above at hhigh; omega
  rw [hlow, hhigh]
  obtain ⟨a, b, c, d⟩ := h
  dsimp only at *
  -- over the integers the pair is `y` times the first fraction and `x` times the second one
  zify at hneighbours hlowsum hhighsum
  obtain ⟨x, hx⟩ : ∃ x : Int, m * b - n * a = x := ⟨_, rfl⟩
  obtain ⟨y, hy⟩ : ∃ y : Int, n * c - m * d = y := ⟨_, rfl⟩
  have hupper : (m : Int) = x * c + y * a := by
    rw [← hx, ← hy]
    linear_combination (-(m : Int)) * hneighbours
  have hlower : (n : Int) = x * d + y * b := by
    rw [← hx, ← hy]
    linear_combination (-(n : Int)) * hneighbours
  have hvalue : (n * p : Int) = m * q + (y * low - x * high) := by
    rw [hupper, hlower]
    linear_combination y * hlowsum - x * hhighsum
  have hone : ¬ (1 ≤ x ∧ 1 ≤ y) := by
    rintro ⟨hx, hy⟩
    have hxc := mul_le_mul_of_nonneg_right hx (Int.natCast_nonneg c)
    have hya := mul_le_mul_of_nonneg_right hy (Int.natCast_nonneg a)
    have hxd := mul_le_mul_of_nonneg_right hx (Int.natCast_nonneg d)
    have hyb := mul_le_mul_of_nonneg_right hy (Int.natCast_nonneg b)
    omega
  have hsome : 1 ≤ x ∨ 1 ≤ y := by
    by_contra hnone
    have hxd := mul_le_mul_of_nonneg_right (show x ≤ 0 by omega) (Int.natCast_nonneg d)
    have hyb := mul_le_mul_of_nonneg_right (show y ≤ 0 by omega) (Int.natCast_nonneg b)
    omega
  rcases hsome with hxpos | hypos
  · obtain ⟨i, rfl⟩ := Int.eq_ofNat_of_zero_le (show 0 ≤ x by omega)
    obtain ⟨j, hj⟩ := Int.exists_eq_neg_ofNat (show y ≤ 0 by omega)
    subst hj
    refine .inr ⟨i, j, ⟨by omega, ?_, ?_⟩, ?_⟩ <;> zify <;> linarith
  · obtain ⟨i, rfl⟩ := Int.eq_ofNat_of_zero_le (show 0 ≤ y by omega)
    obtain ⟨j, hj⟩ := Int.exists_eq_neg_ofNat (show x ≤ 0 by omega)
    subst hj
    refine .inl ⟨i, j, ⟨by omega, ?_, ?_⟩, ?_⟩ <;> zify <;> linarith

/-! ## Finding them -/

/-- What counts in `m / n`: `n` up to this, and `m` below twice this. -/
def bound : Nat := 2 ^ 24

/-- Moves the first fraction up towards `p / q` as far as it goes in one direction. -/
def raise (h : Fractions) (p q : Nat) : Fractions :=
  let n := min (h.below p q / h.above p q)
    (min ((bound - h.b) / h.d) ((2 * bound - 1 - h.a) / h.c))
  ⟨h.a + n * h.c, h.b + n * h.d, h.c, h.d⟩

/-- Moves the second fraction down towards `p / q`, without reaching it. -/
def sink (h : Fractions) (p q : Nat) : Fractions :=
  let most := if h.below p q = 0 then bound else (h.above p q - 1) / h.below p q
  let n := min most (min ((bound - h.d) / h.b) ((2 * bound - 1 - h.c) / h.a))
  ⟨h.a, h.b, h.c + n * h.a, h.d + n * h.b⟩

/-- Neighbours around `p / q`: both fractions are moved in turn. -/
def around (p q : Nat) : (turns : Nat) → Fractions
  | 0 => ⟨p / q, 1, p / q + 1, 1⟩
  | turns + 1 => ((around p q turns).raise p q).sink p q

end Fractions

/-! ## Numbers of single precision -/

open BinaryFormat

namespace Middle

variable {s k m n r other : Nat}

/-- The finest grid on which the decimal numbers that name a number with this slack can come near
to a middle. -/
def place (k : Nat) : Int := -((149 - k) * 30103 / 100000)

/-- A step of that grid is `num k / den k` times half of a unit. -/
def num (k : Nat) : Nat := tens (place k).toNat * twos (150 - k)

def den (k : Nat) : Nat := tens (-place k).toNat * twos (k - 150)

/-- What lies `r / den k` half units apart stays apart when it is read. -/
def Wide (k r : Nat) : Prop := (2 ^ 20 + 1) * den k ≤ 2 ^ 47 * r

instance (k r : Nat) : Decidable (Wide k r) := inferInstanceAs (Decidable (_ ≤ _))

theorem Wide.mono (h : Wide k r) (hle : r ≤ other) : Wide k other :=
  Nat.le_trans h (Nat.mul_le_mul_left _ hle)

/-- The one middle that a decimal number of few digits nearly hits, on the grid for its slack. -/
def Lone (k m : Nat) : Prop := k = 42 ∧ m = 22841339

instance (k m : Nat) : Decidable (Lone k m) := inferInstanceAs (Decidable (_ ∧ _))

/-- The two numbers beside it. -/
def besideLone : List Nat := [11420669 * twos 42, 11420670 * twos 42]

/-- The multiples of a fraction with the numerator `m` that lies `r` apart stay clear of the middles
that they do not hit, also with the neighbour of the fraction taken away, which lies `other` apart
on the other side. A fraction that lies too near is no middle itself, or it is the lone one. -/
def Clear (k m r other : Nat) : Prop :=
  r = 0 ∧ Wide k other ∨ Wide k r ∨
    Wide k (r + other) ∧ (Wide k (2 * r) ∨ 2 ^ 24 ≤ m) ∧ (0 < k ∧ m < 2 ^ 24 ∨ Lone k m)

instance (k m r other : Nat) : Decidable (Clear k m r other) :=
  inferInstanceAs (Decidable (_ ∨ _))

/-- What is made up of such a fraction hits a middle or stays clear of it. -/
theorem Clear.far {first second : Nat × Nat} {i j : Nat} (h : Clear k first.1 r other)
    (hmade : Fractions.MadeOf m n first second i j) (hm : m < 2 ^ 25) (hk : k = 0 ∨ 2 ^ 24 ≤ m) :
    i * r + j * other = 0 ∨ Wide k (i * r + j * other) ∨ Lone k m := by
  obtain ⟨hi, hupper, -⟩ := hmade
  have hone : r ≤ i * r := Nat.le_mul_of_pos_left r hi
  rcases h with ⟨rfl, hother⟩ | hr | ⟨hboth, hmany, hthis⟩
  · rcases Nat.eq_zero_or_pos j with rfl | hj
    · exact .inl (by omega)
    · have := Nat.le_mul_of_pos_left other hj
      exact .inr (.inl (hother.mono (by omega)))
  · exact .inr (.inl (hr.mono (by omega)))
  · rcases Nat.eq_zero_or_pos j with rfl | hj
    · rw [Nat.zero_mul, Nat.add_zero] at *
      obtain rfl | htwo : i = 1 ∨ 2 ≤ i := by omega
      · rw [Nat.one_mul] at *
        subst hupper
        exact .inr (.inr (hthis.resolve_left (by omega)))
      · rcases hmany with hmany | hmany
        · exact .inr (.inl (hmany.mono (Nat.mul_le_mul_right r htwo)))
        · have := Nat.mul_le_mul htwo hmany
          omega
    · have := Nat.le_mul_of_pos_left other hj
      exact .inr (.inl (hboth.mono (by omega)))

/-- The two fractions show how near decimal numbers come to the middles for this slack. -/
structure Shows (k : Nat) (h : Fractions) : Prop where
  enclose : h.Enclose (num k) (den k)
  full : 2 ^ 25 ≤ h.a + h.c ∨ 2 ^ 24 < h.b + h.d
  first : Clear k h.a (h.below (num k) (den k)) (h.above (num k) (den k))
  second : Clear k h.c (h.above (num k) (den k)) (h.below (num k) (den k))

instance (k : Nat) (h : Fractions) : Decidable (Shows k h) :=
  decidable_of_iff
    (h.Enclose (num k) (den k) ∧ (2 ^ 25 ≤ h.a + h.c ∨ 2 ^ 24 < h.b + h.d) ∧
      Clear k h.a (h.below (num k) (den k)) (h.above (num k) (den k)) ∧
      Clear k h.c (h.above (num k) (den k)) (h.below (num k) (den k)))
    ⟨fun ⟨he, hf, h1, h2⟩ => ⟨he, hf, h1, h2⟩, fun ⟨he, hf, h1, h2⟩ => ⟨he, hf, h1, h2⟩⟩

/-- For each slack there is such a pair. -/
theorem shows_around : ∀ k < 254, Shows k (.around (num k) (den k) 12) := by
  decide +kernel

/-- A step of the grid is at least a unit, and a tenth of it is less than a unit. -/
theorem step_size : ∀ k < 254, 2 * den k ≤ num k ∧ 128 * num k ≤ 2540 * den k := by
  decide +kernel

/-- A decimal number of few digits is a middle, or it stays clear of it, or that is the lone one. -/
theorem far_of_few (hk : k < 254) (hn : 0 < n) (hfew : n ≤ 2 ^ 24) (hm : m < 2 ^ 25)
    (hsize : k = 0 ∨ 2 ^ 24 ≤ m) :
    n * num k = m * den k ∨
      (∃ r, Wide k r ∧ (n * num k = m * den k + r ∨ m * den k = n * num k + r)) ∨ Lone k m := by
  obtain ⟨h, henclose, hfull, hfirst, hsecond⟩ : ∃ h, Shows k h := ⟨_, shows_around k hk⟩
  rcases henclose.apart (m := m) hn (by omega) with ⟨i, j, hmade, hvalue⟩ | ⟨i, j, hmade, hvalue⟩
  · rcases hfirst.far hmade hm hsize with hzero | hwide | hlone
    · exact .inl (by omega)
    · exact .inr (.inl ⟨_, hwide, .inl hvalue⟩)
    · exact .inr (.inr hlone)
  · rcases hsecond.far hmade hm hsize with hzero | hwide | hlone
    · exact .inl (by omega)
    · exact .inr (.inl ⟨_, hwide, .inr hvalue⟩)
    · exact .inr (.inr hlone)

/-! ## Half units -/

theorem den_pos (k : Nat) : 0 < den k :=
  Nat.mul_pos (tens_pos _) (twos_pos _)

/-- A step of the grid, in half units. -/
theorem tens_place (k : Nat) : (10 : ℚ) ^ place k * 2 ^ 149 = num k / den k * (2 ^ k / 2) := by
  have hsum : 149 + (k - 150) + 1 = 150 - k + k := by omega
  have hunits : (2 : ℚ) ^ 149 * 2 ^ (k - 150) * 2 = 2 ^ (150 - k) * 2 ^ k := by
    rw [← pow_add, ← pow_add, ← pow_succ, hsum]
  rw [zpow_eq_tens]
  unfold num den
  push_cast [cast_twos, cast_tens]
  rw [div_mul_eq_mul_div, div_mul_eq_mul_div, div_eq_div_iff (by positivity) (by positivity)]
  linear_combination 10 ^ (place k).toNat * 10 ^ (-place k).toNat / 2 * hunits

/-- A number that is not the least one of its size, as a count of units. -/
theorem exists_units (hfits : single.Fits s) (hinner : single.Inner s) (hs : 0 < s) :
    ∃ m, s = m * twos (single.slack s) ∧ 0 < m ∧ m < 2 ^ 24 ∧
      (single.slack s = 0 ∨ 2 ^ 23 < m) ∧ single.slack s < 254 := by
  obtain ⟨m, hm⟩ := hfits.whole
  have hupper := single.lt_of_slack s
  have hsmall : s < twos 277 := hfits.small
  have hleast : single.slack s = 0 ∨ twos (single.slack s - 1 + 24) < s := hinner
  generalize single.slack s = k at *
  rw [Nat.mul_comm] at hm
  subst hm
  have hlt : m < 2 ^ 24 := by
    rw [Nat.add_comm, twos_add] at hupper
    exact Nat.lt_of_mul_lt_mul_right hupper
  refine ⟨m, rfl, Nat.pos_of_mul_pos_right hs, hlt, ?_⟩
  rcases Nat.eq_zero_or_pos k with rfl | hk
  · exact ⟨.inl rfl, by decide⟩
  have hleast := hleast.resolve_left (by omega)
  have hsplit : k - 1 + 24 = 23 + k := by omega
  rw [hsplit] at hleast
  have hlog : 23 + k < 277 := twos_lt_iff.mp (hleast.trans hsmall)
  rw [twos_add] at hleast
  exact ⟨.inr (Nat.lt_of_mul_lt_mul_right hleast), by omega⟩

/-- What a middle is kept apart by, as a share of half a unit. -/
def margin : ℚ := (2 ^ 20 + 1) / 2 ^ 47

theorem Wide.margin_le {r : Nat} (h : Wide k r) : margin ≤ r / den k := by
  have hden : (0 : ℚ) < den k := by exact_mod_cast den_pos k
  unfold Wide at h
  have hcast : ((2 ^ 20 + 1) * den k : ℚ) ≤ 2 ^ 47 * r := by exact_mod_cast h
  rw [margin, div_le_div_iff₀ (by positivity) hden]
  linarith

/-- On its grid a decimal number of few digits is a middle, or it stays clear of it. -/
theorem margin_le_of_few (hk : k < 254) (hn : 0 < n) (hfew : n ≤ 2 ^ 24) (hm : m < 2 ^ 25)
    (hsize : k = 0 ∨ 2 ^ 24 ≤ m) (hlone : ¬ Lone k m) :
    (n * num k / den k : ℚ) = m ∨ margin ≤ |(n * num k / den k : ℚ) - m| := by
  have hden : (0 : ℚ) < den k := by exact_mod_cast den_pos k
  rcases far_of_few hk hn hfew hm hsize with heq | ⟨r, hwide, hvalue⟩ | hthis
  · refine .inl ((div_eq_iff hden.ne').mpr ?_)
    exact_mod_cast heq
  · have hmargin := hwide.margin_le
    have hpos : (0 : ℚ) ≤ r / den k := div_nonneg (Nat.cast_nonneg _) (Nat.cast_nonneg _)
    refine .inr (hmargin.trans (le_of_eq ?_))
    rcases hvalue with hvalue | hvalue
    · have hcast : (n * num k : ℚ) = m * den k + r := by exact_mod_cast hvalue
      rw [hcast, add_div, mul_div_cancel_right₀ _ hden.ne', add_sub_cancel_left, abs_of_nonneg hpos]
    · have hcast : (m * den k : ℚ) = n * num k + r := by exact_mod_cast hvalue
      have hdiff : (n * num k / den k : ℚ) - m = -(r / den k) := by
        rw [eq_neg_iff_add_eq_zero, sub_add_eq_add_sub, ← add_div, ← hcast,
          mul_div_cancel_right₀ _ hden.ne', sub_self]
      rw [hdiff, abs_neg, abs_of_nonneg hpos]
  · exact absurd hthis hlone

/-- On a finer grid the point nearest to a number is near enough to it. -/
theorem half_step_le {e : Int} (hk : k < 254) (he : e < place k) :
    (10 : ℚ) ^ e * 2 ^ 149 / 2 ≤ (1 - margin) * (2 ^ k / 2) := by
  have hden : (0 : ℚ) < den k := by exact_mod_cast den_pos k
  have htenth : (128 * num k : ℚ) ≤ 2540 * den k := by exact_mod_cast (step_size k hk).2
  have hratio : (num k / den k : ℚ) ≤ 2540 / 128 := by
    rw [div_le_div_iff₀ hden (by norm_num)]
    linarith
  have hunit : (0 : ℚ) < 2 ^ k / 2 := by positivity
  have hbound := mul_le_mul_of_nonneg_right hratio hunit.le
  rw [← tens_place] at hbound
  have hle : (10 : ℚ) ^ e ≤ 10 ^ (place k - 1) := zpow_le_zpow_right₀ (by norm_num) (by omega)
  rw [zpow_sub₀ (by norm_num), zpow_one] at hle
  have hmargin : (2540 / 128 / 20 : ℚ) ≤ 1 - margin := by
    unfold margin
    norm_num
  calc (10 : ℚ) ^ e * 2 ^ 149 / 2 ≤ 10 ^ place k / 10 * 2 ^ 149 / 2 := by gcongr
    _ = 10 ^ place k * 2 ^ 149 / 20 := by ring
    _ ≤ 2540 / 128 * (2 ^ k / 2) / 20 := by gcongr
    _ = 2540 / 128 / 20 * (2 ^ k / 2) := by ring
    _ ≤ (1 - margin) * (2 ^ k / 2) := mul_le_mul_of_nonneg_right hmargin hunit.le

/-- Between the two middles beside a number a decimal number of few digits is one of them, or it
stays clear of both. -/
theorem tie_or_clear_of_few {z : ℚ} (hk : k < 254) (hn : 0 < n)
    (hz : (n * num k / den k : ℚ) = z) (hmpos : 0 < m) (hmlt : m < 2 ^ 24)
    (hsize : k = 0 ∨ 2 ^ 23 < m) (hlone : ¬ Lone k (2 * m + 1) ∧ ¬ Lone k (2 * m - 1))
    (hlow : 2 * m - 1 ≤ z) (hhigh : z ≤ 2 * m + 1) :
    |z - 2 * m| ≤ 1 - margin ∨ ∃ middle : Nat, 0 < middle ∧ middle < 2 ^ 25 ∧ z = middle := by
  have hden : (0 : ℚ) < den k := by exact_mod_cast den_pos k
  have hstep : (2 * den k : ℚ) ≤ num k := by exact_mod_cast (step_size k hk).1
  have hmost : (m : ℚ) + 1 ≤ 2 ^ 24 := by exact_mod_cast hmlt
  have hfew : n ≤ 2 ^ 24 := by
    have hratio : (2 : ℚ) ≤ num k / den k := (le_div_iff₀ hden).mpr hstep
    have hdouble : (n * 2 : ℚ) ≤ z := by
      rw [← hz, mul_div_assoc]
      exact mul_le_mul_of_nonneg_left hratio (Nat.cast_nonneg n)
    have hle : (n : ℚ) ≤ 2 ^ 24 := by linarith
    exact_mod_cast hle
  have hupper := margin_le_of_few hk hn hfew (by omega) (by omega) hlone.1
  have hlower := margin_le_of_few hk hn hfew (by omega) (by omega) hlone.2
  have hcastupper : ((2 * m + 1 : Nat) : ℚ) = 2 * m + 1 := by
    push_cast
    rfl
  have hcastlower : ((2 * m - 1 : Nat) : ℚ) = 2 * m - 1 := by
    rw [Nat.cast_sub (by omega)]
    push_cast
    rfl
  rw [hz, hcastupper] at hupper
  rw [hz, hcastlower] at hlower
  rcases hupper with htie | hupper
  · exact .inr ⟨2 * m + 1, by omega, by omega, by rw [htie, hcastupper]⟩
  rcases hlower with htie | hlower
  · exact .inr ⟨2 * m - 1, by omega, by omega, by rw [htie, hcastlower]⟩
  rw [abs_of_nonpos (by linarith)] at hupper
  rw [abs_of_nonneg (by linarith)] at hlower
  left
  rw [abs_sub_le_iff]
  constructor <;> linarith

end Middle

/-! ## What is written stays clear of the middles -/

open Middle

variable {s k : Nat} {x : Decimal}

theorem half_eq (s : Nat) : single.half s = 2 ^ single.slack s / 2 := rfl

theorem near_of_close {y : ℚ} (h : |y - s| < single.half s) : single.Near s y := by
  obtain ⟨hhigh, hlow⟩ := abs_sub_lt_iff.mp h
  exact ⟨by linarith, by linarith, by rintro (htie | htie) <;> linarith⟩

/-- A decimal number whose last digit is not too fine, in half units. -/
theorem exists_count (hx : 0 < x.digits) (h : place k ≤ x.exponent) :
    ∃ n : Nat, 0 < n ∧ x.value * 2 ^ 149 = n * num k / den k * (2 ^ k / 2) := by
  obtain ⟨j, hj⟩ := Int.eq_ofNat_of_zero_le (show 0 ≤ x.exponent - place k by omega)
  have hexponent : x.exponent = j + place k := by omega
  refine ⟨x.digits * 10 ^ j, Nat.mul_pos hx (Nat.pow_pos (by decide)), ?_⟩
  rw [mul_div_assoc, mul_assoc, ← tens_place, Decimal.value, hexponent, zpow_add₀ (by norm_num),
    zpow_natCast]
  push_cast
  ring

/-- What is written for a number is a middle, or it stays clear of both middles beside it. -/
theorem BinaryFormat.Names.tie_or_clear (h : Names x s) (hfits : single.Fits s)
    (hinner : single.Inner s) (hs : 0 < s) (hlone : s ∉ besideLone) :
    |x.value * 2 ^ 149 - s| ≤ (1 - margin) * single.half s ∨
      ∃ m : Nat, 0 < m ∧ m < 2 ^ 25 ∧ x.value * 2 ^ 149 = m * single.half s := by
  obtain ⟨m, hm, hmpos, hmlt, hsize, hk⟩ := exists_units hfits hinner hs
  obtain ⟨hlow, hhigh, -⟩ := h.near
  have hclose := h.close
  rw [half_eq] at *
  generalize single.slack s = k at *
  by_cases hfine : x.exponent < place k
  · exact .inl (hclose.trans (half_step_le hk hfine))
  have hunit : (0 : ℚ) < 2 ^ k / 2 := by positivity
  have hunits : (s : ℚ) = 2 * m * (2 ^ k / 2) := by
    rw [hm]
    push_cast [cast_twos]
    ring
  obtain ⟨n, hn, hvalue⟩ := exists_count h.positive (not_lt.mp hfine)
  rw [hvalue, hunits] at hlow hhigh ⊢
  have hupperlone : ¬ Lone k (2 * m + 1) := by
    rintro ⟨rfl, hmiddle⟩
    refine hlone ?_
    rw [hm, show m = 11420669 by omega]
    exact List.mem_cons_self
  have hlowerlone : ¬ Lone k (2 * m - 1) := by
    rintro ⟨rfl, hmiddle⟩
    refine hlone ?_
    rw [hm, show m = 11420670 by omega]
    exact List.mem_cons_of_mem _ List.mem_cons_self
  obtain ⟨z, hz⟩ : ∃ z : ℚ, (n * num k / den k : ℚ) = z := ⟨_, rfl⟩
  rw [hz] at hlow hhigh ⊢
  rcases tie_or_clear_of_few hk hn hz hmpos hmlt hsize ⟨hupperlone, hlowerlone⟩
    (le_of_mul_le_mul_right (by linarith) hunit) (le_of_mul_le_mul_right (by linarith) hunit) with
    hclear | ⟨middle, hpos, hlt, htie⟩
  · left
    rw [← sub_mul, abs_mul, abs_of_pos hunit]
    exact mul_le_mul_of_nonneg_right hclear hunit.le
  · exact .inr ⟨middle, hpos, hlt, by rw [htie]⟩

end CueStream
