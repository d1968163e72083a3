-- The decimal numbers that name a number of a binary format. The shortest one
-- is rounded to that number, and it lies on no coarser grid than it needs to:
-- nine digits always do for single precision.
import CueStream.Number.Shortest
import CueStream.Proofs.Number.Nearest
import Mathlib.Algebra.Order.Field.Power
import Mathlib.Tactic.FieldSimp
import Mathlib.Tactic.Ring

namespace CueStream

/-- What the decimal number says. -/
def Decimal.value (d : Decimal) : ℚ :=
  d.digits * 10 ^ d.exponent

@[simp]
theorem cast_tens (k : Nat) : (tens k : ℚ) = 10 ^ k := by
  simp [tens]

theorem tens_pos (k : Nat) : 0 < tens k :=
  Nat.pow_pos (by decide)

/-- A power of ten as a quotient of two whole ones. -/
theorem zpow_eq_tens (e : Int) : (10 : ℚ) ^ e = tens e.toNat / tens (-e).toNat := by
  rcases Int.le_total 0 e with he | he
  · obtain ⟨k, rfl⟩ := Int.eq_ofNat_of_zero_le he
    simp
  · obtain ⟨k, hk⟩ := Int.exists_eq_neg_ofNat he
    subst hk
    simp

namespace BinaryFormat

variable {f : BinaryFormat} {s d : Nat} {e : Int}

/-! ## The numbers around a number -/

/-- In steps, a decimal number is named by the neighbourhood of a number if it lies in it. -/
theorem holds_iff (h : Neighbourhood) :
    h.holds f d e = true ↔
      if h.closed then h.low ≤ 2 * (d * 10 ^ e * 2 ^ f.scale : ℚ) ∧
          2 * (d * 10 ^ e * 2 ^ f.scale : ℚ) ≤ h.high
      else h.low < 2 * (d * 10 ^ e * 2 ^ f.scale : ℚ) ∧
          2 * (d * 10 ^ e * 2 ^ f.scale : ℚ) < h.high := by
  have hunit : (0 : ℚ) < tens (-e).toNat := by exact_mod_cast tens_pos _
  have hvalue : 2 * (d * 10 ^ e * 2 ^ f.scale : ℚ) =
      (d * tens e.toNat * twos (f.scale + 1) : Nat) / tens (-e).toNat := by
    rw [zpow_eq_tens]
    push_cast [cast_twos]
    ring
  rw [hvalue]
  unfold Neighbourhood.holds
  split
  · rw [Bool.and_eq_true, decide_eq_true_iff, decide_eq_true_iff, le_div_iff₀ hunit,
      div_le_iff₀ hunit]
    norm_cast
  · rw [Bool.and_eq_true, decide_eq_true_iff, decide_eq_true_iff, lt_div_iff₀ hunit,
      div_lt_iff₀ hunit]
    norm_cast

/-- Around a number that is not the least one of its size, the neighbourhood reaches equally far on
both sides. -/
theorem neighbourhood_of_inner (hinner : f.Inner s) :
    f.neighbourhood s =
      ⟨2 * s - twos (f.slack s), 2 * s + twos (f.slack s), s / twos (f.slack s) % 2 = 0⟩ := by
  have hplain : ¬ (s = twos s.log2 ∧ 1 < twos (f.slack s)) := by
    rintro ⟨hpower, hunit⟩
    have hk : f.slack s ≠ 0 := by
      intro hzero
      rw [hzero] at hunit
      exact absurd hunit (by decide)
    have hleast := hinner.resolve_left hk
    have hexponent : f.slack s - 1 + f.precision = s.log2 := by
      unfold slack at hk ⊢
      split at hk
      · exact absurd rfl hk
      · rw [if_neg (by assumption)]
        omega
    rw [hexponent, ← hpower] at hleast
    exact Nat.lt_irrefl _ hleast
  unfold neighbourhood
  dsimp only
  rw [if_neg hplain]

theorem two_mul_half (s : Nat) : 2 * f.half s = twos (f.slack s) := by
  rw [cast_twos, half]
  ring

theorem cast_low (hfits : f.Fits s) (hs : 0 < s) :
    ((2 * s - twos (f.slack s) : Nat) : ℚ) = 2 * (s - f.half s) := by
  have hle := Nat.le_of_dvd hs hfits.whole
  rw [Nat.cast_sub (by omega), mul_sub, two_mul_half]
  push_cast
  ring

theorem cast_high : ((2 * s + twos (f.slack s) : Nat) : ℚ) = 2 * (s + f.half s) := by
  rw [mul_add, two_mul_half]
  push_cast
  ring

/-- What the neighbourhood of a number holds lies near it. -/
theorem near_of_holds (hfits : f.Fits s) (hinner : f.Inner s) (hs : 0 < s)
    (h : (f.neighbourhood s).holds f d e = true) : f.Near s (d * 10 ^ e * 2 ^ f.scale) := by
  rw [neighbourhood_of_inner hinner, holds_iff] at h
  dsimp only at h
  rw [cast_low hfits hs, cast_high] at h
  split at h
  · rename_i heven
    exact ⟨by linarith [h.1], by linarith [h.2], fun _ => of_decide_eq_true heven⟩
  · refine ⟨by linarith [h.1], by linarith [h.2], ?_⟩
    rintro (htie | htie) <;> linarith [h.1, h.2]

/-- What lies nearer to a number than halfway to the next one is held by its neighbourhood. -/
theorem holds_of_close (hfits : f.Fits s) (hinner : f.Inner s) (hs : 0 < s)
    (h : |(d * 10 ^ e * 2 ^ f.scale : ℚ) - s| < f.half s) :
    (f.neighbourhood s).holds f d e = true := by
  obtain ⟨hlow, hhigh⟩ := abs_sub_lt_iff.mp h
  rw [neighbourhood_of_inner hinner, holds_iff]
  dsimp only
  rw [cast_low hfits hs, cast_high]
  split
  · exact ⟨by linarith, by linarith⟩
  · exact ⟨by linarith, by linarith⟩

/-! ## Grids -/

/-- The two points of a grid around a quotient. -/
theorem grid_spec {num den : Nat} (hden : 0 < den) (e : Int) {a b : Nat}
    (h : grid num den e = (a, b)) :
    (a : ℚ) ≤ num / den / 10 ^ e ∧ (num / den / 10 ^ e : ℚ) < a + 1 ∧
      (num / den / 10 ^ e : ℚ) ≤ b ∧ (b : ℚ) - 1 < num / den / 10 ^ e ∧ b ≤ a + 1 := by
  have hpos : 0 < den * tens e.toNat := Nat.mul_pos hden (tens_pos _)
  have hposq : (0 : ℚ) < (den * tens e.toNat : Nat) := by exact_mod_cast hpos
  have hvalue : (num / den / 10 ^ e : ℚ) =
      (num * tens (-e).toNat : Nat) / (den * tens e.toNat : Nat) := by
    rw [zpow_eq_tens]
    push_cast
    field_simp
  rw [hvalue]
  unfold grid at h
  generalize num * tens (-e).toNat = n at *
  generalize den * tens e.toNat = m at *
  cases h
  have hdm := Nat.div_add_mod n m
  have hlt := Nat.mod_lt n hpos
  have hceil := Nat.div_add_mod (n + m - 1) m
  have hceillt := Nat.mod_lt (n + m - 1) hpos
  refine ⟨?_, ?_, ?_, ?_, ?_⟩
  · rw [le_div_iff₀ hposq]
    norm_cast
    rw [Nat.mul_comm]
    omega
  · rw [div_lt_iff₀ hposq]
    norm_cast
    rw [Nat.mul_comm, Nat.mul_add]
    omega
  · rw [div_le_iff₀ hposq]
    norm_cast
    rw [Nat.mul_comm]
    omega
  · rw [lt_div_iff₀ hposq, sub_mul, one_mul, sub_lt_iff_lt_add]
    norm_cast
    rw [Nat.mul_comm]
    omega
  · have hle : n + m - 1 ≤ n + m := by omega
    calc (n + m - 1) / m ≤ (n + m) / m := Nat.div_le_div_right hle
      _ = n / m + 1 := Nat.add_div_right n hpos

/-- The chosen point lies within half a step of the grid. -/
theorem nearer_spec {num den : Nat} (hden : 0 < den) (e : Int) {a b : Nat}
    (h : grid num den e = (a, b)) :
    |(nearer num den e a b : ℚ) - num / den / 10 ^ e| ≤ 1 / 2 := by
  obtain ⟨ha, -, hb, -, hstep⟩ := grid_spec hden e h
  have hstepq : (b : ℚ) ≤ a + 1 := by exact_mod_cast hstep
  have hpos : (0 : ℚ) < den * tens e.toNat := by exact_mod_cast Nat.mul_pos hden (tens_pos _)
  have htwice : 2 * (num / den / 10 ^ e : ℚ) =
      (2 * num * tens (-e).toNat : Nat) / (den * tens e.toNat) := by
    rw [zpow_eq_tens]
    push_cast
    field_simp
  have hmiddle : (a + b : ℚ) = ((a + b) * den * tens e.toNat : Nat) / (den * tens e.toNat) := by
    push_cast
    field_simp
  unfold nearer
  dsimp only
  split
  · rename_i hlt
    have hlt : 2 * (num / den / 10 ^ e : ℚ) < a + b := by
      rw [htwice, hmiddle]
      exact div_lt_div_of_pos_right (by exact_mod_cast hlt) hpos
    rw [abs_sub_le_iff]
    constructor <;> linarith
  split
  · rename_i hgt
    have hgt : (a + b : ℚ) < 2 * (num / den / 10 ^ e) := by
      rw [htwice, hmiddle]
      exact div_lt_div_of_pos_right (by exact_mod_cast hgt) hpos
    rw [abs_sub_le_iff]
    constructor <;> linarith
  · rename_i hge hle
    have heq : 2 * (num / den / 10 ^ e : ℚ) = a + b := by
      rw [htwice, hmiddle]
      congr 2
      omega
    split <;> rw [abs_sub_le_iff] <;> constructor <;> linarith

/-- How far a point of a grid lies from a number, in steps and in steps of the grid. -/
theorem point_sub (f : BinaryFormat) (s d : Nat) (e : Int) :
    (d * 10 ^ e * 2 ^ f.scale - s : ℚ) =
      (d - s / 2 ^ f.scale / 10 ^ e) * (10 ^ e * 2 ^ f.scale) := by
  field_simp

/-- The decimal number that is chosen on a grid lies near the number that it names, and no other
point of the grid lies nearer to that. -/
theorem near_of_named? (hfits : f.Fits s) (hinner : f.Inner s) (hs : 0 < s) {x : Decimal}
    (h : f.named? s e = some x) :
    x.exponent = e ∧ f.Near s (x.value * 2 ^ f.scale) ∧
      |(x.digits : ℚ) - s / 2 ^ f.scale / 10 ^ e| ≤ 1 / 2 := by
  obtain ⟨a, b, hgrid⟩ : ∃ a b, grid s (twos f.scale) e = (a, b) := ⟨_, _, rfl⟩
  obtain ⟨ha, -, hb, -, hstep⟩ := grid_spec (twos_pos _) e hgrid
  have hnearer := nearer_spec (twos_pos f.scale) e hgrid
  rw [cast_twos] at ha hb hnearer
  have hstepq : (b : ℚ) ≤ a + 1 := by exact_mod_cast hstep
  have hwidth : (0 : ℚ) < 10 ^ e * 2 ^ f.scale := by positivity
  have hsub (d : Nat) := point_sub f s d e
  have hfar (d : Nat) (hd : (f.neighbourhood s).holds f d e = false) :
      f.half s ≤ |(d - s / 2 ^ f.scale / 10 ^ e : ℚ)| * (10 ^ e * 2 ^ f.scale) := by
    by_contra hclose
    rw [← abs_of_pos hwidth, ← abs_mul, ← hsub d] at hclose
    rw [holds_of_close hfits hinner hs (not_le.mp hclose)] at hd
    cases hd
  unfold named? at h
  rw [hgrid] at h
  dsimp only at h
  have hsuba := hsub a
  have hsubb := hsub b
  generalize (s / 2 ^ f.scale / 10 ^ e : ℚ) = q at *
  generalize (10 ^ e * 2 ^ f.scale : ℚ) = g at *
  -- of two points only one of which is held, that one is not the farther one
  cases hholda : (f.neighbourhood s).holds f a e <;>
    cases hholdb : (f.neighbourhood s).holds f b e <;> rw [hholda, hholdb] at h <;> cases h
  · have hnear := near_of_holds hfits hinner hs hholdb
    have hfara := hfar a hholda
    rw [abs_sub_comm, abs_of_nonneg (by linarith)] at hfara
    have hle : (b - q) * g ≤ (q - a) * g := by linarith [hnear.high]
    have hless := le_of_mul_le_mul_right hle hwidth
    refine ⟨rfl, hnear, ?_⟩
    rw [abs_sub_le_iff]
    constructor <;> linarith
  · have hnear := near_of_holds hfits hinner hs hholda
    have hfarb := hfar b hholdb
    rw [abs_of_nonneg (by linarith)] at hfarb
    have hle : (q - a) * g ≤ (b - q) * g := by linarith [hnear.low]
    have hless := le_of_mul_le_mul_right hle hwidth
    refine ⟨rfl, hnear, ?_⟩
    rw [abs_sub_le_iff]
    constructor <;> linarith
  · have hchosen : nearer s (twos f.scale) e a b = a ∨ nearer s (twos f.scale) e a b = b := by
      unfold nearer
      dsimp only
      split_ifs <;> simp
    refine ⟨rfl, ?_, hnearer⟩
    rcases hchosen with hchosen | hchosen <;> unfold Decimal.value <;> rw [hchosen]
    · exact near_of_holds hfits hinner hs hholda
    · exact near_of_holds hfits hinner hs hholdb

/-- On a grid that is finer than half of a unit there is a decimal number with the right name. -/
theorem isSome_named? (hfits : f.Fits s) (hinner : f.Inner s) (hs : 0 < s)
    (hfine : (10 ^ e * 2 ^ f.scale : ℚ) ≤ f.half s) : (f.named? s e).isSome := by
  obtain ⟨a, b, hgrid⟩ : ∃ a b, grid s (twos f.scale) e = (a, b) := ⟨_, _, rfl⟩
  obtain ⟨ha, hnext, -, -, -⟩ := grid_spec (twos_pos _) e hgrid
  rw [cast_twos] at ha hnext
  have hwidth : (0 : ℚ) < 10 ^ e * 2 ^ f.scale := by positivity
  have hclose : |(a * 10 ^ e * 2 ^ f.scale : ℚ) - s| < f.half s := by
    refine lt_of_lt_of_le ?_ hfine
    rw [point_sub, abs_mul, abs_of_pos hwidth, abs_sub_comm, abs_of_nonneg (by linarith)]
    exact mul_lt_of_lt_one_left hwidth (by linarith)
  have hholds := holds_of_close hfits hinner hs hclose
  unfold named?
  rw [hgrid]
  dsimp only
  rw [hholds]
  cases (f.neighbourhood s).holds f b e <;> rfl

/-! ## The first digit -/

/-- The length of a whole number in digits. -/
theorem length_ofNat {n : Nat} (hn : 0 < n) :
    ∃ k, (Text.ofNat n).length = k + 1 ∧ 10 ^ k ≤ n ∧ n < 10 ^ (k + 1) := by
  have hpos : 0 < (Text.ofNat n).length := Nat.length_toDigits_pos
  obtain ⟨k, hk⟩ : ∃ k, (Text.ofNat n).length = k + 1 := ⟨_, (Nat.succ_pred_eq_of_pos hpos).symm⟩
  refine ⟨k, hk, ?_, ?_⟩
  · rcases Nat.eq_zero_or_pos k with rfl | hkpos
    · exact hn
    · by_contra hlt
      have hle := (Nat.length_toDigits_le_iff (by decide) hkpos).mpr (Nat.lt_of_not_le hlt)
      rw [Text.ofNat] at hk
      omega
  · exact (Nat.length_toDigits_le_iff (by decide) (by omega)).mp (Nat.le_of_eq hk)

theorem leadExponent_spec {num den : Nat} (hnum : 0 < num) (hden : 0 < den) :
    (10 : ℚ) ^ leadExponent num den ≤ num / den ∧
      (num / den : ℚ) < 10 ^ (leadExponent num den + 1) := by
  have hnumq : (0 : ℚ) < num := by exact_mod_cast hnum
  have hdenq : (0 : ℚ) < den := by exact_mod_cast hden
  unfold leadExponent
  split
  · rename_i hle
    obtain ⟨k, hk, hlow, hhigh⟩ := length_ofNat (Nat.div_pos hle hden)
    have hexponent : ((Text.ofNat (num / den)).length : Int) - 1 = k := by omega
    have hlow := (Nat.le_div_iff_mul_le hden).mp hlow
    have hhigh := (Nat.div_lt_iff_lt_mul hden).mp hhigh
    rw [hexponent, le_div_iff₀ hdenq, div_lt_iff₀ hdenq]
    exact ⟨by exact_mod_cast hlow, by exact_mod_cast hhigh⟩
  · rename_i hlt
    have hceil := Nat.div_add_mod (den + num - 1) num
    have hmod := Nat.mod_lt (den + num - 1) hnum
    have htwo : 2 ≤ (den + num - 1) / num := (Nat.le_div_iff_mul_le hnum).mpr (by omega)
    obtain ⟨c, hc⟩ : ∃ c, (den + num - 1) / num = c + 2 := ⟨_, (Nat.sub_add_cancel htwo).symm⟩
    obtain ⟨k, hk, hlow, hhigh⟩ := length_ofNat (Nat.succ_pos c)
    have hexponent : -((Text.ofNat (c + 2 - 1)).length : Int) = -((k + 1 : Nat) : Int) := by
      rw [← hk]
      rfl
    rw [hc, Nat.mul_add] at hceil
    rw [hc, hexponent, le_div_iff₀ hdenq, div_lt_iff₀ hdenq]
    constructor
    · have hle : den ≤ num * 10 ^ (k + 1) := by
        have := Nat.mul_le_mul_left num (Nat.succ_le_of_lt hhigh)
        rw [Nat.mul_succ, Nat.mul_succ] at this
        omega
      rw [zpow_neg, zpow_natCast, inv_mul_le_iff₀ (by positivity), mul_comm]
      exact_mod_cast hle
    · have hlt : num * 10 ^ k < den := by
        have := Nat.mul_le_mul_left num hlow
        rw [Nat.mul_succ] at this
        omega
      have hsucc : -((k + 1 : Nat) : Int) + 1 = -(k : Int) := by omega
      rw [hsucc, zpow_neg, zpow_natCast, lt_inv_mul_iff₀ (by positivity), mul_comm]
      exact_mod_cast hlt

/-! ## Single precision -/

@[simp]
theorem single_scale : single.scale = 149 := rfl

/-- What is known of the decimal number under which a number of single precision is written down. -/
structure Names (x : Decimal) (s : Nat) : Prop where
  near : single.Near s (x.value * 2 ^ 149)
  close : |x.value * 2 ^ 149 - s| ≤ 10 ^ x.exponent * 2 ^ 149 / 2
  positive : 0 < x.digits
  short : x.digits ≤ 10 ^ 9

/-- The ninth digit is finer than half of a unit. -/
theorem ninth_digit_is_fine (hs : 0 < s) :
    (10 ^ (leadExponent s (twos 149) - 8) * 2 ^ 149 : ℚ) ≤ single.half s := by
  have hlead := (leadExponent_spec hs (twos_pos 149)).1
  have hsmall : (s : ℚ) < 2 ^ single.slack s * 2 ^ 24 := by
    rw [← pow_add]
    exact_mod_cast single.lt_of_slack s
  rw [cast_twos, le_div_iff₀ (by positivity)] at hlead
  rw [zpow_sub₀ (by norm_num), half]
  have hscaled : (10 ^ leadExponent s (twos 149) / 10 ^ (8 : Int) * 2 ^ 149 : ℚ) =
      10 ^ leadExponent s (twos 149) * 2 ^ 149 / 10 ^ 8 := by
    norm_cast
    ring
  rw [hscaled, div_le_div_iff₀ (by positivity) (by positivity)]
  have hunit : (0 : ℚ) < 2 ^ single.slack s := by positivity
  norm_num at hsmall ⊢
  linarith

/-- At most nine digits name a number of single precision. -/
theorem exists_shortest (hfits : single.Fits s) (hinner : single.Inner s) (hs : 0 < s) :
    ∃ n ≤ 8, single.named? s (leadExponent s (twos 149) - (n : Nat)) =
      some (single.shortest s) := by
  have hninth : (single.named? s (leadExponent s (twos 149) - (8 : Nat))).isSome :=
    isSome_named? hfits hinner hs (ninth_digit_is_fine hs)
  have hsplit : List.range single.precision =
      List.range 9 ++ [9, 10, 11, 12, 13, 14, 15, 16, 17, 18, 19, 20, 21, 22, 23] := rfl
  have hfirst : ((List.range 9).findSome? fun n =>
      single.named? s (leadExponent s (twos 149) - Int.ofNat n)).isSome := by
    rw [List.findSome?_isSome_iff]
    exact ⟨8, by simp, hninth⟩
  obtain ⟨x, hx⟩ := Option.isSome_iff_exists.mp hfirst
  have hshortest : single.shortest s = x := by
    unfold shortest
    rw [if_neg (Nat.pos_iff_ne_zero.mp hs), hsplit]
    dsimp only
    rw [List.findSome?_map, List.findSome?_append]
    show ((List.findSome? (fun n =>
      single.named? s (leadExponent s (twos 149) - Int.ofNat n)) (List.range 9)).or _).getD _ = _
    rw [hx]
    rfl
  obtain ⟨n, hn, hnamed⟩ := List.exists_of_findSome?_eq_some hx
  exact ⟨n, Nat.le_of_lt_succ (List.mem_range.mp hn), by rw [hshortest]; exact hnamed⟩

theorem names_shortest (hfits : single.Fits s) (hinner : single.Inner s) (hs : 0 < s) :
    Names (single.shortest s) s := by
  obtain ⟨n, hn, hnamed⟩ := exists_shortest hfits hinner hs
  obtain ⟨hexponent, hnear, hclose⟩ := near_of_named? hfits hinner hs hnamed
  obtain ⟨hlow, hhigh⟩ := leadExponent_spec hs (twos_pos 149)
  rw [cast_twos] at hlow hhigh
  have hsub := point_sub single s (single.shortest s).digits (single.shortest s).exponent
  generalize single.shortest s = x at *
  generalize leadExponent s (twos 149) = lead at *
  rw [← hexponent] at hclose
  rw [single_scale] at hnear hclose hsub
  -- the number has `n + 1` digits in front of the point of the grid
  have hleast : (10 : ℚ) ^ n ≤ s / 2 ^ 149 / 10 ^ x.exponent := by
    rw [le_div_iff₀ (by positivity), ← zpow_natCast, ← zpow_add₀ (by norm_num), hexponent,
      add_sub_cancel]
    exact hlow
  have hgreatest : (s / 2 ^ 149 / 10 ^ x.exponent : ℚ) < 10 ^ (n + 1) := by
    have hsum : ((n + 1 : Nat) : Int) + (lead - n) = lead + 1 := by omega
    rw [div_lt_iff₀ (by positivity), ← zpow_natCast 10 (n + 1), ← zpow_add₀ (by norm_num),
      hexponent, hsum]
    exact hhigh
  have hone : (1 : ℚ) ≤ 10 ^ n := one_le_pow₀ (by norm_num)
  have hnine : (10 : ℚ) ^ (n + 1) ≤ 10 ^ 9 := pow_le_pow_right₀ (by norm_num) (by omega)
  obtain ⟨hupper, hlower⟩ := abs_sub_le_iff.mp hclose
  refine ⟨hnear, ?_, ?_, ?_⟩
  · have hwidth : (0 : ℚ) < 10 ^ x.exponent * 2 ^ 149 := by positivity
    have hle := mul_le_mul_of_nonneg_right hclose hwidth.le
    unfold Decimal.value
    rw [hsub, abs_mul, abs_of_pos hwidth]
    linarith
  · have hpos : (0 : ℚ) < x.digits := by linarith
    exact_mod_cast hpos
  · have hlt : (x.digits : ℚ) < 10 ^ 9 + 1 := by linarith
    exact Nat.le_of_lt_succ (by exact_mod_cast hlt)

end BinaryFormat

end CueStream
