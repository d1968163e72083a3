-- How many attempts a request takes. The first outcome that settles it is the
-- last one, and so is the one behind the last retry; what comes later is never
-- looked at. What came of the last attempt is what came of the request.
import CueStream.Http.Retry
import Mathlib.Data.ENat.Lattice

namespace CueStream.Http

/-! ## Outcomes that settle a request -/

/-- No other attempt is worth it: there is a response, and its status is neither 429 nor an error
of the server. -/
def Outcome.Settles : Outcome → Prop
  | .response r => r.status ≠ 429 ∧ ¬ (500 ≤ r.status ∧ r.status ≤ 599)
  | .failure _ => False

/-- There is a delay, and another attempt behind it, unless the request is settled. -/
theorem delayAfter?_eq_none_iff {p : RetryPolicy} {delay : Nat} {o : Outcome} :
    p.delayAfter? delay o = none ↔ o.Settles := by
  cases o with
  | response r =>
    unfold RetryPolicy.delayAfter? isTransient Outcome.Settles
    simp
  | failure cause => exact iff_of_false nofun not_false

/-- The number of the first attempt that settles a request, counted from one. It is infinite if
none does. -/
noncomputable def firstSettling (outcomes : Nat → Outcome) : ℕ∞ :=
  ⨅ i : {i : Nat // (outcomes i).Settles}, ((i + 1 : Nat) : ℕ∞)

theorem firstSettling_le {outcomes : Nat → Outcome} {i : Nat} (h : (outcomes i).Settles) :
    firstSettling outcomes ≤ ((i + 1 : Nat) : ℕ∞) :=
  iInf_le (fun i : {i : Nat // (outcomes i).Settles} => ((i + 1 : Nat) : ℕ∞)) ⟨i, h⟩

theorem le_firstSettling {outcomes : Nat → Outcome} {n : Nat}
    (h : ∀ i < n, ¬ (outcomes i).Settles) : ((n + 1 : Nat) : ℕ∞) ≤ firstSettling outcomes := by
  refine le_iInf fun ⟨i, hi⟩ => ?_
  have hle : n ≤ i := by
    by_contra hlt
    exact h i (Nat.lt_of_not_le hlt) hi
  exact Nat.cast_le.mpr (Nat.succ_le_succ hle)

/-! ## The last attempt -/

variable {p : RetryPolicy} {outcomes : Nat → Outcome} {left count delay slept : Nat}

theorem attemptsFrom_of_settles (h : (outcomes count).Settles) :
    attemptsFrom p outcomes (left + 1) count delay = ⟨count + 1, [], outcomes count⟩ := by
  rw [attemptsFrom, delayAfter?_eq_none_iff.mpr h]

theorem attemptsFrom_of_slept (h : p.delayAfter? delay (outcomes count) = some slept) :
    attemptsFrom p outcomes (left + 1) count delay =
      let rest := attemptsFrom p outcomes left (count + 1) (min (delay * 2) p.maxDelay)
      { rest with delays := slept :: rest.delays } := by
  rw [attemptsFrom, h]

/-- The attempts from one number to another came to an end with the attempt behind `last` others:
nothing before settled the request, and nothing more could be tried or had to be. -/
structure EndsBehind (outcomes : Nat → Outcome) (start limit last : Nat) (a : Attempts) : Prop where
  le_last : start ≤ last
  last_le : last ≤ limit
  count : a.count = last + 1
  outcome : a.outcome = outcomes last
  unsettled : ∀ i, start ≤ i → i < last → ¬ (outcomes i).Settles
  ended : last = limit ∨ (outcomes last).Settles

theorem exists_endsBehind (p : RetryPolicy) (outcomes : Nat → Outcome) (left count delay : Nat) :
    ∃ last, EndsBehind outcomes count (count + left) last
      (attemptsFrom p outcomes left count delay) := by
  induction left generalizing count delay with
  | zero =>
    refine ⟨count, le_rfl, le_rfl, rfl, rfl, ?_, .inl rfl⟩
    intro i hle hlt
    exact absurd hle (Nat.not_le.mpr hlt)
  | succ left ih =>
    cases hdelay : p.delayAfter? delay (outcomes count) with
    | none =>
      have hsettles := delayAfter?_eq_none_iff.mp hdelay
      rw [attemptsFrom_of_settles hsettles]
      refine ⟨count, le_rfl, Nat.le_add_right _ _, rfl, rfl, ?_, .inr hsettles⟩
      intro i hle hlt
      exact absurd hle (Nat.not_le.mpr hlt)
    | some slept =>
      rw [attemptsFrom_of_slept hdelay]
      obtain ⟨last, h⟩ := ih (count + 1) (min (delay * 2) p.maxDelay)
      have hlimit : count + 1 + left = count + (left + 1) := by omega
      rw [hlimit] at h
      refine ⟨last, Nat.le_of_succ_le h.le_last, h.last_le, h.count, h.outcome, ?_, h.ended⟩
      intro i hle hlt
      rcases Nat.eq_or_lt_of_le hle with rfl | hgt
      · intro hsettles
        cases (delayAfter?_eq_none_iff.mpr hsettles).symm.trans hdelay
      · exact h.unsettled i hgt hlt

/-- Outcomes behind the last attempt make no difference. -/
theorem attemptsFrom_congr {others : Nat → Outcome}
    (h : ∀ i < (attemptsFrom p outcomes left count delay).count, others i = outcomes i) :
    attemptsFrom p others left count delay = attemptsFrom p outcomes left count delay := by
  have hfirst : others count = outcomes count := by
    have := length_delays_attemptsFrom p outcomes left count delay
    exact h count (by omega)
  induction left generalizing count delay with
  | zero => rw [attemptsFrom, attemptsFrom, hfirst]
  | succ left ih =>
    cases hdelay : p.delayAfter? delay (outcomes count) with
    | none =>
      have hsettles := delayAfter?_eq_none_iff.mp hdelay
      rw [attemptsFrom_of_settles hsettles, attemptsFrom_of_settles (hfirst ▸ hsettles), hfirst]
    | some slept =>
      have hlater : ∀ i < (attemptsFrom p outcomes left (count + 1)
          (min (delay * 2) p.maxDelay)).count, others i = outcomes i := by
        rwa [attemptsFrom_of_slept hdelay] at h
      have := length_delays_attemptsFrom p outcomes left (count + 1) (min (delay * 2) p.maxDelay)
      rw [attemptsFrom_of_slept hdelay, attemptsFrom_of_slept (hfirst ▸ hdelay),
        ih hlater (hlater (count + 1) (by omega))]

/-! ## All attempts -/

/-- The attempts end with the first one that settles the request, or when the retries are used up,
whichever comes first, and there is a delay between each two of them. What they come to is the last
response, whatever its status, or else an error that tells how many they were. What would have come
of further attempts makes no difference. -/
theorem the_first_settling_outcome_ends_the_attempts (p : RetryPolicy) (outcomes : Nat → Outcome) :
    let a := attempts p outcomes
    (a.count : ℕ∞) = min (firstSettling outcomes) ((p.maxRetries : ℕ∞) + 1) ∧
      a.delays.length + 1 = a.count ∧
      a.result = (match outcomes (a.count - 1) with
        | .response r => .ok r
        | .failure cause => .error ("Network request failed after ".toList ++ Text.ofNat a.count ++
            " attempts: ".toList ++ cause)) ∧
      ∀ others : Nat → Outcome, (∀ i < a.count, others i = outcomes i) →
        attempts p others = a := by
  intro a
  obtain ⟨last, h⟩ := exists_endsBehind p outcomes p.maxRetries 0 p.initialDelay
  rw [Nat.zero_add] at h
  have hcount : a.count = last + 1 := h.count
  refine ⟨?_, ?_, ?_, fun others hothers => attemptsFrom_congr hothers⟩
  · have hlimit : ((last + 1 : Nat) : ℕ∞) ≤ (p.maxRetries : ℕ∞) + 1 := by
      exact_mod_cast Nat.succ_le_succ h.last_le
    have hfirst := le_firstSettling fun i hi => h.unsettled i (Nat.zero_le i) hi
    rw [hcount]
    refine le_antisymm (le_min hfirst hlimit) ?_
    rcases h.ended with rfl | hsettles
    · exact (min_le_right _ _).trans (by exact_mod_cast le_rfl)
    · exact (min_le_left _ _).trans (firstSettling_le hsettles)
  · exact length_delays_attemptsFrom p outcomes p.maxRetries 0 p.initialDelay
  · have houtcome : a.outcome = outcomes (a.count - 1) := by
      rw [hcount, Nat.add_sub_cancel]
      exact h.outcome
    rw [Attempts.result, houtcome]
    cases outcomes (a.count - 1) <;> rfl

/-- A connection is lost, then the server has trouble, and then it knows no such page. Nobody asks
for a fourth time, whatever would come of it. -/
theorem a_missing_page_ends_the_attempts :
    let troubles (later : Outcome) : Nat → Outcome
      | 0 => .failure "connection reset".toList
      | 1 => .response { status := 503 }
      | 2 => .response { status := 404 }
      | _ => later
    let outcomes := troubles (.response { status := 200 })
    let others := troubles (.failure "connection refused".toList)
    let a := attempts { maxRetries := 5 } outcomes
    (∀ i < a.count, others i = outcomes i) ∧ a.count = 3 ∧
      a.result = .ok { status := 404 } ∧ attempts { maxRetries := 5 } others = a := by
  intro troubles outcomes others a
  have hcount : (attempts { maxRetries := 5 } outcomes).count = 3 := by decide
  have hothers : ∀ i < a.count, others i = outcomes i := by
    show ∀ i < (attempts { maxRetries := 5 } outcomes).count, _
    rw [hcount]
    decide
  obtain ⟨-, -, hresult, hsame⟩ :=
    the_first_settling_outcome_ends_the_attempts { maxRetries := 5 } outcomes
  rw [hcount] at hresult
  exact ⟨hothers, hcount, hresult, hsame others hothers⟩

end CueStream.Http
