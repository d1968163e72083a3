-- How long is waited between attempts. The delay doubles up to the longest one,
-- or is the one that the server asks for, up to the longest one; but behind a
-- first attempt without an answer it is the initial one, even if that is longer.
-- No time on the way is too long to be counted.
import CueStream.Proofs.Http.Attempts

namespace CueStream.Http

/-! ## Delays that are due -/

/-- The delay that a server asks for which cannot answer now, in milliseconds. -/
def Outcome.asked? : Outcome → Option Nat
  | .response r => if isTransient r.status then r.retryAfter?.map (· * 1000) else none
  | .failure _ => none

def Outcome.isFailure : Outcome → Bool
  | .response _ => false
  | .failure _ => true

namespace RetryPolicy

/-- The delay that is due behind attempt number `i + 1`: the one that is asked for, or else the
initial one doubled `i` times, but never more than the longest one. -/
def due (p : RetryPolicy) (i : Nat) (o : Outcome) : Nat :=
  min p.maxDelay (o.asked?.getD (p.initialDelay * 2 ^ i))

/-- The delay behind attempt number `i + 1`. If the first attempt has no answer, the initial delay
is not cut down. -/
def slept (p : RetryPolicy) (i : Nat) (o : Outcome) : Nat :=
  if i = 0 ∧ o.isFailure = true then p.initialDelay else p.due i o

/-- The initial delay is longer than the longest one, and comes behind a first attempt without an
answer. -/
def Oversleeps (p : RetryPolicy) (outcomes : Nat → Outcome) : Prop :=
  p.maxDelay < p.initialDelay ∧ 0 < p.maxRetries ∧ (outcomes 0).isFailure = true

/-- Only where nothing cuts the initial delay down can it be too long. -/
theorem slept_le_iff {p : RetryPolicy} {i : Nat} {o : Outcome} :
    p.slept i o ≤ p.maxDelay ↔ ¬ (i = 0 ∧ o.isFailure = true ∧ p.maxDelay < p.initialDelay) := by
  unfold slept
  split
  · rename_i h
    simp [h]
  · rename_i h
    have hdue : p.due i o ≤ p.maxDelay := Nat.min_le_left _ _
    exact iff_of_true hdue fun hfirst => h ⟨hfirst.1, hfirst.2.1⟩

/-- A delay that is not too long is the one that is due. -/
theorem slept_eq_due_iff {p : RetryPolicy} {i : Nat} {o : Outcome} :
    p.slept i o = p.due i o ↔ p.slept i o ≤ p.maxDelay := by
  constructor
  · intro h
    rw [h]
    exact Nat.min_le_left _ _
  · intro h
    unfold slept at h ⊢
    split
    · rename_i hfirst
      obtain ⟨rfl, hfailure⟩ := hfirst
      cases o with
      | response r => cases hfailure
      | failure cause =>
        rw [if_pos ⟨rfl, rfl⟩] at h
        show _ = min p.maxDelay (p.initialDelay * 2 ^ 0)
        rw [pow_zero, Nat.mul_one, Nat.min_eq_right h]
    · rfl

/-! ## Doubling -/

/-- The delay that stands ready behind attempt number `i + 1`. -/
def ready (p : RetryPolicy) : Nat → Nat
  | 0 => p.initialDelay
  | i + 1 => min (p.ready i * 2) p.maxDelay

theorem min_ready (p : RetryPolicy) (i : Nat) :
    min (p.ready i) p.maxDelay = min p.maxDelay (p.initialDelay * 2 ^ i) := by
  induction i with
  | zero => rw [ready, pow_zero, Nat.mul_one, Nat.min_comm]
  | succ i ih =>
    have hdouble : p.initialDelay * 2 ^ (i + 1) = p.initialDelay * 2 ^ i * 2 := by
      rw [pow_succ, Nat.mul_assoc]
    rw [ready, hdouble]
    omega

/-- The delay that an attempt leaves behind it, if the doubled one stands ready. -/
theorem eq_slept_of_delayAfter? {p : RetryPolicy} {i d : Nat} {o : Outcome}
    (h : p.delayAfter? (p.ready i) o = some d) : d = p.slept i o := by
  cases o with
  | response r =>
    obtain ⟨htransient, hd⟩ := Option.ite_none_right_eq_some.mp h
    rw [slept, if_neg (by rintro ⟨-, ⟨⟩⟩), due, Outcome.asked?, if_pos htransient]
    rw [← Option.some_inj.mp hd]
    cases r.retryAfter? with
    | none => exact p.min_ready i
    | some seconds => exact Nat.min_comm _ _
  | failure cause =>
    cases h
    cases i with
    | zero => rfl
    | succ i =>
      rw [slept, if_neg (by rintro ⟨⟨⟩, -⟩)]
      show _ = min p.maxDelay (p.initialDelay * 2 ^ (i + 1))
      rw [← min_ready, ready]
      omega

end RetryPolicy

variable {p : RetryPolicy} {outcomes : Nat → Outcome}

theorem delays_attemptsFrom (p : RetryPolicy) (outcomes : Nat → Outcome) (left count : Nat) :
    let delays := (attemptsFrom p outcomes left count (p.ready count)).delays
    delays = (List.range' count delays.length).map fun i => p.slept i (outcomes i) := by
  induction left generalizing count with
  | zero => rfl
  | succ left ih =>
    cases hdelay : p.delayAfter? (p.ready count) (outcomes count) with
    | none =>
      rw [attemptsFrom_of_settles (delayAfter?_eq_none_iff.mp hdelay)]
      rfl
    | some d =>
      rw [attemptsFrom_of_slept hdelay]
      dsimp only
      rw [List.length_cons, List.range'_succ, List.map_cons,
        RetryPolicy.eq_slept_of_delayAfter? hdelay]
      exact congrArg _ (ih (count + 1))

theorem delays_attempts (p : RetryPolicy) (outcomes : Nat → Outcome) :
    (attempts p outcomes).delays =
      (List.range ((attempts p outcomes).count - 1)).map fun i => p.slept i (outcomes i) := by
  have hlength : (attempts p outcomes).delays.length + 0 + 1 = (attempts p outcomes).count :=
    length_delays_attemptsFrom p outcomes p.maxRetries 0 p.initialDelay
  rw [← hlength, Nat.add_sub_cancel, Nat.add_zero, List.range_eq_range']
  exact delays_attemptsFrom p outcomes p.maxRetries 0

/-- There is a second attempt exactly if retries are allowed and the first one does not settle the
request. -/
theorem retried_iff :
    0 < (attempts p outcomes).count - 1 ↔ 0 < p.maxRetries ∧ ¬ (outcomes 0).Settles := by
  unfold attempts
  cases p.maxRetries with
  | zero => simp [attemptsFrom]
  | succ left =>
    have hsettles : p.delayAfter? p.initialDelay (outcomes 0) = none ↔ (outcomes 0).Settles :=
      delayAfter?_eq_none_iff
    rw [← hsettles]
    cases hdelay : p.delayAfter? p.initialDelay (outcomes 0) with
    | none => simp [attemptsFrom_of_settles (delayAfter?_eq_none_iff.mp hdelay)]
    | some d =>
      have := length_delays_attemptsFrom p outcomes left (0 + 1) (min (p.initialDelay * 2) p.maxDelay)
      rw [attemptsFrom_of_slept hdelay]
      simp only [Nat.zero_lt_succ, reduceCtorEq, not_false_eq_true, and_self, iff_true]
      omega

theorem Outcome.not_settles_of_isFailure {o : Outcome} (h : o.isFailure = true) : ¬ o.Settles := by
  cases o with
  | response r => cases h
  | failure cause => exact not_false

/-- No delay is too long unless the first one is. -/
theorem forall_slept_le_iff (p : RetryPolicy) (outcomes : Nat → Outcome) :
    (∀ i < (attempts p outcomes).count - 1, p.slept i (outcomes i) ≤ p.maxDelay) ↔
      ¬ p.Oversleeps outcomes := by
  constructor
  · rintro h ⟨hlong, hretries, hfailure⟩
    have hfirst := h 0 (retried_iff.mpr ⟨hretries, Outcome.not_settles_of_isFailure hfailure⟩)
    exact RetryPolicy.slept_le_iff.mp hfirst ⟨rfl, hfailure, hlong⟩
  · intro h i hi
    refine RetryPolicy.slept_le_iff.mpr ?_
    rintro ⟨rfl, hfailure, hlong⟩
    exact h ⟨hlong, (retried_iff.mp hi).1, hfailure⟩

/-! ## Times that can be counted -/

/-- The first time that cannot be counted any more, in milliseconds: the seconds have 64 bits. -/
def timeLimit : Nat := UInt64.size * 1000

/-- A time, if it can be counted. -/
def time? (ms : Nat) : Option Nat :=
  if ms < timeLimit then some ms else none

/-- The delay after an outcome, if the outcome is worth another attempt. There is no value at all if
a time cannot be counted. -/
def RetryPolicy.countedDelay? (p : RetryPolicy) (delay : Nat) : Outcome → Option (Option Nat)
  | .response r =>
    if isTransient r.status then
      match r.retryAfter? with
      | some seconds => (time? (seconds * 1000)).map fun asked => some (min asked p.maxDelay)
      | .none => some (some (min delay p.maxDelay))
    else some .none
  | .failure _ => some (some delay)

/-- Attempts with times that have to be counted. There is no value at all if one cannot be. -/
def countedFrom? (p : RetryPolicy) (outcomes : Nat → Outcome) :
    (left count delay : Nat) → Option Attempts
  | 0, count, _ => some ⟨count + 1, [], outcomes count⟩
  | left + 1, count, delay =>
    (p.countedDelay? delay (outcomes count)).bind fun next =>
      match next with
      | none => some ⟨count + 1, [], outcomes count⟩
      | some slept =>
        (time? (delay * 2)).bind fun twice =>
          (countedFrom? p outcomes left (count + 1) (min twice p.maxDelay)).map fun rest =>
            { rest with delays := slept :: rest.delays }

theorem time?_of_lt {ms : Nat} (h : ms < timeLimit) : time? ms = some ms :=
  if_pos h

/-- Whatever number a header holds, so many seconds can be counted. -/
theorem lt_of_retryAfter? {r : Response} {seconds : Nat} (h : r.retryAfter? = some seconds) :
    seconds < UInt64.size := by
  obtain ⟨text, -, hcount⟩ := Option.bind_eq_some_iff.mp h
  obtain ⟨-, hfilter⟩ := Option.ite_none_left_eq_some.mp hcount
  exact of_decide_eq_true (Option.filter_eq_some_iff.mp hfilter).2

theorem countedDelay?_eq (p : RetryPolicy) (delay : Nat) (o : Outcome) :
    p.countedDelay? delay o = some (p.delayAfter? delay o) := by
  cases o with
  | failure cause => rfl
  | response r =>
    unfold RetryPolicy.countedDelay? RetryPolicy.delayAfter?
    dsimp only
    split
    · cases hafter : r.retryAfter? with
      | none => rfl
      | some seconds =>
        have hlt : seconds * 1000 < timeLimit :=
          Nat.mul_lt_mul_of_pos_right (lt_of_retryAfter? hafter) (by decide)
        dsimp only
        rw [time?_of_lt hlt]
        rfl
    · rfl

/-- Twice a delay of 64 bits can be counted, and the delay behind it has 64 bits again. -/
theorem countedFrom?_eq (hmax : p.maxDelay < UInt64.size) (left count : Nat) {delay : Nat}
    (hdelay : delay < UInt64.size) :
    countedFrom? p outcomes left count delay = some (attemptsFrom p outcomes left count delay) := by
  induction left generalizing count delay with
  | zero => rfl
  | succ left ih =>
    rw [countedFrom?, countedDelay?_eq, Option.bind_some, attemptsFrom]
    cases p.delayAfter? delay (outcomes count) with
    | none => rfl
    | some slept =>
      have htwice : delay * 2 < timeLimit := by
        unfold timeLimit
        omega
      dsimp only
      rw [time?_of_lt htwice, Option.bind_some,
        ih (count + 1) (Nat.lt_of_le_of_lt (Nat.min_le_right _ _) hmax)]
      rfl

/-! ## All delays -/

/-- Behind each attempt but the last one comes the delay that is due, with one exception: if the
initial delay is longer than the longest one and the first attempt has no answer, the initial delay
comes as it is. So in this case alone a delay is not the one that is due, and in this case alone one
is longer than the longest. If the two delays of the policy have 64 bits in milliseconds, all times on
the way can be counted, and nothing changes when they have to be. -/
theorem only_a_first_delay_can_be_too_long (p : RetryPolicy) (outcomes : Nat → Outcome) :
    let a := attempts p outcomes
    let retried := List.range (a.count - 1)
    a.delays = (retried.map fun i => p.slept i (outcomes i)) ∧
      (a.delays = (retried.map fun i => p.due i (outcomes i)) ↔ ¬ p.Oversleeps outcomes) ∧
      ((∀ d ∈ a.delays, d ≤ p.maxDelay) ↔ ¬ p.Oversleeps outcomes) ∧
      (p.initialDelay < UInt64.size → p.maxDelay < UInt64.size →
        countedFrom? p outcomes p.maxRetries 0 p.initialDelay = some a) := by
  intro a retried
  have hdelays : a.delays = retried.map fun i => p.slept i (outcomes i) := delays_attempts p outcomes
  have hlong : (∀ i ∈ retried, p.slept i (outcomes i) ≤ p.maxDelay) ↔ ¬ p.Oversleeps outcomes := by
    simp only [retried, List.mem_range]
    exact forall_slept_le_iff p outcomes
  refine ⟨hdelays, ?_, ?_, fun hinitial hmax => countedFrom?_eq hmax _ _ hinitial⟩
  · rw [hdelays, List.map_inj_left, ← hlong]
    simp only [RetryPolicy.slept_eq_due_iff]
  · rw [hdelays, List.forall_mem_map, hlong]

/-- The initial delay is twice the longest one, and the connection is lost. Then the delay that comes
is twice the one that is due. -/
theorem a_lost_connection_is_slept_over_too_long :
    let p : RetryPolicy := { maxRetries := 1, initialDelay := 100, maxDelay := 50 }
    let outcomes : Nat → Outcome := fun _ => .failure "builder error".toList
    let a := attempts p outcomes
    p.initialDelay < UInt64.size ∧ p.maxDelay < UInt64.size ∧ p.Oversleeps outcomes ∧
      a.delays = [100] ∧ p.due 0 (outcomes 0) = 50 ∧ ¬ (∀ d ∈ a.delays, d ≤ p.maxDelay) ∧
      countedFrom? p outcomes p.maxRetries 0 p.initialDelay = some a := by
  intro p outcomes a
  have hinitial : p.initialDelay < UInt64.size := by decide
  have hmax : p.maxDelay < UInt64.size := by decide
  have hover : p.Oversleeps outcomes := ⟨by decide, by decide, rfl⟩
  obtain ⟨-, -, hlong, hcounted⟩ := only_a_first_delay_can_be_too_long p outcomes
  exact ⟨hinitial, hmax, hover, by decide, by decide, fun h => hlong.mp h hover,
    hcounted hinitial hmax⟩

end CueStream.Http
