-- Sending a request again when the server could not be reached or could not
-- answer. The delay doubles each time, up to the longest one allowed, but the
-- server may ask for another one.
import CueStream.Http.Response

namespace CueStream.Http

/-- How often a request is sent again, and how long to wait before. Times are in milliseconds. -/
structure RetryPolicy where
  maxRetries : Nat := 2
  initialDelay : Nat := 1000
  maxDelay : Nat := 60000
  deriving DecidableEq, Repr

/-- One attempt has to do. -/
def RetryPolicy.none : RetryPolicy := { maxRetries := 0 }

/-- What came of all attempts. -/
structure Attempts where
  count : Nat
  /-- The delays between them. -/
  delays : List Nat
  /-- The last outcome. -/
  outcome : Outcome
  deriving DecidableEq, Repr

namespace Attempts

/-- What is said if the last attempt had no answer. -/
def exhausted (count : Nat) (cause : Text) : Text :=
  "Network request failed after ".toList ++ Text.ofNat count ++ " attempts: ".toList ++ cause

/-- The last response, or why there is none. -/
def result (a : Attempts) : Except Text Response :=
  match a.outcome with
  | .response r => .ok r
  | .failure cause => .error (exhausted a.count cause)

end Attempts

/-- The delay after an outcome, if it is worth another attempt. `delay` is the current one. -/
def RetryPolicy.delayAfter? (p : RetryPolicy) (delay : Nat) : Outcome → Option Nat
  | .response r =>
    if isTransient r.status then
      some (min ((r.retryAfter?.map (· * 1000)).getD delay) p.maxDelay)
    else .none
  | .failure _ => some delay

/-- Attempts from number `count + 1` on, with `left` retries to go. -/
def attemptsFrom (p : RetryPolicy) (outcomes : Nat → Outcome) :
    (left count delay : Nat) → Attempts
  | 0, count, _ => ⟨count + 1, [], outcomes count⟩
  | left + 1, count, delay =>
    match p.delayAfter? delay (outcomes count) with
    | none => ⟨count + 1, [], outcomes count⟩
    | some slept =>
      let rest := attemptsFrom p outcomes left (count + 1) (min (delay * 2) p.maxDelay)
      { rest with delays := slept :: rest.delays }

/-- There is a delay between any two attempts, and nowhere else. -/
theorem length_delays_attemptsFrom (p : RetryPolicy) (outcomes : Nat → Outcome)
    (left count delay : Nat) :
    (attemptsFrom p outcomes left count delay).delays.length + count + 1 =
      (attemptsFrom p outcomes left count delay).count := by
  induction left generalizing count delay with
  | zero => simp [attemptsFrom]
  | succ left ih =>
    simp only [attemptsFrom]
    split
    · simp
    · rename_i slept _
      have := ih (count + 1) (min (delay * 2) p.maxDelay)
      simp only [List.length_cons]
      omega

/-- Sends a request as often as the policy allows. `outcomes` tells how each attempt ends. -/
def attempts (p : RetryPolicy) (outcomes : Nat → Outcome) : Attempts :=
  attemptsFrom p outcomes p.maxRetries 0 p.initialDelay

end CueStream.Http
