-- A gate against its whole past. It keeps two times only: when the last trigger
-- passed, and until when a clip plays. The second is replaced by an earlier one
-- when it is over. As long as the clock goes forward nothing is lost by that: a
-- trigger passes exactly if everything that was noted since the last reset
-- allows it.
import CueStream.Proofs.Gate.Times
import Mathlib.Data.List.Induction

namespace CueStream.Gate

/-! ## Calls -/

/-- What can be done to a gate. -/
inductive Call where
  /-- A trigger passed. -/
  | opened (now : Millis)
  /-- A trigger passes if the gate allows it. -/
  | tried (now : Millis)
  /-- A clip plays until `stop`. -/
  | busy (now stop : Millis)
  | reset
  deriving DecidableEq, Repr

/-- When a call is made. A reset does not look at the clock. -/
def Call.time? : Call → Option Millis
  | .opened now => some now
  | .tried now => some now
  | .busy now _ => some now
  | .reset => none

/-- The gate after a call. -/
def after (g : Gate) : Call → Gate
  | .opened now => g.opened now
  | .tried now => (g.tryOpen now).1
  | .busy now stop => g.busy now stop
  | .reset => g.reset

/-- A new gate after these calls, the latest last. -/
def ofCalls (window : Millis) (calls : List Call) : Gate :=
  calls.foldl after { window }

/-! ## The past -/

/-- All that was noted since the last reset, the latest first: when a trigger passed, and when a clip
ends. -/
structure Past where
  passed : List Millis := []
  stops : List Millis := []
  deriving DecidableEq, Repr

/-- The window after the latest trigger is over, and so is every clip. -/
def Past.Allows (p : Past) (window now : Millis) : Prop :=
  (∀ last ∈ p.passed.head?, last.toNat + window.toNat ≤ now.toNat) ∧ ∀ stop ∈ p.stops, stop ≤ now

instance (p : Past) (window now : Millis) : Decidable (p.Allows window now) :=
  decidable_of_iff
    ((p.passed.head?.all fun last => last.toNat + window.toNat ≤ now.toNat) = true ∧
      p.stops.all (· ≤ now) = true)
    (and_congr (by cases p.passed.head? <;> simp) (by simp))

/-- The past after a call. A trigger that is tried passes if the past allows it. -/
def Past.after (window : Millis) (p : Past) : Call → Past
  | .opened now => { p with passed := now :: p.passed }
  | .tried now => if p.Allows window now then { p with passed := now :: p.passed } else p
  | .busy _ stop => { p with stops := stop :: p.stops }
  | .reset => {}

/-- What these calls leave behind, the latest last. -/
def Past.ofCalls (window : Millis) (calls : List Call) : Past :=
  calls.foldl (Past.after window) {}

/-! ## What a gate remembers -/

/-- From `now` on the gate is as good as its past. -/
structure Remembers (g : Gate) (p : Past) (now : Millis) : Prop where
  passed : g.openedAt = p.passed.head?
  stops : ∀ later, now ≤ later → (g.idle later = true ↔ ∀ stop ∈ p.stops, stop ≤ later)

namespace Remembers

variable {g : Gate} {p : Past} {now : Millis}

theorem later (h : Remembers g p now) {later : Millis} (hle : now ≤ later) :
    Remembers g p later :=
  ⟨h.passed, fun t ht => h.stops t (UInt64.le_trans hle ht)⟩

theorem allows_iff (h : Remembers g p now) : g.allows now = true ↔ p.Allows g.window now := by
  unfold allows Past.Allows
  rw [Bool.and_eq_true, h.stops now (UInt64.le_refl now), ← h.passed]
  refine and_congr_left fun _ => ?_
  cases hopened : g.openedAt with
  | none => simp [rested, hopened]
  | some last => simpa using rested_iff hopened now

theorem opened (h : Remembers g p now) :
    Remembers (g.opened now) { p with passed := now :: p.passed } now :=
  ⟨rfl, h.stops⟩

theorem busy (h : Remembers g p now) (stop : Millis) :
    Remembers (g.busy now stop) { p with stops := stop :: p.stops } now := by
  refine ⟨h.passed, ?_⟩
  intro later hlater
  rw [idle_busy g hlater, h.stops later hlater, List.forall_mem_cons, and_comm]

theorem fresh (window now : Millis) : Remembers { window } {} now :=
  ⟨rfl, by simp [idle]⟩

/-- Every call that is made now is noted as in the past. -/
theorem after (h : Remembers g p now) {c : Call} (hc : c.time? = none ∨ c.time? = some now) :
    Remembers (g.after c) (p.after g.window c) now := by
  cases c with
  | opened t =>
    obtain rfl : t = now := by simpa [Call.time?] using hc
    exact h.opened
  | tried t =>
    obtain rfl : t = now := by simpa [Call.time?] using hc
    simp only [Gate.after, Past.after, tryOpen, h.allows_iff]
    split
    · exact h.opened
    · exact h
  | busy t stop =>
    obtain rfl : t = now := by simpa [Call.time?] using hc
    exact h.busy stop
  | reset => exact fresh g.window now

end Remembers

theorem window_after (g : Gate) (c : Call) : (g.after c).window = g.window := by
  cases c with
  | tried now => exact window_tryOpen g now
  | _ => rfl

@[simp]
theorem window_ofCalls (window : Millis) (calls : List Call) :
    (ofCalls window calls).window = window := by
  induction calls using List.reverseRecOn with
  | nil => rfl
  | append_singleton calls c ih =>
    unfold ofCalls at ih ⊢
    rw [List.foldl_append, List.foldl_cons, List.foldl_nil, window_after, ih]

/-- A gate remembers what it has to, whatever was called, as long as the clock went forward. -/
theorem remembers_ofCalls (window : Millis) {calls : List Call} {now : Millis}
    (hclock : (calls.filterMap Call.time? ++ [now]).Pairwise (· ≤ ·)) :
    Remembers (ofCalls window calls) (Past.ofCalls window calls) now := by
  induction calls using List.reverseRecOn generalizing now with
  | nil => exact Remembers.fresh window now
  | append_singleton calls c ih =>
    have hstep (t : Millis) (h : Remembers (ofCalls window calls) (Past.ofCalls window calls) t)
        (hc : c.time? = none ∨ c.time? = some t) :
        Remembers (ofCalls window (calls ++ [c])) (Past.ofCalls window (calls ++ [c])) t := by
      have hafter := h.after hc
      rw [window_ofCalls] at hafter
      unfold ofCalls Past.ofCalls at hafter ⊢
      rwa [List.foldl_append, List.foldl_append]
    rw [List.filterMap_append] at hclock
    cases hc : c.time? with
    | none =>
      rw [List.filterMap_cons_none hc, List.filterMap_nil, List.append_nil] at hclock
      exact hstep now (ih hclock) (.inl hc)
    | some t =>
      -- the latest call is made at `t`, and nothing is called from then until `now`
      rw [List.filterMap_cons_some hc, List.filterMap_nil] at hclock
      obtain ⟨hcalls, -, hnow⟩ := List.pairwise_append.mp hclock
      have hle : t ≤ now := hnow t (by simp) now (by simp)
      exact (hstep t (ih hcalls) (.inr hc)).later hle

/-! ## Gate and past -/

/-- A new gate and its past, as the clock goes forward. From the latest call on, the gate lets a
trigger through exactly if the window after the latest trigger since the last reset is over, and every
clip that was announced since then has ended. A trigger that was tried passed in the same way. And no
gate lets a trigger through, because a clip is announced, that it would not have let through before. -/
theorem a_gate_forgets_nothing_that_counts (window : Millis) (calls : List Call)
    (hclock : (calls.filterMap Call.time?).Pairwise (· ≤ ·)) :
    (∀ now, (∀ t ∈ calls.filterMap Call.time?, t ≤ now) →
      ((ofCalls window calls).allows now = true ↔
        (Past.ofCalls window calls).Allows window now)) ∧
      (∀ before now rest, calls = before ++ .tried now :: rest →
        (((ofCalls window before).tryOpen now).2 = true ↔
          (Past.ofCalls window before).Allows window now)) ∧
      ∀ (g : Gate) (now stop later : Millis), now ≤ later →
        g.allows later = false → (g.busy now stop).allows later = false := by
  have hallows {calls : List Call} {now : Millis}
      (h : (calls.filterMap Call.time? ++ [now]).Pairwise (· ≤ ·)) :
      (ofCalls window calls).allows now = true ↔ (Past.ofCalls window calls).Allows window now := by
    have hremembers := (remembers_ofCalls window h).allows_iff
    rwa [window_ofCalls] at hremembers
  refine ⟨?_, ?_, ?_⟩
  · intro now hnow
    apply hallows
    rw [List.pairwise_append]
    exact ⟨hclock, List.pairwise_singleton _ _, by simpa using hnow⟩
  · rintro before now rest rfl
    rw [tryOpen_snd]
    apply hallows
    have htime : (Call.tried now).time? = some now := rfl
    rw [List.filterMap_append, List.filterMap_cons_some htime, List.append_cons] at hclock
    exact (List.pairwise_append.mp hclock).1
  · intro g now stop later hle hclosed
    rw [← Bool.not_eq_true] at hclosed ⊢
    unfold allows at hclosed ⊢
    rw [Bool.and_eq_true] at hclosed ⊢
    rintro ⟨hrested, hidle⟩
    exact hclosed ⟨hrested, ((idle_busy g hle stop).mp hidle).1⟩

/-- Three clips, of which the gate keeps the last one only: the second one ended before the first, which
was over when the third one was announced. The trigger at 3350 does not pass, the one at 3500 does. -/
theorem a_gate_forgets_clips_that_are_over :
    let calls : List Call :=
      [.opened 100, .reset, .busy 200 3200, .busy 300 800, .opened 2000, .busy 3300 3400,
        .tried 3350, .tried 3500]
    let g := ofCalls 1000 calls
    let p := Past.ofCalls 1000 calls
    ((calls.filterMap Call.time?).Pairwise (· ≤ ·) ∧ ∀ t ∈ calls.filterMap Call.time?, t ≤ 4499) ∧
      g = ⟨1000, some 3500, some 3400⟩ ∧ p = ⟨[3500, 2000], [3400, 800, 3200]⟩ ∧
      (g.allows 4499 = true ↔ p.Allows 1000 4499) ∧ g.allows 4499 = false ∧
      (g.allows 4500 = true ↔ p.Allows 1000 4500) ∧ g.allows 4500 = true := by
  intro calls g p
  have hclock : (calls.filterMap Call.time?).Pairwise (· ≤ ·) := by decide
  have hall : (calls.filterMap Call.time?).all (· ≤ 4499) = true := by decide
  have hnow : ∀ t ∈ calls.filterMap Call.time?, t ≤ 4499 := by
    intro t ht
    exact of_decide_eq_true (List.all_eq_true.mp hall t ht)
  obtain ⟨hallows, -, -⟩ := a_gate_forgets_nothing_that_counts 1000 calls hclock
  refine ⟨⟨hclock, hnow⟩, by decide, by decide, hallows 4499 hnow, by decide, ?_, by decide⟩
  exact hallows 4500 fun t ht => UInt64.le_trans (hnow t ht) (by decide)

end CueStream.Gate
