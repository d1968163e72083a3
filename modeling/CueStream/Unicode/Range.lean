-- Classes of characters are given by spans of code points. This file says
-- what it means for a character to lie in one of them.
namespace CueStream.Unicode

/-- The character lies in one of the spans. Both ends belong to a span. -/
def within (spans : List (Nat × Nat)) (c : Char) : Bool :=
  spans.any fun s => s.1 ≤ c.toNat && c.toNat ≤ s.2

theorem within_eq_true_iff (spans : List (Nat × Nat)) (c : Char) :
    within spans c = true ↔ ∃ s ∈ spans, s.1 ≤ c.toNat ∧ c.toNat ≤ s.2 := by
  simp [within]

end CueStream.Unicode
