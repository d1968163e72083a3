-- Numbers of a fixed binary precision. Such a number is a whole count of the
-- smallest step of its format, so all arithmetic here is on natural numbers:
-- an exact quotient is rounded to the nearest count that the format can hold.
namespace CueStream

/-- A power of two. -/
def twos (k : Nat) : Nat := Nat.pow 2 k

/-- A power of ten. -/
def tens (k : Nat) : Nat := Nat.pow 10 k

/-- The quotient rounded to the nearest whole number. Halfway it goes to the even one. -/
def roundQuotient (num den : Nat) : Nat :=
  let q := num / den
  let r := num % den
  if 2 * r < den then q
  else if den < 2 * r then q + 1
  else q + q % 2

/-- The rounded quotient lies within half a unit of the exact one. -/
theorem roundQuotient_near (num : Nat) {den : Nat} (h : 0 < den) :
    2 * num ≤ 2 * (den * roundQuotient num den) + den ∧
      2 * (den * roundQuotient num den) ≤ 2 * num + den := by
  have hdm := Nat.div_add_mod num den
  have hlt := Nat.mod_lt num h
  simp only [roundQuotient]
  split
  · omega
  · split
    · rw [Nat.mul_add]
      omega
    · have : num / den % 2 = 0 ∨ num / den % 2 = 1 := by omega
      rcases this with e | e <;> rw [e, Nat.mul_add] <;> omega

/-- A binary format. -/
structure BinaryFormat where
  /-- The number of significant bits. -/
  precision : Nat
  /-- The smallest step is `2 ^ -scale`. -/
  scale : Nat
  /-- From `2 ^ limit` on a number is too large. -/
  limit : Nat

namespace BinaryFormat

/-- Single precision. -/
def single : BinaryFormat := ⟨24, 149, 128⟩

/-- Double precision. -/
def double : BinaryFormat := ⟨53, 1074, 1024⟩

/-- The number of low bits that a count of steps has to leave zero, so that not more than
`precision` bits are significant. -/
def slack (f : BinaryFormat) (steps : Nat) : Nat :=
  if steps = 0 then 0 else steps.log2 + 1 - f.precision

/-- The steps of the number nearest to `num / den`. There are none if that is too large. -/
def round? (f : BinaryFormat) (num den : Nat) : Option Nat :=
  let exact := num * twos f.scale
  let unit := twos (f.slack (exact / den))
  let steps := roundQuotient exact (den * unit) * unit
  if steps < twos (f.scale + f.limit) then some steps else none

/-- The nearest number to a natural number. -/
def ofNat? (f : BinaryFormat) (n : Nat) : Option Nat :=
  f.round? n 1

/-- The product of two numbers, rounded. -/
def mul? (f : BinaryFormat) (a b : Nat) : Option Nat :=
  f.round? (a * b) (twos (2 * f.scale))

/-- The quotient of two numbers, rounded. -/
def div? (f : BinaryFormat) (a b : Nat) : Option Nat :=
  f.round? a b

end BinaryFormat

end CueStream
