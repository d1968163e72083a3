-- The value of a numeral. An integer of up to 64 bits is kept exactly. Any
-- other numeral is read in double precision: its digits are gathered into a
-- whole number as long as 64 bits hold them, and that number is multiplied
-- or divided by a power of ten, with a rounding at each step.
import CueStream.Number.Single

namespace CueStream

/-- A number of double precision that is not too large, as a count of the smallest step. -/
structure Double where
  negative : Bool
  steps : Nat
  deriving DecidableEq, Repr

namespace Double

/-- The same number in single precision, which may be too small for it. -/
def toSingle (x : Double) : Single :=
  Single.ofQuotient x.negative x.steps (twos BinaryFormat.double.scale)

end Double

namespace Numeral

/-- Digits gathered so far, and the power of ten to multiply them with. -/
structure Gathered where
  whole : Nat
  exponent : Int
  deriving DecidableEq, Repr

/-- Gathers digits while 64 bits hold the number: the number, and the digits left over. -/
def gather (whole : Nat) : Text → Nat × Text
  | [] => (whole, [])
  | c :: rest =>
    let next := whole * 10 + (c.toNat - '0'.toNat)
    if next < UInt64.size then gather next rest else (whole, c :: rest)

/-- The power of ten that is written at the end of the numeral. -/
def writtenExponent (n : Numeral) : Int :=
  match n.exponent with
  | none => 0
  | some (true, digits) => -(Nat.ofDigitChars 10 digits 0)
  | some (false, digits) => Nat.ofDigitChars 10 digits 0

/-- The digits of the numeral. One that is left over in front of the point counts as a place,
one behind the point as nothing. -/
def gathered (n : Numeral) : Gathered :=
  let (whole, left) := gather 0 n.whole
  let (all, lost) := gather whole n.fraction
  ⟨all, left.length - (n.fraction.length - lost.length : Nat) + n.writtenExponent⟩

/-- The integer that the numeral spells, if it has neither point nor power of ten and fits
in 64 bits, with or without a sign. Minus zero is no integer. -/
def int? (n : Numeral) : Option Int :=
  if n.fraction ≠ [] ∨ n.exponent.isSome then none
  else
    let k := Nat.ofDigitChars 10 n.whole 0
    if n.negative then
      if 0 < k ∧ 2 * k ≤ UInt64.size then some (-k) else none
    else if k < UInt64.size then some k else none

/-- The greatest power of ten that is a double is `10 ^ greatestTens`. -/
def greatestTens : Nat := 308

/-- A double divided by a power of ten that is a double itself. -/
def overTens? (steps places : Nat) : Option Nat :=
  (BinaryFormat.double.ofNat? (tens places)).bind (BinaryFormat.double.div? steps)

/-- A double divided by the greatest power of ten `times` times. Zero stays zero. -/
def overGreatestTens? : (times steps : Nat) → Option Nat
  | 0, steps => some steps
  | times + 1, steps =>
    if steps = 0 then some 0 else (overTens? steps greatestTens).bind (overGreatestTens? times)

/-- A double divided by `10 ^ places`. A power of ten that is too large is taken in parts, the
greatest ones first. -/
def overPlaces? (steps places : Nat) : Option Nat :=
  let parts := (places - 1) / greatestTens
  (overGreatestTens? parts steps).bind fun less => overTens? less (places - parts * greatestTens)

/-- A double multiplied by `10 ^ places`, if the product is not too large. -/
def timesPlaces? (steps places : Nat) : Option Nat :=
  if places ≤ greatestTens then
    (BinaryFormat.double.ofNat? (tens places)).bind (BinaryFormat.double.mul? steps)
  else if steps = 0 then some 0
  else none

/-- The value of the numeral in double precision, if it is not too large. -/
def double? (n : Numeral) : Option Double :=
  let g := n.gathered
  let scaled := (BinaryFormat.double.ofNat? g.whole).bind fun steps =>
    if g.exponent < 0 then overPlaces? steps g.exponent.natAbs
    else timesPlaces? steps g.exponent.natAbs
  scaled.map fun steps => ⟨n.negative, steps⟩

/-- The value of the numeral in single precision. An integer is rounded once, any other numeral
first to double precision and then to single. There is none if the double is too large. -/
def single? (n : Numeral) : Option Single :=
  match n.int? with
  | some k => some (Single.ofInt k)
  | none => n.double?.map Double.toSingle

/-- The numeral is an integer or a number that double precision can hold. -/
def isFinite (n : Numeral) : Bool :=
  n.int?.isSome || n.double?.isSome

end Numeral

end CueStream
