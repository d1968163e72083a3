-- The fewest decimal digits that name a number of a binary format: no other
-- number of the format lies as near to what they say.
import CueStream.Number.Rounding
import CueStream.Text.Basic

namespace CueStream

/-- A decimal number `digits * 10 ^ exponent`. -/
structure Decimal where
  digits : Nat
  exponent : Int
  deriving DecidableEq, Repr

namespace BinaryFormat

/-- The numbers around a count of steps that are rounded to it, in half steps. -/
structure Neighbourhood where
  low : Nat
  high : Nat
  /-- The two ends belong to it. -/
  closed : Bool
  deriving DecidableEq, Repr

/-- What is rounded to `steps`: everything up to halfway to the next number on each side. Just
above a power of two the next number below is half as far away. -/
def neighbourhood (f : BinaryFormat) (steps : Nat) : Neighbourhood :=
  let unit := twos (f.slack steps)
  let below := if steps = twos steps.log2 ∧ 1 < unit then unit / 2 else unit
  ⟨2 * steps - below, 2 * steps + unit, steps / unit % 2 = 0⟩

/-- The decimal numbers `d * 10 ^ exponent` around `num / den`: the nearest one below and the
nearest one above. -/
def grid (num den : Nat) (exponent : Int) : Nat × Nat :=
  let n := num * tens (-exponent).toNat
  let d := den * tens exponent.toNat
  (n / d, (n + d - 1) / d)

/-- `d * 10 ^ exponent` is rounded to the number with this neighbourhood. -/
def Neighbourhood.holds (h : Neighbourhood) (f : BinaryFormat) (d : Nat) (exponent : Int) : Bool :=
  let value := d * tens exponent.toNat * twos (f.scale + 1)
  let unit := tens (-exponent).toNat
  if h.closed then h.low * unit ≤ value && value ≤ h.high * unit
  else h.low * unit < value && value < h.high * unit

/-- Of two points of a grid the one nearer to `num / den`. Halfway it is the even one. -/
def nearer (num den : Nat) (exponent : Int) (a b : Nat) : Nat :=
  let twice := 2 * num * tens (-exponent).toNat
  let middle := (a + b) * den * tens exponent.toNat
  if twice < middle then a
  else if middle < twice then b
  else if a % 2 = 0 then a else b

/-- The decimal number with this exponent that names `steps`, if there is one. -/
def named? (f : BinaryFormat) (steps : Nat) (exponent : Int) : Option Decimal :=
  let h := f.neighbourhood steps
  let (a, b) := grid steps (twos f.scale) exponent
  match h.holds f a exponent, h.holds f b exponent with
  | true, true => some ⟨nearer steps (twos f.scale) exponent a b, exponent⟩
  | true, false => some ⟨a, exponent⟩
  | false, true => some ⟨b, exponent⟩
  | false, false => none

/-- The exponent of the first digit of `num / den`, which is not zero: the greatest `e`
with `10 ^ e ≤ num / den`. -/
def leadExponent (num den : Nat) : Int :=
  if den ≤ num then (Text.ofNat (num / den)).length - 1
  else -(Text.ofNat ((den + num - 1) / num - 1)).length

/-- The shortest decimal number that names `steps`, and of those the nearest. -/
def shortest (f : BinaryFormat) (steps : Nat) : Decimal :=
  if steps = 0 then ⟨0, 0⟩
  else
    let lead := leadExponent steps (twos f.scale)
    let grids := (List.range f.precision).map fun n => lead - Int.ofNat n
    (grids.findSome? (f.named? steps)).getD ⟨0, 0⟩

end BinaryFormat

end CueStream
