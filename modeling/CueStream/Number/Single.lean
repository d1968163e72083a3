-- Single-precision numbers, and how they are written down: with the fewest
-- digits that name them, and with a power of ten only where the plain form
-- would be long.
import CueStream.Number.Shortest

namespace CueStream

/-- A number of single precision. -/
inductive Single where
  /-- A whole count of the smallest step. Zero has a sign as well. -/
  | finite (negative : Bool) (steps : Nat)
  /-- What is too large for the format. -/
  | infinite (negative : Bool)
  deriving DecidableEq, Repr

namespace Single

/-- The number nearest to `num / den`, with the given sign. -/
def ofQuotient (negative : Bool) (num den : Nat) : Single :=
  match BinaryFormat.single.round? num den with
  | some steps => .finite negative steps
  | none => .infinite negative

/-- The number nearest to an integer. -/
def ofInt (n : Int) : Single :=
  ofQuotient (n < 0) n.natAbs 1

end Single

/-- The parts of a number that is written down. -/
structure Numeral where
  negative : Bool := false
  whole : Text
  /-- The digits behind the point. There is no point without them. -/
  fraction : Text := []
  /-- The sign and the digits of the power of ten. -/
  exponent : Option (Bool × Text) := none
  deriving DecidableEq, Repr

namespace Numeral

/-- The numeral of a natural number. -/
def ofNat (n : Nat) : Numeral :=
  { whole := Text.ofNat n }

/-- The numeral of an integer. -/
def ofInt (n : Int) : Numeral :=
  { negative := n < 0, whole := Text.ofNat n.natAbs }

/-- The text of the numeral. A power of ten has its sign in any case. -/
def text (n : Numeral) : Text :=
  (if n.negative then ['-'] else []) ++ n.whole ++
    (if n.fraction = [] then [] else '.' :: n.fraction) ++
    match n.exponent with
    | none => []
    | some (negative, digits) => 'e' :: (if negative then '-' else '+') :: digits

end Numeral

/-- Which numbers are written plainly, without a power of ten. -/
structure Layout where
  /-- The least place of the first digit: 0 is the place before the point. -/
  leastPlain : Int
  /-- The greatest one. -/
  greatestPlain : Int

namespace Layout

/-- Temperatures are written plainly from a millionth up to thirteen places before the point. -/
def standard : Layout := ⟨-6, 12⟩

/-- The digits of a decimal number, without zeros at the end. -/
def digits (d : Decimal) : Text :=
  match (Text.ofNat d.digits).trimEndOf '0' with
  | [] => ['0']
  | c :: rest => c :: rest

/-- A decimal number written by these rules. The plain form has at least one digit on each side
of the point. -/
def numeral (l : Layout) (negative : Bool) (d : Decimal) : Numeral :=
  let ds := digits d
  let lead := d.exponent + (Text.ofNat d.digits).length - 1
  if l.leastPlain ≤ lead ∧ lead ≤ l.greatestPlain then
    if lead < 0 then
      ⟨negative, ['0'], List.replicate (-lead - 1).toNat '0' ++ ds, none⟩
    else
      let places := lead.toNat + 1
      let whole := ds.take places ++ List.replicate (places - ds.length) '0'
      let fraction := ds.drop places
      ⟨negative, whole, if fraction = [] then ['0'] else fraction, none⟩
  else
    ⟨negative, ds.take 1, ds.drop 1, some (lead < 0, Text.ofNat lead.natAbs)⟩

end Layout

namespace Single

/-- The numeral of a finite number. -/
def numeral? : Single → Option Numeral
  | finite negative steps =>
    some (Layout.standard.numeral negative (BinaryFormat.single.shortest steps))
  | infinite _ => none

/-- The number as a text. What is too large has none, and stands as `null`. -/
def text (x : Single) : Text :=
  match x.numeral? with
  | some n => n.text
  | none => "null".toList

end Single

end CueStream
