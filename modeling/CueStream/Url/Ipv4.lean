-- The numbers of machines, in their older and shorter form: four bytes,
-- written with full stops between them. A name that ends in a number has to
-- be such a number, but it may be written in other ways: with fewer parts,
-- of which the last one stands for all bytes that are left, and with parts
-- to the base 8 or 16.
import CueStream.Text.Basic

namespace CueStream

/-- The number of a machine, of four bytes. -/
structure Ipv4 where
  bits : UInt32
  deriving DecidableEq, Repr

namespace Ipv4

/-! ## Reading -/

/-- The number in a part. After `0x` the base is 16, after another zero it is 8. -/
def number? (part : Text) : Option Nat :=
  match part with
  | '0' :: 'x' :: rest => if rest.isEmpty then some 0 else Text.toNat? 16 rest
  | '0' :: c :: rest => Text.toNat? 8 (c :: rest)
  | _ => Text.toNat? 10 part

/-- The parts of a name. A full stop at the end does not count. -/
def parts (name : Text) : List Text :=
  let all := Text.parts (· = '.') name
  if all.length > 1 && all.getLast? = some [] then all.dropLast else all

/-- The last part of the name is a number, or is made of digits. -/
def endsInNumber (name : Text) : Bool :=
  (parts name).getLast?.any fun p => (number? p).isSome || (!p.isEmpty && p.all Char.isDigit)

/-- The number that a name gives. -/
def ofName? (name : Text) : Option Ipv4 := do
  let numbers ← (parts name).mapM number?
  let last ← numbers.getLast?
  let bytes := numbers.dropLast
  let room := Nat.pow 256 (4 - bytes.length)
  if bytes.length < 4 && bytes.all (· < 256) && last < room then
    some ⟨UInt32.ofNat (bytes.foldl (· * 256 + ·) 0 * room + last)⟩
  else none

/-- The number in four parts, which are all decimal and have no zeros in front. -/
def ofDotted? (t : Text) : Option Ipv4 := do
  let bytes ← (Text.parts (· = '.') t).mapM fun p =>
    if p.length > 1 && p.head? = some '0' then none else (Text.toNat? 10 p).filter (· < 256)
  if bytes.length = 4 then some ⟨UInt32.ofNat (bytes.foldl (· * 256 + ·) 0)⟩ else none

/-! ## Writing -/

/-- The first and the last two of its bytes. -/
def halves (a : Ipv4) : List UInt16 :=
  [(a.bits >>> 16).toUInt16, a.bits.toUInt16]

/-- The number as it is written. -/
def text (a : Ipv4) : Text :=
  Text.joinWith '.' (([24, 16, 8, 0] : List UInt32).map fun n => Text.ofNat ((a.bits >>> n) % 256).toNat)

end Ipv4

end CueStream
