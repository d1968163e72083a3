-- The numbers of machines, in their newer and longer form: eight pieces of
-- 16 bits, written to the base 16 with colons between them. Two colons stand
-- for pieces of zero, as many as are missing.
import CueStream.Url.Ipv4

namespace CueStream

/-- The number of a machine, of eight pieces. -/
structure Ipv6 where
  pieces : List UInt16
  length_eq : pieces.length = 8
  deriving DecidableEq, Repr

namespace Ipv6

/-! ## Reading -/

/-- The piece that a group of one to four digits gives. -/
def piece? (group : Text) : Option UInt16 :=
  if group.length ≤ 4 then (Text.toNat? 16 group).map UInt16.ofNat else none

/-- The pieces that groups give. The last group may be the older form of a number, which gives
two pieces, if `dotted` says so. -/
def pieces? (dotted : Bool) : List Text → Option (List UInt16)
  | [] => some []
  | [group] =>
    match piece? group with
    | some p => some [p]
    | none => if dotted then (Ipv4.ofDotted? group).map Ipv4.halves else none
  | group :: groups => do
    let p ← piece? group
    let more ← pieces? dotted groups
    return p :: more

/-- The groups between colons. A text without any character has none. -/
def groups (t : Text) : List Text :=
  if t.isEmpty then [] else Text.parts (· = ':') t

/-- The texts around the first two colons that stand together. -/
def cutAtGap : Text → Text × Option Text
  | [] => ([], none)
  | ':' :: ':' :: rest => ([], some rest)
  | c :: rest =>
    let (before, after) := cutAtGap rest
    (c :: before, after)

/-- The number of the pieces, if there are as many as there have to be. -/
def ofPieces? (pieces : List UInt16) : Option Ipv6 :=
  if h : pieces.length = 8 then some ⟨pieces, h⟩ else none

/-- The number that a text gives. Two colons stand for at least one piece. -/
def ofText? (t : Text) : Option Ipv6 :=
  match cutAtGap t with
  | (t, none) => (pieces? true (groups t)).bind ofPieces?
  | (left, some right) => do
    let left ← pieces? false (groups left)
    let right ← pieces? true (groups right)
    if left.length + right.length < 8 then
      ofPieces? (left ++ List.replicate (8 - (left.length + right.length)) 0 ++ right)
    else none

/-! ## Writing -/

/-- How many pieces of zero the list starts with. -/
def zeros (pieces : List UInt16) : Nat :=
  (pieces.takeWhile (· = 0)).length

/-- Where the longest run of zeros starts, and how long it is. Of runs of one length it is the
first one. -/
def longestZeros (pieces : List UInt16) : Nat × Nat :=
  (List.range pieces.length).foldl (fun best i =>
    if best.2 < zeros (pieces.drop i) then (i, zeros (pieces.drop i)) else best) (0, 0)

/-- The pieces with colons between them. -/
def joined (pieces : List UInt16) : Text :=
  Text.joinWith ':' (pieces.map fun p => Text.ofNatHex p.toNat)

/-- The number as it is written: two colons stand for the longest run of two or more zeros. -/
def text (a : Ipv6) : Text :=
  let (start, length) := longestZeros a.pieces
  if length < 2 then joined a.pieces
  else joined (a.pieces.take start) ++ [':', ':'] ++ joined (a.pieces.drop (start + length))

end Ipv6

end CueStream
