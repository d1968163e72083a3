-- Punycode: a text in the letters, digits and hyphens of ASCII. The ASCII
-- characters of the text come first. After a hyphen a list of numbers says
-- which other characters have to be put in, in the order of their code
-- points, and how far each one is from the one put in before.
import CueStream.Text.Basic

namespace CueStream.Punycode

/-! ## Numbers -/

/-- The digit for a number below 36. -/
def digit (n : Nat) : Char :=
  if n < 26 then Char.ofNat ('a'.toNat + n) else Char.ofNat ('0'.toNat + (n - 26))

/-- The number that a digit stands for. -/
def digit? (c : Char) : Option Nat :=
  if 'a' ≤ c ∧ c ≤ 'z' then some (c.toNat - 'a'.toNat)
  else if '0' ≤ c ∧ c ≤ '9' then some (c.toNat - '0'.toNat + 26)
  else none

/-- A digit below this ends its number. It depends on the place of the digit, a multiple of 36,
and on the numbers before. -/
def threshold (place bias : Nat) : Nat :=
  if place ≤ bias then 1 else if bias + 26 ≤ place then 26 else place - bias

theorem threshold_pos (place bias : Nat) : 1 ≤ threshold place bias := by
  unfold threshold
  split
  · omega
  · split <;> omega

/-- The digits of a number from a place on, the least one first. -/
def digits (bias place n : Nat) : Text :=
  let t := threshold place bias
  if n < t then [digit n]
  else digit (t + (n - t) % (36 - t)) :: digits bias (place + 36) ((n - t) / (36 - t))
termination_by n
decreasing_by
  have h1 := threshold_pos place bias
  calc (n - threshold place bias) / (36 - threshold place bias)
      ≤ n - threshold place bias := Nat.div_le_self _ _
    _ < n := by omega

/-- How many digits a number of this size is likely to have, in steps of 36. -/
def steps (n : Nat) : Nat × Nat :=
  if 455 < n then
    let (rest, k) := steps (n / 35)
    (rest, k + 36)
  else (n, 0)

/-- The bias for the next number, after a number and the count of characters with the new one. -/
def adapt (n count : Nat) (first : Bool) : Nat :=
  let n := if first then n / 700 else n / 2
  let (rest, k) := steps (n + n / count)
  k + 36 * rest / (rest + 38)

/-- The bias for the first number. -/
def firstBias : Nat := 72

/-- The place of the first digit of a number. -/
def firstPlace : Nat := 36

/-- The first code point that is not ASCII. -/
def firstPoint : Nat := 0x80

def isAscii (c : Char) : Bool :=
  c.toNat < firstPoint

/-! ## Writing -/

/-- What is written so far, the number for the next character, and how many characters are
accounted for. -/
structure Writer where
  written : Text := []
  distance : Nat := 0
  bias : Nat := firstBias
  count : Nat
  first : Bool := true

/-- Passes over a character of the text, or writes it if `point` is its code point. -/
def Writer.visit (point : Nat) (w : Writer) (c : Char) : Writer :=
  if c.toNat < point then { w with distance := w.distance + 1 }
  else if c.toNat = point then
    { written := w.written ++ digits w.bias firstPlace w.distance
      distance := 0
      bias := adapt w.distance (w.count + 1) w.first
      count := w.count + 1
      first := false }
  else w

/-- Writes all characters with the code points, of which the first is `next` or a later one. -/
def Writer.visitAll (t : Text) : (points : List Nat) → (next : Nat) → Writer → Writer
  | [], _, w => w
  | p :: points, next, w =>
    let w := { w with distance := w.distance + (p - next) * (w.count + 1) }
    let w := t.foldl (Writer.visit p) w
    visitAll t points (p + 1) { w with distance := w.distance + 1 }

/-- The text in Punycode. -/
def encode (t : Text) : Text :=
  let plain := t.filter isAscii
  let points := (((t.filter fun c => !isAscii c).map Char.toNat).mergeSort (· ≤ ·)).eraseDups
  plain ++ (if plain.isEmpty then [] else ['-']) ++
    (Writer.visitAll t points firstPoint { count := plain.length }).written

/-! ## Reading -/

/-- The text so far, the code point and the place of the last character put in, and the number
that is being read. -/
structure Reader where
  text : Text
  point : Nat := firstPoint
  /-- The place behind the last character put in. -/
  start : Nat := 0
  bias : Nat := firstBias
  /-- The place that the digits so far lead to, the weight of the next one, and its place. -/
  target : Nat := 0
  weight : Nat := 1
  place : Nat := firstPlace

/-- Reads a digit. The last one of a number puts in a character. -/
def Reader.read? (r : Reader) (c : Char) : Option Reader := do
  let d ← digit? c
  let t := threshold r.place r.bias
  let target := r.target + d * r.weight
  if d < t then
    let count := r.text.length + 1
    let point := r.point + target / count
    let place := target % count
    if point.isValidChar then
      some
        { text := r.text.insertIdx place (Char.ofNat point)
          point := point
          start := place + 1
          bias := adapt (target - r.start) count (r.start = 0)
          target := place + 1 }
    else none
  else
    some { r with target := target, weight := r.weight * (36 - t), place := r.place + 36 }

/-- The text that is given in Punycode. -/
def decode? (t : Text) : Option Text := do
  let (plain, numbers) := match Text.cut (· = '-') t.reverse with
    | (numbers, some (c :: plain)) => ((c :: plain).reverse, numbers.reverse)
    | _ => ([], t)
  if plain.all isAscii then
    let r ← numbers.foldlM Reader.read? { text := plain }
    if r.place = firstPlace then some r.text else none
  else none

example : encode "bücher".toList = "bcher-kva".toList ∧
    decode? "bcher-kva".toList = some "bücher".toList := by
  cbv
  exact ⟨rfl, rfl⟩

end CueStream.Punycode
