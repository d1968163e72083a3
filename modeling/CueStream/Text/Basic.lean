-- A text is the list of its characters. This file holds what the rest of
-- the library asks of a text as such: its length in bytes, a cut at a
-- byte offset, its middle without the blanks around it, its parts between
-- certain characters, and numbers in digits.
import CueStream.Unicode.Blank

namespace CueStream

/-- A text, character by character. -/
abbrev Text := List Char

namespace Text

open Unicode

/-! ## Bytes -/

/-- The length of the text in bytes of UTF-8. -/
def byteLength : Text → Nat
  | [] => 0
  | c :: rest => c.utf8Size + byteLength rest

@[simp]
theorem byteLength_nil : byteLength [] = 0 := rfl

@[simp]
theorem byteLength_cons (c : Char) (t : Text) : byteLength (c :: t) = c.utf8Size + byteLength t :=
  rfl

@[simp]
theorem byteLength_append (t u : Text) : byteLength (t ++ u) = byteLength t + byteLength u := by
  induction t with
  | nil => simp
  | cons c t ih => simp [ih, Nat.add_assoc]

/-- The two parts of the text around a byte offset. There are none if the
offset lies past the end or inside a character. -/
def splitAtByte? : Text → Nat → Option (Text × Text)
  | t, 0 => some ([], t)
  | [], _ + 1 => none
  | c :: rest, n + 1 =>
    if c.utf8Size ≤ n + 1 then
      (splitAtByte? rest (n + 1 - c.utf8Size)).map fun p => (c :: p.1, p.2)
    else none

@[simp]
theorem splitAtByte?_zero (t : Text) : splitAtByte? t 0 = some ([], t) := by
  cases t <;> rfl

/-- A cut loses nothing, and the first part has the bytes asked for. -/
theorem eq_append_of_splitAtByte? {t a b : Text} {n : Nat} (h : splitAtByte? t n = some (a, b)) :
    t = a ++ b ∧ byteLength a = n := by
  fun_induction splitAtByte? t n generalizing a b with
  | case1 t => simp_all
  | case2 => simp at h
  | case3 c rest n hc ih =>
    simp only [Option.map_eq_some_iff, Prod.mk.injEq, Prod.exists] at h
    obtain ⟨x, y, hxy, rfl, rfl⟩ := h
    obtain ⟨rfl, hx⟩ := ih hxy
    simp only [List.cons_append, byteLength_cons, true_and]
    omega
  | case4 => simp at h

theorem splitAtByte?_append (a b : Text) : splitAtByte? (a ++ b) (byteLength a) = some (a, b) := by
  induction a with
  | nil => simp
  | cons c a ih =>
    obtain ⟨n, hn⟩ : ∃ n, c.utf8Size + byteLength a = n + 1 :=
      ⟨c.utf8Size + byteLength a - 1, by have := c.utf8Size_pos; omega⟩
    have hsub : n + 1 - c.utf8Size = byteLength a := by omega
    simp only [List.cons_append, byteLength_cons, hn, splitAtByte?, hsub, ih, Option.map_some]
    rw [if_pos (by omega)]

/-! ## Blanks at the ends -/

/-- The text from its first character that is not blank. -/
def trimStart (t : Text) : Text :=
  t.dropWhile isBlank

/-- The text up to its last character that is not blank. -/
def trimEnd (t : Text) : Text :=
  (t.reverse.dropWhile isBlank).reverse

/-- The text without the blanks at its two ends. -/
def trim (t : Text) : Text :=
  trimEnd (trimStart t)

/-- Removes every `c` at the end of the text. -/
def trimEndOf (c : Char) (t : Text) : Text :=
  (t.reverse.dropWhile (· = c)).reverse

/-! ## Parts -/

/-- The text before the first character of a kind and, if there is one, the text after it. -/
def cut (isEnd : Char → Bool) : Text → Text × Option Text
  | [] => ([], none)
  | c :: rest =>
    if isEnd c then ([], some rest)
    else
      let (before, after) := cut isEnd rest
      (c :: before, after)

/-- The parts of the text between the characters of a kind. Without any it is one part. -/
def parts (isEnd : Char → Bool) : Text → List Text
  | [] => [[]]
  | c :: rest =>
    if isEnd c then [] :: parts isEnd rest
    else match parts isEnd rest with
      | [] => [[c]]
      | p :: more => (c :: p) :: more

/-- The parts, with a character between each two of them. -/
def joinWith (c : Char) : List Text → Text
  | [] => []
  | [p] => p
  | p :: q :: more => p ++ c :: joinWith c (q :: more)

/-! ## Numbers -/

/-- The number in decimal digits. -/
def ofNat (n : Nat) : Text :=
  Nat.toDigits 10 n

/-- The number in hexadecimal digits, of lower case. -/
def ofNatHex (n : Nat) : Text :=
  Nat.toDigits 16 n

/-- The value of a hexadecimal digit, of either case. -/
def hexDigit? (c : Char) : Option Nat :=
  if '0' ≤ c ∧ c ≤ '9' then some (c.toNat - '0'.toNat)
  else if 'a' ≤ c ∧ c ≤ 'f' then some (c.toNat - 'a'.toNat + 10)
  else if 'A' ≤ c ∧ c ≤ 'F' then some (c.toNat - 'A'.toNat + 10)
  else none

/-- The number that the text gives in digits of a base, which is at most 16. There has to be
a digit, and nothing else may stand in the text. -/
def toNat? (base : Nat) (t : Text) : Option Nat :=
  if t.isEmpty then none
  else t.foldlM (fun n c => ((hexDigit? c).filter (· < base)).map (n * base + ·)) 0

end Text

end CueStream
