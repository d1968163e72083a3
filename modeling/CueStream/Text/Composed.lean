-- The composed form of a text: marks stand in their order, and a letter and
-- its marks are one character wherever there is one for them. Texts that
-- look alike and differ in this alone have the same composed form.
import CueStream.Text.Basic
import CueStream.Unicode.Composition

namespace CueStream.Text

open Unicode

/-- The text with each character taken apart once. -/
def apart (t : Text) : Text :=
  t.flatMap fun c => match split? c with
    | some (a, b) => [a, b]
    | none => [c]

/-- No letter carries more than three marks that can be taken off. -/
def mostMarks : Nat := 3

/-- The text with all characters taken apart. -/
def apartFully (t : Text) : Text :=
  Nat.repeat apart mostMarks t

/-- Puts a character behind a text that is given in reverse. A mark moves past the marks that
come after it in their order. -/
def insertMark (m : Char) : Text → Text
  | [] => [m]
  | c :: before =>
    if 0 < rank m && rank m < rank c then c :: insertMark m before else m :: c :: before

/-- The text with the marks of each letter in their order. -/
def inOrder (t : Text) : Text :=
  (t.foldl (fun before c => insertMark c before) []).reverse

/-- Joins a letter with what follows it. `passed` are marks behind the letter, in reverse, that
could not be joined. A mark is joined only if no mark of its rank or a higher one is among them. -/
def compose (letter : Char) (passed : Text) : Text → Text
  | [] => letter :: passed.reverse
  | c :: rest =>
    match if passed.head?.any (rank c ≤ rank ·) then none else join? letter c with
    | some joined => compose joined passed rest
    | none =>
      if rank c = 0 then letter :: passed.reverse ++ compose c [] rest
      else compose letter (c :: passed) rest

/-- The text with its letters and marks joined, once they are in order. -/
def composeAll : Text → Text
  | [] => []
  | c :: rest => if rank c = 0 then compose c [] rest else c :: composeAll rest

/-- The composed form of a text. -/
def composed (t : Text) : Text :=
  composeAll (inOrder (apartFully t))

end CueStream.Text
