-- The lower-case form of a whole text. A letter's form does not depend on
-- its neighbours, but for the Greek capital sigma: at the end of a word it
-- becomes the final sigma.
import CueStream.Text.Basic
import CueStream.Unicode.Casing

namespace CueStream.Text

open Unicode

/-- Characters that are passed over aside, the text starts with a character that has a case. -/
def startsCased (t : Text) : Bool :=
  match t.dropWhile isCaseIgnorable with
  | [] => false
  | c :: _ => isCased c

/-- The lower-case form of a character, with the text before it in reverse and the text after it. -/
def lowerIn (before : Text) (c : Char) (after : Text) : Text :=
  if c = 'Σ' then
    if startsCased before && !startsCased after then ['ς'] else ['σ']
  else lowerForm c

/-- Lower-cases a text that stands after `before`, which is given in reverse. -/
def lowercaseAfter (before : Text) : Text → Text
  | [] => []
  | c :: rest => lowerIn before c rest ++ lowercaseAfter (c :: before) rest

/-- The text in lower case. -/
def lowercase (t : Text) : Text :=
  lowercaseAfter [] t

example : lowercase ['Α', 'Σ'] = ['α', 'ς'] ∧ lowercase ['Σ', 'A'] = ['σ', 'a'] ∧
    lowercase ['İ'] = ['i', '\u0307'] := by decide +kernel

end CueStream.Text
