-- The blank characters: the ones that `White_Space` of the character
-- standard names. They are what trimming removes and what may stand
-- between two sentences.
import CueStream.Unicode.Range

namespace CueStream.Unicode

/-- The spans of blank characters. -/
def blankSpans : List (Nat × Nat) :=
  [(0x9, 0xD), (0x20, 0x20), (0x85, 0x85), (0xA0, 0xA0), (0x1680, 0x1680),
   (0x2000, 0x200A), (0x2028, 0x2029), (0x202F, 0x202F), (0x205F, 0x205F), (0x3000, 0x3000)]

/-- A blank character: a space, a line end or a separator, of any width. -/
def isBlank (c : Char) : Bool :=
  within blankSpans c

/-- The form feed and the line separator are blank, the zero width space and the byte order mark are not. -/
example : isBlank '\x0c' = true ∧ isBlank '\u2028' = true ∧ isBlank '\u200b' = false ∧
    isBlank '\ufeff' = false := by decide

end CueStream.Unicode
