-- A text as it is quoted in a message: in double quotes, with the
-- characters spelled out that a reader could not see or would misread.
import CueStream.Text.Basic
import CueStream.Unicode.Visible

namespace CueStream.Text

open Unicode

/-- How one character is written inside the quotes. -/
def quotedChar (c : Char) : Text :=
  match c with
  | '\x00' => ['\\', '0']
  | '\t' => ['\\', 't']
  | '\r' => ['\\', 'r']
  | '\n' => ['\\', 'n']
  | '"' => ['\\', '"']
  | '\\' => ['\\', '\\']
  | c => if isVisible c then [c] else ['\\', 'u', '\x7b'] ++ ofNatHex c.toNat ++ ['\x7d']

/-- The text in quotes. -/
def quoted (t : Text) : Text :=
  '"' :: t.flatMap quotedChar ++ ['"']

example : quoted ['a', '"', '\u200b', '\x7f'] =
    ['"', 'a', '\\', '"', '\\', 'u', '\x7b', '2', '0', '0', 'b', '\x7d',
      '\\', 'u', '\x7b', '7', 'f', '\x7d', '"'] := by decide +kernel

end CueStream.Text
