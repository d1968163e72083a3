-- Bytes in percent form: a percent sign and two hexadecimal digits. In this
-- form every text can stand where only some characters may.
import CueStream.Text.Utf8

namespace CueStream.Percent

/-- A hexadecimal digit, of upper case. -/
def digit (n : Nat) : Char :=
  (Nat.digitChar n).toUpper

/-- One byte in percent form. -/
def ofByte (b : UInt8) : Text :=
  ['%', digit (b.toNat / 16), digit (b.toNat % 16)]

/-- The text with the bytes of all characters in percent form, but for those to keep. -/
def encode (keep : Char → Bool) (t : Text) : Text :=
  t.flatMap fun c => if keep c then [c] else (Utf8.encode [c]).flatMap ofByte

/-- The bytes of the text, those in percent form among them. A percent sign without two digits
after it stands for itself. -/
def decode : Text → List UInt8
  | [] => []
  | '%' :: a :: b :: rest =>
    match Text.hexDigit? a, Text.hexDigit? b with
    | some x, some y => UInt8.ofNat (x * 16 + y) :: decode rest
    | _, _ => 0x25 :: decode (a :: b :: rest)
  | c :: rest => Utf8.encode [c] ++ decode rest

/-- The visible characters of ASCII, but for some. -/
def visibleBut (special : List Char) (c : Char) : Bool :=
  ' ' < c && c < '\x7f' && !special.contains c

end CueStream.Percent
