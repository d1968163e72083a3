-- Writing a JSON text: on one line without any blanks, or one member a line
-- and indented by two spaces.
import CueStream.Json.Basic

namespace CueStream.Json

/-! ## Strings -/

/-- A hexadecimal digit. -/
def hexDigit (n : Nat) : Char :=
  Nat.digitChar n

/-- How one character is written in a string. Only quotes, backslashes and control characters
are escaped. -/
def escaped (c : Char) : Text :=
  match c with
  | '"' => ['\\', '"']
  | '\\' => ['\\', '\\']
  | '\x08' => ['\\', 'b']
  | '\t' => ['\\', 't']
  | '\n' => ['\\', 'n']
  | '\x0c' => ['\\', 'f']
  | '\r' => ['\\', 'r']
  | c =>
    if c < ' ' then ['\\', 'u', '0', '0', hexDigit (c.toNat / 16), hexDigit (c.toNat % 16)] else [c]

/-- A string in its quotes. One that spells no text is written as a lone half of a character. -/
def quote : Option Text → Text
  | some t => '"' :: t.flatMap escaped ++ ['"']
  | none => "\"\\ud800\"".toList

/-! ## Values without parts -/

def boolText (b : Bool) : Text :=
  if b then "true".toList else "false".toList

/-! ## On one line -/

mutual

/-- The value on one line. -/
def compact : Json → Text
  | .null => "null".toList
  | .bool b => boolText b
  | .number n => n.text
  | .string content => quote content
  | .array [] => ['[', ']']
  | .array (v :: rest) => '[' :: compact v ++ compactItems rest ++ [']']
  | .object [] => ['\x7b', '\x7d']
  | .object ((name, v) :: rest) =>
    '\x7b' :: quote name ++ ':' :: compact v ++ compactMembers rest ++ ['\x7d']

/-- More elements, each with a comma in front. -/
def compactItems : List Json → Text
  | [] => []
  | v :: rest => ',' :: compact v ++ compactItems rest

/-- More members, each with a comma in front. -/
def compactMembers : List (Option Text × Json) → Text
  | [] => []
  | (name, v) :: rest => ',' :: quote name ++ ':' :: compact v ++ compactMembers rest

end

/-! ## Over many lines -/

/-- The start of a line, this deep inside. -/
def newLine (depth : Nat) : Text :=
  '\n' :: List.replicate (2 * depth) ' '

mutual

/-- The value over many lines, for a place this deep inside. -/
def pretty (depth : Nat) : Json → Text
  | .null => "null".toList
  | .bool b => boolText b
  | .number n => n.text
  | .string content => quote content
  | .array [] => ['[', ']']
  | .array (v :: rest) =>
    '[' :: newLine (depth + 1) ++ pretty (depth + 1) v ++ prettyItems (depth + 1) rest ++
      newLine depth ++ [']']
  | .object [] => ['\x7b', '\x7d']
  | .object ((name, v) :: rest) =>
    '\x7b' :: newLine (depth + 1) ++ quote name ++ ": ".toList ++ pretty (depth + 1) v ++
      prettyMembers (depth + 1) rest ++ newLine depth ++ ['\x7d']

def prettyItems (depth : Nat) : List Json → Text
  | [] => []
  | v :: rest => ',' :: newLine depth ++ pretty depth v ++ prettyItems depth rest

def prettyMembers (depth : Nat) : List (Option Text × Json) → Text
  | [] => []
  | (name, v) :: rest =>
    ',' :: newLine depth ++ quote name ++ ": ".toList ++ pretty depth v ++ prettyMembers depth rest

end

/-- The value over many lines. -/
def lines (v : Json) : Text :=
  pretty 0 v

end CueStream.Json
