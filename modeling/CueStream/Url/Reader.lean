-- Reading addresses. What is kept is the form in which an address is used:
-- letters of the scheme and of a name of the net are small, steps in a path
-- are taken, and characters that may not stand where they do are in percent
-- form.
import CueStream.Url.Basic

namespace CueStream.Url

/-! ## Characters -/

/-- A tab or a line end. These do not count in an address. -/
def isBreak (c : Char) : Bool :=
  c = '\t' || c = '\n' || c = '\r'

/-- The text without blanks and controls at its ends, and without tabs and line ends. -/
def tidy (t : Text) : Text :=
  let start := t.dropWhile (· ≤ ' ')
  (start.reverse.dropWhile (· ≤ ' ')).reverse.filter (!isBreak ·)

/-- The characters that have a meaning around a user and a password. -/
def delimiters : List Char :=
  ['/', ':', ';', '=', '@', '[', '\\', ']', '^', '|']

/-- A character of a user or a password that stays as it is. -/
def isCredential (c : Char) : Bool :=
  Path.isPlain c && !delimiters.contains c

/-- A character of a query that stays as it is. -/
def isQuery (style : Style) (c : Char) : Bool :=
  Percent.visibleBut ['"', '#', '<', '>'] c && !(c = '\'' && style ≠ .plain)

/-- A character of the name of a place that stays as it is. -/
def isFragment (c : Char) : Bool :=
  Percent.visibleBut ['"', '<', '>', '\x60'] c

/-- A character of a path without parts that stays as it is. -/
def isWhole (c : Char) : Bool :=
  ' ' ≤ c && c < '\x7f'

/-! ## Schemes -/

/-- A character of a scheme. -/
def isScheme (c : Char) : Bool :=
  c.isAlphanum || c = '+' || c = '-' || c = '.'

/-- The scheme, which starts with a letter and ends at a colon, and the text after it. -/
def scheme? (t : Text) : Option (Text × Text) :=
  match Text.cut (· = ':') t with
  | (c :: rest, some after) =>
    if c.isAlpha && rest.all isScheme then some ((c :: rest).map Char.toLower, after) else none
  | _ => none

/-! ## Machines -/

/-- The text before the first colon that does not stand in brackets, and the text after it. -/
def cutAtService (inside : Bool) : Text → Text × Option Text
  | [] => ([], none)
  | c :: rest =>
    if c = ':' && !inside then ([], some rest)
    else
      let (host, service) := cutAtService (c = '[' || (inside && c ≠ ']')) rest
      (c :: host, service)

/-- The greatest number of a service. -/
def maxService : Nat := 65535

/-- The number of the service that a text gives, unless it is the standard one, and the text after
it, which a backslash starts. -/
def service? (scheme : Text) (t : Text) : Option (Option Nat × Text) :=
  let digits := t.takeWhile Char.isDigit
  let rest := t.dropWhile Char.isDigit
  if !rest.isEmpty && rest.head? ≠ some '\\' then none
  else match Text.toNat? 10 digits with
    | none => some (none, rest)
    | some n =>
      if n > maxService then none
      else some (if standardService? scheme = some n then none else some n, rest)

/-- The text before the last at sign, if there is one, and the text after it. -/
def cutAtHost (t : Text) : Option Text × Text :=
  match Text.cut (· = '@') t.reverse with
  | (host, some user) => (some user.reverse, host.reverse)
  | (_, none) => (none, t)

/-- The authority that a text gives, and the text behind it. A service, a user or a password needs
a machine. -/
def Authority.ofText? (scheme : Text) (style : Style) (t : Text) : Option (Authority × Text) := do
  let (credentials, place) := cutAtHost t
  let (hostText, serviceText) := cutAtService false place
  let host ← if style = .plain then Host.ofAny? hostText else Host.ofNet? hostText
  let (service, rest) ← match serviceText with
    | some p => service? scheme p
    | none => some (none, [])
  let (user, password) := Text.cut (· = ':') (credentials.getD [])
  let a : Authority :=
    { user := Percent.encode isCredential user
      password := Percent.encode isCredential (password.getD [])
      host := host
      service := service }
  let needed := serviceText.isSome || a.hasCredentials || credentials = some []
  if needed && !host.isPresent then none else some (a, rest)

/-! ## Addresses -/

/-- What stands in front of the query: the machine and the path. -/
abbrev Place := Option Authority × Path

/-- The place that follows a scheme of the net. Any number of slashes may stand in front. -/
def netPlace? (scheme : Text) (t : Text) : Option Place := do
  let t := t.dropWhile Style.net.isSlash
  let (a, _) ← Authority.ofText? scheme .net (t.takeWhile (!Style.net.isSlash ·))
  let path := t.dropWhile (!Style.net.isSlash ·)
  return (some a, .segments (Path.walkText Style.net.isSlash false path))

/-- The place of a file. Two slashes announce a machine, unless a drive follows them. No machine
is kept in front of a drive. -/
def filePlace? (t : Text) : Option Place := do
  let (machine, path) := match t with
    | a :: b :: rest =>
      let name := rest.takeWhile (!Style.file.isSlash ·)
      if !(Style.file.isSlash a && Style.file.isSlash b) then ([], t)
      else if Path.isDrive name then ([], rest)
      else (name, rest.dropWhile (!Style.file.isSlash ·))
    | _ => ([], t)
  let host ← Host.ofFile? machine
  let segments := Path.walkText Style.file.isSlash true path
  let host := if segments.head?.any Path.isDrive then .absent else host
  return (some { host := host }, .segments (Path.trimmed segments))

/-- The place that follows any other scheme. -/
def plainPlace? (scheme : Text) (t : Text) : Option Place :=
  match t with
  | '/' :: '/' :: rest => do
    let (a, start) ← Authority.ofText? scheme .plain (rest.takeWhile (· ≠ '/'))
    let path := start ++ rest.dropWhile (· ≠ '/')
    let segments := if path.isEmpty then [] else Path.walkText Style.plain.isSlash false path
    return (some a, .segments segments)
  | '/' :: rest => some (none, .segments (Path.walkText Style.plain.isSlash false ('/' :: rest)))
  | _ => some (none, .whole (Percent.encode isWhole t))

/-- The place that follows a scheme. -/
def place? (scheme : Text) (t : Text) : Option Place :=
  match Style.ofScheme scheme with
  | .net => netPlace? scheme t
  | .file => filePlace? t
  | .plain => plainPlace? scheme t

/-- The address that a text gives, if it is complete. -/
def ofText? (t : Text) : Option Url := do
  let (scheme, rest) ← scheme? (tidy t)
  let (rest, fragment) := Text.cut (· = '#') rest
  let (rest, query) := Text.cut (· = '?') rest
  let (authority, path) ← place? scheme rest
  return {
    scheme := scheme
    authority := authority
    path := path
    query := query.map (Percent.encode (isQuery (.ofScheme scheme)))
    fragment := fragment.map (Percent.encode isFragment) }

end CueStream.Url
