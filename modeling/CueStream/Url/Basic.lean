-- Addresses: how a thing is reached, on which machine it is, and which of
-- the things there it is. Some more may be asked of it, and a place in it
-- may be named.
import CueStream.Url.Host
import CueStream.Url.Path

namespace CueStream

namespace Url

/-! ## Schemes -/

/-- How what follows a scheme is read. -/
inductive Style where
  /-- A machine of the net follows in any case. -/
  | net
  /-- A file follows. -/
  | file
  /-- A machine follows if two slashes announce it. -/
  | plain
  deriving DecidableEq, Repr

/-- The number of the service that a scheme of the net uses if no other one is given. -/
def standardService? (scheme : Text) : Option Nat :=
  [("http", 80), ("https", 443), ("ws", 80), ("wss", 443), ("ftp", 21)].findSome? fun p =>
    if p.1.toList = scheme then some p.2 else none

/-- How what follows the scheme is read. -/
def Style.ofScheme (scheme : Text) : Style :=
  if (standardService? scheme).isSome then .net
  else if scheme = "file".toList then .file
  else .plain

/-- A character that ends a segment. Where a machine or a file is certain to follow, a
backslash counts as a slash. -/
def Style.isSlash (s : Style) (c : Char) : Bool :=
  c = '/' || (c = '\\' && s ≠ .plain)

/-! ## Machines -/

/-- The machine of an address, who asks it, and for which of its services. A name of the user or
a password without any character is not given, nor is the standard service. The name and the
password are in percent form. -/
structure Authority where
  user : Text := []
  password : Text := []
  host : Host
  service : Option Nat := none
  deriving DecidableEq, Repr

namespace Authority

/-- A user or a password is given. -/
def hasCredentials (a : Authority) : Bool :=
  !(a.user.isEmpty && a.password.isEmpty)

/-- The authority as it is written. -/
def text (a : Authority) : Text :=
  let password := if a.password.isEmpty then [] else ':' :: a.password
  let credentials := if a.hasCredentials then a.user ++ password ++ ['@'] else []
  credentials ++ a.host.text ++ (match a.service with | some n => ':' :: Text.ofNat n | none => [])

end Authority

end Url

/-- An address. -/
structure Url where
  scheme : Text
  authority : Option Url.Authority
  path : Url.Path
  query : Option Text
  fragment : Option Text
  deriving DecidableEq, Repr

namespace Url

/-- The address as it is written. -/
def text (u : Url) : Text :=
  let authority := match u.authority with
    | some a => ['/', '/'] ++ a.text
    | none => u.path.guard
  u.scheme ++ ':' :: authority ++ u.path.text ++
    (match u.query with | some q => '?' :: q | none => []) ++
    (match u.fragment with | some f => '#' :: f | none => [])

/-- The address leads to a machine. -/
def hasHost (u : Url) : Bool :=
  u.authority.any (·.host.isPresent)

/-- The text that bytes in percent form spell. -/
def spelled? (t : Text) : Option Text :=
  Utf8.decode? (Percent.decode t)

/-- The address as others may see it, without a user and a password. They stay if they cannot be
told: if the user is no text, or if there is none and the password is no text. -/
def withoutCredentials (u : Url) : Url :=
  { u with
    authority := u.authority.map fun a =>
      if (spelled? a.user).isSome && (!a.user.isEmpty || (spelled? a.password).isSome) then
        { a with user := [], password := [] }
      else a }

/-- Characters that may stand in a name of the net, but not in a request. -/
def unrequestable : List Char := ['"', '\x60', '\x7b', '\x7d']

/-- The length of an address in a request has this limit. -/
def maxRequestLength : Nat := 65534

/-- The address can be asked for over the net. -/
def isRequestable (u : Url) : Bool :=
  ["http".toList, "https".toList].contains u.scheme &&
    u.authority.any (fun a => !a.host.text.any unrequestable.contains) &&
    Text.byteLength u.text ≤ maxRequestLength

end Url

end CueStream
