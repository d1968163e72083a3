-- Hosts: the machines that addresses lead to, given by a name or by a
-- number. A name of the net is kept in its ASCII form.
import CueStream.Domain.Basic
import CueStream.Text.Percent
import CueStream.Url.Ipv6

namespace CueStream

/-- A machine. The name without any character stands for none. -/
inductive Host where
  | name (n : Text)
  | v4 (a : Ipv4)
  | v6 (a : Ipv6)
  deriving DecidableEq, Repr

namespace Host

/-- No machine. -/
def absent : Host := .name []

/-- There is a machine. -/
def isPresent (h : Host) : Bool :=
  h ≠ absent

/-! ## Reading -/

/-- The characters that may not stand in any name: the ones that mean something in an address. -/
def reserved : List Char :=
  ['\x00', '\t', '\n', '\r', ' ', '#', '/', ':', '<', '>', '?', '@', '[', '\\', ']', '^', '|']

/-- A character of ASCII that may not stand in a name of the net. -/
def isForbidden (c : Char) : Bool :=
  c < ' ' || c = '\x7f' || c = '%' || reserved.contains c

/-- The number between brackets, if the text starts with one. -/
def bracketed? (t : Text) : Option (Option Ipv6) :=
  match t with
  | '[' :: rest => some (if rest.getLast? = some ']' then Ipv6.ofText? rest.dropLast else none)
  | _ => none

/-- The machine that a text gives by a name or a number of the net. Its bytes may be in percent
form. -/
def ofNet? (t : Text) : Option Host :=
  match bracketed? t with
  | some a => a.map .v6
  | none => do
    let name ← Domain.ofText? (← Utf8.decode? (Percent.decode t))
    if name.isEmpty || name.any isForbidden then none
    else if Ipv4.endsInNumber name then (Ipv4.ofName? name).map .v4
    else some (.name name)

/-- The machine that a text gives by a name of any kind. -/
def ofAny? (t : Text) : Option Host :=
  match bracketed? t with
  | some a => a.map .v6
  | none =>
    if t.any reserved.contains then none
    else some (.name (Percent.encode (fun c => ' ' ≤ c && c < '\x7f') t))

/-- The name by which a machine calls itself. -/
def ownName : Text := "localhost".toList

/-- The machine that a file is on. The own one is not given. -/
def ofFile? (t : Text) : Option Host :=
  if t.isEmpty then some absent
  else (ofNet? t).map fun h => if h = .name ownName then absent else h

/-! ## Writing -/

/-- The machine as it is written in an address. -/
def text : Host → Text
  | .name n => n
  | .v4 a => a.text
  | .v6 a => ['['] ++ a.text ++ [']']

end Host

end CueStream
