-- The labels of a name of the net: what stands between its full stops. A
-- label that is more than ASCII has a form in ASCII, by which it is known
-- to the servers of names.
import CueStream.Domain.Form
import CueStream.Domain.Punycode
import CueStream.Text.Composed
import CueStream.Unicode.Direction
import CueStream.Unicode.Joining

namespace CueStream.Domain

open Unicode

/-! ## Joiners -/

/-- The last character of a text, which is given in reverse, is a sign that takes the vowel
from the letter before it. -/
def endsKilled (before : Text) : Bool :=
  before.head?.any (rank · = vowelKillerRank)

/-- The letters on both sides of a place would be joined. The text before is given in reverse. -/
def isJoint (before after : Text) : Bool :=
  (before.dropWhile isJoiningPassedOver).head?.any joinsNext &&
    (after.dropWhile isJoiningPassedOver).head?.any joinsPrevious

/-- Each character that joins letters or keeps them apart stands where it makes a difference.
The text before is given in reverse. -/
def joinersFit (before : Text) : Text → Bool
  | [] => true
  | c :: rest =>
    (if c = '\u200d' then endsKilled before
      else if c = '\u200c' then endsKilled before || isJoint before rest
      else true) &&
    joinersFit (c :: before) rest

/-! ## Directions -/

/-- The text has a part that is written from right to left. -/
def hasLeftward (t : Text) : Bool :=
  t.any fun c => direction c = .leftward || direction c = .arabicDigit

/-- In a name with a part from right to left a label keeps to one direction, that of its first
letter, and ends with a letter or a digit. -/
def keepsDirection (t : Text) : Bool :=
  let all := t.map direction
  let last := (all.reverse.dropWhile (· = .clinging)).head?
  match all.head? with
  | none => true
  | some .rightward =>
    all.all (fun d => d ≠ .leftward && d ≠ .arabicDigit) &&
      last.any fun d => d = .rightward || d = .digit
  | some .leftward =>
    all.all (· ≠ .rightward) && !(all.contains .digit && all.contains .arabicDigit) &&
      last.any fun d => d = .leftward || d = .digit || d = .arabicDigit
  | some _ => false

/-! ## Labels -/

/-- What the ASCII form of a label that is more than ASCII starts with. -/
def marker : Text := "xn--".toList

/-- The label that is shown for one in composed form. One that starts with the marker has to be
the ASCII form of one that is more than ASCII. -/
def shown? (label : Text) : Option Text :=
  if marker.isPrefixOf label then
    (Punycode.decode? (label.drop marker.length)).filter fun t =>
      !t.all Punycode.isAscii && Text.composed t = t
  else some label

/-- A label that may stand in a name, apart from its direction. -/
def isSound (label : Text) : Bool :=
  label.all isSettled && !label.head?.any isMark && joinersFit [] label

/-- The ASCII form of a label. -/
def ascii (label : Text) : Text :=
  if label.all Punycode.isAscii then label else marker ++ Punycode.encode label

end CueStream.Domain
