-- Paths: the part of an address that says which thing on its machine is
-- meant. Segments of one and two dots are steps, as in a tree of folders:
-- a path is kept in the form in which they are taken.
import CueStream.Text.Percent

namespace CueStream.Url

/-- A path. -/
inductive Path where
  /-- A path of segments, each with a slash in front of it. -/
  | segments (s : List Text)
  /-- A path without parts. -/
  | whole (t : Text)
  deriving DecidableEq, Repr

namespace Path

/-! ## Segments -/

/-- A character that stands in a segment as it is. -/
def isPlain (c : Char) : Bool :=
  Percent.visibleBut ['"', '#', '<', '>', '?', '\x60', '\x7b', '\x7d'] c

/-- The text with the dots in percent form as dots. -/
def showDots : Text → Text
  | '%' :: '2' :: e :: rest =>
    if e = 'e' || e = 'E' then '.' :: showDots rest else '%' :: '2' :: showDots (e :: rest)
  | c :: rest => c :: showDots rest
  | [] => []

/-- The segment stays where it is. -/
def isHere (s : Text) : Bool :=
  showDots s = ['.']

/-- The segment goes one step back. -/
def isBack (s : Text) : Bool :=
  showDots s = ['.', '.']

/-- The segment names a drive, by a letter. -/
def isDrive : Text → Bool
  | [c, mark] => c.isAlpha && (mark = ':' || mark = '|')
  | _ => false

/-! ## Steps -/

/-- One step back. There is no step back from a drive, nor from the start. The segments are
given in reverse. -/
def stepBack : List Text → List Text
  | [] => []
  | s :: before => if isDrive s then s :: before else before

/-- The segment as it is kept. The drive of a file, which comes first, is marked by a colon. -/
def kept (ofFile : Bool) (before : List Text) (s : Text) : Text :=
  match s with
  | [c, _] => if ofFile && before.isEmpty && isDrive s then [c, ':'] else Percent.encode isPlain s
  | _ => Percent.encode isPlain s

/-- Takes the steps of a path. A path that ends with a step ends with an empty segment. The
segments before are given in reverse. -/
def walk (ofFile : Bool) (before : List Text) : List Text → List Text
  | [] => before.reverse
  | s :: rest =>
    let finish (before : List Text) := if rest.isEmpty then [] :: before else before
    if isBack s then walk ofFile (finish (stepBack before)) rest
    else if isHere s then walk ofFile (finish before) rest
    else walk ofFile (kept ofFile before s :: before) rest

/-- The segments that a text gives. A slash at its start does not count. -/
def walkText (isSlash : Char → Bool) (ofFile : Bool) (t : Text) : List Text :=
  let t := match t with
    | c :: rest => if isSlash c then rest else c :: rest
    | [] => []
  walk ofFile [] (Text.parts isSlash t)

/-- The path of a file does not start with an empty segment, unless that is all. -/
def trimmed : List Text → List Text
  | [] :: s :: more => trimmed (s :: more)
  | p => p

/-! ## Writing -/

/-- The path as it is written. -/
def text : Path → Text
  | .segments s => s.flatMap ('/' :: ·)
  | .whole t => t

/-- What is written in front of the path where no machine is given: two slashes at its start
would announce one. -/
def guard : Path → Text
  | .segments ([] :: _ :: _) => ['/', '.']
  | _ => []

end Path

end CueStream.Url
