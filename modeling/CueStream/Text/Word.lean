-- Words inside a text. A word is a run of letters, digits and underscores.
-- Ideographs are written without spaces, so they never belong to one.
import CueStream.Text.Basic
import CueStream.Unicode.Alphanumeric

namespace CueStream.Text

open Unicode

/-! ## Word characters -/

/-- The spans of unified ideographs: the base block, the extensions A and B
and the compatibility forms. -/
def ideographSpans : List (Nat × Nat) :=
  [(0x4E00, 0x9FFF), (0x3400, 0x4DBF), (0xF900, 0xFAFF), (0x20000, 0x2A6DF)]

def isIdeograph (c : Char) : Bool :=
  within ideographSpans c

/-- A character that belongs to a word. -/
def isWordChar (c : Char) : Bool :=
  (isAlphanumeric c || c = '_') && !isIdeograph c

/-- No word reaches over an edge with this neighbour: it is missing or no word character. -/
def isEdge (neighbour : Option Char) : Bool :=
  !neighbour.any isWordChar

/-! ## Occurrences -/

/-- `part` stands somewhere in the text. -/
def hasPart (part : Text) : Text → Bool
  | [] => part.isEmpty
  | c :: rest => part.isPrefixOf (c :: rest) || hasPart part rest

theorem hasPart_eq_true_iff (part t : Text) : hasPart part t = true ↔ part <:+: t := by
  induction t with
  | nil => cases part <;> simp [hasPart]
  | cons c rest ih =>
    simp [hasPart, ih, List.isPrefixOf_iff_prefix, List.infix_cons_iff]

/-- How an occurrence has to stand in the text to count. -/
inductive Bound where
  /-- A word of its own. -/
  | word
  /-- The start of a word. -/
  | stem
  deriving DecidableEq, Repr

/-- An occurrence with these neighbours counts. -/
def Bound.admits (b : Bound) (before after : Option Char) : Bool :=
  isEdge before && (b = .stem || isEdge after)

/-- Some occurrence of `part` counts. Occurrences are tried from left to right and
do not overlap: `skip` characters still belong to the one tried last. `before` is the
character in front of the text. -/
def boundedAfter (b : Bound) (part : Text) (before : Option Char) : (skip : Nat) → Text → Bool
  | _, [] => false
  | skip + 1, c :: rest => boundedAfter b part (some c) skip rest
  | 0, c :: rest =>
    if part.isPrefixOf (c :: rest) then
      b.admits before ((c :: rest).drop part.length).head? ||
        boundedAfter b part (some c) (part.length - 1) rest
    else boundedAfter b part (some c) 0 rest

/-- Some occurrence of a part that is not empty counts. -/
def bounded (b : Bound) (part t : Text) : Bool :=
  !part.isEmpty && boundedAfter b part none 0 t

/-- `word` stands in the text with no word character on either side. -/
def containsWord (t word : Text) : Bool :=
  bounded .word word t

/-- A word of the text starts with `stem`. -/
def containsStem (t stem : Text) : Bool :=
  bounded .stem stem t

end CueStream.Text
