-- The words of a JSON text: brackets, commas and colons, and the values that
-- have no parts. Blanks between them are spaces, tabs and the two line ends.
import CueStream.Json.Basic

namespace CueStream.Json

/-- A word of a JSON text. -/
inductive Token where
  | openArray
  | closeArray
  | openObject
  | closeObject
  | comma
  | colon
  | string (content : Option Text)
  /-- A value that is neither a string nor made of parts. -/
  | scalar (v : Json)
  deriving Repr

namespace Token

/-! ## Strings -/

/-- A piece of a string: a character, or an escape that names half of one. -/
inductive Piece where
  | char (c : Char)
  | unit (n : Nat)
  deriving DecidableEq, Repr

/-- The number in four hexadecimal digits. -/
def unit? (a b c d : Char) : Option Nat := do
  let a ← Text.hexDigit? a
  let b ← Text.hexDigit? b
  let c ← Text.hexDigit? c
  let d ← Text.hexDigit? d
  return ((a * 16 + b) * 16 + c) * 16 + d

/-- The character behind a backslash. -/
def escaped? : Char → Option Char
  | '"' => some '"'
  | '\\' => some '\\'
  | '/' => some '/'
  | 'b' => some '\x08'
  | 'f' => some '\x0c'
  | 'n' => some '\n'
  | 'r' => some '\r'
  | 't' => some '\t'
  | _ => none

/-- The pieces of a string up to its closing quote, and the text behind that. A control
character may not stand in it. -/
def pieces? : Text → Option (List Piece × Text)
  | [] => none
  | '"' :: rest => some ([], rest)
  | '\\' :: 'u' :: a :: b :: c :: d :: rest =>
    (unit? a b c d).bind fun n => (pieces? rest).map fun p => (.unit n :: p.1, p.2)
  | '\\' :: c :: rest =>
    (escaped? c).bind fun c => (pieces? rest).map fun p => (.char c :: p.1, p.2)
  | c :: rest =>
    if c < ' ' then none else (pieces? rest).map fun p => (.char c :: p.1, p.2)

def isHighHalf (n : Nat) : Bool := 0xD800 ≤ n && n ≤ 0xDBFF

def isLowHalf (n : Nat) : Bool := 0xDC00 ≤ n && n ≤ 0xDFFF

/-- The text that the pieces spell. Two halves side by side make one character. -/
def spelled? : List Piece → Option Text
  | [] => some []
  | .char c :: rest => (spelled? rest).map (c :: ·)
  | .unit hi :: .unit lo :: rest =>
    if isHighHalf hi then
      if isLowHalf lo then
        (spelled? rest).map (Char.ofNat (0x10000 + (hi - 0xD800) * 0x400 + (lo - 0xDC00)) :: ·)
      else none
    else if isLowHalf hi then none
    else (spelled? (.unit lo :: rest)).map (Char.ofNat hi :: ·)
  | .unit n :: rest =>
    if isHighHalf n || isLowHalf n then none
    else (spelled? rest).map (Char.ofNat n :: ·)

/-! ## Numbers -/

/-- The digits at the start of the text, of which there has to be one, and the text behind them. -/
def digits? (t : Text) : Option (Text × Text) :=
  match t.takeWhile Char.isDigit with
  | [] => none
  | ds => some (ds, t.dropWhile Char.isDigit)

/-- The digits behind a point, if there is one. -/
def fraction? : Text → Option (Text × Text)
  | '.' :: rest => digits? rest
  | t => some ([], t)

/-- The power of ten, if there is one. -/
def exponent? : Text → Option (Option (Bool × Text) × Text)
  | c :: rest =>
    if c = 'e' ∨ c = 'E' then
      match rest with
      | '+' :: rest => (digits? rest).map fun p => (some (false, p.1), p.2)
      | '-' :: rest => (digits? rest).map fun p => (some (true, p.1), p.2)
      | rest => (digits? rest).map fun p => (some (false, p.1), p.2)
    else some (none, c :: rest)
  | [] => some (none, [])

/-- The numeral without its sign. Only a single zero may stand in front. -/
def unsigned? (negative : Bool) (t : Text) : Option (Numeral × Text) := do
  let (whole, rest) ← digits? t
  if whole.head? = some '0' ∧ whole.length ≠ 1 then none
  let (fraction, rest) ← fraction? rest
  let (exponent, rest) ← exponent? rest
  return (⟨negative, whole, fraction, exponent⟩, rest)

/-- The numeral at the start of the text, and the text behind it. -/
def numeral? : Text → Option (Numeral × Text)
  | '-' :: rest => unsigned? true rest
  | t => unsigned? false t

/-! ## Words -/

/-- Blanks of a JSON text. -/
def isSpace (c : Char) : Bool :=
  c = ' ' || c = '\t' || c = '\n' || c = '\r'

/-- The word at the start of the text, and the text behind it. -/
def first? : Text → Option (Token × Text)
  | '[' :: rest => some (.openArray, rest)
  | ']' :: rest => some (.closeArray, rest)
  | '\x7b' :: rest => some (.openObject, rest)
  | '\x7d' :: rest => some (.closeObject, rest)
  | ',' :: rest => some (.comma, rest)
  | ':' :: rest => some (.colon, rest)
  | '"' :: rest => (pieces? rest).map fun p => (.string (spelled? p.1), p.2)
  | 'n' :: 'u' :: 'l' :: 'l' :: rest => some (.scalar .null, rest)
  | 't' :: 'r' :: 'u' :: 'e' :: rest => some (.scalar (.bool true), rest)
  | 'f' :: 'a' :: 'l' :: 's' :: 'e' :: rest => some (.scalar (.bool false), rest)
  | t => (numeral? t).map fun p => (.scalar (.number p.1), p.2)

/-! ## A word takes at least one character -/

theorem length_of_pieces? {t rest : Text} {ps : List Piece} (h : pieces? t = some (ps, rest)) :
    rest.length < t.length := by
  fun_induction pieces? t generalizing ps rest with
  | case1 => cases h
  | case2 => cases h; simp
  | case3 a b c d t ih =>
    simp only [Option.bind_eq_some_iff, Option.map_eq_some_iff, Prod.exists, Prod.mk.injEq] at h
    obtain ⟨_, _, _, _, hp, _, rfl⟩ := h
    have := ih hp
    simp only [List.length_cons]
    omega
  | case4 c t _ ih =>
    simp only [Option.bind_eq_some_iff, Option.map_eq_some_iff, Prod.exists, Prod.mk.injEq] at h
    obtain ⟨_, _, _, _, hp, _, rfl⟩ := h
    have := ih hp
    simp only [List.length_cons]
    omega
  | case5 => cases h
  | case6 c t _ _ _ _ ih =>
    simp only [Option.map_eq_some_iff, Prod.exists, Prod.mk.injEq] at h
    obtain ⟨_, _, hp, _, rfl⟩ := h
    have := ih hp
    simp only [List.length_cons]
    omega

theorem length_of_digits? {t ds rest : Text} (h : digits? t = some (ds, rest)) :
    rest.length < t.length := by
  have hw := congrArg List.length (List.takeWhile_append_dropWhile (p := Char.isDigit) (l := t))
  simp only [digits?] at h
  split at h
  · cases h
  · rename_i hne
    cases h
    have := List.length_pos_iff.2 hne
    simp only [List.length_append] at hw
    omega

theorem length_of_fraction? {t ds rest : Text} (h : fraction? t = some (ds, rest)) :
    rest.length ≤ t.length := by
  unfold fraction? at h
  split at h
  · have := length_of_digits? h
    simp only [List.length_cons]
    omega
  · cases h
    simp

theorem length_of_exponent? {t rest : Text} {e : Option (Bool × Text)}
    (h : exponent? t = some (e, rest)) : rest.length ≤ t.length := by
  unfold exponent? at h
  split at h
  · split at h
    · split at h <;>
        (simp only [Option.map_eq_some_iff, Prod.exists, Prod.mk.injEq] at h
         obtain ⟨_, _, hd, _, rfl⟩ := h
         have := length_of_digits? hd
         simp only [List.length_cons]
         omega)
    · cases h
      simp
  · cases h
    simp

theorem length_of_unsigned? {negative : Bool} {t rest : Text} {n : Numeral}
    (h : unsigned? negative t = some (n, rest)) : rest.length < t.length := by
  simp only [unsigned?, Option.bind_eq_bind, Option.bind_eq_some_iff, Prod.exists] at h
  obtain ⟨whole, r1, h1, h⟩ := h
  split at h
  · cases h
  · simp only [Option.bind_eq_some_iff, Option.pure_def, Option.some.injEq, Prod.exists,
      Prod.mk.injEq] at h
    obtain ⟨_, r2, h2, _, r3, h3, _, rfl⟩ := h
    have := length_of_digits? h1
    have := length_of_fraction? h2
    have := length_of_exponent? h3
    omega

theorem length_of_numeral? {t rest : Text} {n : Numeral} (h : numeral? t = some (n, rest)) :
    rest.length < t.length := by
  unfold numeral? at h
  split at h
  · have := length_of_unsigned? h
    simp only [List.length_cons]
    omega
  · exact length_of_unsigned? h

theorem length_of_first? {t rest : Text} {k : Token} (h : first? t = some (k, rest)) :
    rest.length < t.length := by
  unfold first? at h
  split at h
  case h_7 =>
    simp only [Option.map_eq_some_iff, Prod.exists, Prod.mk.injEq] at h
    obtain ⟨_, _, hp, _, rfl⟩ := h
    have := length_of_pieces? hp
    simp only [List.length_cons]
    omega
  case h_11 =>
    simp only [Option.map_eq_some_iff, Prod.exists, Prod.mk.injEq] at h
    obtain ⟨_, _, hp, _, rfl⟩ := h
    exact length_of_numeral? hp
  all_goals
    cases h
    simp only [List.length_cons]
    omega

/-- The words of a text, if it has no other characters. -/
def all? (t : Text) : Option (List Token) :=
  match t with
  | [] => some []
  | c :: rest =>
    if isSpace c then all? rest
    else
      match h : first? (c :: rest) with
      | none => none
      | some (k, rest') =>
        have := length_of_first? h
        (all? rest').map (k :: ·)
termination_by t.length
decreasing_by all_goals simp_all

end Token

end CueStream.Json
