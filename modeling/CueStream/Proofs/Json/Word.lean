-- The words of a JSON text are read as they were written: a string with all
-- its escapes, and a number digit by digit.
import CueStream.Json.Printer
import CueStream.Json.Token
import CueStream.Proofs.Number.Digits

namespace CueStream

namespace Json.Token

/-! ## Strings -/

/-- The four digits of a control character. -/
theorem unit?_hexDigit : ∀ n < 32, unit? '0' '0' (hexDigit (n / 16)) (hexDigit (n % 16)) = some n := by
  decide

/-- A character that is written with its number. -/
theorem pieces?_unit {a b c d : Char} {n : Nat} (hn : unit? a b c d = some n) (rest : Text) :
    pieces? ('\\' :: 'u' :: a :: b :: c :: d :: rest) =
      (pieces? rest).map fun p => (.unit n :: p.1, p.2) := by
  rw [pieces?, hn, Option.bind_some]

/-- A character that is not escaped. -/
theorem pieces?_cons {c : Char} (hquote : c ≠ '"') (hback : c ≠ '\\') (hc : ¬ c < ' ')
    (rest : Text) : pieces? (c :: rest) = (pieces? rest).map fun p => (.char c :: p.1, p.2) := by
  rw [pieces?.eq_def]
  split
  case h_5 heq =>
    cases heq
    rw [if_neg hc]
  all_goals simp_all

/-- A number that is not that of a half of a character. -/
theorem spelled?_unit_cons {n : Nat} (hn : n < 32) (ps : List Piece) :
    spelled? (.unit n :: ps) = (spelled? ps).map (Char.ofNat n :: ·) := by
  have hhigh : isHighHalf n = false := by
    unfold isHighHalf
    simp only [Bool.and_eq_false_iff, decide_eq_false_iff_not]
    omega
  have hlow : isLowHalf n = false := by
    unfold isLowHalf
    simp only [Bool.and_eq_false_iff, decide_eq_false_iff_not]
    omega
  cases ps with
  | nil => simp [spelled?, hhigh, hlow]
  | cons p ps => cases p <;> simp [spelled?, hhigh, hlow]

/-- A character that has a letter of its own. -/
theorem pieces?_letter {e c : Char} (hc : escaped? e = some c) (rest : Text) :
    pieces? ('\\' :: e :: rest) = (pieces? rest).map fun p => (.char c :: p.1, p.2) := by
  rw [pieces?.eq_def]
  split
  case h_3 heq =>
    cases heq
    cases hc
  case h_4 heq =>
    cases heq
    rw [hc]
    rfl
  case h_5 hescape heq =>
    cases heq
    exact absurd rfl (hescape e rest rfl)
  all_goals rename_i heq; cases heq

/-- Each character is read as one piece, and that piece spells it. -/
theorem exists_piece (c : Char) :
    ∃ p, (∀ rest, pieces? (escaped c ++ rest) = (pieces? rest).map fun q => (p :: q.1, q.2)) ∧
      ∀ ps, spelled? (p :: ps) = (spelled? ps).map (c :: ·) := by
  unfold escaped
  split
  case h_8 hquote hback _ _ _ _ _ =>
    split
    · rename_i hc
      have hn : c.toNat < 32 := hc
      refine ⟨.unit c.toNat, pieces?_unit (unit?_hexDigit c.toNat hn), fun ps => ?_⟩
      rw [spelled?_unit_cons hn, Char.ofNat_toNat]
    · rename_i hc
      exact ⟨.char c, pieces?_cons hquote hback hc, fun _ => rfl⟩
  all_goals exact ⟨.char _, pieces?_letter rfl, fun _ => rfl⟩

theorem exists_pieces (t rest : Text) :
    ∃ ps, pieces? (t.flatMap escaped ++ '"' :: rest) = some (ps, rest) ∧ spelled? ps = some t := by
  induction t with
  | nil => exact ⟨[], rfl, rfl⟩
  | cons c t ih =>
    obtain ⟨p, hread, hspell⟩ := exists_piece c
    obtain ⟨ps, hpieces, hspelled⟩ := ih
    refine ⟨p :: ps, ?_, ?_⟩
    · rw [List.flatMap_cons, List.append_assoc, hread, hpieces]
      rfl
    · rw [hspell, hspelled]
      rfl

theorem first?_string (rest : Text) :
    first? ('"' :: rest) = (pieces? rest).map fun p => (.string (spelled? p.1), p.2) := by
  rw [first?]

/-- A string is read as it was written, also one that spells no text. -/
theorem first?_quote (content : Option Text) (rest : Text) :
    first? (quote content ++ rest) = some (.string content, rest) := by
  cases content with
  | none =>
    have hquote : quote none = ['"', '\\', 'u', 'd', '8', '0', '0', '"'] := by decide
    have hunit : unit? 'd' '8' '0' '0' = some 0xD800 := by decide
    have hspelled : spelled? [.unit 0xD800] = none := by decide
    rw [hquote]
    show first? ('"' :: '\\' :: 'u' :: 'd' :: '8' :: '0' :: '0' :: '"' :: rest) = _
    rw [first?_string, pieces?_unit hunit, pieces?, Option.map_some, Option.map_some, hspelled]
  | some t =>
    obtain ⟨ps, hpieces, hspelled⟩ := exists_pieces t rest
    have hquote : quote (some t) ++ rest = '"' :: (t.flatMap escaped ++ '"' :: rest) := by
      show ('"' :: t.flatMap escaped ++ ['"']) ++ rest = _
      rw [List.append_assoc]
      rfl
    rw [hquote, first?_string, hpieces, Option.map_some, hspelled]

/-! ## Numbers -/

/-- No numeral goes on with this text. -/
def Apart (rest : Text) : Prop :=
  ∀ c ∈ rest.head?, c.isDigit = false ∧ c ≠ '.' ∧ c ≠ 'e' ∧ c ≠ 'E'

theorem digits?_append {ds rest : Text} (hne : ds ≠ []) (hds : ∀ c ∈ ds, c.isDigit)
    (hrest : ∀ c ∈ rest.head?, c.isDigit = false) : digits? (ds ++ rest) = some (ds, rest) := by
  have hnone : rest.takeWhile Char.isDigit = [] ∧ rest.dropWhile Char.isDigit = rest := by
    cases rest with
    | nil => exact ⟨rfl, rfl⟩
    | cons c more => simp [hrest c rfl]
  rw [digits?, List.takeWhile_append_of_pos hds, List.dropWhile_append_of_pos hds, hnone.1, hnone.2,
    List.append_nil]
  cases ds with
  | nil => exact absurd rfl hne
  | cons c more => rfl

/-- The power of ten at the end of a numeral. -/
def exponentText : Option (Bool × Text) → Text
  | none => []
  | some (negative, digits) => 'e' :: (if negative then '-' else '+') :: digits

theorem text_eq (n : Numeral) :
    n.text = (if n.negative then ['-'] else []) ++ n.whole ++
      (if n.fraction = [] then [] else '.' :: n.fraction) ++ exponentText n.exponent := by
  unfold Numeral.text exponentText
  split <;> rfl

theorem exponent?_append {e : Option (Bool × Text)}
    (he : ∀ p ∈ e, p.2 ≠ [] ∧ ∀ c ∈ p.2, c.isDigit) {rest : Text} (hrest : Apart rest) :
    exponent? (exponentText e ++ rest) = some (e, rest) := by
  have hend : ∀ c ∈ rest.head?, c.isDigit = false := fun c hc => (hrest c hc).1
  cases e with
  | none =>
    cases rest with
    | nil => rfl
    | cons c more =>
      obtain ⟨-, -, hlower, hupper⟩ := hrest c rfl
      show exponent? (c :: more) = _
      unfold exponent?
      dsimp only
      rw [if_neg (not_or.mpr ⟨hlower, hupper⟩)]
  | some p =>
    obtain ⟨negative, digits⟩ := p
    obtain ⟨hne, hdigits⟩ := he _ rfl
    cases negative <;>
      simp [exponentText, exponent?, digits?_append hne hdigits hend]

theorem fraction?_append {fraction rest : Text} (hfraction : ∀ c ∈ fraction, c.isDigit)
    (hrest : ∀ c ∈ rest.head?, c.isDigit = false ∧ c ≠ '.') :
    fraction? ((if fraction = [] then [] else '.' :: fraction) ++ rest) = some (fraction, rest) := by
  split
  · rename_i hnone
    rw [hnone, List.nil_append]
    unfold fraction?
    split
    · exact absurd rfl (hrest '.' rfl).2
    · rfl
  · rename_i hsome
    exact digits?_append hsome hfraction fun c hc => (hrest c hc).1

/-- What comes behind the digits of a fraction. -/
theorem head_exponentText (e : Option (Bool × Text)) {rest : Text} (hrest : Apart rest) :
    ∀ c ∈ (exponentText e ++ rest).head?, c.isDigit = false ∧ c ≠ '.' := by
  cases e with
  | none =>
    intro c hc
    exact ⟨(hrest c hc).1, (hrest c hc).2.1⟩
  | some p =>
    intro c hc
    cases hc
    decide

theorem unsigned?_text {n : Numeral} (h : n.Proper) {rest : Text} (hrest : Apart rest) :
    unsigned? n.negative (n.whole ++ ((if n.fraction = [] then [] else '.' :: n.fraction) ++
        (exponentText n.exponent ++ rest))) = some (n, rest) := by
  have hbehind := head_exponentText n.exponent hrest
  have hpoint : ∀ c ∈ ((if n.fraction = [] then [] else '.' :: n.fraction) ++
      (exponentText n.exponent ++ rest)).head?, c.isDigit = false := by
    split
    · exact fun c hc => (hbehind c hc).1
    · intro c hc
      cases hc
      rfl
  have hwhole := digits?_append h.whole.1 h.whole.2 hpoint
  have hsingle : ¬ (n.whole.head? = some '0' ∧ n.whole.length ≠ 1) :=
    fun hlead => hlead.2 (h.single hlead.1)
  simp only [unsigned?, hwhole, Option.bind_eq_bind, Option.bind_some]
  rw [if_neg hsingle]
  simp only [fraction?_append h.fraction hbehind, exponent?_append h.exponent hrest,
    Option.bind_some]
  rfl

/-- A numeral is read as it was written. -/
theorem numeral?_text {n : Numeral} (h : n.Proper) {rest : Text} (hrest : Apart rest) :
    numeral? (n.text ++ rest) = some (n, rest) := by
  have hread := unsigned?_text h hrest
  rw [text_eq]
  simp only [List.append_assoc]
  cases hn : n.negative with
  | true =>
    rw [hn] at hread
    exact hread
  | false =>
    rw [hn] at hread
    obtain ⟨⟨hne, hdigits⟩, -, -, -⟩ := h
    cases hwhole : n.whole with
    | nil => exact absurd hwhole hne
    | cons c more =>
      rw [hwhole] at hread
      have hc : c.isDigit := hdigits c (by simp [hwhole])
      simp only [List.cons_append] at hread ⊢
      unfold numeral?
      split
      · rename_i hminus
        cases hminus
        cases hc
      · exact hread

end Json.Token

end CueStream
