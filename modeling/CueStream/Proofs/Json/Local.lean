-- What is read from the front of a JSON text, be it a string, a numeral or any
-- other word, depends on what comes behind it by the next character at most.
import CueStream.Proofs.Json.Rereading

namespace CueStream.Json.Token

/-! ## Reading from the front -/

/-- What is read from the front of a text is the same before any other text that starts alike, and
before any text that no numeral goes on with. -/
def Local {α : Type} (read : Text → Option (α × Text)) : Prop :=
  ∀ t a rest, read t = some (a, rest) → ∃ front, t = front ++ rest ∧
    ∀ more, Apart more ∨ more.head? = rest.head? → read (front ++ more) = some (a, more)

theorem apart_nil : Apart [] := nofun

/-- Behind a front part the texts start alike, or there is no front part. -/
theorem alike_append {more rest : Text} (front : Text) (h : Apart more ∨ more.head? = rest.head?) :
    Apart (front ++ more) ∨ (front ++ more).head? = (front ++ rest).head? := by
  cases front with
  | nil => exact h
  | cons c front => exact .inr rfl

theorem Local.map {α β : Type} {read : Text → Option (α × Text)} (h : Local read) (f : α → β) :
    Local fun t => (read t).map fun p => (f p.1, p.2) := by
  intro t b rest hb
  simp only [Option.map_eq_some_iff, Prod.exists, Prod.mk.injEq] at hb
  obtain ⟨a, rest', ha, rfl, rfl⟩ := hb
  obtain ⟨front, ht, hmore⟩ := h t a _ ha
  refine ⟨front, ht, fun more hm => ?_⟩
  simp only [hmore more hm, Option.map_some]

/-- A character in front that settles how the rest is read. -/
theorem Local.behind {α : Type} {inner : Text → Option (α × Text)} (hinner : Local inner)
    (read : Text → Option (α × Text)) (c : Char) (hread : ∀ t, read (c :: t) = inner t)
    {t rest : Text} {a : α} (h : read (c :: t) = some (a, rest)) : ∃ front, c :: t = front ++ rest ∧
      ∀ more, Apart more ∨ more.head? = rest.head? → read (front ++ more) = some (a, more) := by
  rw [hread] at h
  obtain ⟨front, rfl, hfront⟩ := hinner t a rest h
  exact ⟨c :: front, rfl, fun more hm => (hread _).trans (hfront more hm)⟩

/-! ## Strings -/

theorem local_pieces? : Local pieces? := by
  intro t ps rest h
  -- A string ends with its quote, whatever comes behind it, so each case only puts its own
  -- characters in front of what the rest of the string takes.
  fun_induction pieces? t generalizing ps rest with
  | case1 => cases h
  | case2 t =>
    cases h
    exact ⟨['"'], rfl, fun more _ => rfl⟩
  | case3 a b c d t ih =>
    simp only [Option.bind_eq_some_iff, Option.map_eq_some_iff, Prod.exists, Prod.mk.injEq] at h
    obtain ⟨n, hn, qs, rest', hqs, rfl, rfl⟩ := h
    obtain ⟨front, rfl, hfront⟩ := ih qs rest' hqs
    refine ⟨'\\' :: 'u' :: a :: b :: c :: d :: front, rfl, fun more hm => ?_⟩
    show pieces? ('\\' :: 'u' :: a :: b :: c :: d :: (front ++ more)) = _
    rw [pieces?_unit hn, hfront more hm, Option.map_some]
  | case4 e t _ ih =>
    simp only [Option.bind_eq_some_iff, Option.map_eq_some_iff, Prod.exists, Prod.mk.injEq] at h
    obtain ⟨c, hc, qs, rest', hqs, rfl, rfl⟩ := h
    obtain ⟨front, rfl, hfront⟩ := ih qs rest' hqs
    refine ⟨'\\' :: e :: front, rfl, fun more hm => ?_⟩
    show pieces? ('\\' :: e :: (front ++ more)) = _
    rw [pieces?_letter hc, hfront more hm, Option.map_some]
  | case5 => cases h
  | case6 c t hquote hunit hback hc ih =>
    simp only [Option.map_eq_some_iff, Prod.exists, Prod.mk.injEq] at h
    obtain ⟨qs, rest', hqs, rfl, rfl⟩ := h
    have hslash : c ≠ '\\' := by
      intro heq
      cases t with
      | nil => cases hqs
      | cons d t => exact hback d t heq rfl
    obtain ⟨front, rfl, hfront⟩ := ih qs rest' hqs
    refine ⟨c :: front, rfl, fun more hm => ?_⟩
    show pieces? (c :: (front ++ more)) = _
    rw [pieces?_cons hquote hslash hc, hfront more hm, Option.map_some]

/-! ## Numbers -/

theorem local_digits? : Local digits? := by
  intro t ds rest h
  have hsplit := List.takeWhile_append_dropWhile (p := Char.isDigit) (l := t)
  have hdigits : ∀ c ∈ t.takeWhile Char.isDigit, c.isDigit :=
    List.all_eq_true.mp List.all_takeWhile
  -- The one reader that looks ahead: digits end where no digit comes next.
  have hend : ∀ c ∈ (t.dropWhile Char.isDigit).head?, c.isDigit = false := by
    intro c hc
    have := List.head?_dropWhile_not Char.isDigit t
    rw [hc] at this
    simpa using this
  unfold digits? at h
  split at h
  · cases h
  · rename_i hne
    cases h
    refine ⟨_, hsplit.symm, fun more hm => digits?_append hne hdigits fun c hc => ?_⟩
    rcases hm with hm | hm
    · exact (hm c hc).1
    · exact hend c (hm ▸ hc)

theorem local_fraction? : Local fraction? := by
  intro t f rest h
  unfold fraction? at h
  split at h
  · exact local_digits?.behind fraction? '.' (fun _ => rfl) h
  · rename_i hpoint
    cases h
    refine ⟨[], rfl, fun more hm => ?_⟩
    show fraction? more = _
    unfold fraction?
    split
    · rcases hm with hm | hm
      · exact absurd rfl (hm '.' rfl).2.1
      · cases t with
        | nil => cases hm
        | cons c t =>
          cases hm
          exact absurd rfl (hpoint t)
    · rfl

theorem exponent?_plus {c : Char} (hc : c = 'e' ∨ c = 'E') (t : Text) :
    exponent? (c :: '+' :: t) = (digits? t).map fun p => (some (false, p.1), p.2) := by
  unfold exponent?
  exact if_pos hc

theorem exponent?_minus {c : Char} (hc : c = 'e' ∨ c = 'E') (t : Text) :
    exponent? (c :: '-' :: t) = (digits? t).map fun p => (some (true, p.1), p.2) := by
  unfold exponent?
  exact if_pos hc

/-- A digit right behind the mark. -/
theorem exponent?_digit {c d : Char} (hc : c = 'e' ∨ c = 'E') (hd : d.isDigit) (t : Text) :
    exponent? (c :: d :: t) = (digits? (d :: t)).map fun p => (some (false, p.1), p.2) := by
  unfold exponent?
  dsimp only
  rw [if_pos hc]
  split
  · rename_i heq
    cases heq
    cases hd
  · rename_i heq
    cases heq
    cases hd
  · rfl

theorem exponent?_of_not_mark {t : Text} (h : ∀ c ∈ t.head?, c ≠ 'e' ∧ c ≠ 'E') :
    exponent? t = some (none, t) := by
  cases t with
  | nil => rfl
  | cons c t =>
    unfold exponent?
    dsimp only
    rw [if_neg (not_or.mpr (h c rfl))]

/-- What is read as digits starts with one. -/
theorem head_of_digits? {t rest ds : Text} (h : digits? t = some (ds, rest)) :
    ∃ d more, t = d :: more ∧ d.isDigit := by
  unfold digits? at h
  cases t with
  | nil => cases h
  | cons d t =>
    refine ⟨d, t, rfl, ?_⟩
    cases hd : d.isDigit with
    | true => rfl
    | false =>
      rw [List.takeWhile_cons_of_neg (by simp [hd])] at h
      cases h

/-- The power of ten behind its mark. -/
theorem local_power {c : Char} (hc : c = 'e' ∨ c = 'E') : Local fun t => exponent? (c :: t) := by
  intro t e rest h
  have hread := h
  unfold exponent? at hread
  dsimp only at hread
  rw [if_pos hc] at hread
  split at hread
  · exact (local_digits?.map fun ds => some (false, ds)).behind (fun t => exponent? (c :: t)) '+'
      (exponent?_plus hc) h
  · exact (local_digits?.map fun ds => some (true, ds)).behind (fun t => exponent? (c :: t)) '-'
      (exponent?_minus hc) h
  · obtain ⟨⟨ds, rest'⟩, hds, heq⟩ := Option.map_eq_some_iff.mp hread
    cases heq
    obtain ⟨front, rfl, hfront⟩ := local_digits? t ds rest' hds
    have hself := hfront [] (.inl apart_nil)
    rw [List.append_nil] at hself
    obtain ⟨d, more', rfl, hd⟩ := head_of_digits? hself
    refine ⟨d :: more', rfl, fun more hm => ?_⟩
    show exponent? (c :: d :: (more' ++ more)) = _
    rw [exponent?_digit hc hd, ← List.cons_append, hfront more hm, Option.map_some]

theorem local_exponent? : Local exponent? := by
  intro t e rest h
  by_cases hmark : ∃ c more, t = c :: more ∧ (c = 'e' ∨ c = 'E')
  · obtain ⟨c, more, rfl, hc⟩ := hmark
    exact (local_power hc).behind exponent? c (fun _ => rfl) h
  · have hnone : ∀ c ∈ t.head?, c ≠ 'e' ∧ c ≠ 'E' := by
      intro c hc
      obtain ⟨more, rfl⟩ := List.head?_eq_some_iff.mp hc
      exact not_or.mp fun hc => hmark ⟨c, more, rfl, hc⟩
    rw [exponent?_of_not_mark hnone] at h
    cases h
    refine ⟨[], rfl, fun more hm => exponent?_of_not_mark fun c hc => ?_⟩
    rcases hm with hm | hm
    · exact (hm c hc).2.2
    · exact hnone c (hm ▸ hc)

theorem local_unsigned? (negative : Bool) : Local (unsigned? negative) := by
  intro t n rest h
  simp only [unsigned?, Option.bind_eq_bind, Option.bind_eq_some_iff, Prod.exists] at h
  obtain ⟨whole, behindWhole, hwhole, h⟩ := h
  split at h
  · cases h
  · rename_i hzero
    simp only [Option.bind_eq_some_iff, Option.pure_def, Option.some.injEq, Prod.exists,
      Prod.mk.injEq] at h
    obtain ⟨fraction, behindFraction, hfraction, exponent, _, hexponent, rfl, rfl⟩ := h
    obtain ⟨front, rfl, hfront⟩ := local_digits? t whole behindWhole hwhole
    obtain ⟨point, rfl, hpoint⟩ := local_fraction? behindWhole fraction behindFraction hfraction
    obtain ⟨power, rfl, hpower⟩ := local_exponent? behindFraction exponent _ hexponent
    refine ⟨front ++ (point ++ power), by simp only [List.append_assoc], fun more hm => ?_⟩
    have hm' := alike_append power hm
    simp only [List.append_assoc, unsigned?, hfront _ (alike_append point hm'), hpoint _ hm',
      hpower more hm, Option.bind_eq_bind, Option.bind_some]
    rw [if_neg hzero]
    rfl

/-- A text in front of which something is read that takes at least a character. -/
theorem exists_cons_of_front {t front rest : Text} (ht : t = front ++ rest)
    (hlength : rest.length < t.length) : ∃ c front', front = c :: front' := by
  cases front with
  | nil => exact absurd hlength (by simp [ht])
  | cons c front' => exact ⟨c, front', rfl⟩

theorem numeral?_of_not_minus {c : Char} (hc : c ≠ '-') (t : Text) :
    numeral? (c :: t) = unsigned? false (c :: t) := by
  unfold numeral?
  split
  · rename_i heq
    cases heq
    exact absurd rfl hc
  · rfl

theorem local_numeral? : Local numeral? := by
  intro t n rest h
  cases t with
  | nil => cases h
  | cons c t =>
    by_cases hc : c = '-'
    · subst hc
      exact (local_unsigned? true).behind numeral? '-' (fun _ => rfl) h
    · rw [numeral?_of_not_minus hc] at h
      obtain ⟨front, ht, hfront⟩ := local_unsigned? false (c :: t) n rest h
      obtain ⟨d, front, rfl⟩ := exists_cons_of_front ht (length_of_unsigned? h)
      cases ht
      refine ⟨c :: front, rfl, fun more hm => ?_⟩
      rw [← hfront more hm]
      exact numeral?_of_not_minus hc (front ++ more)

/-- A numeral starts with its sign or a digit. -/
theorem head_of_numeral? {t rest : Text} {n : Numeral} (h : numeral? t = some (n, rest)) :
    ∃ c more, t = c :: more ∧ (c = '-' ∨ c.isDigit) := by
  cases t with
  | nil => cases h
  | cons c t =>
    refine ⟨c, t, rfl, ?_⟩
    by_cases hc : c = '-'
    · exact .inl hc
    · rw [numeral?_of_not_minus hc] at h
      simp only [unsigned?, Option.bind_eq_bind, Option.bind_eq_some_iff, Prod.exists] at h
      obtain ⟨whole, behind, hwhole, -⟩ := h
      obtain ⟨d, more, heq, hd⟩ := head_of_digits? hwhole
      cases heq
      exact .inr hd

/-! ## Words -/

theorem local_first? : Local first? := by
  intro t k rest h
  unfold first? at h
  split at h
  case h_7 =>
    exact (local_pieces?.map fun ps => Token.string (spelled? ps)).behind first? '"' first?_string
      ((first?_string _).trans h)
  case h_11 =>
    obtain ⟨⟨n, _⟩, hn, heq⟩ := Option.map_eq_some_iff.mp h
    cases heq
    obtain ⟨front, ht, hfront⟩ := local_numeral? _ n _ hn
    obtain ⟨c, front, rfl⟩ := exists_cons_of_front ht (length_of_numeral? hn)
    obtain ⟨d, more, hd, hdigit⟩ := head_of_numeral? hn
    cases ht.symm.trans hd
    refine ⟨_, ht, fun more hm => ?_⟩
    have hread := hfront more hm
    rw [List.cons_append] at hread ⊢
    rw [first?_digit hdigit, hread, Option.map_some]
  case h_8 =>
    cases h
    refine ⟨"null".toList, rfl, fun more _ => ?_⟩
    show first? ('n' :: 'u' :: 'l' :: 'l' :: more) = _
    rw [first?]
  case h_9 =>
    cases h
    refine ⟨"true".toList, rfl, fun more _ => ?_⟩
    show first? ('t' :: 'r' :: 'u' :: 'e' :: more) = _
    rw [first?]
  case h_10 =>
    cases h
    refine ⟨"false".toList, rfl, fun more _ => ?_⟩
    show first? ('f' :: 'a' :: 'l' :: 's' :: 'e' :: more) = _
    rw [first?]
  all_goals
    cases h
    exact ⟨[_], rfl, fun more _ => by rw [List.singleton_append, first?]⟩

end CueStream.Json.Token
