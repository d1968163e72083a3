-- Where a JSON text can be cut. Two texts can be put side by side where no
-- numeral goes on, and a text can be cut between any two of its words.
import CueStream.Proofs.Json.Local

namespace CueStream.Json.Token

/-! ## All words of a text -/

/-- The first word can be put in front of any text that goes on alike. -/
theorem exists_word {c : Char} {t rest : Text} {k : Token} (hc : isSpace c = false)
    (h : first? (c :: t) = some (k, rest)) : ∃ word, c :: t = word ++ rest ∧
      ∀ more, Apart more ∨ more.head? = rest.head? →
        all? (word ++ more) = (all? more).map (k :: ·) := by
  obtain ⟨front, ht, hfront⟩ := local_first? (c :: t) k rest h
  obtain ⟨d, front, rfl⟩ := exists_cons_of_front ht (length_of_first? h)
  cases ht
  refine ⟨c :: front, rfl, fun more hm => all?_word ?_ (hfront more hm)⟩
  rintro d ⟨⟩
  exact hc

/-- Two texts side by side have the words of both, unless a numeral goes on into the second. -/
theorem all?_append {t s : Text} {ws : List Token} (h : all? t = some ws) (hs : Apart s) :
    all? (t ++ s) = (all? s).map (ws ++ ·) := by
  fun_induction all? t generalizing ws with
  | case1 =>
    cases h
    simp
  | case2 c t hc ih => rw [List.cons_append, all?_space hc, ih h]
  | case3 => cases h
  | case4 c t hc k rest hfirst _ ih =>
    obtain ⟨ks, hks, rfl⟩ := Option.map_eq_some_iff.mp h
    obtain ⟨word, ht, hword⟩ := exists_word (Bool.eq_false_iff.mpr hc) hfirst
    have hbehind : Apart (rest ++ s) ∨ (rest ++ s).head? = rest.head? := by
      cases rest with
      | nil => exact .inl hs
      | cons d rest => exact .inr rfl
    rw [ht, List.append_assoc, hword _ hbehind, ih hks, Option.map_map]
    rfl

/-- A text can be cut between any two of its words. -/
theorem exists_cut {t : Text} {ws vs : List Token} (h : all? t = some (ws ++ vs)) :
    ∃ a b, t = a ++ b ∧ all? a = some ws ∧ all? b = some vs := by
  fun_induction all? t generalizing ws with
  | case1 =>
    obtain ⟨rfl, rfl⟩ := List.append_eq_nil_iff.mp (Option.some.inj h).symm
    exact ⟨[], [], rfl, all?.eq_1, all?.eq_1⟩
  | case2 c t hc ih =>
    obtain ⟨a, b, rfl, ha, hb⟩ := ih h
    exact ⟨c :: a, b, rfl, (all?_space hc a).trans ha, hb⟩
  | case3 => cases h
  | case4 c t hc k rest hfirst _ ih =>
    obtain ⟨word, ht, hword⟩ := exists_word (Bool.eq_false_iff.mpr hc) hfirst
    obtain ⟨ks, hks, hws⟩ := Option.map_eq_some_iff.mp h
    -- The cut lies in front of the first word, or somewhere behind it.
    cases ws with
    | nil =>
      refine ⟨[], c :: t, rfl, all?.eq_1, ?_⟩
      rw [ht, hword rest (.inr rfl), hks, Option.map_some, hws, List.nil_append]
    | cons k' ws =>
      obtain ⟨rfl, rfl⟩ := List.cons.inj hws
      obtain ⟨a, b, rfl, ha, hb⟩ := ih hks
      refine ⟨word ++ a, b, by rw [ht, List.append_assoc], ?_, hb⟩
      have hbehind : Apart a ∨ a.head? = (a ++ b).head? := by
        cases a with
        | nil => exact .inl apart_nil
        | cons d a => exact .inr rfl
      rw [hword a hbehind, ha, Option.map_some]

/-! ## Blanks and signs -/

/-- Nothing but the blanks of a JSON text. -/
def Spaces (t : Text) : Prop :=
  ∀ c ∈ t, isSpace c = true

theorem all?_spaces {t : Text} (h : Spaces t) (rest : Text) : all? (t ++ rest) = all? rest := by
  induction t with
  | nil => rfl
  | cons c t ih =>
    obtain ⟨hc, ht⟩ := List.forall_mem_cons.mp h
    rw [List.cons_append, all?_space hc, ih ht]

theorem all?_eq_nil_iff {t : Text} : all? t = some [] ↔ Spaces t := by
  constructor
  · intro h
    fun_induction all? t with
    | case1 => nofun
    | case2 c t hc ih => exact List.forall_mem_cons.mpr ⟨hc, ih h⟩
    | case3 => cases h
    | case4 =>
      obtain ⟨ks, -, hks⟩ := Option.map_eq_some_iff.mp h
      cases hks
  · intro h
    have hall := all?_spaces h []
    rwa [List.append_nil, all?.eq_1] at hall

theorem apart_spaces {t : Text} (h : Spaces t) : Apart t := by
  intro c hc
  have hspace := h c (List.mem_of_mem_head? hc)
  simp only [isSpace, Bool.or_eq_true, decide_eq_true_eq] at hspace
  rcases hspace with ((rfl | rfl) | rfl) | rfl <;> decide

/-- The character of a word that is a bracket, a comma or a colon. -/
def sign? : Token → Option Char
  | .openArray => some '['
  | .closeArray => some ']'
  | .openObject => some '\x7b'
  | .closeObject => some '\x7d'
  | .comma => some ','
  | .colon => some ':'
  | .string _ => none
  | .scalar _ => none

variable {k : Token} {c : Char}

theorem all?_cons_sign (hk : sign? k = some c) (rest : Text) :
    all? (c :: rest) = (all? rest).map (k :: ·) := by
  cases k <;> cases hk <;> exact all?_sign rfl (fun rest => by rw [first?]) rest

theorem apart_sign (hk : sign? k = some c) (rest : Text) : Apart (c :: rest) := by
  rintro d ⟨⟩
  cases k <;> cases hk <;> decide

/-- What is read as a sign is that character. -/
theorem eq_of_first?_sign (hk : sign? k = some c) {t rest : Text} (h : first? t = some (k, rest)) :
    t = c :: rest := by
  unfold first? at h
  split at h
  case h_7 =>
    obtain ⟨p, -, hp⟩ := Option.map_eq_some_iff.mp h
    cases hp
    cases hk
  case h_11 =>
    obtain ⟨p, -, hp⟩ := Option.map_eq_some_iff.mp h
    cases hp
    cases hk
  all_goals
    cases h
    cases hk <;> rfl

/-- A sign between two texts. -/
theorem all?_append_sign (hk : sign? k = some c) {a b : Text} {ws vs : List Token}
    (ha : all? a = some ws) (hb : all? b = some vs) :
    all? (a ++ c :: b) = some (ws ++ k :: vs) := by
  rw [all?_append ha (apart_sign hk b), all?_cons_sign hk, hb, Option.map_some, Option.map_some]

/-- A sign at the front of a text, behind blanks. -/
theorem exists_sign (hk : sign? k = some c) {t : Text} {vs : List Token}
    (h : all? t = some (k :: vs)) :
    ∃ blanks b, t = blanks ++ c :: b ∧ Spaces blanks ∧ all? b = some vs := by
  fun_induction all? t with
  | case1 => cases h
  | case2 d t hd ih =>
    obtain ⟨blanks, b, rfl, hblanks, hb⟩ := ih h
    exact ⟨d :: blanks, b, rfl, List.forall_mem_cons.mpr ⟨hd, hblanks⟩, hb⟩
  | case3 => cases h
  | case4 d t hd k' rest hfirst _ ih =>
    obtain ⟨ks, hks, heq⟩ := Option.map_eq_some_iff.mp h
    cases heq
    exact ⟨[], rest, eq_of_first?_sign hk hfirst, nofun, hks⟩

/-- A text can be cut at each of its signs. -/
theorem exists_cut_sign (hk : sign? k = some c) {t : Text} {ws vs : List Token}
    (h : all? t = some (ws ++ k :: vs)) :
    ∃ a b, t = a ++ c :: b ∧ all? a = some ws ∧ all? b = some vs := by
  obtain ⟨a, s, rfl, ha, hs⟩ := exists_cut h
  obtain ⟨blanks, b, rfl, hblanks, hb⟩ := exists_sign hk hs
  refine ⟨a ++ blanks, b, (List.append_assoc ..).symm, ?_, hb⟩
  rw [all?_append ha (apart_spaces hblanks), all?_eq_nil_iff.mpr hblanks, Option.map_some,
    List.append_nil]

end CueStream.Json.Token
