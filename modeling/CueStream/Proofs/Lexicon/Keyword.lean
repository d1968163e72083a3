-- When a lexicon finds something in a text, and what becomes of it in a piece
-- of the text or in a longer one. A keyword that does not depend on sigmas is
-- looked for in the text character by character.
import CueStream.Lexicon.Basic
import CueStream.Proofs.Text.Caseless
import CueStream.Proofs.Text.Occurrence

namespace CueStream.Lexicon

open Text Unicode

/-! ## Finding anything at all -/

variable {L : Type}

theorem Entry.isSome_hit?_iff (lower : Text) (e : Entry L) :
    (e.hit? lower).isSome = true ↔ ∃ keyword ∈ e.keywords, keywordMatches lower keyword = true := by
  unfold Entry.hit?
  rw [Option.isSome_map, List.find?_isSome]

/-- A lexicon finds something if one of its keywords counts. Priorities only decide what. -/
theorem isSome_foldl_better_iff (lower : Text) (best : Option (Hit L)) (lexicon : List (Entry L)) :
    (lexicon.foldl (better lower) best).isSome = true ↔
      best.isSome = true ∨
        ∃ keyword ∈ lexicon.flatMap (·.keywords), keywordMatches lower keyword = true := by
  induction lexicon generalizing best with
  | nil => simp
  | cons e rest ih =>
    have hbetter : (better lower best e).isSome = true ↔
        best.isSome = true ∨ ∃ keyword ∈ e.keywords, keywordMatches lower keyword = true := by
      cases best with
      | none => simpa [better] using e.isSome_hit?_iff lower
      | some b =>
        simp only [better]
        split
        · simp
        · simp
    rw [List.foldl_cons, ih, hbetter, or_assoc, List.flatMap_cons]
    simp only [List.mem_append, or_and_right, exists_or]

/-! ## One keyword -/

/-- The keyword has to be a word of its own. -/
def isShort (keyword : Text) : Bool :=
  !keyword.lowercase.any isIdeograph && decide (keyword.lowercase.length ≤ 2)

theorem keywordMatches_eq (lower keyword : Text) :
    keywordMatches lower keyword =
      (!keyword.isEmpty &&
        if isShort keyword then containsWord lower keyword.lowercase
        else hasPart keyword.lowercase lower) := by
  simp only [keywordMatches]
  by_cases hideograph : keyword.lowercase.any isIdeograph = true
  · have hshort : isShort keyword = false := by
      unfold isShort
      rw [hideograph]
      rfl
    rw [if_pos hideograph, hshort, if_neg Bool.false_ne_true]
  · have hshort : isShort keyword = decide (keyword.lowercase.length ≤ 2) := by
      unfold isShort
      rw [Bool.eq_false_iff.mpr hideograph]
      rfl
    rw [if_neg hideograph, hshort]
    simp only [decide_eq_true_eq]

/-- A keyword that counts is not empty, and stands in the text. -/
theorem infix_of_keywordMatches {lower keyword : Text} (h : keywordMatches lower keyword = true) :
    keyword ≠ [] ∧ keyword.lowercase <:+: lower := by
  rw [keywordMatches_eq, Bool.and_eq_true] at h
  obtain ⟨hne, h⟩ := h
  refine ⟨by simpa using hne, ?_⟩
  split at h
  · exact infix_of_bounded h
  · exact (hasPart_eq_true_iff _ _).mp h

/-- A keyword counts where nothing else stands. -/
theorem keywordMatches_lowercase_self {keyword : Text} (h : keyword ≠ []) :
    keywordMatches keyword.lowercase keyword = true := by
  have hk := lowercase_ne_nil h
  rw [keywordMatches_eq, Bool.and_eq_true]
  refine ⟨by simpa using h, ?_⟩
  split
  · exact bounded_self .word hk
  · exact (hasPart_eq_true_iff _ _).mpr (List.infix_refl _)

/-- A keyword that need not be a word counts wherever it stands. -/
theorem keywordMatches_of_infix {keyword lower : Text} (hne : keyword ≠ [])
    (hlong : isShort keyword = false) (h : keyword.lowercase <:+: lower) :
    keywordMatches lower keyword = true := by
  rw [keywordMatches_eq, hlong, Bool.and_eq_true, if_neg Bool.false_ne_true, hasPart_eq_true_iff]
  exact ⟨by simpa using hne, h⟩

theorem isSome_best?_iff (text : Text) (lexicon : List (Entry L)) :
    (best? text lexicon).isSome = true ↔
      ∃ keyword ∈ lexicon.flatMap (·.keywords),
        keywordMatches text.lowercase keyword = true := by
  have hfold := isSome_foldl_better_iff text.lowercase none lexicon
  rw [Option.isSome_none, Bool.false_eq_true, false_or] at hfold
  unfold best?
  split
  · rename_i hempty
    rw [← hfold]
    constructor
    · intro h
      cases h
    · intro h
      obtain ⟨keyword, -, hmatch⟩ := hfold.mp h
      obtain ⟨hne, hinfix⟩ := infix_of_keywordMatches hmatch
      rw [List.isEmpty_iff.mp hempty] at hinfix
      exact absurd (List.eq_nil_of_infix_nil hinfix) (lowercase_ne_nil hne)
  · exact hfold

/-! ## Keywords without sigma -/

section Unified

variable {k : Text} (hk : ∀ d ∈ k, unify d ≠ 'σ')

theorem isEdge_map_unify (o : Option Char) : isEdge (o.map unify) = isEdge o := by
  cases o with
  | none => rfl
  | some c => simp [isEdge, isWordChar_unify]

theorem eq_unify_iff {d : Char} (hd : unify d ≠ 'σ') (c : Char) : d = unify c ↔ d = c := by
  constructor
  · intro h
    by_cases hc : c = 'ς'
    · rw [h, hc] at hd
      exact absurd (by decide) hd
    · rw [h]
      unfold unify
      rw [if_neg hc]
  · rintro rfl
    by_cases hc : d = 'ς'
    · rw [hc] at hd
      exact absurd (by decide) hd
    · unfold unify
      rw [if_neg hc]

include hk

theorem prefix_map_unify_iff (t : Text) : k <+: t.map unify ↔ k <+: t := by
  induction k generalizing t with
  | nil => simp
  | cons d more ih =>
    rw [List.forall_mem_cons] at hk
    cases t with
    | nil => simp
    | cons c rest =>
      rw [List.map_cons, List.cons_prefix_cons, List.cons_prefix_cons, eq_unify_iff hk.1,
        ih hk.2]

theorem hasPart_map_unify (t : Text) : hasPart k (t.map unify) = hasPart k t := by
  induction t with
  | nil => rfl
  | cons c rest ih =>
    have hprefix := prefix_map_unify_iff hk (c :: rest)
    rw [List.map_cons, hasPart, hasPart, ih, ← List.map_cons, Bool.eq_iff_iff, Bool.or_eq_true,
      Bool.or_eq_true, List.isPrefixOf_iff_prefix, List.isPrefixOf_iff_prefix, hprefix]

theorem boundedAfter_map_unify (b : Bound) (before : Option Char) (skip : Nat) (t : Text) :
    boundedAfter b k (before.map unify) skip (t.map unify) = boundedAfter b k before skip t := by
  induction t generalizing before skip with
  | nil => simp [boundedAfter]
  | cons c rest ih =>
    cases skip with
    | succ skip =>
      have := ih (some c) skip
      rw [Option.map_some] at this
      rw [List.map_cons, boundedAfter, boundedAfter, this]
    | zero =>
      have hprefix : k.isPrefixOf (unify c :: rest.map unify) = k.isPrefixOf (c :: rest) := by
        rw [← List.map_cons, Bool.eq_iff_iff, List.isPrefixOf_iff_prefix,
          List.isPrefixOf_iff_prefix, prefix_map_unify_iff hk]
      have hhead : ((unify c :: rest.map unify).drop k.length).head? =
          ((c :: rest).drop k.length).head?.map unify := by
        rw [← List.map_cons, ← List.map_drop, List.head?_map]
      have hadmits (after : Option Char) :
          b.admits (before.map unify) (after.map unify) = b.admits before after := by
        unfold Bound.admits
        rw [isEdge_map_unify, isEdge_map_unify]
      have hnext (skip : Nat) := ih (some c) skip
      simp only [Option.map_some] at hnext
      rw [List.map_cons, boundedAfter, boundedAfter, hprefix, hhead, hadmits, hnext, hnext]

end Unified

/-- A keyword without sigma counts in a text whatever its sigmas look like. -/
theorem keywordMatches_map_unify {keyword : Text} (h : 'σ' ∉ keyword.caseless) (t : Text) :
    keywordMatches (t.map unify) keyword = keywordMatches t keyword := by
  have hk : ∀ d ∈ keyword.lowercase, unify d ≠ 'σ' := by
    intro d hd hs
    rw [← map_unify_lowercase] at h
    exact h (hs ▸ List.mem_map_of_mem hd)
  rw [keywordMatches_eq, keywordMatches_eq, hasPart_map_unify hk]
  have hbounded := boundedAfter_map_unify hk .word none 0 t
  rw [Option.map_none] at hbounded
  unfold containsWord bounded
  rw [hbounded]

/-! ## Lower case character by character -/

/-- Forms that put a text into lower case character by character. A character that belongs to no
word is its own form. -/
structure Charwise (f : Char → Text) : Prop where
  ne_nil : ∀ c, f c ≠ []
  outside : ∀ c, isWordChar c = false → f c = [c]

theorem charwise_lowerForm : Charwise lowerForm :=
  ⟨lowerForm_ne_nil, fun _ => lowerForm_of_not_isWordChar⟩

theorem charwise_caseless : Charwise fun c => (lowerForm c).map unify := by
  refine ⟨?_, ?_⟩
  · intro c h
    exact lowerForm_ne_nil c (List.map_eq_nil_iff.mp h)
  · intro c h
    have hc : c ≠ 'ς' := by
      rintro rfl
      exact absurd h (by decide)
    rw [lowerForm_of_not_isWordChar h, List.map_singleton]
    unfold unify
    rw [if_neg hc]

section Charwise

variable {f : Char → Text} (hf : Charwise f)

include hf

theorem Charwise.isWordChar_of_mem {c d : Char} (hd : d ∈ f c) (h : isWordChar d = true) :
    isWordChar c = true := by
  cases hc : isWordChar c with
  | true => rfl
  | false =>
    rw [hf.outside c hc] at hd
    rw [List.mem_singleton.mp hd, hc] at h
    cases h

theorem Charwise.isEdge_getLast? {t : Text} (h : isEdge t.getLast? = true) :
    isEdge (t.flatMap f).getLast? = true := by
  cases hlast : t.getLast? with
  | none =>
    rw [List.getLast?_eq_none_iff.mp hlast]
    rfl
  | some c =>
    obtain ⟨front, rfl⟩ := List.getLast?_eq_some_iff.mp hlast
    rw [hlast] at h
    have hc : isWordChar c = false := by simpa [isEdge] using h
    rw [List.flatMap_append, List.flatMap_singleton, hf.outside c hc, List.getLast?_concat]
    exact h

theorem Charwise.isEdge_head? {t : Text} (h : isEdge t.head? = true) :
    isEdge (t.flatMap f).head? = true := by
  cases t with
  | nil => rfl
  | cons c rest =>
    have hc : isWordChar c = false := by simpa [isEdge] using h
    rw [List.flatMap_cons, hf.outside c hc]
    exact h

theorem Charwise.apart {a b : Text} (h : Apart a b) : Apart (a.flatMap f) (b.flatMap f) :=
  h.imp hf.isEdge_getLast? hf.isEdge_head?

/-- What counts in a piece of a text counts in the text, if the piece takes no word apart. A short
keyword has to consist of word characters. -/
theorem Charwise.keywordMatches_of_piece {keyword front piece rest : Text}
    (hshort : isShort keyword = true → ∀ c ∈ keyword.lowercase, isWordChar c = true)
    (hfront : Apart front piece) (hrest : Apart piece rest)
    (h : keywordMatches (piece.flatMap f) keyword = true) :
    keywordMatches ((front ++ piece ++ rest).flatMap f) keyword = true := by
  obtain ⟨hne, -⟩ := infix_of_keywordMatches h
  have hk := lowercase_ne_nil hne
  rw [keywordMatches_eq, Bool.and_eq_true] at h ⊢
  refine ⟨h.1, ?_⟩
  replace h := h.2
  rw [List.flatMap_append, List.flatMap_append]
  split
  · rename_i hs
    have hword := hshort hs
    rw [if_pos hs, containsWord_iff hk (.inr hword)] at h
    rw [containsWord_iff hk (.inr hword)]
    obtain ⟨a, b, hab, ha, hb⟩ := h
    -- where the keyword ends with the piece, a word character of it stands at the cut
    replace hfront := hf.apart hfront
    replace hrest := hf.apart hrest
    refine ⟨front.flatMap f ++ a, b ++ rest.flatMap f, ?_, ?_, ?_⟩
    · rw [hab]
      simp only [List.append_assoc]
    · by_cases hnil : a = []
      · rw [hnil, List.append_nil]
        rw [hab, hnil, List.nil_append] at hfront
        exact hfront.edge_before hk hword
      · rwa [List.getLast?_append_of_ne_nil _ hnil]
    · by_cases hnil : b = []
      · rw [hnil, List.nil_append]
        rw [hab, hnil, List.append_nil] at hrest
        exact hrest.edge_behind hk hword
      · rwa [List.head?_append_of_ne_nil _ hnil]
  · rename_i hs
    rw [if_neg hs, hasPart_eq_true_iff] at h
    rw [hasPart_eq_true_iff]
    exact h.trans ⟨front.flatMap f, rest.flatMap f, rfl⟩

/-- A solid keyword that counts in a text does so at a solid stretch of it, and counts in whatever
is cut out of the text around that stretch. -/
theorem Charwise.exists_stretch {keyword t : Text} (hsolid : Solid keyword.lowercase)
    (h : keywordMatches (t.flatMap f) keyword = true) :
    ∃ a x b, t = a ++ x ++ b ∧ x ≠ [] ∧ Solid x ∧
      ∀ a' b', a' <:+ a → b' <+: b →
        keywordMatches ((a' ++ x ++ b').flatMap f) keyword = true := by
  obtain ⟨hne, hinfix⟩ := infix_of_keywordMatches h
  have hk := lowercase_ne_nil hne
  have hstands : ∃ front rest, t.flatMap f = front ++ keyword.lowercase ++ rest ∧
      (isShort keyword = true → isEdge front.getLast? = true ∧ isEdge rest.head? = true) := by
    rw [keywordMatches_eq, Bool.and_eq_true] at h
    replace h := h.2
    split at h
    · obtain ⟨front, rest, heq, hedges⟩ := (containsWord_iff hk hsolid _).mp h
      exact ⟨front, rest, heq, fun _ => hedges⟩
    · rename_i hs
      obtain ⟨front, rest, heq⟩ := hinfix
      exact ⟨front, rest, heq.symm, fun hs' => absurd hs' hs⟩
  obtain ⟨front, rest, heq, hedges⟩ := hstands
  obtain ⟨a, x, b, u, v, rfl, rfl, hx, rfl, hlength, hmem⟩ :=
    exists_stretch_of_flatMap hf.ne_nil hk heq
  have hxne : x ≠ [] := by
    rintro rfl
    exact hk (List.append_eq_nil_iff.mp (List.append_eq_nil_iff.mp hx.symm).1).2
  refine ⟨a, x, b, rfl, hxne, ?_, ?_⟩
  · rcases hsolid with hone | hword
    · have := List.length_pos_iff.mpr hxne
      exact .inl (by omega)
    · refine .inr ?_
      intro c hc
      obtain ⟨d, hd, hdk⟩ := hmem c hc
      exact hf.isWordChar_of_mem hd (hword d hdk)
  · rintro a' b' ⟨a₀, rfl⟩ ⟨b₀, rfl⟩
    have hpiece : (a' ++ x ++ b').flatMap f =
        a'.flatMap f ++ u ++ keyword.lowercase ++ (v ++ b'.flatMap f) := by
      rw [List.flatMap_append, List.flatMap_append, hx]
      simp only [List.append_assoc]
    rw [keywordMatches_eq, Bool.and_eq_true, hpiece]
    refine ⟨by simpa using hne, ?_⟩
    split
    · rename_i hs
      obtain ⟨hbefore, hafter⟩ := hedges hs
      rw [List.flatMap_append, List.append_assoc] at hbefore
      rw [List.flatMap_append, ← List.append_assoc] at hafter
      exact (containsWord_iff hk hsolid _).mpr ⟨_, _, rfl, isEdge_getLast?_of_append hbefore,
        isEdge_head?_of_append hafter⟩
    · rw [hasPart_eq_true_iff]
      exact ⟨_, _, rfl⟩

end Charwise

/-- Lower case does not depend on the neighbours of sigmas: the keyword holds no sigma, or the text
no capital one. -/
def Contextless (keyword t : Text) : Prop :=
  'σ' ∉ keyword.caseless ∨ 'Σ' ∉ t

instance (keyword t : Text) : Decidable (Contextless keyword t) :=
  inferInstanceAs (Decidable ('σ' ∉ keyword.caseless ∨ 'Σ' ∉ t))

/-- Then the keyword can be looked for in every piece of the text character by character. -/
theorem Contextless.exists_charwise {keyword t : Text} (h : Contextless keyword t) :
    ∃ f, Charwise f ∧ ∀ piece : Text, piece <:+: t →
      keywordMatches piece.lowercase keyword = keywordMatches (piece.flatMap f) keyword := by
  rcases h with h | h
  · refine ⟨_, charwise_caseless, ?_⟩
    intro piece _
    rw [← keywordMatches_map_unify h, map_unify_lowercase]
    rfl
  · refine ⟨lowerForm, charwise_lowerForm, ?_⟩
    intro piece hpiece
    rw [lowercase_of_not_mem fun hm => h (hpiece.subset hm)]

end CueStream.Lexicon
