-- The cue that a response is most about, without the search: how strong a
-- category is says which of its patterns stand somewhere in the text, and the
-- first of the strongest categories counts, if it is strong enough.
import CueStream.Classifier.Dominant
import CueStream.Proofs.Ranking
import CueStream.Proofs.Text.Occurrence

namespace CueStream.Classifier

open Text

/-! ## Patterns -/

namespace Pattern

/-- The pattern stands at this place of a text of lower case: no word goes on there from what is in
front of it and, if the pattern is a whole word, none goes on behind it. -/
def StandsAt (p : Pattern) (lower : Text) (n : Nat) : Prop :=
  p.text <+: lower.drop n ∧ isEdge (lower.take n).getLast? = true ∧
    (p.bound = .word → isEdge (lower.drop (n + p.text.length)).head? = true)

instance (p : Pattern) (lower : Text) (n : Nat) : Decidable (p.StandsAt lower n) :=
  inferInstanceAs (Decidable (_ ∧ _ ∧ (_ → _)))

/-- The pattern stands somewhere in a text of lower case. The places may overlap. -/
def Hits (lower : Text) (p : Pattern) : Prop :=
  ∃ n ≤ lower.length, p.StandsAt lower n

instance (lower : Text) (p : Pattern) : Decidable (p.Hits lower) :=
  inferInstanceAs (Decidable (∃ n ≤ lower.length, p.StandsAt lower n))

theorem hits_iff (p : Pattern) (lower : Text) :
    p.Hits lower ↔ ∃ front rest, lower = front ++ p.text ++ rest ∧ isEdge front.getLast? = true ∧
      (p.bound = .word → isEdge rest.head? = true) := by
  rw [← exists_place_iff fun front rest =>
    isEdge front.getLast? = true ∧ (p.bound = .word → isEdge rest.head? = true)]
  constructor
  · rintro ⟨n, -, hstands⟩
    exact ⟨n, hstands⟩
  · rintro ⟨n, hstands, hedges⟩
    by_cases hn : n ≤ lower.length
    · exact ⟨n, hn, hstands, hedges⟩
    · -- a place behind the end is as good as the end
      have hlt : lower.length ≤ n := Nat.le_of_not_le hn
      rw [List.drop_eq_nil_of_le hlt] at hstands
      rw [List.take_of_length_le hlt, List.drop_eq_nil_of_le (Nat.le_add_right_of_le hlt)] at hedges
      refine ⟨lower.length, Nat.le_refl _, ?_, ?_⟩
      · rwa [List.drop_length]
      · rwa [List.take_length, List.drop_eq_nil_of_le (Nat.le_add_right _ _)]

theorem admits_iff (b : Bound) (before after : Option Char) :
    b.admits before after = true ↔
      isEdge before = true ∧ (b = .word → isEdge after = true) := by
  cases b <;> simp [Bound.admits]

/-- The search finds a steady pattern wherever it stands. -/
theorem occurs_iff {p : Pattern} (hne : p.text ≠ []) (hsteady : Steady p.text) (lower : Text) :
    p.occurs lower = true ↔ p.Hits lower := by
  unfold occurs
  rw [bounded_iff hne hsteady, hits_iff]
  simp only [admits_iff]

/-! Patterns as they are written down. -/

theorem ofText_starred (stem : Text) : ofText (stem ++ ['*']) = ⟨.stem, stem⟩ := by
  unfold ofText
  rw [List.getLast?_concat, if_pos rfl, List.dropLast_concat]

theorem ofText_of_unstarred {word : Text} (h : word.getLast? ≠ some '*') :
    ofText word = ⟨.word, word⟩ :=
  if_neg h

/-- A stem with a star hits where a word begins with it. -/
theorem starred_hits_iff (stem lower : Text) :
    (ofText (stem ++ ['*'])).Hits lower ↔
      ∃ front rest, lower = front ++ stem ++ rest ∧ isEdge front.getLast? = true := by
  rw [ofText_starred, hits_iff]
  simp

/-- A pattern without a star hits where it is a word of its own. -/
theorem unstarred_hits_iff {word : Text} (h : word.getLast? ≠ some '*') (lower : Text) :
    (ofText word).Hits lower ↔
      ∃ front rest, lower = front ++ word ++ rest ∧ isEdge front.getLast? = true ∧
        isEdge rest.head? = true := by
  rw [ofText_of_unstarred h, hits_iff]
  simp

end Pattern

/-- No pattern of a category can be missed. Those that begin again within themselves, such as `haha`
and `that's not`, do so inside a word. -/
theorem steady_of_mem_categories :
    ∀ c ∈ categories, ∀ p ∈ c.patterns, p.text ≠ [] ∧ Steady p.text := by
  decide +kernel

/-- Every star of a category was read. -/
theorem star_not_mem_of_mem_categories :
    ∀ c ∈ categories, ∀ p ∈ c.patterns, '*' ∉ p.text := by
  decide +kernel

/-! ## Categories -/

/-- The number of patterns of the category that stand somewhere in a text of lower case. -/
def Category.strength (lower : Text) (c : Category) : Nat :=
  c.patterns.countP (·.Hits lower)

theorem score_eq_strength {c : Category} (hc : c ∈ categories) (lower : Text) :
    c.score lower = c.strength lower := by
  unfold Category.score Category.strength
  apply List.countP_congr
  intro p hp
  obtain ⟨hne, hsteady⟩ := steady_of_mem_categories c hc p hp
  rw [p.occurs_iff hne hsteady, decide_eq_true_iff]

/-- What is best among these categories: nothing if no pattern occurs, and else the first of those
with the greatest score. -/
def IsBest (lower : Text) (cs : List Category) : Option (Trigger × Nat) → Prop
  | none => ∀ c ∈ cs, c.score lower = 0
  | some (t, n) => ∃ before c after, cs = before ++ c :: after ∧ c.trigger = t ∧
      c.score lower = n ∧ 0 < n ∧ (∀ d ∈ before, d.score lower < n) ∧
        ∀ d ∈ after, d.score lower ≤ n

/-- The hit of a category with a pattern in the text. -/
def Category.hit? (lower : Text) (c : Category) : Option (Trigger × Nat) :=
  if 0 < c.score lower then some (c.trigger, c.score lower) else none

theorem Category.hit?_eq_some_iff {lower : Text} {c : Category} {t : Trigger} {n : Nat} :
    c.hit? lower = some (t, n) ↔ c.trigger = t ∧ c.score lower = n ∧ 0 < n := by
  unfold Category.hit?
  split
  · rename_i hpos
    rw [Option.some.injEq, Prod.mk.injEq]
    exact and_congr_right fun _ => ⟨fun h => ⟨h, h ▸ hpos⟩, fun h => h.1⟩
  · rename_i hzero
    exact iff_of_false nofun fun ⟨_, hscore, hpos⟩ => hzero (hscore ▸ hpos)

/-- One more category is better only if it is better than all before. -/
theorem keepsBest_stronger (lower : Text) :
    KeepsBest (stronger lower) (Category.hit? lower) (·.2) := by
  refine ⟨?_, ?_, ?_⟩
  · intro best c hnone
    have hzero : ¬ 0 < c.score lower := fun hpos => by simp [Category.hit?, hpos] at hnone
    exact if_neg fun hboth => hzero hboth.1
  · rintro c ⟨t, n⟩ hhit
    obtain ⟨rfl, rfl, hpos⟩ := Category.hit?_eq_some_iff.mp hhit
    exact if_pos ⟨hpos, rfl⟩
  · rintro b c ⟨t, n⟩ hhit
    obtain ⟨rfl, rfl, hpos⟩ := Category.hit?_eq_some_iff.mp hhit
    simp [stronger, hpos]

theorem isBest_foldl (lower : Text) (cs : List Category) :
    IsBest lower cs (cs.foldl (stronger lower) none) := by
  have hweak (c : Category) (n : Nat) (hn : 0 < n) :
      (∀ hit ∈ c.hit? lower, hit.2 < n) ↔ c.score lower < n := by
    by_cases hpos : 0 < c.score lower
    · simp [Category.hit?, hpos]
    · have hlt : c.score lower < n := by omega
      simp [Category.hit?, hpos, hlt]
  rw [(keepsBest_stronger lower).foldl_eq]
  cases hbest : highest? (·.2) (cs.filterMap (Category.hit? lower)) with
  | none =>
    intro c hc
    have hnone := List.filterMap_eq_nil_iff.mp (highest?_eq_none_iff.mp hbest) c hc
    by_contra hscore
    simp [Category.hit?, Nat.pos_of_ne_zero hscore] at hnone
  | some best =>
    obtain ⟨t, n⟩ := best
    obtain ⟨before, c, after, hcs, hhit, hbefore, hafter⟩ := highest?_filterMap_eq_some_iff.mp hbest
    obtain ⟨htrigger, hscore, hpos⟩ := Category.hit?_eq_some_iff.mp hhit
    refine ⟨before, c, after, hcs, htrigger, hscore, hpos, ?_, ?_⟩
    · exact fun d hd => (hweak d n hpos).mp (hbefore d hd)
    · intro d hd
      have hlt := (hweak d (n + 1) (Nat.succ_pos n)).mp fun hit hmem =>
        Nat.lt_succ_of_le (hafter d hd hit hmem)
      exact Nat.le_of_lt_succ hlt

/-! ## The strongest category -/

/-- No category is stronger in a text of lower case. -/
def Leads (lower : Text) (c : Category) : Prop :=
  ∀ d ∈ categories, d.strength lower ≤ c.strength lower

instance (lower : Text) (c : Category) : Decidable (Leads lower c) :=
  inferInstanceAs (Decidable (∀ d ∈ categories, d.strength lower ≤ c.strength lower))

/-- The best of all categories is the first one that leads. If no pattern occurs, the first one that
leads has no strength. -/
theorem find?_leads {lower : Text} {best : Option (Trigger × Nat)}
    (h : IsBest lower categories best) {least : Nat} (hleast : 0 < least) :
    (best.filter fun b => least ≤ b.2).map (·.1) =
      ((categories.find? fun c => Leads lower c).filter fun c => least ≤ c.strength lower).map
        (·.trigger) := by
  match best, h with
  | none, hnone =>
    cases hfound : categories.find? fun c => Leads lower c with
    | none => rfl
    | some c =>
      have hc := List.mem_of_find?_eq_some hfound
      have hweak : ¬ least ≤ c.strength lower := by
        rw [← score_eq_strength hc, hnone c hc]
        omega
      rw [Option.filter_some_neg (by simpa using hweak)]
      rfl
  | some (t, n), ⟨before, c, after, hcs, htrigger, hscore, _, hbefore, hafter⟩ =>
    have hmem : ∀ d, d ∈ before ∨ d = c ∨ d ∈ after → d ∈ categories := by
      intro d hd
      rwa [hcs, List.mem_append, List.mem_cons]
    have hstrength : c.strength lower = n :=
      (score_eq_strength (hmem c (.inr (.inl rfl))) lower).symm.trans hscore
    have hfound : (categories.find? fun c => Leads lower c) = some c := by
      rw [List.find?_eq_some_iff_append]
      refine ⟨?_, before, after, hcs, ?_⟩
      · rw [decide_eq_true_iff]
        intro d hd
        rw [hstrength, ← score_eq_strength hd]
        rw [hcs, List.mem_append, List.mem_cons] at hd
        rcases hd with hd | rfl | hd
        · exact Nat.le_of_lt (hbefore d hd)
        · exact Nat.le_of_eq hscore
        · exact hafter d hd
      · intro d hd
        rw [Bool.not_eq_true', decide_eq_false_iff_not]
        intro hleads
        have hlt := hbefore d hd
        have hle := hleads c (hmem c (.inr (.inl rfl)))
        rw [hstrength, ← score_eq_strength (hmem d (.inl hd))] at hle
        exact Nat.not_le_of_lt hlt hle
    rw [hfound]
    by_cases henough : least ≤ n
    · rw [Option.filter_some_pos (by simpa using henough),
        Option.filter_some_pos (by simpa [hstrength] using henough), Option.map_some,
        Option.map_some, htrigger]
    · rw [Option.filter_some_neg (by simpa using henough),
        Option.filter_some_neg (by simpa [hstrength] using henough)]
      rfl

/-- The cue of a response is that of the first category that no other one exceeds, where a category
is as strong as it has patterns that stand somewhere in the text, overlapping each other or not; and
there is none if that category has not the strength asked for, or none at all. The search, which goes
from left to right and skips what it has tried, misses no pattern in any text. A pattern that is
written with a star hits wherever no word character is in front of what is before the star, and every
other one wherever there is none on either side of it. -/
theorem dominant_is_the_first_of_the_strongest (text : Text) (minScore : Nat) :
    dominant? text minScore =
        ((categories.find? fun c => Leads text.lowercase c).filter
          fun c => max minScore 1 ≤ c.strength text.lowercase).map (·.trigger) ∧
      (∀ c ∈ categories, ∀ p ∈ c.patterns,
        '*' ∉ p.text ∧ ∀ lower, p.occurs lower = true ↔ p.Hits lower) ∧
      ∀ written lower,
        ((Pattern.ofText (written ++ ['*'])).Hits lower ↔
          ∃ front rest, lower = front ++ written ++ rest ∧ isEdge front.getLast? = true) ∧
        (written.getLast? ≠ some '*' →
          ((Pattern.ofText written).Hits lower ↔
            ∃ front rest, lower = front ++ written ++ rest ∧ isEdge front.getLast? = true ∧
              isEdge rest.head? = true)) := by
  refine ⟨?_, ?_, ?_⟩
  · exact find?_leads (isBest_foldl text.lowercase categories) (Nat.le_max_right minScore 1)
  · intro c hc p hp
    obtain ⟨hne, hsteady⟩ := steady_of_mem_categories c hc p hp
    exact ⟨star_not_mem_of_mem_categories c hc p hp, p.occurs_iff hne hsteady⟩
  · intro written lower
    exact ⟨Pattern.starred_hits_iff written lower, fun h => Pattern.unstarred_hits_iff h lower⟩

/-- The same strength for two categories: the first one counts. -/
example : dominant? "Wow, how sad. I'm sorry, but whoa!".toList 2 = some (.expression .sad) := by
  decide +kernel

end CueStream.Classifier
