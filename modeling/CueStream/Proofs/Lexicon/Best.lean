-- What a lexicon finds, without the search: of the entries with a keyword in the
-- text those of the highest priority, of these the first one, and its first
-- keyword that counts. That entries are passed over on the way makes no
-- difference, and where priorities differ the order of the entries makes none.
import CueStream.Proofs.Lexicon.Keyword
import CueStream.Proofs.Ranking

namespace CueStream.Lexicon

open Text

variable {L : Type} {lower : Text}

/-! ## One entry -/

/-- A keyword of the entry counts in a text of lower case. -/
def Entry.Occurs (lower : Text) (e : Entry L) : Prop :=
  ∃ keyword ∈ e.keywords, keywordMatches lower keyword = true

/-- What is found is the first keyword of the entry that counts. -/
structure Entry.Yields (lower : Text) (e : Entry L) (hit : Hit L) : Prop where
  label : hit.label = e.label
  priority : hit.priority = e.priority
  keyword : ∃ earlier later, e.keywords = earlier ++ hit.keyword :: later ∧
    keywordMatches lower hit.keyword = true ∧ ∀ k ∈ earlier, keywordMatches lower k = false

theorem Entry.hit?_eq_some_iff {e : Entry L} {hit : Hit L} :
    e.hit? lower = some hit ↔ e.Yields lower hit := by
  have hfind (k : Text) : e.keywords.find? (keywordMatches lower) = some k ↔
      ∃ earlier later, e.keywords = earlier ++ k :: later ∧ keywordMatches lower k = true ∧
        ∀ k ∈ earlier, keywordMatches lower k = false := by
    rw [List.find?_eq_some_iff_append]
    simp only [Bool.not_eq_eq_eq_not, Bool.not_true]
    exact ⟨fun ⟨hk, earlier, later, heq, hnone⟩ => ⟨earlier, later, heq, hk, hnone⟩,
      fun ⟨earlier, later, heq, hk, hnone⟩ => ⟨hk, earlier, later, heq, hnone⟩⟩
  unfold Entry.hit?
  rw [Option.map_eq_some_iff]
  constructor
  · rintro ⟨k, hk, rfl⟩
    exact ⟨rfl, rfl, (hfind k).mp hk⟩
  · rintro ⟨hlabel, hpriority, hkeyword⟩
    refine ⟨hit.keyword, (hfind _).mpr hkeyword, ?_⟩
    rw [← hlabel, ← hpriority]

theorem Entry.hit?_eq_none_iff {e : Entry L} : e.hit? lower = none ↔ ¬ e.Occurs lower := by
  unfold Entry.Occurs
  rw [← Entry.isSome_hit?_iff, Option.not_isSome_iff_eq_none]

/-- Whatever is found in an entry has the priority of the entry. -/
theorem Entry.forall_mem_hit?_iff (P : Int → Prop) (e : Entry L) :
    (∀ hit ∈ e.hit? lower, P hit.priority) ↔ (e.Occurs lower → P e.priority) := by
  cases hhit : e.hit? lower with
  | none => simp [Entry.hit?_eq_none_iff.mp hhit]
  | some hit =>
    have hoccurs : e.Occurs lower := by
      by_contra hno
      rw [Entry.hit?_eq_none_iff.mpr hno] at hhit
      cases hhit
    simp [hoccurs, (Entry.hit?_eq_some_iff.mp hhit).priority]

/-! ## All entries -/

/-- An entry is passed over only if what is found in it would not have been better. -/
theorem keepsBest_better (lower : Text) :
    KeepsBest (better (L := L) lower) (Entry.hit? lower) (·.priority) := by
  refine ⟨?_, ?_, ?_⟩
  · intro best e hnone
    cases best with
    | none => exact hnone
    | some b => simp [better, hnone]
  · exact fun e hit hhit => hhit
  · intro b e hit hhit
    have hpriority := (Entry.hit?_eq_some_iff.mp hhit).priority
    by_cases hle : e.priority ≤ b.priority
    · rw [better_of_le lower hle, if_neg (by omega)]
    · rw [if_pos (by omega)]
      simp only [better, if_neg hle, hhit, Option.some_or]

theorem best?_eq_none_iff (text : Text) (lexicon : List (Entry L)) :
    best? text lexicon = none ↔ ∀ e ∈ lexicon, ¬ e.Occurs text.lowercase := by
  rw [← Option.not_isSome_iff_eq_none, isSome_best?_iff]
  simp only [List.mem_flatMap, Entry.Occurs]
  exact ⟨fun h e he ⟨k, hk, hmatch⟩ => h ⟨k, ⟨e, he, hk⟩, hmatch⟩,
    fun h ⟨k, ⟨e, he, hk⟩, hmatch⟩ => h e he ⟨k, hk, hmatch⟩⟩

/-- All entries could be looked at. -/
theorem best?_eq_highest? (text : Text) (lexicon : List (Entry L)) :
    best? text lexicon =
      highest? (·.priority) (lexicon.filterMap (Entry.hit? text.lowercase)) := by
  cases hempty : text.isEmpty with
  | false =>
    unfold best?
    rw [if_neg (by simp [hempty]), (keepsBest_better text.lowercase).foldl_eq]
  | true =>
    have hnone : best? text lexicon = none := if_pos hempty
    have hhits : lexicon.filterMap (Entry.hit? text.lowercase) = [] := by
      rw [List.filterMap_eq_nil_iff]
      exact fun e he => Entry.hit?_eq_none_iff.mpr ((best?_eq_none_iff text lexicon).mp hnone e he)
    rw [hnone, hhits, highest?_nil]

/-- What is found is found in the first of the entries with the highest priority that have a keyword
in the text. -/
def IsBest (lower : Text) (lexicon : List (Entry L)) (hit : Hit L) : Prop :=
  ∃ before e after, lexicon = before ++ e :: after ∧ e.Yields lower hit ∧
    (∀ d ∈ before, d.Occurs lower → d.priority < e.priority) ∧
      ∀ d ∈ after, d.Occurs lower → d.priority ≤ e.priority

theorem best?_eq_some_iff (text : Text) (lexicon : List (Entry L)) (hit : Hit L) :
    best? text lexicon = some hit ↔ IsBest text.lowercase lexicon hit := by
  rw [best?_eq_highest?, highest?_filterMap_eq_some_iff]
  unfold IsBest
  refine exists_congr fun before => exists_congr fun e => exists_congr fun after => ?_
  refine and_congr_right fun _ => ?_
  rw [Entry.hit?_eq_some_iff]
  refine and_congr_right fun hyields => ?_
  simp only [hyields.priority]
  simp only [Entry.forall_mem_hit?_iff (· < e.priority),
    Entry.forall_mem_hit?_iff (· ≤ e.priority)]

/-- If no two priorities are the same, only one entry can have the highest. -/
theorem isBest_iff_of_nodup {lexicon : List (Entry L)} (h : (lexicon.map (·.priority)).Nodup)
    (hit : Hit L) :
    IsBest lower lexicon hit ↔
      ∃ e ∈ lexicon, e.Yields lower hit ∧
        ∀ d ∈ lexicon, d.Occurs lower → d.priority ≤ e.priority := by
  constructor
  · rintro ⟨before, e, after, rfl, hyields, hbefore, hafter⟩
    refine ⟨e, by simp, hyields, ?_⟩
    intro d hd hoccurs
    rcases List.mem_append.mp hd with hd | hd
    · exact le_of_lt (hbefore d hd hoccurs)
    · rcases List.mem_cons.mp hd with rfl | hd
      · exact le_refl _
      · exact hafter d hd hoccurs
  · rintro ⟨e, he, hyields, hmost⟩
    obtain ⟨before, after, rfl⟩ := List.append_of_mem he
    refine ⟨before, e, after, rfl, hyields, ?_, ?_⟩
    · intro d hd hoccurs
      rw [List.map_append, List.map_cons, List.nodup_append] at h
      have hne := h.2.2 d.priority (List.mem_map_of_mem hd) e.priority List.mem_cons_self
      exact lt_of_le_of_ne (hmost d (List.mem_append_left _ hd) hoccurs) hne
    · intro d hd
      exact hmost d (List.mem_append_right _ (List.mem_cons_of_mem _ hd))

/-- A lexicon finds nothing in a text exactly if no keyword of any entry counts there. What it finds
is the first keyword that counts in the first of the entries that have one and that no other such entry
outranks. It is the best of what is found if every entry is looked at; and if no two entries have the
same priority, their order does not matter. -/
theorem what_is_found_is_the_first_of_the_highest (text : Text) (lexicon : List (Entry L)) :
    (best? text lexicon = none ↔
        ∀ e ∈ lexicon, ∀ k ∈ e.keywords, keywordMatches text.lowercase k = false) ∧
      (∀ hit, best? text lexicon = some hit ↔ IsBest text.lowercase lexicon hit) ∧
      best? text lexicon =
        highest? (·.priority) (lexicon.filterMap (Entry.hit? text.lowercase)) ∧
      ∀ lexicon', lexicon'.Perm lexicon → (lexicon.map (·.priority)).Nodup →
        best? text lexicon' = best? text lexicon := by
  refine ⟨?_, best?_eq_some_iff text lexicon, best?_eq_highest? text lexicon, ?_⟩
  · rw [best?_eq_none_iff]
    simp [Entry.Occurs]
  · intro lexicon' hperm hnodup
    have hnodup' := (hperm.map (·.priority)).nodup_iff.mpr hnodup
    apply Option.ext
    intro hit
    rw [best?_eq_some_iff, best?_eq_some_iff, isBest_iff_of_nodup hnodup,
      isBest_iff_of_nodup hnodup']
    simp only [hperm.mem_iff]

/-- Three entries with three priorities. The highest has no keyword in the text, and the next one comes
first or last, but is found in any case, by its second keyword. -/
theorem surprise_is_found_in_either_order :
    let lexicon : List (Entry String) :=
      [.ofStrings "surprised" 7 ["whoa", "wow"], .ofStrings "smile" 5 ["happy"],
        .ofStrings "angry" 9 ["furious"]]
    let text := "Happy, wow!".toList
    (lexicon.reverse.Perm lexicon ∧ (lexicon.map (·.priority)).Nodup) ∧
      best? text lexicon = some ⟨"surprised", "wow".toList, 7⟩ ∧
      best? text lexicon.reverse = best? text lexicon := by
  intro lexicon text
  have hnodup : (lexicon.map (·.priority)).Nodup := by decide
  obtain ⟨-, -, -, horder⟩ := what_is_found_is_the_first_of_the_highest text lexicon
  exact ⟨⟨lexicon.reverse_perm, hnodup⟩, by decide,
    horder lexicon.reverse lexicon.reverse_perm hnodup⟩

end CueStream.Lexicon
