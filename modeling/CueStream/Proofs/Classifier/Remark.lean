-- What else a model may write into its answer. A member beside the labels is
-- passed over, unless it holds a closing brace, which ends the answer early, or
-- cannot be kept whole: then the whole answer is refused.
import CueStream.Proofs.Classifier.Noise

namespace CueStream

namespace Json

/-! ## One more member -/

theorem membersMeaningful_iff (members : List (Option Text × Json)) :
    membersMeaningful members = true ↔
      ∀ m ∈ members, m.1.isSome = true ∧ m.2.meaningful = true := by
  induction members with
  | nil => simp [membersMeaningful]
  | cons m members ih => simp [membersMeaningful, ih]

theorem membersDepth_le_iff (members : List (Option Text × Json)) (n : Nat) :
    membersDepth members ≤ n ↔ ∀ m ∈ members, m.2.depth ≤ n := by
  induction members with
  | nil => simp [membersDepth]
  | cons m members ih => rw [membersDepth, Nat.max_le, ih, List.forall_mem_cons]

/-- The member can be kept whole as part of an object. -/
def Fits (m : Option Text × Json) : Prop :=
  m.1.isSome = true ∧ m.2.meaningful = true ∧ m.2.depth < maxDepth

theorem isPlain_object_iff (members : List (Option Text × Json)) :
    (Json.object members).isPlain = true ↔ ∀ m ∈ members, Fits m := by
  have hdepth : (Json.object members).depth ≤ maxDepth ↔ ∀ m ∈ members, m.2.depth < maxDepth := by
    rw [depth, maxDepth, Nat.succ_le_succ_iff, membersDepth_le_iff]
    simp only [Nat.lt_succ_iff]
  rw [isPlain, Bool.and_eq_true, decide_eq_true_iff, hdepth, meaningful, membersMeaningful_iff]
  constructor
  · exact fun ⟨h, hd⟩ m hm => ⟨(h m hm).1, (h m hm).2, hd m hm⟩
  · exact fun h => ⟨fun m hm => ⟨(h m hm).1, (h m hm).2.1⟩, fun m hm => (h m hm).2.2⟩

theorem mem_joinWith_iff {c d : Char} (hne : d ≠ c) (texts : List Text) :
    d ∈ Text.joinWith c texts ↔ ∃ t ∈ texts, d ∈ t := by
  induction texts with
  | nil => simp [Text.joinWith]
  | cons a texts ih =>
    cases texts with
    | nil => simp [Text.joinWith]
    | cons b texts => simp [Text.joinWith, hne, ih]

/-- Members between braces, without blanks around them. -/
theorem skim?_joined {members : List (Option Text × Json)} {texts : List Text}
    (h : List.Forall₂ MemberText members texts) :
    skim? ('\x7b' :: (Text.joinWith ',' texts ++ ['\x7d'])) = some (.object members) := by
  refine skim?_eq_object_iff.mpr ⟨[], Text.joinWith ',' texts, [], rfl, nofun, ?_, nofun⟩
  cases h with
  | nil => nofun
  | cons hm hrest => exact ⟨_, .cons hm hrest, rfl⟩

end Json

namespace Classifier

/-! ## Where an object in an answer is cut off -/

/-- An object in an answer is understood if it holds no closing brace but its own and can be kept
whole. -/
theorem parse_of_object {front inside : Text} {members : List (Option Text × Json)}
    (hfront : '\x7b' ∉ front)
    (h : Json.skim? ('\x7b' :: (inside ++ ['\x7d'])) = some (.object members)) (behind : Text) :
    (('\x7d' ∉ inside ∧ ∀ m ∈ members, Json.Fits m) ∧
        parse (front ++ '\x7b' :: (inside ++ '\x7d' :: behind)) = .ok (intentOf members)) ∨
      (¬ ('\x7d' ∉ inside ∧ ∀ m ∈ members, Json.Fits m) ∧
        parse (front ++ '\x7b' :: (inside ++ '\x7d' :: behind)) = .error .invalidJson) := by
  by_cases hclose : '\x7d' ∈ inside
  · refine .inr ⟨fun hwhole => hwhole.1 hclose, ?_⟩
    obtain ⟨first, rest, rfl, hfirst⟩ := exists_first hclose
    rw [List.append_assoc, List.cons_append] at h ⊢
    have hspan : FirstSpan (front ++ '\x7b' :: (first ++ '\x7d' :: (rest ++ '\x7d' :: behind)))
        first := ⟨front, _, rfl, hfront, hfirst⟩
    rcases parse_of_firstSpan hspan with ⟨others, hread, -⟩ | ⟨-, hparse⟩
    · -- The part up to the first brace would be an object of its own, with a brace behind it.
      have hspaces := Json.spaces_of_cut (read?_eq_some_iff.mp hread).1 h
      cases hspaces '\x7d' (by simp)
    · exact hparse
  · have hspan : FirstSpan (front ++ '\x7b' :: (inside ++ '\x7d' :: behind)) inside :=
      ⟨front, behind, rfl, hfront, hclose⟩
    rw [← Json.isPlain_object_iff]
    rcases parse_of_firstSpan hspan with ⟨others, hread, hparse⟩ | ⟨hnone, hparse⟩
    · obtain ⟨hskim, hplain⟩ := read?_eq_some_iff.mp hread
      cases hskim.symm.trans h
      exact .inl ⟨⟨hclose, hplain⟩, hparse⟩
    · refine .inr ⟨fun hwhole => ?_, hparse⟩
      cases hnone.symm.trans (read?_eq_some_iff.mpr ⟨h, hwhole.2⟩)

/-- A member of another name says nothing about a channel. -/
theorem member?_of_ne {name : Text} {m : Option Text × Json} (hne : m.1 ≠ some name)
    (before after : List (Option Text × Json)) :
    (Json.object (before ++ m :: after)).member? name =
      (Json.object (before ++ after)).member? name := by
  simp [Json.member?, List.find?_append, hne]

theorem intentOf_of_ne {m : Option Text × Json} (hgesture : m.1 ≠ some "gesture".toList)
    (hexpression : m.1 ≠ some "expression".toList) (before after : List (Option Text × Json)) :
    intentOf (before ++ m :: after) = intentOf (before ++ after) := by
  simp only [intentOf, label?, member?_of_ne hgesture, member?_of_ne hexpression]

/-- A member of another name, at any place of the object in an answer, leaves alone what is
understood, unless it holds a closing brace, in a string or as the end of an object of its own, or
cannot be kept whole: then the answer counts as invalid. -/
theorem another_member_is_passed_over_unless_it_holds_a_brace {front : Text}
    (hfront : '\x7b' ∉ front) {before after : List (Option Text × Json)}
    {textsBefore textsAfter : List Text} (hbefore : List.Forall₂ Json.MemberText before textsBefore)
    (hafter : List.Forall₂ Json.MemberText after textsAfter) {m : Option Text × Json} {extra : Text}
    (hm : Json.MemberText m extra) (hgesture : m.1 ≠ some "gesture".toList)
    (hexpression : m.1 ≠ some "expression".toList) (behind : Text) :
    let answer texts := front ++ '\x7b' :: (Text.joinWith ',' texts ++ '\x7d' :: behind)
    let old := answer (textsBefore ++ textsAfter)
    let new := answer (textsBefore ++ extra :: textsAfter)
    (parse new = parse old ↔
      parse old = .error .invalidJson ∨ ('\x7d' ∉ extra ∧ Json.Fits m)) ∧
    (parse new = parse old ∨ parse new = .error .invalidJson) := by
  intro answer old new
  have hold := parse_of_object hfront (Json.skim?_joined (List.rel_append hbefore hafter)) behind
  have hnew := parse_of_object hfront
    (Json.skim?_joined (List.rel_append hbefore (.cons hm hafter))) behind
  have hbrace (texts : List Text) :
      '\x7d' ∈ Text.joinWith ',' texts ↔ ∃ t ∈ texts, '\x7d' ∈ t :=
    Json.mem_joinWith_iff (by decide) texts
  rw [intentOf_of_ne hgesture hexpression] at hnew
  -- The new object is whole exactly if the old one is and the member is.
  have hwhole : ('\x7d' ∉ Text.joinWith ',' (textsBefore ++ extra :: textsAfter) ∧
      ∀ n ∈ before ++ m :: after, Json.Fits n) ↔
      ('\x7d' ∉ Text.joinWith ',' (textsBefore ++ textsAfter) ∧
        ∀ n ∈ before ++ after, Json.Fits n) ∧ '\x7d' ∉ extra ∧ Json.Fits m := by
    rw [hbrace, hbrace]
    grind
  rw [hwhole] at hnew
  rcases hold with ⟨holdWhole, hold⟩ | ⟨holdBroken, hold⟩ <;>
    rcases hnew with ⟨hnewWhole, hnew⟩ | ⟨hnewBroken, hnew⟩
  case inl.inl =>
    have hsame := hnew.trans hold.symm
    exact ⟨iff_of_true hsame (.inr hnewWhole.2), .inl hsame⟩
  case inl.inr =>
    refine ⟨iff_of_false ?_ ?_, .inr hnew⟩
    · intro hsame
      cases hnew.symm.trans (hsame.trans hold)
    · rintro (hinvalid | hextra)
      · cases hold.symm.trans hinvalid
      · exact hnewBroken ⟨holdWhole, hextra⟩
  case inr.inl => exact absurd hnewWhole.1 holdBroken
  case inr.inr => exact ⟨iff_of_true (hnew.trans hold.symm) (.inl hold), .inr hnew⟩

/-- A remark that is a brace hides a nod and a smile. -/
theorem a_brace_in_a_remark_hides_a_nod :
    let before : List (Option Text × Json) :=
      [(some "gesture".toList, Json.str "nod".toList),
        (some "expression".toList, Json.str "smile".toList)]
    let textsBefore := ["\"gesture\":\"nod\"".toList, "\"expression\":\"smile\"".toList]
    let remark : Option Text × Json := (some "note".toList, Json.str "\x7d".toList)
    let extra := "\"note\":\"\x7d\"".toList
    '\x7b' ∉ ([] : Text) ∧ List.Forall₂ Json.MemberText before textsBefore ∧
      Json.MemberText remark extra ∧ remark.1 ≠ some "gesture".toList ∧
      remark.1 ≠ some "expression".toList ∧
      parse "\x7b\"gesture\":\"nod\",\"expression\":\"smile\"\x7d".toList =
        .ok ⟨some .nod, some .smile⟩ ∧
      parse "\x7b\"gesture\":\"nod\",\"expression\":\"smile\",\"note\":\"\x7d\"\x7d".toList =
        .error .invalidJson := by
  intro before textsBefore remark extra
  have hfront : '\x7b' ∉ ([] : Text) := List.not_mem_nil
  have hnod : Json.MemberText (some "gesture".toList, Json.str "nod".toList)
      "\"gesture\":\"nod\"".toList := Json.memberText_compact trivial
  have hsmile : Json.MemberText (some "expression".toList, Json.str "smile".toList)
      "\"expression\":\"smile\"".toList := Json.memberText_compact trivial
  have hbefore : List.Forall₂ Json.MemberText before textsBefore := .cons hnod (.cons hsmile .nil)
  have hremark : Json.MemberText remark extra := Json.memberText_compact trivial
  have hgesture : remark.1 ≠ some "gesture".toList := by decide
  have hexpression : remark.1 ≠ some "expression".toList := by decide
  obtain ⟨hsame, hrefused⟩ := another_member_is_passed_over_unless_it_holds_a_brace hfront hbefore
    .nil hremark hgesture hexpression []
  have hold : parse "\x7b\"gesture\":\"nod\",\"expression\":\"smile\"\x7d".toList =
      .ok ⟨some .nod, some .smile⟩ :=
    (parse_written hfront [] ⟨some .nod, some .smile⟩).1
  refine ⟨hfront, hbefore, hremark, hgesture, hexpression, hold, ?_⟩
  refine hrefused.resolve_left fun h => ?_
  rcases hsame.mp h with hinvalid | hkept
  · cases hold.symm.trans hinvalid
  · exact hkept.1 (by decide)

end Classifier

end CueStream
