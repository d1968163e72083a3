-- Where the search of a text starts that was searched up to a cursor: at the
-- last edge that is not behind the cursor. So every word that reaches over the
-- cursor is searched as a whole, and nothing in front of it is searched again.
import CueStream.Proofs.Session.Scanning
import CueStream.Proofs.Text.Place
import Mathlib.Order.Bounds.Basic

namespace CueStream

open Text

namespace Text

/-- The part of a word in front of a cut, and the rest of the word behind it, are the word that goes
over the cut. -/
theorem wordAcross_continued {front t chunk : Text} (h : front ++ continued t chunk = t)
    (hapart : Apart front (continued t chunk ++ chunk)) (hne : continued t chunk ≠ []) :
    (t ++ chunk).WordAcross t.byteLength front
      (continued t chunk ++ chunk.takeWhile isWordChar) (chunk.dropWhile isWordChar) := by
  have hword : chunk.head?.any isWordChar = true := by
    rw [← Bool.not_eq_false]
    exact fun hnot => hne (continued_of_not_word hnot t)
  have hgoes : chunk.takeWhile isWordChar ≠ [] := by
    cases chunk with
    | nil => cases hword
    | cons c rest =>
      rw [List.head?_cons, Option.any_some] at hword
      rw [List.takeWhile_cons_of_pos hword]
      nofun
  have hlength := congrArg byteLength h
  rw [byteLength_append] at hlength
  refine ⟨⟨?_, ?_, ?_, ?_, ?_⟩, ?_, ?_⟩
  · rw [List.append_assoc, List.takeWhile_append_dropWhile, ← List.append_assoc, h]
  · exact List.append_ne_nil_of_left_ne_nil hne _
  · exact List.forall_mem_append.mpr
      ⟨letters_of_continued t chunk, fun c hc => List.mem_takeWhile_imp hc⟩
  · exact hapart.edge_before hne (letters_of_continued t chunk)
  · exact isEdge_head?_dropWhile chunk
  · have := byteLength_pos hne
    omega
  · have := byteLength_pos hgoes
    rw [byteLength_append, byteLength_append]
    omega

end Text

namespace Session

variable {t : Text} {cursor : Nat}

/-- The part that is searched begins at the start of the search. -/
theorem append_unscanned (h : t.IsBoundary cursor) :
    ∃ front, t = front ++ unscanned t cursor ∧ front.byteLength = scanStart t cursor := by
  obtain ⟨head, tail, rfl, rfl⟩ := h
  obtain ⟨front, hfront, -⟩ := exists_apart_continued head tail
  rw [unscanned_append]
  exact ⟨front, eq_append_of_splitAtByte? (splitAtByte?_scanStart hfront)⟩

/-- The search starts at the cursor if that is an edge, and else where the word starts that goes over
the cursor. -/
theorem scanStart_cases (h : t.IsBoundary cursor) :
    (t.IsWordEdge cursor ∧ scanStart t cursor = cursor) ∨
      ∃ front word rest, t.WordAcross cursor front word rest ∧
        scanStart t cursor = front.byteLength := by
  obtain ⟨head, tail, rfl, rfl⟩ := h
  obtain ⟨front, hfront, hapart⟩ := exists_apart_continued head tail
  have hstart := (eq_append_of_splitAtByte? (splitAtByte?_scanStart hfront)).2
  by_cases hnone : continued head tail = []
  · left
    rw [hnone, List.append_nil] at hfront
    rw [hnone, List.nil_append, hfront] at hapart
    rw [hfront] at hstart
    exact ⟨⟨head, tail, rfl, rfl, hapart⟩, hstart.symm⟩
  · right
    exact ⟨front, _, _, wordAcross_continued hfront hapart hnone, hstart.symm⟩

/-- No edge is nearer in front of the cursor than the start of the search. -/
theorem isGreatest_scanStart (h : t.IsBoundary cursor) :
    IsGreatest {n | n ≤ cursor ∧ t.IsWordEdge n} (scanStart t cursor) := by
  rcases scanStart_cases h with ⟨hedge, hstart⟩ | ⟨front, word, rest, hword, hstart⟩
  · rw [hstart]
    exact ⟨⟨Nat.le_refl _, hedge⟩, fun n hn => hn.1⟩
  · rw [hstart]
    refine ⟨⟨Nat.le_of_lt hword.starts, hword.isWordEdge_start⟩, ?_⟩
    rintro n ⟨hle, hedge⟩
    exact hword.le_start hedge (Nat.lt_of_le_of_lt hle hword.ends)

/-- A text that was searched up to an offset of a character is searched on from the last edge that is
not behind it. What is searched begins there. It holds each whole word that reaches beyond the cursor.
If a word goes over the cursor, nothing in front of that word is searched again, and if none does,
nothing at all is. -/
theorem the_search_starts_at_the_last_edge (h : t.IsBoundary cursor) :
    IsGreatest {n | n ≤ cursor ∧ t.IsWordEdge n} (scanStart t cursor) ∧
      (∃ front, t = front ++ unscanned t cursor ∧ front.byteLength = scanStart t cursor) ∧
      (∀ front word rest, t.WholeWord front word rest → cursor < (front ++ word).byteLength →
        word ++ rest <:+ unscanned t cursor) ∧
      (∀ front word rest, t.WordAcross cursor front word rest →
        unscanned t cursor = word ++ rest) ∧
      ((¬ ∃ front word rest, t.WordAcross cursor front word rest) → scanStart t cursor = cursor) := by
  have hgreatest := isGreatest_scanStart h
  obtain ⟨gone, hgone, hstart⟩ := append_unscanned h
  have hreaches {front word rest : Text} (hword : t.WholeWord front word rest)
      (hlt : cursor < (front ++ word).byteLength) :
      ∃ m, front = gone ++ m ∧ unscanned t cursor = m ++ (word ++ rest) := by
    refine exists_append_of_le (hgone.symm.trans hword.split) ?_
    rw [hstart]
    exact hword.le_start hgreatest.1.2 (Nat.lt_of_le_of_lt hgreatest.1.1 hlt)
  refine ⟨hgreatest, ⟨gone, hgone, hstart⟩, ?_, ?_, ?_⟩
  · intro front word rest hword hlt
    obtain ⟨m, -, hrest⟩ := hreaches hword hlt
    exact ⟨m, hrest.symm⟩
  · intro front word rest hword
    obtain ⟨m, rfl, hrest⟩ := hreaches hword.toWholeWord hword.ends
    have hle := hgreatest.2 ⟨Nat.le_of_lt hword.starts, hword.isWordEdge_start⟩
    rw [← hstart] at hle
    have hm : m = [] := by
      by_contra hne
      have := byteLength_pos hne
      rw [byteLength_append] at hle
      omega
    rw [hrest, hm, List.nil_append]
  · intro hnone
    rcases scanStart_cases h with ⟨-, hstart⟩ | ⟨front, word, rest, hword, -⟩
    · exact hstart
    · exact absurd ⟨front, word, rest, hword⟩ hnone

/-- The word goes on behind an ideograph without a space, and holds a letter of two bytes, a digit and
an underscore. The part that stands in front of the cursor is searched again, the ideograph is not. -/
theorem a_word_behind_an_ideograph_is_searched_from_its_start :
    let t : Text := "ok笑naïve_2, so".toList
    t.IsBoundary 9 ∧ t.WordAcross 9 "ok笑".toList "naïve_2".toList ", so".toList ∧
      IsGreatest {n | n ≤ 9 ∧ t.IsWordEdge n} 5 ∧ unscanned t 9 = "naïve_2, so".toList := by
  intro t
  have hcursor : t.IsBoundary 9 := ⟨"ok笑naï".toList, "ve_2, so".toList, by decide, by decide⟩
  have hword : t.WordAcross 9 "ok笑".toList "naïve_2".toList ", so".toList :=
    ⟨⟨by decide, by decide, List.all_eq_true.mp (by decide +kernel), by decide +kernel,
      by decide +kernel⟩, by decide, by decide⟩
  have hstart : scanStart t 9 = 5 := by decide +kernel
  obtain ⟨hgreatest, -, -, hacross, -⟩ := the_search_starts_at_the_last_edge hcursor
  rw [hstart] at hgreatest
  exact ⟨hcursor, hword, hgreatest, hacross _ _ _ hword⟩

end Session

end CueStream
