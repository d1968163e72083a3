-- Places in a text, as byte offsets. A text falls apart at a place in one way
-- only. A place is an edge if no word goes over it: a whole word has an edge at
-- its start and none inside.
import CueStream.Proofs.Text.Occurrence

namespace CueStream.Text

/-! ## Places in a text -/

/-- The byte offset lies between two characters, or at one end of the text. -/
def IsBoundary (t : Text) (n : Nat) : Prop :=
  ∃ front rest, t = front ++ rest ∧ front.byteLength = n

/-- A text falls apart at a byte offset in one way only. -/
theorem append_inj_of_byteLength {a b c d : Text} (h : a ++ b = c ++ d)
    (hlen : a.byteLength = c.byteLength) : a = c ∧ b = d := by
  have hsplit := splitAtByte?_append a b
  rw [h, hlen, splitAtByte?_append c d] at hsplit
  cases hsplit
  exact ⟨rfl, rfl⟩

theorem byteLength_pos {t : Text} (h : t ≠ []) : 0 < t.byteLength := by
  obtain ⟨c, rest, rfl⟩ := List.exists_cons_of_ne_nil h
  have := c.utf8Size_pos
  rw [byteLength_cons]
  omega

/-- A place from the end of `front` on lies in the rest of the text. -/
theorem exists_append_of_le {front rest a b : Text} (h : front ++ rest = a ++ b)
    (hle : front.byteLength ≤ a.byteLength) : ∃ m, a = front ++ m ∧ rest = m ++ b := by
  rcases List.append_eq_append_iff.mp h with ⟨m, ha, hrest⟩ | ⟨m, hfront, hb⟩
  · exact ⟨m, ha, hrest⟩
  · cases m with
    | nil => exact ⟨[], by simpa using hfront.symm, by simpa using hb.symm⟩
    | cons c m =>
      have := byteLength_pos (t := c :: m) nofun
      rw [hfront, byteLength_append] at hle
      omega

/-! ## Edges and whole words -/

/-- The byte offset lies between two characters that are not both word characters, or at one end of
the text. -/
def IsWordEdge (t : Text) (n : Nat) : Prop :=
  ∃ front rest, t = front ++ rest ∧ front.byteLength = n ∧ Apart front rest

/-- Between `front` and `rest` stands a word from its first to its last character. -/
structure WholeWord (t front word rest : Text) : Prop where
  split : t = front ++ (word ++ rest)
  ne_nil : word ≠ []
  letters : ∀ c ∈ word, isWordChar c = true
  before : isEdge front.getLast? = true
  after : isEdge rest.head? = true

/-- The word from `front` on goes over the byte offset. -/
structure WordAcross (t : Text) (n : Nat) (front word rest : Text) : Prop
    extends WholeWord t front word rest where
  starts : front.byteLength < n
  ends : n < (front ++ word).byteLength

/-- A cut between two word characters goes through a word. -/
theorem not_apart_of_letters {first last : Text} (hfirst : first ≠ []) (hlast : last ≠ [])
    (h : ∀ c ∈ first ++ last, isWordChar c = true) (front rest : Text) :
    ¬ Apart (front ++ first) (last ++ rest) := by
  obtain ⟨hletters, hletters'⟩ := List.forall_mem_append.mp h
  intro hapart
  have hend := isEdge_getLast?_of_append (hapart.edge_before hlast hletters')
  rw [isEdge_getLast?_of_letters hfirst hletters] at hend
  cases hend

namespace WholeWord

variable {t front word rest : Text}

theorem isWordEdge_start (h : WholeWord t front word rest) : t.IsWordEdge front.byteLength :=
  ⟨front, word ++ rest, h.split, rfl, .inl h.before⟩

/-- No edge lies inside a word. -/
theorem le_or_le_of_isWordEdge (h : WholeWord t front word rest) {n : Nat}
    (hn : t.IsWordEdge n) : n ≤ front.byteLength ∨ (front ++ word).byteLength ≤ n := by
  obtain ⟨a, b, hab, rfl, hapart⟩ := hn
  rcases Nat.le_total a.byteLength front.byteLength with hle | hle
  · exact .inl hle
  · obtain ⟨first, rfl, hsplit⟩ := exists_append_of_le (h.split.symm.trans hab) hle
    rcases List.append_eq_append_iff.mp hsplit with ⟨more, rfl, -⟩ | ⟨last, hword, rfl⟩
    · right
      rw [← List.append_assoc, byteLength_append (front ++ word)]
      exact Nat.le_add_right _ _
    · -- the place takes the word apart into `first` and `last`, so one of them is empty
      by_cases hfirst : first = []
      · left
        exact Nat.le_of_eq (by rw [hfirst, List.append_nil])
      · by_cases hlast : last = []
        · right
          exact Nat.le_of_eq (by rw [hword, hlast, List.append_nil])
        · exact absurd hapart (not_apart_of_letters hfirst hlast (hword ▸ h.letters) front rest)

/-- An edge in front of the end of a word is not behind its start. -/
theorem le_start (h : WholeWord t front word rest) {n : Nat} (hn : t.IsWordEdge n)
    (hlt : n < (front ++ word).byteLength) : n ≤ front.byteLength :=
  (h.le_or_le_of_isWordEdge hn).resolve_right (Nat.not_le_of_lt hlt)

end WholeWord

end CueStream.Text
