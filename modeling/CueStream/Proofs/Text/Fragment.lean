-- The bytes of a text that is cut anywhere, also inside a character. What is
-- left of a character spells nothing by itself, so that nothing is read before
-- the rest has come.
import CueStream.Proofs.Text.Encoding

namespace CueStream.Utf8

/-! ## More bytes behind -/

theorem readTrail_append {bits read count n : Nat} {least greatest : UInt8}
    {bytes rest : List UInt8}
    (h : readTrail bits read count least greatest bytes = .ok (n, rest)) (more : List UInt8) :
    readTrail bits read count least greatest (bytes ++ more) = .ok (n, rest ++ more) := by
  induction bytes generalizing bits read count least greatest with
  | nil =>
    cases count with
    | zero =>
      cases h
      rfl
    | succ count => cases h
  | cons b bytes ih =>
    cases count with
    | zero =>
      cases h
      rfl
    | succ count =>
      rw [List.cons_append]
      rw [readTrail] at h ⊢
      split at h
      · rename_i hb
        rw [if_pos hb]
        exact ih h
      · cases h

/-- A character that was read stays the same when more bytes come. -/
theorem readChar_append {lead : UInt8} {bytes rest : List UInt8} {c : Char}
    (h : readChar lead bytes = .ok (c, rest)) (more : List UInt8) :
    readChar lead (bytes ++ more) = .ok (c, rest ++ more) := by
  unfold readChar at h ⊢
  split at h
  · rename_i hlead
    cases h
    rw [if_pos hlead]
  · rename_i hlead
    rw [if_neg hlead]
    cases htrail : Trail.of? lead with
    | none =>
      rw [htrail] at h
      cases h
    | some trail =>
      rw [htrail] at h
      dsimp only at h ⊢
      cases hread : readTrail (leadBits lead trail.count) 1 trail.count trail.least trail.greatest
          bytes with
      | error fault =>
        rw [hread] at h
        cases h
      | ok p =>
        rw [hread] at h
        cases h
        rw [readTrail_append hread]
        rfl

/-! ## Parts of a character -/

/-- The first bytes of a character, but not all of them. -/
def IsFragment (bytes : List UInt8) : Prop :=
  ∃ c more, more ≠ [] ∧ String.utf8EncodeChar c = bytes ++ more

theorem isFragment_nil : IsFragment [] :=
  ⟨'a', String.utf8EncodeChar 'a', nofun, rfl⟩

/-- A part of a character spells nothing. -/
theorem decodeStart_of_isFragment {bytes : List UInt8} (h : IsFragment bytes) :
    (decodeStart bytes).1 = [] := by
  obtain ⟨c, more, hmore, hbytes⟩ := h
  cases bytes with
  | nil => rw [decodeStart]
  | cons lead front =>
    rw [decodeStart]
    split
    · rfl
    · -- Whatever was read would be the whole character, and nothing would be left of its bytes.
      rename_i d rest hread
      obtain ⟨first, trail, hwhole, hchar⟩ := readChar_utf8EncodeChar c []
      obtain ⟨rfl, rfl⟩ := List.cons.inj (hbytes.symm.trans hwhole)
      rw [List.append_nil, List.append_eq, readChar_append hread more] at hchar
      obtain ⟨-, hnone⟩ := Prod.mk.inj (Except.ok.inj hchar)
      exact absurd (List.append_eq_nil_iff.mp hnone).2 hmore

/-- Wherever the bytes of a text are cut, whole characters stand in front, and then a part of the
next one. -/
theorem exists_isFragment {a b : List UInt8} {t : Text} (h : a ++ b = encode t) :
    ∃ u v part, t = u ++ v ∧ a = encode u ++ part ∧ IsFragment part ∧ part ++ b = encode v := by
  induction t generalizing a with
  | nil =>
    obtain ⟨rfl, rfl⟩ := List.append_eq_nil_iff.mp h
    exact ⟨[], [], [], rfl, rfl, isFragment_nil, rfl⟩
  | cons c t ih =>
    have hwhole {a : List UInt8} (h : a ++ b = encode t) :
        ∃ u v part, c :: t = u ++ v ∧ String.utf8EncodeChar c ++ a = encode u ++ part ∧
          IsFragment part ∧ part ++ b = encode v := by
      obtain ⟨u, v, part, rfl, rfl, hpart, hb⟩ := ih h
      exact ⟨c :: u, v, part, rfl, by rw [encode_cons, List.append_assoc], hpart, hb⟩
    rw [encode_cons] at h
    rcases List.append_eq_append_iff.mp h with ⟨more, hc, hb⟩ | ⟨behind, rfl, hrest⟩
    · cases more with
      | nil =>
        rw [List.append_nil] at hc
        subst hc
        have := hwhole (a := []) hb
        rwa [List.append_nil] at this
      | cons first more =>
        exact ⟨[], c :: t, a, rfl, rfl, ⟨c, first :: more, nofun, hc⟩, by rw [encode_cons, h]⟩
    · exact hwhole hrest.symm

/-- A text has as many bytes as it says. -/
theorem length_encode (t : Text) : (encode t).length = t.byteLength := by
  induction t with
  | nil => rfl
  | cons c t ih =>
    rw [encode_cons, List.length_append, String.length_utf8EncodeChar, ih, Text.byteLength_cons]

end CueStream.Utf8
