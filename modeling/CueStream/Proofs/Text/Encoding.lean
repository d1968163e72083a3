-- Bytes that were made of a text spell that text again: what is written to a
-- file is what is read from it.
import CueStream.Text.Utf8

namespace CueStream.Utf8

deriving instance DecidableEq for Trail

/-! ## The bytes of one character -/

/-- A byte that carries six bits of a character, next behind the lead byte. -/
theorem readTrail_cons {least greatest : UInt8} (bits read count n : Nat) (rest : List UInt8)
    (hleast : least.toNat ≤ n % 64 + 128) (hgreatest : n % 64 + 128 ≤ greatest.toNat) :
    readTrail bits read (count + 1) least greatest (UInt8.ofNat (n % 64 + 128) :: rest) =
      readTrail (bits * 64 + n % 64) (read + 1) count 0x80 0xBF rest := by
  have hn : (UInt8.ofNat (n % 64 + 128)).toNat = n % 64 + 128 :=
    UInt8.toNat_ofNat_of_lt' (by show _ < 256; omega)
  have hlow : least ≤ UInt8.ofNat (n % 64 + 128) := by rwa [UInt8.le_iff_toNat_le, hn]
  have hhigh : UInt8.ofNat (n % 64 + 128) ≤ greatest := by rwa [UInt8.le_iff_toNat_le, hn]
  have hbits : (n % 64 + 128) % 64 = n % 64 := by omega
  simp only [readTrail, hlow, hhigh, hn, hbits, decide_true, Bool.and_self, if_true]

/-- A byte that carries six bits of a character, further behind. -/
theorem readTrail_later (bits read count n : Nat) (rest : List UInt8) :
    readTrail bits read (count + 1) 0x80 0xBF (UInt8.ofNat (n % 64 + 128) :: rest) =
      readTrail (bits * 64 + n % 64) (read + 1) count 0x80 0xBF rest := by
  refine readTrail_cons bits read count n rest ?_ ?_
  · show 128 ≤ _
    omega
  · show _ ≤ 191
    omega

/-- What the lead byte of two asks for. -/
theorem trail_of_two : ∀ n < 32, 2 ≤ n →
    Trail.of? (UInt8.ofNat (n + 192)) = some ⟨1, 0x80, 0xBF⟩ ∧
      leadBits (UInt8.ofNat (n + 192)) 1 = n := by
  decide

/-- What the lead byte of three asks for. -/
theorem trail_of_three : ∀ n < 16,
    Trail.of? (UInt8.ofNat (n + 224)) =
        some ⟨2, UInt8.ofNat (if n = 0 then 0xA0 else 0x80),
          UInt8.ofNat (if n = 13 then 0x9F else 0xBF)⟩ ∧
      leadBits (UInt8.ofNat (n + 224)) 2 = n := by
  decide

/-- What the lead byte of four asks for. -/
theorem trail_of_four : ∀ n < 5,
    Trail.of? (UInt8.ofNat (n + 240)) =
        some ⟨3, UInt8.ofNat (if n = 0 then 0x90 else 0x80),
          UInt8.ofNat (if n = 4 then 0x8F else 0xBF)⟩ ∧
      leadBits (UInt8.ofNat (n + 240)) 3 = n := by
  decide

/-- A byte from 128 on is no character of its own. -/
theorem not_lt_of_le {n : Nat} (h : 128 ≤ n) (hn : n < 256) : ¬ UInt8.ofNat n < 0x80 := by
  rw [UInt8.lt_iff_toNat_lt, UInt8.toNat_ofNat_of_lt' hn]
  exact Nat.not_lt.mpr h

/-- The number of a character is not one of those set aside for halves. -/
theorem toNat_valid (c : Char) :
    c.val.toNat < 0xD800 ∨ 0xDFFF < c.val.toNat ∧ c.val.toNat < 0x110000 :=
  c.valid

/-- The bytes of a character spell it, whatever comes behind. -/
theorem readChar_utf8EncodeChar (c : Char) (rest : List UInt8) :
    ∃ lead trail, String.utf8EncodeChar c = lead :: trail ∧
      readChar lead (trail ++ rest) = .ok (c, rest) := by
  have hvalid := toNat_valid c
  have hself : Char.ofNat c.val.toNat = c := Char.ofNat_toNat c
  unfold String.utf8EncodeChar
  generalize c.val.toNat = v at hvalid hself
  dsimp only
  split
  · refine ⟨_, [], rfl, ?_⟩
    have hv : (UInt8.ofNat v).toNat = v := UInt8.toNat_ofNat_of_lt' (by show _ < 256; omega)
    have hlt : UInt8.ofNat v < 0x80 := by
      rw [UInt8.lt_iff_toNat_lt, hv]
      show v < 128
      omega
    rw [readChar, if_pos hlt, hv, hself]
    rfl
  split
  · refine ⟨_, _, rfl, ?_⟩
    obtain ⟨htrail, hlead⟩ := trail_of_two (v / 64 % 32) (by omega) (by omega)
    rw [readChar, if_neg (not_lt_of_le (by omega) (by omega)), htrail]
    dsimp only
    rw [hlead, List.cons_append, readTrail_later, readTrail]
    have hbits : v / 64 % 32 * 64 + v % 64 = v := by omega
    simp only [Except.map, hbits, hself, List.nil_append]
  split
  · refine ⟨_, _, rfl, ?_⟩
    obtain ⟨htrail, hlead⟩ := trail_of_three (v / 4096 % 16) (by omega)
    rw [readChar, if_neg (not_lt_of_le (by omega) (by omega)), htrail]
    dsimp only
    rw [hlead, List.cons_append, List.cons_append, readTrail_cons, readTrail_later, readTrail]
    · have hbits : (v / 4096 % 16 * 64 + v / 64 % 64) * 64 + v % 64 = v := by omega
      simp only [Except.map, hbits, hself, List.nil_append]
    · split
      · show 160 ≤ _
        omega
      · show 128 ≤ _
        omega
    · split
      · show _ ≤ 159
        omega
      · show _ ≤ 191
        omega
  · refine ⟨_, _, rfl, ?_⟩
    obtain ⟨htrail, hlead⟩ := trail_of_four (v / 262144 % 8) (by omega)
    rw [readChar, if_neg (not_lt_of_le (by omega) (by omega)), htrail]
    dsimp only
    rw [hlead, List.cons_append, List.cons_append, List.cons_append, readTrail_cons,
      readTrail_later, readTrail_later, readTrail]
    · have hbits : ((v / 262144 % 8 * 64 + v / 4096 % 64) * 64 + v / 64 % 64) * 64 + v % 64 = v := by
        omega
      simp only [Except.map, hbits, hself, List.nil_append]
    · split
      · show 144 ≤ _
        omega
      · show 128 ≤ _
        omega
    · split
      · show _ ≤ 143
        omega
      · show _ ≤ 191
        omega

/-! ## Whole texts -/

theorem encode_cons (c : Char) (t : Text) : encode (c :: t) = String.utf8EncodeChar c ++ encode t :=
  List.flatMap_cons

/-- A text is read from the start of its bytes, whatever comes behind. -/
theorem decodeStart_encode_append (t : Text) (rest : List UInt8) :
    decodeStart (encode t ++ rest) = (t ++ (decodeStart rest).1, (decodeStart rest).2) := by
  induction t with
  | nil => rfl
  | cons c t ih =>
    obtain ⟨lead, trail, hbytes, hread⟩ := readChar_utf8EncodeChar c (encode t ++ rest)
    rw [encode_cons, hbytes, List.append_assoc, List.cons_append, decodeStart]
    split
    · rename_i hfault
      cases hread.symm.trans hfault
    · rename_i hchar
      cases hread.symm.trans hchar
      rw [ih]
      rfl

theorem decodeStart_encode (t : Text) : decodeStart (encode t) = (t, none) := by
  have h := decodeStart_encode_append t []
  rwa [List.append_nil, decodeStart, List.append_nil] at h

/-- The bytes of a text spell it. -/
theorem decode?_encode (t : Text) : decode? (encode t) = some t := by
  rw [decode?, decodeStart_encode]

end CueStream.Utf8
