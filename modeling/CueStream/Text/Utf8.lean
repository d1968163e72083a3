-- Bytes read as UTF-8. A sequence of bytes that spells no character is
-- measured: its length, and whether more bytes could still have made it
-- into a character.
import CueStream.Text.Basic

namespace CueStream.Utf8

/-! ## One character -/

/-- Why no character could be read. -/
inductive Fault where
  /-- The first `length` bytes start no character. -/
  | invalid (length : Nat)
  /-- The bytes end inside a character. -/
  | incomplete
  deriving DecidableEq, Repr

/-- The bytes that may follow a lead byte: how many there are, and the least and the
greatest value of the first of them. -/
structure Trail where
  count : Nat
  least : UInt8
  greatest : UInt8

/-- What a lead byte asks for. A byte that leads no sequence of two or more gets none. -/
def Trail.of? (lead : UInt8) : Option Trail :=
  if 0xC2 ≤ lead && lead ≤ 0xDF then some ⟨1, 0x80, 0xBF⟩
  else if lead = 0xE0 then some ⟨2, 0xA0, 0xBF⟩
  else if lead = 0xED then some ⟨2, 0x80, 0x9F⟩
  else if 0xE1 ≤ lead && lead ≤ 0xEF then some ⟨2, 0x80, 0xBF⟩
  else if lead = 0xF0 then some ⟨3, 0x90, 0xBF⟩
  else if 0xF1 ≤ lead && lead ≤ 0xF3 then some ⟨3, 0x80, 0xBF⟩
  else if lead = 0xF4 then some ⟨3, 0x80, 0x8F⟩
  else none

/-- Reads `count` more bytes of a character whose bits so far are `bits`. `read` is the number
of bytes before them. -/
def readTrail (bits : Nat) (read : Nat) : (count : Nat) → (least greatest : UInt8) → List UInt8 →
    Except Fault (Nat × List UInt8)
  | 0, _, _, rest => .ok (bits, rest)
  | _ + 1, _, _, [] => .error .incomplete
  | count + 1, least, greatest, b :: rest =>
    if least ≤ b && b ≤ greatest then
      readTrail (bits * 64 + b.toNat % 64) (read + 1) count 0x80 0xBF rest
    else .error (.invalid read)

/-- The bits of a lead byte that belong to the character. -/
def leadBits (lead : UInt8) (count : Nat) : Nat :=
  lead.toNat % Nat.pow 2 (6 - count)

/-- The first character of the bytes `lead :: rest`, and the bytes after it. -/
def readChar (lead : UInt8) (rest : List UInt8) : Except Fault (Char × List UInt8) :=
  if lead < 0x80 then .ok (Char.ofNat lead.toNat, rest)
  else match Trail.of? lead with
    | none => .error (.invalid 1)
    | some t =>
      (readTrail (leadBits lead t.count) 1 t.count t.least t.greatest rest).map fun p =>
        (Char.ofNat p.1, p.2)

theorem length_of_readTrail {bits read count : Nat} {least greatest : UInt8} {bs rest : List UInt8}
    {n : Nat} (h : readTrail bits read count least greatest bs = .ok (n, rest)) :
    rest.length ≤ bs.length := by
  induction bs generalizing bits read count least greatest with
  | nil => cases count <;> simp_all [readTrail]
  | cons b bs ih =>
    cases count with
    | zero => simp_all [readTrail]
    | succ count =>
      simp only [readTrail] at h
      split at h
      · have := ih h
        simp only [List.length_cons]
        omega
      · cases h

theorem length_of_readChar {lead : UInt8} {bs rest : List UInt8} {c : Char}
    (h : readChar lead bs = .ok (c, rest)) : rest.length ≤ bs.length := by
  unfold readChar at h
  split at h
  · simp_all
  · split at h
    · cases h
    · rename_i t _
      revert h
      generalize hr : readTrail (leadBits lead t.count) 1 t.count t.least t.greatest bs = r
      cases r with
      | error e => intro h; cases h
      | ok p =>
        intro h
        simp only [Except.map, Except.ok.injEq, Prod.mk.injEq] at h
        exact h.2 ▸ length_of_readTrail (n := p.1) hr

/-! ## Whole texts -/

/-- The longest text at the start of the bytes, and the fault that ends it, if one does. -/
def decodeStart (bytes : List UInt8) : Text × Option Fault :=
  match bytes with
  | [] => ([], none)
  | lead :: rest =>
    match h : readChar lead rest with
    | .error e => ([], some e)
    | .ok (c, rest') =>
      have := length_of_readChar h
      let (t, e) := decodeStart rest'
      (c :: t, e)
termination_by bytes.length
decreasing_by
  simp only [List.length_cons]
  omega

/-- The text that the bytes spell, if all of them do. -/
def decode? (bytes : List UInt8) : Option Text :=
  match decodeStart bytes with
  | (t, none) => some t
  | (_, some _) => none

/-- The text that the bytes spell, with a replacement character for each faulty sequence. -/
def decodeLossy (bytes : List UInt8) : Text :=
  match bytes with
  | [] => []
  | lead :: rest =>
    match h : readChar lead rest with
    | .ok (c, rest') =>
      have := length_of_readChar h
      c :: decodeLossy rest'
    | .error .incomplete => ['\ufffd']
    | .error (.invalid n) => '\ufffd' :: decodeLossy (rest.drop (n - 1))
termination_by bytes.length
decreasing_by
  · simp only [List.length_cons]
    omega
  · simp only [List.length_cons, List.length_drop]
    omega

/-- The bytes of a text. -/
def encode (t : Text) : List UInt8 :=
  t.flatMap String.utf8EncodeChar

end CueStream.Utf8
