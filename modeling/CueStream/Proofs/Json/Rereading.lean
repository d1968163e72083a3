-- A value that was written over many lines is the one that is read. Its words
-- are listed first; the lines hold these words and blanks, and the words lead
-- the reader back to the value.
import CueStream.Json.Reader
import CueStream.Proofs.Json.Word

namespace CueStream.Json

/-! ## The words of a value -/

mutual

/-- The words in which a value is written. -/
def words : Json → List Token
  | .null => [.scalar .null]
  | .bool b => [.scalar (.bool b)]
  | .number n => [.scalar (.number n)]
  | .string content => [.string content]
  | .array [] => [.openArray, .closeArray]
  | .array (v :: rest) => .openArray :: words v ++ itemWords rest ++ [.closeArray]
  | .object [] => [.openObject, .closeObject]
  | .object ((name, v) :: rest) =>
    .openObject :: .string name :: .colon :: words v ++ memberWords rest ++ [.closeObject]

/-- More elements, each with a comma in front. -/
def itemWords : List Json → List Token
  | [] => []
  | v :: rest => .comma :: words v ++ itemWords rest

/-- More members, each with a comma in front. -/
def memberWords : List (Option Text × Json) → List Token
  | [] => []
  | (name, v) :: rest => .comma :: .string name :: .colon :: words v ++ memberWords rest

end

mutual

/-- All numbers in the value can be read back. -/
def Legible : Json → Prop
  | .number n => n.Proper
  | .array items => ItemsLegible items
  | .object members => MembersLegible members
  | _ => True

def ItemsLegible : List Json → Prop
  | [] => True
  | v :: rest => v.Legible ∧ ItemsLegible rest

def MembersLegible : List (Option Text × Json) → Prop
  | [] => True
  | (_, v) :: rest => v.Legible ∧ MembersLegible rest

end

theorem itemsLegible_iff (items : List Json) : ItemsLegible items ↔ ∀ v ∈ items, v.Legible := by
  induction items with
  | nil => simp [ItemsLegible]
  | cons v rest ih => simp [ItemsLegible, ih]

theorem membersLegible_iff (members : List (Option Text × Json)) :
    MembersLegible members ↔ ∀ m ∈ members, m.2.Legible := by
  induction members with
  | nil => simp [MembersLegible]
  | cons m rest ih => simp [MembersLegible, ih]

/-! ## From lines to words -/

namespace Token

theorem all?_space {c : Char} (hc : isSpace c = true) (rest : Text) :
    all? (c :: rest) = all? rest := by
  rw [all?, if_pos hc]

theorem all?_word {t rest : Text} {k : Token} (hspace : ∀ c ∈ t.head?, isSpace c = false)
    (hfirst : first? t = some (k, rest)) : all? t = (all? rest).map (k :: ·) := by
  cases t with
  | nil => cases hfirst
  | cons c more =>
    rw [all?, if_neg (by simp [hspace c rfl])]
    split
    · rename_i hnone
      cases hfirst.symm.trans hnone
    · rename_i hsome
      cases hfirst.symm.trans hsome
      rfl

theorem all?_newLine (depth : Nat) (rest : Text) : all? (newLine depth ++ rest) = all? rest := by
  have hblanks (n : Nat) : all? (List.replicate n ' ' ++ rest) = all? rest := by
    induction n with
    | zero => rfl
    | succ n ih =>
      rw [List.replicate_succ, List.cons_append, all?_space rfl, ih]
  rw [newLine, List.cons_append, all?_space rfl, hblanks]

theorem all?_quote (content : Option Text) (rest : Text) :
    all? (quote content ++ rest) = (all? rest).map (.string content :: ·) := by
  refine all?_word ?_ (first?_quote content rest)
  cases content <;> (intro c hc; cases hc; rfl)

/-- A numeral starts with its sign or a digit. -/
theorem head_text {n : Numeral} (h : n.Proper) (rest : Text) :
    ∃ c more, n.text ++ rest = c :: more ∧ (c = '-' ∨ c.isDigit) := by
  obtain ⟨⟨hne, hdigits⟩, -, -, -⟩ := h
  rw [text_eq]
  cases hwhole : n.whole with
  | nil => exact absurd hwhole hne
  | cons c more =>
    cases n.negative with
    | true => exact ⟨'-', _, rfl, .inl rfl⟩
    | false => exact ⟨c, _, rfl, .inr (hdigits c (by simp [hwhole]))⟩

theorem first?_digit {c : Char} (hc : c = '-' ∨ c.isDigit) (rest : Text) :
    first? (c :: rest) = (numeral? (c :: rest)).map fun p => (.scalar (.number p.1), p.2) := by
  rw [first?.eq_def]
  split
  case h_11 => rfl
  all_goals
    rename_i heq
    cases heq
    exact absurd hc (by decide)

theorem all?_text {n : Numeral} (h : n.Proper) {rest : Text} (hrest : Apart rest) :
    all? (n.text ++ rest) = (all? rest).map (.scalar (.number n) :: ·) := by
  have hread := numeral?_text h hrest
  obtain ⟨c, more, htext, hc⟩ := head_text h rest
  rw [htext] at hread ⊢
  refine all?_word ?_ ?_
  · rintro d ⟨⟩
    rcases hc with rfl | hc
    · rfl
    · simp only [isSpace, Bool.or_eq_false_iff, decide_eq_false_iff_not]
      refine ⟨⟨⟨?_, ?_⟩, ?_⟩, ?_⟩ <;> (rintro rfl; cases hc)
  · rw [first?_digit hc, hread]
    rfl

/-- A bracket, a comma or a colon. -/
theorem all?_sign {c : Char} {k : Token} (hc : isSpace c = false)
    (hfirst : ∀ rest, first? (c :: rest) = some (k, rest)) (rest : Text) :
    all? (c :: rest) = (all? rest).map (k :: ·) := by
  refine all?_word ?_ (hfirst rest)
  rintro d ⟨⟩
  exact hc

theorem all?_openArray (rest : Text) :
    all? ('[' :: rest) = (all? rest).map (.openArray :: ·) :=
  all?_sign rfl (fun rest => by rw [first?]) rest

theorem all?_closeArray (rest : Text) :
    all? (']' :: rest) = (all? rest).map (.closeArray :: ·) :=
  all?_sign rfl (fun rest => by rw [first?]) rest

theorem all?_openObject (rest : Text) :
    all? ('\x7b' :: rest) = (all? rest).map (.openObject :: ·) :=
  all?_sign rfl (fun rest => by rw [first?]) rest

theorem all?_closeObject (rest : Text) :
    all? ('\x7d' :: rest) = (all? rest).map (.closeObject :: ·) :=
  all?_sign rfl (fun rest => by rw [first?]) rest

theorem all?_comma (rest : Text) : all? (',' :: rest) = (all? rest).map (.comma :: ·) :=
  all?_sign rfl (fun rest => by rw [first?]) rest

theorem all?_colon (rest : Text) : all? (": ".toList ++ rest) = (all? rest).map (.colon :: ·) := by
  show all? (':' :: ' ' :: rest) = _
  rw [all?_sign rfl (fun rest => by rw [first?]), all?_space rfl]

theorem all?_null (rest : Text) :
    all? ("null".toList ++ rest) = (all? rest).map (.scalar .null :: ·) := by
  show all? ('n' :: 'u' :: 'l' :: 'l' :: rest) = _
  refine all?_word ?_ (by rw [first?])
  rintro d ⟨⟩
  rfl

theorem all?_boolText (b : Bool) (rest : Text) :
    all? (boolText b ++ rest) = (all? rest).map (.scalar (.bool b) :: ·) := by
  cases b with
  | true =>
    show all? ('t' :: 'r' :: 'u' :: 'e' :: rest) = _
    refine all?_word ?_ (by rw [first?])
    rintro d ⟨⟩
    rfl
  | false =>
    show all? ('f' :: 'a' :: 'l' :: 's' :: 'e' :: rest) = _
    refine all?_word ?_ (by rw [first?])
    rintro d ⟨⟩
    rfl

end Token

theorem apart_comma (rest : Text) : Token.Apart (',' :: rest) := by
  rintro c ⟨⟩
  decide

theorem apart_newLine (depth : Nat) (rest : Text) : Token.Apart (newLine depth ++ rest) := by
  rintro c ⟨⟩
  decide

theorem apart_prettyItems (depth below : Nat) (items : List Json) (rest : Text) :
    Token.Apart (prettyItems depth items ++ (newLine below ++ rest)) := by
  cases items with
  | nil => exact apart_newLine below rest
  | cons v items => exact apart_comma _

theorem apart_prettyMembers (depth below : Nat) (members : List (Option Text × Json))
    (rest : Text) : Token.Apart (prettyMembers depth members ++ (newLine below ++ rest)) := by
  cases members with
  | nil => exact apart_newLine below rest
  | cons m members => exact apart_comma _

open Token in
mutual

/-- The lines of a value hold its words. -/
theorem all?_pretty (depth : Nat) : ∀ {v : Json}, v.Legible → ∀ {rest : Text}, Apart rest →
    all? (pretty depth v ++ rest) = (all? rest).map (words v ++ ·)
  | .null, _, rest, _ => by
    rw [pretty, words, all?_null]
    rfl
  | .bool b, _, rest, _ => by
    rw [pretty, words, all?_boolText]
    rfl
  | .number n, h, rest, hrest => by
    rw [pretty, words, all?_text h hrest]
    rfl
  | .string content, _, rest, _ => by
    rw [pretty, words, all?_quote]
    rfl
  | .array [], _, rest, _ => by
    show all? ('[' :: ']' :: rest) = _
    rw [words, all?_openArray, all?_closeArray, Option.map_map]
    rfl
  | .array (v :: items), h, rest, hrest => by
    rw [pretty, words]
    simp only [List.cons_append, List.append_assoc, List.nil_append]
    rw [all?_openArray, all?_newLine, all?_pretty _ h.1 (apart_prettyItems _ _ _ _),
      all?_prettyItems depth _ h.2, all?_newLine, all?_closeArray]
    simp only [Option.map_map, Function.comp_def]
  | .object [], _, rest, _ => by
    show all? ('\x7b' :: '\x7d' :: rest) = _
    rw [words, all?_openObject, all?_closeObject, Option.map_map]
    rfl
  | .object ((name, v) :: members), h, rest, hrest => by
    rw [pretty, words]
    simp only [List.cons_append, List.append_assoc, List.nil_append]
    rw [all?_openObject, all?_newLine, all?_quote, all?_colon,
      all?_pretty _ h.1 (apart_prettyMembers _ _ _ _), all?_prettyMembers depth _ h.2, all?_newLine,
      all?_closeObject]
    simp only [Option.map_map, Function.comp_def]

theorem all?_prettyItems (below depth : Nat) : ∀ {items : List Json}, ItemsLegible items →
    ∀ {rest : Text},
      all? (prettyItems depth items ++ (newLine below ++ rest)) =
        (all? (newLine below ++ rest)).map (itemWords items ++ ·)
  | [], _, rest => by
    simp only [prettyItems, itemWords, List.nil_append, Option.map_id']
  | v :: items, h, rest => by
    rw [prettyItems, itemWords]
    simp only [List.cons_append, List.append_assoc]
    rw [all?_comma, all?_newLine, all?_pretty _ h.1 (apart_prettyItems _ _ _ _),
      all?_prettyItems below depth h.2]
    simp only [Option.map_map, Function.comp_def]

theorem all?_prettyMembers (below depth : Nat) : ∀ {members : List (Option Text × Json)},
    MembersLegible members → ∀ {rest : Text},
      all? (prettyMembers depth members ++ (newLine below ++ rest)) =
        (all? (newLine below ++ rest)).map (memberWords members ++ ·)
  | [], _, rest => by
    simp only [prettyMembers, memberWords, List.nil_append, Option.map_id']
  | (name, v) :: members, h, rest => by
    rw [prettyMembers, memberWords]
    simp only [List.cons_append, List.append_assoc]
    rw [all?_comma, all?_newLine, all?_quote, all?_colon,
      all?_pretty _ h.1 (apart_prettyMembers _ _ _ _), all?_prettyMembers below depth h.2]
    simp only [Option.map_map, Function.comp_def]

end

/-! ## From words to the value -/

namespace Reader

/-- What comes first in a value does not end an array. -/
theorem run_firstItem (v : Json) (context : List Frame) (rest : List Token) :
    run (.firstItem context) (words v ++ rest) =
      run (.value (.array [] :: context)) (words v ++ rest) := by
  cases v with
  | array items => cases items <;> rfl
  | object members => rcases members with _ | ⟨⟨name, v⟩, members⟩ <;> rfl
  | _ => rfl

mutual

/-- The words of a value lead the reader from where a value has to start to where it is read. -/
theorem run_words (context : List Frame) (rest : List Token) : ∀ v : Json,
    run (.value context) (words v ++ rest) = run (.done v context) rest
  | .null => rfl
  | .bool _ => rfl
  | .number _ => rfl
  | .string _ => rfl
  | .array [] => rfl
  | .array (v :: items) => by
    rw [words]
    simp only [List.cons_append, List.append_assoc]
    show run (.firstItem context) (words v ++ _) = _
    rw [run_firstItem, run_words, List.nil_append, run_itemWords]
    rfl
  | .object [] => rfl
  | .object ((name, v) :: members) => by
    rw [words]
    simp only [List.cons_append, List.append_assoc]
    show run (.value (.object [] name :: context)) (words v ++ _) = _
    rw [run_words, List.nil_append, run_memberWords]
    rfl

theorem run_itemWords (context : List Frame) (rest : List Token) :
    ∀ (items before : List Json) (v : Json),
      run (.done v (.array before :: context)) (itemWords items ++ .closeArray :: rest) =
        run (.done (.array ((v :: before).reverse ++ items)) context) rest
  | [], before, v => by
    rw [itemWords, List.append_nil]
    rfl
  | next :: items, before, v => by
    rw [itemWords]
    simp only [List.cons_append, List.append_assoc]
    show run (.value (.array (v :: before) :: context)) (words next ++ _) = _
    rw [run_words, run_itemWords, List.reverse_cons, List.append_assoc]
    rfl

theorem run_memberWords (context : List Frame) (rest : List Token) :
    ∀ (members before : List (Option Text × Json)) (name : Option Text) (v : Json),
      run (.done v (.object before name :: context)) (memberWords members ++ .closeObject :: rest) =
        run (.done (.object (((name, v) :: before).reverse ++ members)) context) rest
  | [], before, name, v => by
    rw [memberWords, List.append_nil]
    rfl
  | (next, w) :: members, before, name, v => by
    rw [memberWords]
    simp only [List.cons_append, List.append_assoc]
    show run (.value (.object ((name, v) :: before) next :: context)) (words w ++ _) = _
    rw [run_words, run_memberWords, List.reverse_cons, List.append_assoc]
    rfl

end

end Reader

/-- A value is read from its lines. -/
theorem skim?_lines {v : Json} (h : v.Legible) : skim? v.lines = some v := by
  have hwords := all?_pretty 0 h (show Token.Apart [] from nofun)
  have hread := Reader.run_words [] [] v
  rw [List.append_nil] at hwords hread
  rw [Token.all?, Option.map_some, List.append_nil] at hwords
  rw [skim?, lines, hwords, Option.bind_some, hread]
  rfl

end CueStream.Json
