-- What the data of an event have to be to bring a piece of a message: a chunk,
-- that is, a record of choices, the first of which brings a text. Whatever value
-- is a chunk, it stays one when it is written on one line.
import CueStream.Chat.Client
import CueStream.Proofs.Http.Pieces
import CueStream.Proofs.Json.Compact
import CueStream.Proofs.Json.Records

namespace CueStream

open Json

/-! ## Chunks -/

/-- What a choice changes brings this text. There may also be `null` in its place, or nothing. -/
def Brings (delta : Json) (content : Option Text) : Prop :=
  HasField "content".toList delta (ofOption content) ∨
    LacksField "content".toList delta ∧ content = none

/-- The value is a choice that brings this text. -/
def IsChoice (choice : Json) (content : Option Text) : Prop :=
  ∃ delta, HasField "delta".toList choice delta ∧ Brings delta content

/-- The value is a chunk, and the first of its choices brings this text. A chunk without choices
brings none. -/
def IsChunk (v : Json) (content : Option Text) : Prop :=
  ∃ choices contents, HasField "choices".toList v (.array choices) ∧
    List.Forall₂ IsChoice choices contents ∧ content = contents.head?.join

/-- The text is that of a chunk which brings this content. -/
def IsChunkText (data : Text) (content : Option Text) : Prop :=
  ∃ v, skim? data = some v ∧ IsChunk v content

theorem choice_eq_some_iff {choice : Json} {content : Option Text} :
    (do let r ← choice.record? ["delta".toList]
        r.required "delta" fun delta => do
          let r ← delta.record? ["content".toList]
          r.optional "content" Json.text?) = some content ↔ IsChoice choice content := by
  rw [Option.bind_eq_bind, Option.bind_eq_some_iff, required_eq_some_iff]
  refine exists_congr fun delta => and_congr_right fun _ => ?_
  rw [Option.bind_eq_some_iff, optional_eq_some_iff]
  simp only [optional?_text?_eq_some_iff, exists_eq_right]
  rfl

theorem choices_eq_some_iff {decode : Json → Option (Option Text)}
    (hdecode : ∀ {choice content}, decode choice = some content ↔ IsChoice choice content)
    {v : Json} {contents : List (Option Text)} :
    (∃ r, v.record? ["choices".toList] = some r ∧
      r.required "choices" (list? decode) = some contents) ↔
      ∃ choices, HasField "choices".toList v (.array choices) ∧
        List.Forall₂ IsChoice choices contents := by
  rw [required_eq_some_iff]
  simp only [list?_eq_some_iff, hdecode]
  constructor
  · rintro ⟨w, hfield, choices, rfl, hchoices⟩
    exact ⟨choices, hfield, hchoices⟩
  · rintro ⟨choices, hfield, hchoices⟩
    exact ⟨.array choices, hfield, choices, rfl, hchoices⟩

/-- A chunk brings what the first of its choices brings. -/
theorem deltaContent?_of_isChunkText {data : Text} {content : Option Text}
    (h : IsChunkText data content) : deltaContent? data = content := by
  obtain ⟨v, hread, choices, contents, hfield, hchoices, rfl⟩ := h
  obtain ⟨r, hr, hcontents⟩ :=
    (choices_eq_some_iff choice_eq_some_iff).mpr ⟨choices, hfield, hchoices⟩
  unfold deltaContent?
  rw [hread, Option.bind_eq_bind, Option.bind_some, hr, Option.bind_eq_bind, Option.bind_some,
    hcontents]
  rfl

theorem isChunkText_of_deltaContent? {data content : Text} (h : deltaContent? data = some content) :
    IsChunkText data (some content) := by
  obtain ⟨v, hread, h⟩ := Option.bind_eq_some_iff.mp h
  obtain ⟨r, hr, h⟩ := Option.bind_eq_some_iff.mp h
  obtain ⟨contents, hcontents, h⟩ := Option.bind_eq_some_iff.mp h
  obtain ⟨choices, hfield, hchoices⟩ :=
    (choices_eq_some_iff choice_eq_some_iff).mp ⟨r, hr, hcontents⟩
  exact ⟨v, hread, choices, contents, hfield, hchoices, h.symm⟩

/-- The chunk whose only choice brings this text. -/
def chunkOf (content : Option Text) : Json :=
  fields [("choices", .array [fields [("delta", fields [("content", ofOption content)])]])]

theorem hasField_fields (name : String) (v : Json) :
    HasField name.toList (fields [(name, v)]) v :=
  .inr ⟨[(name.toList, v)], rfl, by simp [Once], List.mem_cons_self⟩

theorem isChunk_chunkOf (content : Option Text) : IsChunk (chunkOf content) content :=
  ⟨_, [content], hasField_fields "choices" _,
    .cons ⟨_, hasField_fields "delta" _, .inl (hasField_fields "content" _)⟩ .nil, rfl⟩

theorem legible_chunkOf (content : Option Text) : (chunkOf content).Legible :=
  legible_fields (by simp [Legible, ItemsLegible, fields, obj, MembersLegible, legible_ofOption])

/-! ## Chunks on one line -/

namespace Json

open Http.Line

theorem oneLine_hexDigit : ∀ n < 32, OneLine [hexDigit (n / 16), hexDigit (n % 16)] := by
  decide

theorem oneLine_escaped (c : Char) : OneLine (escaped c) := by
  unfold escaped
  split
  case h_8 hfeed _ hreturn =>
    split
    · rename_i hlow
      have hn : c.toNat < 32 := hlow
      exact oneLine_append (a := ['\\', 'u', '0', '0']) (by decide) (oneLine_hexDigit c.toNat hn)
    · exact oneLine_cons ⟨hfeed, hreturn⟩ nofun
  all_goals decide

theorem oneLine_quote (content : Option Text) : OneLine (quote content) := by
  cases content with
  | none => decide
  | some t =>
    have hescaped : OneLine (t.flatMap escaped) := by
      intro c hc
      obtain ⟨d, -, hd⟩ := List.mem_flatMap.mp hc
      exact oneLine_escaped d c hd
    exact oneLine_cons (by decide) (oneLine_append hescaped (by decide))

theorem oneLine_of_digits {digits : Text} (h : ∀ c ∈ digits, c.isDigit) : OneLine digits := by
  intro c hc
  constructor <;> (rintro rfl; cases h _ hc)

theorem oneLine_text {n : Numeral} (h : n.Proper) : OneLine n.text := by
  have hexponent : OneLine (Token.exponentText n.exponent) := by
    cases hn : n.exponent with
    | none => decide
    | some e =>
      obtain ⟨negative, digits⟩ := e
      have hdigits := oneLine_of_digits (h.exponent _ hn).2
      cases negative <;> exact oneLine_cons (by decide) (oneLine_cons (by decide) hdigits)
  rw [Token.text_eq]
  have hwhole := oneLine_of_digits h.whole.2
  refine oneLine_append (oneLine_append (oneLine_append ?_ hwhole) ?_) hexponent
  · split <;> decide
  · split
    · decide
    · exact oneLine_cons (by decide) (oneLine_of_digits h.fraction)

mutual

/-- A value is written on one line. -/
theorem oneLine_compact : ∀ {v : Json}, v.Legible → OneLine (compact v)
  | .null, _ => by decide
  | .bool b, _ => by cases b <;> decide
  | .number _, h => oneLine_text h
  | .string content, _ => oneLine_quote content
  | .array [], _ => by decide
  | .array (v :: items), h =>
    oneLine_append (oneLine_append (oneLine_cons (by decide) (oneLine_compact h.1))
      (oneLine_compactItems h.2)) (by decide)
  | .object [], _ => by decide
  | .object ((name, v) :: members), h =>
    have hname := oneLine_cons (c := '\x7b') (by decide) (oneLine_quote name)
    have hvalue := oneLine_cons (c := ':') (by decide) (oneLine_compact h.1)
    oneLine_append (oneLine_append (oneLine_append hname hvalue) (oneLine_compactMembers h.2))
      (by decide)

theorem oneLine_compactItems : ∀ {items : List Json}, ItemsLegible items →
    OneLine (compactItems items)
  | [], _ => nofun
  | v :: items, h =>
    oneLine_append (oneLine_cons (by decide) (oneLine_compact h.1)) (oneLine_compactItems h.2)

theorem oneLine_compactMembers : ∀ {members : List (Option Text × Json)},
    MembersLegible members → OneLine (compactMembers members)
  | [], _ => nofun
  | (name, v) :: members, h =>
    have hname := oneLine_cons (c := ',') (by decide) (oneLine_quote name)
    have hvalue := oneLine_cons (c := ':') (by decide) (oneLine_compact h.1)
    oneLine_append (oneLine_append hname hvalue) (oneLine_compactMembers h.2)

end

/-- A chunk is one on its line. -/
theorem isChunkText_compact {v : Json} {content : Option Text} (h : v.Legible)
    (hchunk : IsChunk v content) : IsChunkText v.compact content :=
  ⟨v, skim?_compact h, hchunk⟩

end Json

end CueStream
