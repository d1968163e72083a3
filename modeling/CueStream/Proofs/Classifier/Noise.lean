-- What an answer says is what its first object says, whatever stands around
-- it. A channel is decided by the last member of its name alone.
import CueStream.Classifier.Reply
import CueStream.IntentJson
import CueStream.Proofs.Json.Compact
import CueStream.Proofs.Json.Decoding
import CueStream.Proofs.Json.Object

namespace CueStream

/-! ## Labels as they may be written -/

namespace Gesture

/-- The words that name a gesture, in lower case. -/
def spellings : Gesture → List Text
  | nod => ["nod".toList]
  | shakeHead => ["shake_head", "shake-head", "shake"].map String.toList
  | thinking => ["thinking", "think"].map String.toList

theorem ofWritten?_eq_some_iff {t : Text} {g : Gesture} :
    ofWritten? t = some g ↔ t.trim.lowercase ∈ g.spellings := by
  simp only [ofWritten?, ofName?]
  generalize t.trim.lowercase = name
  constructor
  · intro h
    repeat' split at h
    all_goals cases h <;> simp_all [spellings]
  · revert name
    cases g <;> decide

end Gesture

namespace Expression

/-- The words that name an expression, in lower case. -/
def spellings (e : Expression) : List Text := [e.label]

theorem ofWritten?_eq_some_iff {t : Text} {e : Expression} :
    ofWritten? t = some e ↔ t.trim.lowercase ∈ e.spellings := by
  rw [ofWritten?, spellings, List.mem_singleton]
  constructor
  · intro h
    have hlabel := List.find?_some h
    exact (of_decide_eq_true hlabel).symm
  · intro h
    rw [h, ofName?_label]

end Expression

namespace Classifier

/-! ## The first object of an answer -/

/-- From the first opening brace of an answer to the first closing brace behind it stands this
text and the two braces. -/
def FirstSpan (raw inside : Text) : Prop :=
  ∃ front behind, raw = front ++ '\x7b' :: (inside ++ '\x7d' :: behind) ∧ '\x7b' ∉ front ∧
    '\x7d' ∉ inside

/-- An answer without an opening brace, or without a closing brace behind the first one. -/
def Unspanned (raw : Text) : Prop :=
  '\x7b' ∉ raw ∨ ∃ front rest, raw = front ++ '\x7b' :: rest ∧ '\x7b' ∉ front ∧ '\x7d' ∉ rest

theorem dropWhile_ne {c : Char} {front : Text} (h : c ∉ front) (rest : Text) :
    (front ++ rest).dropWhile (· ≠ c) = rest.dropWhile (· ≠ c) := by
  refine List.dropWhile_append_of_pos fun d hd => ?_
  rw [decide_eq_true_iff]
  rintro rfl
  exact h hd

theorem takeWhile_ne {c : Char} {front : Text} (h : c ∉ front) (rest : Text) :
    (front ++ c :: rest).takeWhile (· ≠ c) = front := by
  rw [List.takeWhile_append_of_pos, List.takeWhile_cons_of_neg (by simp), List.append_nil]
  intro d hd
  rw [decide_eq_true_iff]
  rintro rfl
  exact h hd

theorem span?_of_firstSpan {raw inside : Text} (h : FirstSpan raw inside) :
    span? raw = some ('\x7b' :: (inside ++ ['\x7d'])) := by
  obtain ⟨front, behind, rfl, hfront, hinside⟩ := h
  have hnot : '\x7d' ∉ '\x7b' :: inside := by simpa using hinside
  have htail : ('\x7b' :: (inside ++ '\x7d' :: behind)).takeWhile (· ≠ '\x7d') = '\x7b' :: inside :=
    takeWhile_ne hnot behind
  simp only [span?, dropWhile_ne hfront]
  rw [List.dropWhile_cons_of_neg (by simp), htail, if_pos (by simp)]
  rfl

theorem span?_of_unspanned {raw : Text} (h : Unspanned raw) : span? raw = none := by
  rcases h with h | ⟨front, rest, rfl, hfront, hrest⟩
  · have hnone := dropWhile_ne h []
    rw [List.append_nil] at hnone
    simp only [span?, hnone]
    rfl
  · simp only [span?, dropWhile_ne hfront]
    rw [List.dropWhile_cons_of_neg (by simp), if_neg (by simpa using hrest)]

/-- A text that holds a character, cut at the first one. -/
theorem exists_first {c : Char} {t : Text} (h : c ∈ t) :
    ∃ front rest, t = front ++ c :: rest ∧ c ∉ front :=
  List.eq_append_cons_of_mem h

theorem unspanned_or_firstSpan (raw : Text) : Unspanned raw ∨ ∃ inside, FirstSpan raw inside := by
  by_cases hopen : '\x7b' ∈ raw
  · obtain ⟨front, rest, rfl, hfront⟩ := exists_first hopen
    by_cases hclose : '\x7d' ∈ rest
    · obtain ⟨inside, behind, rfl, hinside⟩ := exists_first hclose
      exact .inr ⟨inside, front, behind, rfl, hfront, hinside⟩
    · exact .inl (.inr ⟨front, rest, rfl, hfront, hclose⟩)
  · exact .inl (.inl hopen)

/-! ## What the members of an object say -/

/-- The intent that the members of an object name. -/
def intentOf (members : List (Option Text × Json)) : Intent :=
  ⟨label? Gesture.ofWritten? "gesture" (.object members),
    label? Expression.ofWritten? "expression" (.object members)⟩

/-- The last member of this name is a string that, without the blanks around it and in lower case,
is one of these words. -/
def LastSays (members : List (Option Text × Json)) (name : String) (spellings : List Text) : Prop :=
  ∃ before written after, members = before ++ (some name.toList, Json.str written) :: after ∧
    (∀ m ∈ after, m.1 ≠ some name.toList) ∧ written.trim.lowercase ∈ spellings

theorem member?_eq_some_iff {members : List (Option Text × Json)} {name : Text} {v : Json} :
    (Json.object members).member? name = some v ↔
      ∃ before after, members = before ++ (some name, v) :: after ∧
        ∀ m ∈ after, m.1 ≠ some name := by
  rw [Json.member?, Option.map_eq_some_iff]
  constructor
  · rintro ⟨⟨key, w⟩, hfound, rfl⟩
    obtain ⟨hkey, after, before, hsplit, hafter⟩ := List.find?_eq_some_iff_append.mp hfound
    cases of_decide_eq_true hkey
    refine ⟨before.reverse, after.reverse, ?_, fun m hm => ?_⟩
    · have hback := congrArg List.reverse hsplit
      simpa using hback
    · simpa using hafter m (List.mem_reverse.mp hm)
  · rintro ⟨before, after, rfl, hafter⟩
    refine ⟨(some name, v), List.find?_eq_some_iff_append.mpr ⟨by simp, after.reverse,
      before.reverse, by simp, fun m hm => ?_⟩, rfl⟩
    simpa using hafter m (List.mem_reverse.mp hm)

theorem label?_eq_some_iff {L : Type} {ofWritten? : Text → Option L} {spellings : L → List Text}
    (hspell : ∀ t l, ofWritten? t = some l ↔ t.trim.lowercase ∈ spellings l) {name : String}
    {members : List (Option Text × Json)} {l : L} :
    label? ofWritten? name (.object members) = some l ↔ LastSays members name (spellings l) := by
  unfold label? LastSays
  rw [Option.bind_eq_some_iff]
  constructor
  · rintro ⟨written, hwritten, hl⟩
    obtain ⟨v, hv, htext⟩ := Option.bind_eq_some_iff.mp hwritten
    obtain ⟨before, after, rfl, hafter⟩ := member?_eq_some_iff.mp hv
    cases v with
    | string content =>
      cases htext
      exact ⟨before, written, after, rfl, hafter, (hspell written l).mp hl⟩
    | _ => cases htext
  · rintro ⟨before, written, after, rfl, hafter, hl⟩
    refine ⟨written, ?_, (hspell written l).mpr hl⟩
    rw [member?_eq_some_iff.mpr ⟨before, after, rfl, hafter⟩]
    rfl

/-! ## Reading an answer -/

theorem read?_eq_some_iff {t : Text} {v : Json} :
    Json.read? t = some v ↔ Json.skim? t = some v ∧ v.isPlain = true :=
  Option.filter_eq_some_iff

theorem parse_of_unspanned {raw : Text} (h : Unspanned raw) :
    parse raw = .error (.noObject (shownStart raw)) := by
  rw [parse, span?_of_unspanned h]

/-- What stands between the braces decides. -/
theorem parse_of_firstSpan {raw inside : Text} (h : FirstSpan raw inside) :
    (∃ members, Json.read? ('\x7b' :: (inside ++ ['\x7d'])) = some (.object members) ∧
      parse raw = .ok (intentOf members)) ∨
    (Json.read? ('\x7b' :: (inside ++ ['\x7d'])) = none ∧ parse raw = .error .invalidJson) := by
  cases hread : Json.read? ('\x7b' :: (inside ++ ['\x7d'])) with
  | none =>
    refine .inr ⟨rfl, ?_⟩
    simp only [parse, span?_of_firstSpan h, hread]
  | some v =>
    obtain ⟨members, rfl⟩ := Json.exists_object_of_brace (read?_eq_some_iff.mp hread).1
    refine .inl ⟨members, rfl, ?_⟩
    simp only [parse, span?_of_firstSpan h, hread, intentOf]

theorem FirstSpan.not_unspanned {raw inside : Text} (h : FirstSpan raw inside) :
    ¬ Unspanned raw := by
  intro hnone
  cases (span?_of_firstSpan h).symm.trans (span?_of_unspanned hnone)

theorem parse_eq_noObject_iff {raw start : Text} :
    parse raw = .error (.noObject start) ↔ Unspanned raw ∧ start = raw.take 200 := by
  rcases unspanned_or_firstSpan raw with hnone | ⟨inside, hspan⟩
  · rw [parse_of_unspanned hnone]
    constructor
    · rintro ⟨⟩
      exact ⟨hnone, rfl⟩
    · rintro ⟨-, rfl⟩
      rfl
  · refine iff_of_false ?_ fun h => hspan.not_unspanned h.1
    rcases parse_of_firstSpan hspan with ⟨members, -, hparse⟩ | ⟨-, hparse⟩ <;> simp [hparse]

theorem parse_ne_otherValue (raw start : Text) : parse raw ≠ .error (.otherValue start) := by
  rcases unspanned_or_firstSpan raw with hnone | ⟨inside, hspan⟩
  · simp [parse_of_unspanned hnone]
  · rcases parse_of_firstSpan hspan with ⟨members, -, hparse⟩ | ⟨-, hparse⟩ <;> simp [hparse]

theorem parse_eq_ok_iff {raw : Text} {i : Intent} :
    parse raw = .ok i ↔ ∃ inside members, FirstSpan raw inside ∧
      Json.read? ('\x7b' :: (inside ++ ['\x7d'])) = some (.object members) ∧
      i = intentOf members := by
  constructor
  · intro h
    rcases unspanned_or_firstSpan raw with hnone | ⟨inside, hspan⟩
    · cases h.symm.trans (parse_of_unspanned hnone)
    · rcases parse_of_firstSpan hspan with ⟨members, hread, hparse⟩ | ⟨-, hparse⟩
      · cases h.symm.trans hparse
        exact ⟨inside, members, hspan, hread, rfl⟩
      · cases h.symm.trans hparse
  · rintro ⟨inside, members, hspan, hread, rfl⟩
    rcases parse_of_firstSpan hspan with ⟨others, hothers, hparse⟩ | ⟨hnone, -⟩
    · cases hread.symm.trans hothers
      exact hparse
    · cases hread.symm.trans hnone

/-! ## Intents that were written -/

/-- The members under which an intent is written. -/
def membersOf (i : Intent) : List (Option Text × Json) :=
  [(some "gesture".toList, Json.ofOption (i.gesture.map Gesture.label)),
    (some "expression".toList, Json.ofOption (i.expression.map Expression.label))]

theorem toJson_eq (i : Intent) : i.toJson = .object (membersOf i) := by
  simp only [Intent.toJson, Json.fields, Json.obj, List.map_cons, List.map_nil, membersOf]

/-- A label or `null`, as it is written at any place. -/
theorem brace_not_mem_label (i : Intent) (depth : Nat) :
    '\x7d' ∉ (Json.ofOption (i.gesture.map Gesture.label)).compact ∧
      '\x7d' ∉ (Json.ofOption (i.expression.map Expression.label)).compact ∧
      '\x7d' ∉ (Json.ofOption (i.gesture.map Gesture.label)).pretty depth ∧
      '\x7d' ∉ (Json.ofOption (i.expression.map Expression.label)).pretty depth := by
  have hgesture : '\x7d' ∉ (Json.ofOption (i.gesture.map Gesture.label)).compact := by
    rcases i.gesture with _ | g
    · decide
    · cases g <;> decide
  have hexpression : '\x7d' ∉ (Json.ofOption (i.expression.map Expression.label)).compact := by
    rcases i.expression with _ | e
    · decide
    · cases e <;> decide
  have hsame (t : Option Text) : (Json.ofOption t).pretty depth = (Json.ofOption t).compact := by
    cases t <;> simp only [Json.ofOption, Json.str, Json.pretty, Json.compact]
  rw [hsame, hsame]
  exact ⟨hgesture, hexpression, hgesture, hexpression⟩

/-- The text of an intent holds no closing brace but the last one. -/
theorem exists_inside (i : Intent) :
    (∃ inside, i.toJson.compact = '\x7b' :: (inside ++ ['\x7d']) ∧ '\x7d' ∉ inside) ∧
      ∃ inside, i.toJson.lines = '\x7b' :: (inside ++ ['\x7d']) ∧ '\x7d' ∉ inside := by
  obtain ⟨hgesture, hexpression, hgesture', hexpression'⟩ := brace_not_mem_label i 1
  have hname : '\x7d' ∉ Json.quote (some "gesture".toList) := by decide
  have hname' : '\x7d' ∉ Json.quote (some "expression".toList) := by decide
  have hcolon : '\x7d' ∉ ": ".toList := by decide
  have hline (depth : Nat) : '\x7d' ∉ Json.newLine depth := by
    simp [Json.newLine]
  rw [toJson_eq, membersOf]
  refine ⟨⟨_, rfl, ?_⟩, _, rfl, ?_⟩
  · simp only [Json.compactMembers, List.append_eq, List.mem_append, List.mem_cons,
      List.not_mem_nil, Char.reduceEq, hname, hname', hgesture, hexpression, or_self,
      not_false_eq_true]
  · simp only [Json.prettyMembers, List.append_eq, List.mem_append, List.mem_cons,
      List.not_mem_nil, Char.reduceEq, hname, hname', hcolon, hgesture', hexpression', hline,
      or_self, not_false_eq_true]

theorem legible_toJson (i : Intent) : i.toJson.Legible := by
  refine Json.legible_fields ?_
  simp [Json.legible_ofOption]

theorem isPlain_toJson (i : Intent) : i.toJson.isPlain = true := by
  rcases i with ⟨_ | g, _ | e⟩ <;> rfl

theorem intentOf_membersOf (i : Intent) : intentOf (membersOf i) = i := by
  have hgesture (g : Gesture) : Gesture.ofWritten? g.label = some g := by cases g <;> decide
  have hexpression (e : Expression) : Expression.ofWritten? e.label = some e := by
    cases e <;> decide
  rcases i with ⟨_ | g, _ | e⟩
  · rfl
  · exact congrArg (Intent.mk none) (hexpression e)
  · exact congrArg (Intent.mk · none) (hgesture g)
  · exact congrArg₂ Intent.mk (hgesture g) (hexpression e)

theorem parse_of_read {raw inside : Text} {i : Intent} (h : FirstSpan raw inside)
    (hread : Json.skim? ('\x7b' :: (inside ++ ['\x7d'])) = some i.toJson) : parse raw = .ok i := by
  have hplain := read?_eq_some_iff.mpr ⟨hread, isPlain_toJson i⟩
  rw [toJson_eq] at hplain
  exact parse_eq_ok_iff.mpr ⟨inside, membersOf i, h, hplain, (intentOf_membersOf i).symm⟩

/-- The text of an intent among other text without an opening brace in front. -/
theorem firstSpan_of_text {front inside t : Text} (hfront : '\x7b' ∉ front)
    (ht : t = '\x7b' :: (inside ++ ['\x7d'])) (hinside : '\x7d' ∉ inside) (behind : Text) :
    FirstSpan (front ++ t ++ behind) inside :=
  ⟨front, behind, by simp [ht], hfront, hinside⟩

/-- An intent as it is written, on one line and over many. -/
theorem parse_written {front : Text} (hfront : '\x7b' ∉ front) (behind : Text) (i : Intent) :
    parse (front ++ i.toJson.compact ++ behind) = .ok i ∧
      parse (front ++ i.toJson.lines ++ behind) = .ok i := by
  obtain ⟨⟨line, hline, hlineEnd⟩, lines, hlines, hlinesEnd⟩ := exists_inside i
  have hlegible := legible_toJson i
  refine ⟨parse_of_read (firstSpan_of_text hfront hline hlineEnd behind) ?_,
    parse_of_read (firstSpan_of_text hfront hlines hlinesEnd behind) ?_⟩
  · rw [← hline, Json.skim?_compact hlegible]
  · rw [← hlines, Json.skim?_lines hlegible]

theorem eq_intentOf_iff {i : Intent} {members : List (Option Text × Json)} :
    i = intentOf members ↔ (∀ g, i.gesture = some g ↔ LastSays members "gesture" g.spellings) ∧
      ∀ e, i.expression = some e ↔ LastSays members "expression" e.spellings := by
  have hgesture (g : Gesture) : (intentOf members).gesture = some g ↔ _ :=
    label?_eq_some_iff fun _ _ => Gesture.ofWritten?_eq_some_iff
  have hexpression (e : Expression) : (intentOf members).expression = some e ↔ _ :=
    label?_eq_some_iff fun _ _ => Expression.ofWritten?_eq_some_iff
  constructor
  · rintro rfl
    exact ⟨hgesture, hexpression⟩
  · rintro ⟨hg, he⟩
    have hsame : i.gesture = (intentOf members).gesture :=
      Option.ext fun g => (hg g).trans (hgesture g).symm
    have hsame' : i.expression = (intentOf members).expression :=
      Option.ext fun e => (he e).trans (hexpression e).symm
    cases i
    cases hsame
    cases hsame'
    rfl

/-- An answer that holds an intent as JSON, on one line or over many, is understood as that intent,
whatever stands around it except an opening brace in front. For any answer at all: it counts as one
without an object exactly if there is no opening brace or no closing one behind it; what stands
between these two is never anything but an object; and if the answer is understood, that object is
valid, and each channel is what the last member of its own name spells. -/
theorem an_answer_is_understood_through_noise :
    (∀ front behind : Text, '\x7b' ∉ front → ∀ i : Intent,
      parse (front ++ i.toJson.compact ++ behind) = .ok i ∧
        parse (front ++ i.toJson.lines ++ behind) = .ok i) ∧
    ∀ raw : Text,
      (∀ start, parse raw = .error (.noObject start) ↔ Unspanned raw ∧ start = raw.take 200) ∧
      (∀ start, parse raw ≠ .error (.otherValue start)) ∧
      ∀ i : Intent, parse raw = .ok i ↔ ∃ inside members, FirstSpan raw inside ∧
        Json.ObjectText members ('\x7b' :: (inside ++ ['\x7d'])) ∧
        (Json.object members).isPlain = true ∧
        (∀ g, i.gesture = some g ↔ LastSays members "gesture" g.spellings) ∧
        ∀ e, i.expression = some e ↔ LastSays members "expression" e.spellings := by
  refine ⟨fun front behind hfront i => parse_written hfront behind i, fun raw => ?_⟩
  refine ⟨fun _ => parse_eq_noObject_iff, fun start => parse_ne_otherValue raw start, fun i => ?_⟩
  simp only [parse_eq_ok_iff, read?_eq_some_iff, Json.skim?_eq_object_iff, eq_intentOf_iff,
    and_assoc]

/-- A word of welcome, a fence and a remark around an answer over many lines. -/
theorem a_fenced_nod_is_understood :
    let i : Intent := ⟨some .nod, none⟩
    '\x7b' ∉ "Sure!\n```json\n".toList ∧
      parse ("Sure!\n```json\n".toList ++ i.toJson.lines ++ "\n``` (\x7bnod\x7d)".toList) = .ok i := by
  intro i
  have hfront : '\x7b' ∉ "Sure!\n```json\n".toList := by decide
  exact ⟨hfront, (an_answer_is_understood_through_noise.1 _ _ hfront i).2⟩

end Classifier

end CueStream
