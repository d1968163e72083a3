-- The events in a body do not depend on the pieces in which it comes. The bytes
-- of a text may be cut anywhere: its characters are taken up when they are whole,
-- its lines when they have ended, and its events when the empty line behind them
-- has come.
import CueStream.Http.EventStream
import CueStream.Proofs.Text.Fragment

namespace CueStream.Http

/-! ## Lines -/

namespace Line

/-- The text has no line end in it. -/
def OneLine (line : Text) : Prop :=
  ∀ c ∈ line, c ≠ '\n' ∧ c ≠ '\r'

instance (line : Text) : Decidable (OneLine line) :=
  List.decidableBAll (fun c => c ≠ '\n' ∧ c ≠ '\r') line

theorem oneLine_append {a b : Text} (ha : OneLine a) (hb : OneLine b) : OneLine (a ++ b) :=
  List.forall_mem_append.mpr ⟨ha, hb⟩

theorem oneLine_cons {c : Char} {t : Text} (hc : c ≠ '\n' ∧ c ≠ '\r') (ht : OneLine t) :
    OneLine (c :: t) :=
  List.forall_mem_cons.mpr ⟨hc, ht⟩

/-- With these characters a line ends, if this text follows: a line feed, a carriage return, or
both. -/
def EndsLine (ending rest : Text) : Prop :=
  ending = ['\n'] ∨ ending = ['\r', '\n'] ∨ ending = ['\r'] ∧ rest.head? ≠ some '\n'

theorem first?_cons {c : Char} (hfeed : c ≠ '\n') (hreturn : c ≠ '\r') (t : Text) :
    first? (c :: t) = (first? t).map fun p => (c :: p.1, p.2) := by
  rw [first?]
  · exact hfeed
  · rintro rest rfl
    exact fun _ => hreturn rfl
  · exact fun h _ => hreturn h
  · exact hreturn

theorem first?_return {c : Char} (hfeed : c ≠ '\n') (t : Text) :
    first? ('\r' :: c :: t) = some ([], c :: t) := by
  rw [first?]
  · rintro rest ⟨⟩
    exact hfeed rfl
  · nofun

theorem first?_append_line {line : Text} (h : OneLine line) (t : Text) :
    first? (line ++ t) = (first? t).map fun p => (line ++ p.1, p.2) := by
  induction line with
  | nil => simp
  | cons c line ih =>
    obtain ⟨hfeed, hreturn⟩ := h c List.mem_cons_self
    rw [List.cons_append, first?_cons hfeed hreturn, ih fun d hd => h d (List.mem_cons_of_mem c hd),
      Option.map_map]
    rfl

/-- A line with its end in front of a text. At the very end of a body a carriage return leaves it
open whether a line feed follows. -/
theorem first?_ended {line ending rest : Text} (hline : OneLine line)
    (hend : EndsLine ending rest) (hopen : ¬ (ending = ['\r'] ∧ rest = [])) :
    first? (line ++ (ending ++ rest)) = some (line, rest) := by
  have hfirst : first? (ending ++ rest) = some ([], rest) := by
    rcases hend with rfl | rfl | ⟨rfl, hhead⟩
    · rfl
    · rfl
    · cases rest with
      | nil => exact absurd ⟨rfl, rfl⟩ hopen
      | cons c rest => exact first?_return (fun hc => hhead (congrArg some hc)) rest
  rw [first?_append_line hline, hfirst, Option.map_some, List.append_nil]

/-- A line that has ended stays the same when more comes. -/
theorem first?_append {t line rest : Text} (h : first? t = some (line, rest)) (more : Text) :
    first? (t ++ more) = some (line, rest ++ more) := by
  fun_induction first? t generalizing line rest with
  | case1 => cases h
  | case2 t =>
    cases h
    rfl
  | case3 t =>
    cases h
    rfl
  | case4 => cases h
  | case5 t hfeed hne =>
    cases h
    cases t with
    | nil => exact absurd rfl hne
    | cons c t => exact first?_return (fun hc => hfeed t (hc ▸ rfl)) (t ++ more)
  | case6 c t hfeed _ _ hreturn ih =>
    obtain ⟨⟨front, behind⟩, hrest, hp⟩ := Option.map_eq_some_iff.mp h
    cases hp
    rw [List.cons_append, first?_cons hfeed hreturn, ih hrest]
    rfl

theorem split_of_none {t : Text} (h : first? t = none) : split t = ([], t) := by
  rw [split]
  split
  · rfl
  · rename_i hsome
    cases h.symm.trans hsome

theorem split_of_some {t line rest : Text} (h : first? t = some (line, rest)) :
    split t = (line :: (split rest).1, (split rest).2) := by
  rw [split]
  split
  · rename_i hnone
    cases h.symm.trans hnone
  · rename_i hsome
    cases h.symm.trans hsome
    rfl

/-- What follows the complete lines is not complete, and more text is split as if it had come at
once. -/
theorem split_spec (t : Text) :
    first? (split t).2 = none ∧ ∀ more, split (t ++ more) =
      ((split t).1 ++ (split ((split t).2 ++ more)).1, (split ((split t).2 ++ more)).2) := by
  fun_induction split t with
  | case1 t h =>
    exact ⟨h, fun more => rfl⟩
  | case2 t line rest h hlength lines tail hsplit ih =>
    rw [hsplit] at ih
    refine ⟨ih.1, fun more => ?_⟩
    rw [split_of_some (first?_append h more), ih.2 more]
    rfl

/-- A line that holds data: the name of the field and, behind a colon, its value. One space in front
of the value does not belong to it. -/
def HoldsData (line data : Text) : Prop :=
  line = "data: ".toList ++ data ∨ line = "data:".toList ++ data ∧ data.head? ≠ some ' ' ∨
    line = "data".toList ∧ data = []

theorem data?_eq_some_iff {line data : Text} : data? line = some data ↔ HoldsData line data := by
  constructor
  · intro h
    have hline : line.takeWhile (· ≠ ':') ++ line.dropWhile (· ≠ ':') = line :=
      List.takeWhile_append_dropWhile
    unfold data? at h
    dsimp only at h
    split at h
    · cases h
    · rename_i hname
      rw [Classical.not_not.mp hname] at hline
      split at h
      · rename_i rest hvalue
        cases h
        rw [hvalue] at hline
        exact .inl hline.symm
      · rename_i rest hspace hvalue
        cases h
        rw [hvalue] at hline
        refine .inr (.inl ⟨hline.symm, fun hhead => ?_⟩)
        obtain ⟨rest, hrest⟩ := List.head?_eq_some_iff.mp hhead
        exact hspace rest hrest
      · rename_i hcolon
        cases h
        cases hvalue : line.dropWhile (· ≠ ':') with
        | nil =>
          rw [hvalue, List.append_nil] at hline
          exact .inr (.inr ⟨hline.symm, rfl⟩)
        | cons c rest =>
          have hc := List.head?_dropWhile_not (fun c => decide (c ≠ ':')) line
          rw [hvalue] at hc
          have hc : c = ':' := by simpa using hc
          exact absurd (hc ▸ hvalue) (hcolon rest)
  · rintro (rfl | ⟨rfl, hspace⟩ | ⟨rfl, rfl⟩)
    · rfl
    · cases data with
      | nil => rfl
      | cons c data =>
        have hc : c ≠ ' ' := fun hc => hspace (congrArg some hc)
        simp [data?, hc]
    · rfl

end Line

/-! ## Events -/

namespace EventStream

theorem takeLines_append (data : List Text) (lines more : List Text) :
    takeLines data (lines ++ more) =
      ((takeLines (takeLines data lines).1 more).1,
        (takeLines data lines).2 ++ (takeLines (takeLines data lines).1 more).2) := by
  induction lines generalizing data with
  | nil => rfl
  | cons line lines ih =>
    simp only [List.cons_append, takeLines, ih, List.append_assoc]

/-- Takes up text: the stream afterwards, and the data of the events that are complete. -/
def read (s : EventStream) (t : Text) : EventStream × List Text :=
  let (lines, line) := Line.split (s.line ++ t)
  let (data, events) := takeLines s.data lines
  ({ s with line := line, data := data }, events)

/-- A text may be taken up in two parts. -/
theorem read_append (s : EventStream) (t more : Text) :
    s.read (t ++ more) =
      (((s.read t).1.read more).1, (s.read t).2 ++ ((s.read t).1.read more).2) := by
  simp only [read, ← List.append_assoc, (Line.split_spec (s.line ++ t)).2 more, takeLines_append]

/-- Bytes are taken up as the text that they complete. What is left of them is kept. -/
theorem feed_eq {s : EventStream} {bytes part : List UInt8} {t : Text}
    (hpart : Utf8.IsFragment part) (h : s.bytes ++ bytes = Utf8.encode t ++ part) :
    s.feed bytes = ({ (s.read t).1 with bytes := part }, (s.read t).2) := by
  have htext : (Utf8.decodeStart (Utf8.encode t ++ part)).1 = t := by
    rw [Utf8.decodeStart_encode_append, Utf8.decodeStart_of_isFragment hpart, List.append_nil]
  have hrest : (Utf8.encode t ++ part).drop t.byteLength = part := by
    rw [← Utf8.length_encode, List.drop_left]
  simp only [feed, h, htext, hrest, read]

/-- The bytes of a text bring the events of that text, in whatever pieces they come, and no
error. -/
theorem items_of_encode {s : EventStream} {pieces : List (List UInt8)} {t : Text}
    (hline : Line.first? s.line = none) (hpart : Utf8.IsFragment s.bytes)
    (h : s.bytes ++ pieces.flatten = Utf8.encode t) :
    s.items false pieces = (s.read t).2.map .ok := by
  induction pieces generalizing s t with
  | nil =>
    rw [List.flatten_nil, List.append_nil] at h
    have ht : t = [] := by
      rw [← Utf8.decodeStart_of_isFragment hpart, h, Utf8.decodeStart_encode]
    subst ht
    have hend : s.endError? = none := by
      rw [endError?, h, Utf8.decodeStart_encode]
    rw [items, hend, read, List.append_nil, Line.split_of_none hline]
    rfl
  | cons piece pieces ih =>
    rw [List.flatten_cons, ← List.append_assoc] at h
    obtain ⟨u, v, part, rfl, hbytes, hpart', hrest⟩ := Utf8.exists_isFragment h
    have hopen : Line.first? (s.read u).1.line = none := (Line.split_spec (s.line ++ u)).1
    rw [items, feed_eq hpart' hbytes]
    dsimp only
    rw [ih (s := { (s.read u).1 with bytes := part }) hopen hpart' hrest, read_append,
      List.map_append]
    rfl

/-- The data of the events in a text. -/
def events (t : Text) : List Text :=
  (takeLines [] (Line.split t).1).2

theorem items_eq_events {pieces : List (List UInt8)} {t : Text}
    (h : pieces.flatten = Utf8.encode t) :
    ({} : EventStream).items false pieces = (events t).map .ok :=
  items_of_encode rfl Utf8.isFragment_nil h

theorem events_nil : events [] = [] := by
  rw [events, Line.split_of_none rfl]
  rfl

theorem takeLine_nil (line : Text) : takeLine [] line = ((Line.data? line).toList, none) := by
  cases line with
  | nil => rfl
  | cons c line =>
    rw [takeLine, if_neg nofun]
    cases Line.data? (c :: line) <;> rfl

theorem join_singleton (value : Text) : join [value] = value := by
  simp [join]

/-- An event of one line in front of a text. -/
theorem events_append {line first second rest : Text} (hline : Line.OneLine line)
    (hfirst : Line.EndsLine first (second ++ rest)) (hsecond : Line.EndsLine second rest)
    (hopen : ¬ (second = ['\r'] ∧ rest = [])) :
    events (line ++ (first ++ (second ++ rest))) = (Line.data? line).toList ++ events rest := by
  have hne : ¬ (first = ['\r'] ∧ second ++ rest = []) := by
    rcases hsecond with rfl | rfl | ⟨rfl, -⟩ <;> simp
  have hblank : Line.OneLine [] := nofun
  have hempty : Line.first? (second ++ rest) = some ([], rest) :=
    Line.first?_ended hblank hsecond hopen
  rw [events, Line.split_of_some (Line.first?_ended hline hfirst hne), Line.split_of_some hempty,
    events, takeLines, takeLine_nil]
  cases Line.data? line with
  | none => rfl
  | some value =>
    show (some (join [value])).toList ++ _ = _
    rw [join_singleton]

/-- An event at the very end of a body stays open behind a carriage return. -/
theorem events_of_return {line first : Text} (hline : Line.OneLine line)
    (hfirst : Line.EndsLine first ['\r']) : events (line ++ (first ++ ['\r'])) = [] := by
  have hsplit := Line.split_of_some (Line.first?_ended hline hfirst nofun)
  rw [events, hsplit, Line.split_of_none rfl, takeLines, takeLine_nil]
  rfl

end EventStream

end CueStream.Http
