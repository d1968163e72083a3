-- Text that arrives in pieces falls into the same segments however it is cut,
-- and however often the complete ones are taken out on the way. More text may
-- only widen the gap behind a segment.
import CueStream.Proofs.Segment.Passage

namespace CueStream

namespace Buffer

/-- Pieces of text arrive, and behind some of them the complete segments are taken out; behind the
last one they are in any case. What was taken out in all, and the buffer afterwards. -/
def arrive (b : Buffer) : List (Text × Bool) → List Segment × Buffer
  | [] => b.takeCompleted
  | (piece, take) :: rest =>
    let b := b.append piece
    if take then
      let (taken, b) := b.takeCompleted
      let (others, b) := b.arrive rest
      (taken ++ others, b)
    else b.arrive rest

/-- The text of the pieces. -/
def pieced (pieces : List (Text × Bool)) : Text :=
  pieces.flatMap Prod.fst

/-- How segments that were taken out, and the buffer behind them, stand to a whole text: they are
its complete passages that are long enough, and only blanks around what follows its last gap may be
missing from the buffer. -/
structure Gives (b : Buffer) (whole : Text) (taken : List Segment) (left : Buffer) : Prop where
  segments : nonEmpty taken = whole.outline.1.filterMap b.segment?
  tail : left.text.trim = whole.outline.2
  size : ∀ segment ∈ taken, b.minChars ≤ segment.size
  rest : left = { b with text := left.text }

/-- It makes no difference what is in the buffer at first. -/
theorem Gives.of_append {b : Buffer} {piece whole : Text} {taken : List Segment} {left : Buffer}
    (h : (b.append piece).Gives whole taken left) : b.Gives whole taken left :=
  ⟨h.segments, h.tail, h.size, h.rest⟩

theorem gives_takeCompleted (b : Buffer) :
    b.Gives b.text b.takeCompleted.1 b.takeCompleted.2 :=
  ⟨b.nonEmpty_filterMap_segment? b.text.split.1, rfl, fun _ => size_of_mem_completed, rfl⟩

/-- What is taken out early stands in front of what the rest of the text gives. -/
theorem Gives.after {b : Buffer} {more : Text} {taken : List Segment} {left : Buffer}
    (h : b.takeCompleted.2.Gives (b.takeCompleted.2.text ++ more) taken left) :
    b.Gives (b.text ++ more) (b.takeCompleted.1 ++ taken) left := by
  have houtline := Text.outline_append b.text more
  refine ⟨?_, ?_, ?_, h.rest⟩
  · rw [nonEmpty_append, h.segments, houtline, List.filterMap_append]
    exact congrArg (· ++ _) (b.nonEmpty_filterMap_segment? b.text.split.1)
  · rw [houtline]
    exact h.tail
  · intro segment hm
    rcases List.mem_append.mp hm with hm | hm
    · exact size_of_mem_completed hm
    · exact h.size segment hm

theorem gives_arrive (b : Buffer) (pieces : List (Text × Bool)) :
    b.Gives (b.text ++ pieced pieces) (b.arrive pieces).1 (b.arrive pieces).2 := by
  induction pieces generalizing b with
  | nil =>
    have hwhole : b.text ++ pieced [] = b.text := List.append_nil b.text
    rw [hwhole]
    exact b.gives_takeCompleted
  | cons e rest ih =>
    obtain ⟨piece, take⟩ := e
    have hwhole : b.text ++ pieced ((piece, take) :: rest) =
        (b.append piece).text ++ pieced rest := by
      unfold pieced append
      rw [List.flatMap_cons, List.append_assoc]
    rw [hwhole]
    cases take with
    | false => exact (ih (b.append piece)).of_append
    | true => exact (ih (b.append piece).takeCompleted.2).after.of_append

/-- The last segment is the same, whatever blanks are around it. -/
theorem Gives.flush {b : Buffer} {whole : Text} {taken : List Segment} {left : Buffer}
    (h : b.Gives whole taken left) : left.flush.1 = b.segment? whole.outline.2 := by
  have hsegment : left.segment? = b.segment? := by
    rw [h.rest]
    rfl
  show left.segment? left.text = b.segment? whole.outline.2
  rw [hsegment]
  apply b.segment?_congr
  rw [← h.tail, Text.trim_trim]

/-- However text is cut into pieces, and however often the complete segments are taken out on the
way, the segments that are not empty are those of the whole text taken out at once, and what is left
gives the same last segment. If segments need a character, none is empty, and all that is taken out
is the same. The segments that were taken out stand first among those of every text that goes on, so
nothing that comes later changes them. -/
theorem segments_do_not_depend_on_the_pieces (b : Buffer) (pieces : List (Text × Bool)) :
    let along := b.arrive pieces
    let whole := (b.append (pieced pieces)).takeCompleted
    nonEmpty along.1 = nonEmpty whole.1 ∧ along.2.flush.1 = whole.2.flush.1 ∧
      (1 ≤ b.minChars → along.1 = whole.1) ∧
      ∀ later,
        nonEmpty along.1 <+: nonEmpty (b.append (pieced pieces ++ later)).takeCompleted.1 := by
  intro along whole
  have halong : b.Gives (b.text ++ pieced pieces) along.1 along.2 := b.gives_arrive pieces
  have hwhole (t : Text) : b.Gives (b.text ++ t) (b.append t).takeCompleted.1
      (b.append t).takeCompleted.2 := (b.append t).gives_takeCompleted.of_append
  have hsame : nonEmpty along.1 = nonEmpty whole.1 := by
    rw [halong.segments, (hwhole (pieced pieces)).segments]
  refine ⟨hsame, ?_, ?_, ?_⟩
  · rw [halong.flush, (hwhole (pieced pieces)).flush]
  · intro hmin
    rwa [nonEmpty_eq_self hmin halong.size, nonEmpty_eq_self hmin (hwhole _).size] at hsame
  · intro later
    have houtline := Text.outline_append (b.text ++ pieced pieces) later
    rw [List.append_assoc] at houtline
    rw [halong.segments, (hwhole (pieced pieces ++ later)).segments, houtline,
      List.filterMap_append]
    exact List.prefix_append _ _

/-- Two line ends come before it shows that they stand between two sentences. The segment in front
of them is taken out early, and with no least length an empty one as well. -/
theorem segments_do_not_depend_on_early_line_ends :
    let b : Buffer := { minChars := 1 }
    let pieces : List (Text × Bool) :=
      [("Rain is coming.\n".toList, true), ("\n".toList, true), ("\n\nAnd".toList, true),
        (" snow".toList, false)]
    1 ≤ b.minChars ∧ b.arrive pieces = (b.append (pieced pieces)).takeCompleted ∧
      (b.arrive pieces).1.map Segment.text = ["Rain is coming.".toList] ∧
      ({ b with minChars := 0 }.arrive pieces).1.map Segment.text =
        ["Rain is coming.".toList, []] := by
  intro b pieces
  have hmin : 1 ≤ b.minChars := by decide
  have hsame := (segments_do_not_depend_on_the_pieces b pieces).2.2.1 hmin
  refine ⟨hmin, Prod.ext hsame ?_, ?_, ?_⟩
  all_goals decide +kernel

end Buffer

end CueStream
