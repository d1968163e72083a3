-- A draw takes out everything that is complete. What it takes out and what it
-- leaves are the text, and nothing that is left has a gap. So nobody can draw
-- again before more text is fed: a boundary is paid for by a piece of text, and
-- spent by a draw.
import CueStream.Proofs.Segment.Offsets
import CueStream.Proofs.Segment.Splitting
import CueStream.Proofs.Session.Boundary
import CueStream.Proofs.Session.Play

namespace CueStream

/-! ## What one draw takes out -/

/-- The buffer falls into these passages, with the gaps behind them, and a tail. The offsets of the
gaps are found with no slice that does not exist; the segments are the passages that are long enough;
and a draw leaves nothing to be drawn. -/
structure Buffer.FallsInto (b : Buffer) (parts : List (Text × Text)) : Prop where
  found : b.completedFrom? 0 = some b.completed
  looked : (b.text.nextGap? 0).map Option.isSome = some b.hasBoundary
  splits : b.text.Splits parts b.completed.2
  segments : b.completed.1 =
    (parts.map fun p => Segment.ofRaw b.keyChars p.1).filter fun s => b.minChars ≤ s.size
  kept : b.text.inked = (parts.flatMap fun p => p.1.inked) ++ b.completed.2.inked
  drawn : (b.completed.1.flatMap fun s => s.text.inked) =
    (parts.filter fun p => b.minChars ≤ p.1.trim.length).flatMap fun p => p.1.inked
  whole : ∀ s ∈ b.completed.1, s.text.hasGap = false
  boundary : b.hasBoundary = true ↔ parts ≠ []
  shorter : b.hasBoundary = true ↔ b.completed.2.byteLength < b.text.byteLength
  finished : b.takeCompleted.2.hasBoundary = false
  again : b.takeCompleted.2.takeCompleted = ([], b.takeCompleted.2)

namespace Buffer

/-- The segments say what the passages say that are long enough. -/
theorem flatMap_inked_segments (b : Buffer) (raws : List Text) :
    ((raws.filterMap b.segment?).flatMap fun s => s.text.inked) =
      (raws.filter fun raw => b.minChars ≤ raw.trim.length).flatMap Text.inked := by
  induction raws with
  | nil => rfl
  | cons raw rest ih =>
    by_cases hsize : b.minChars ≤ raw.trim.length
    · have hsegment : b.segment? raw = some (Segment.ofRaw b.keyChars raw) := if_pos hsize
      rw [List.filterMap_cons_some hsegment, List.filter_cons_of_pos (by simpa using hsize),
        List.flatMap_cons, List.flatMap_cons, ih]
      exact congrArg (· ++ _) (Text.inked_trim raw)
    · have hsegment : b.segment? raw = none := if_neg hsize
      rw [List.filterMap_cons_none hsegment, List.filter_cons_of_neg (by simpa using hsize), ih]

theorem exists_fallsInto (b : Buffer) : ∃ parts, b.FallsInto parts := by
  obtain ⟨parts, hparts, hpassages⟩ := b.text.exists_splits
  have hcompleted : b.completed.1 = (parts.map Prod.fst).filterMap b.segment? := by
    rw [hpassages]
    rfl
  have hlooked : (b.text.nextGap? 0).map Option.isSome = some b.hasBoundary := by
    have hgap := Text.nextGap?_append [] b.text
    rw [List.nil_append, Text.byteLength_nil] at hgap
    rw [hgap, Option.map_some, Option.isSome_map]
    rfl
  have hboundary : b.hasBoundary = true ↔ parts ≠ [] := by
    unfold hasBoundary
    rw [b.text.hasGap_iff_passages, ← hpassages, ne_eq, List.map_eq_nil_iff]
  refine ⟨parts, b.completedFrom?_zero, hlooked, hparts, ?_, hparts.inked_eq, ?_, ?_, hboundary, ?_,
    b.hasBoundary_takeCompleted, takeCompleted_of_not_boundary b.hasBoundary_takeCompleted⟩
  · rw [hcompleted, filterMap_segment?, List.map_map]
    rfl
  · rw [hcompleted, flatMap_inked_segments, List.filter_map, List.flatMap_map]
    rfl
  · intro s hs
    rw [hcompleted] at hs
    obtain ⟨raw, hraw, hsegment⟩ := List.mem_filterMap.mp hs
    obtain ⟨p, hp, rfl⟩ := List.mem_map.mp hraw
    exact Text.hasGap_of_infix (infix_of_segment? hsegment) (hparts.passages p hp)
  · rw [hboundary]
    exact hparts.byteLength_tail_lt_iff.symm

end Buffer

/-! ## Draws and pieces of text -/

namespace Session

/-- The worker draws in its next slice. -/
def draws (id : Nat) (s : Session) (place : WorkerPlace) : Bool :=
  place = .going [] && s.active = some id && s.buffer.hasBoundary

theorem workSlice_of_draws {id : Nat} {s : Session} {place : WorkerPlace}
    (h : s.draws id place = true) (fails : Trigger → Bool) :
    (s.workSlice fails id place).session = s.draw.1 := by
  simp only [draws, Bool.and_eq_true, decide_eq_true_eq] at h
  obtain ⟨⟨rfl, hactive⟩, hboundary⟩ := h
  rw [workSlice, if_neg (not_not_intro hactive), if_pos hboundary]

theorem buffer_workSlice_of_not_draws {id : Nat} {s : Session} {place : WorkerPlace}
    (h : s.draws id place = false) (fails : Trigger → Bool) :
    (s.workSlice fails id place).session.buffer = s.buffer := by
  cases place with
  | going batch =>
    cases batch with
    | nil =>
      rw [workSlice]
      split
      · rfl
      · rename_i hactive
        split
        · rename_i hboundary
          simp [draws, not_not.mp hactive, hboundary] at h
        · exact buffer_release s id
    | cons segment others =>
      rw [workSlice]
      split <;> rfl
  | waiting segment others => rfl
  | told i others =>
    rw [workSlice]
    split
    · rfl
    · show (s.pass i.triggers).1.buffer = s.buffer
      rw [pass_eq]
  | checking others => rfl
  | leaving => exact buffer_release s id

/-- A worker that draws needs a boundary and leaves none, and otherwise it brings none. -/
theorem boundary_workSlice (fails : Trigger → Bool) (id : Nat) (s : Session) (place : WorkerPlace) :
    (s.draws id place).toNat + (s.workSlice fails id place).session.buffer.hasBoundary.toNat ≤
      s.buffer.hasBoundary.toNat := by
  cases hdraws : s.draws id place with
  | true =>
    have hboundary : s.buffer.hasBoundary = true := by
      simp only [draws, Bool.and_eq_true] at hdraws
      exact hdraws.2
    rw [workSlice_of_draws hdraws, draw_eq, hboundary, Buffer.hasBoundary_takeCompleted]
    rfl
  | false =>
    rw [buffer_workSlice_of_not_draws hdraws, Bool.toNat_false, Nat.zero_add]

end Session

/-- How many of the pieces that are fed are not empty. -/
def spoken (fed : List (Text × Bool)) : Nat :=
  fed.countP fun p => p.1 ≠ []

namespace Sliced

/-- A worker draws in this slice. -/
def draws (w : Sliced) : Slice → Bool
  | .workerTurn id => (w.workers.lookup id).any (w.session.draws id)
  | _ => false

/-- How often workers draw. -/
def drawCount (w : Sliced) : List (Beat Slice) → Nat
  | [] => 0
  | b :: rest => (w.draws b.act).toNat + (w.step b.fails b.act).1.drawCount rest

/-- A draw spends a boundary, and only a piece of text brings one. -/
theorem draws_step (fails : Trigger → Bool) (w : Sliced) (x : Slice) :
    (w.draws x).toNat + (w.step fails x).1.session.buffer.hasBoundary.toNat ≤
      w.session.buffer.hasBoundary.toNat + spoken x.fed?.toList := by
  have hidle {v : Sliced} (hdraws : w.draws x = false)
      (hboundary : v.session.buffer.hasBoundary = true → w.session.buffer.hasBoundary = true) :
      (w.draws x).toNat + v.session.buffer.hasBoundary.toNat ≤
        w.session.buffer.hasBoundary.toNat + spoken x.fed?.toList := by
    rw [hdraws, Bool.toNat_false, Nat.zero_add]
    refine Nat.le_trans ?_ (Nat.le_add_right _ _)
    cases hv : v.session.buffer.hasBoundary with
    | true => rw [hboundary hv]
    | false => exact Nat.zero_le _
  have hspec := step_spec fails w x
  generalize w.step fails x = after at hspec ⊢
  cases hspec with
  | still x htask hvain =>
    refine hidle ?_ fun h => h
    cases x with
    | workerTurn id => simp [draws, hvain id rfl]
    | _ => rfl
  | feed chunk canWork =>
    by_cases hc : chunk = []
    · subst hc
      exact hidle rfl fun h => h
    · have hspoken : spoken (Slice.feed chunk canWork).fed?.toList = 1 := by
        simp [spoken, Slice.fed?, hc]
      have hle := Bool.toNat_le (w.session.feed chunk canWork).session.buffer.hasBoundary
      rw [hspoken, show w.draws (.feed chunk canWork) = false from rfl, Bool.toNat_false,
        Nat.zero_add]
      exact Nat.le_trans hle (Nat.le_add_left _ _)
  | @workerTurn id place hl =>
    have hslice := Session.boundary_workSlice fails id w.session place
    simp only [draws, hl, Option.any_some]
    exact Nat.le_trans hslice (Nat.le_add_right _ _)
  | @flushTurn id place hl =>
    exact hidle rfl (Session.flushSliced fails w.lives id w.session place).boundary
  | reset => exact hidle rfl nofun
  | _ => exact hidle rfl fun h => h

/-- There are no more draws than pieces of text, but for one if there is a boundary at the start;
and a boundary at the end leaves a piece for the next draw. -/
theorem drawCount_le (w : Sliced) (beats : List (Beat Slice)) :
    w.drawCount beats + (w.play beats).1.session.buffer.hasBoundary.toNat ≤
      w.session.buffer.hasBoundary.toNat + spoken (beats.filterMap (·.act.fed?)) := by
  induction beats generalizing w with
  | nil => exact Nat.le_of_eq (Nat.zero_add _)
  | cons b rest ih =>
    have hstep := draws_step b.fails w b.act
    have hrest := ih (w.step b.fails b.act).1
    have hspoken : spoken ((b :: rest).filterMap (·.act.fed?)) =
        spoken b.act.fed?.toList + spoken (rest.filterMap (·.act.fed?)) := by
      unfold spoken
      rw [← List.countP_append]
      congr 1
      cases h : b.act.fed? <;> simp [h]
    simp only [drawCount, play]
    omega

end Sliced

/-- Every buffer falls into its passages and a tail, found with no slice that does not exist, and a
draw leaves nothing to be drawn. So however the slices come, workers draw no more often than pieces
of text are fed, but for a boundary that was there before; and every run of moves is a run of such
slices. -/
theorem World.draws_lose_nothing_and_need_new_text :
    (∀ b : Buffer, ∃ parts, b.FallsInto parts) ∧
      (∀ (w : Sliced) (beats : List (Beat Slice)),
        w.drawCount beats + (w.play beats).1.session.buffer.hasBoundary.toNat ≤
          w.session.buffer.hasBoundary.toNat + spoken (beats.filterMap (·.act.fed?))) ∧
      ∀ (fails : Trigger → Bool) (config : CueConfig) (clock : Millis) (ms : List Move),
        ∃ xs : List Slice,
          (Sliced.new config clock).run fails xs =
              (((new config clock).run fails ms).1.sliced, ((new config clock).run fails ms).2) ∧
            xs.filterMap Slice.fed? = ms.filterMap Move.fed? ∧
            (Sliced.new config clock).drawCount (xs.map fun x => ⟨x, fails⟩) ≤
              spoken (ms.filterMap Move.fed?) := by
  refine ⟨Buffer.exists_fallsInto, Sliced.drawCount_le, ?_⟩
  intro fails config clock ms
  obtain ⟨xs, hrun, hfed⟩ := (new config clock).run_in_slices fails ms
  refine ⟨xs, hrun, hfed, ?_⟩
  have hcount := (Sliced.new config clock).drawCount_le (xs.map fun x => ⟨x, fails⟩)
  have hfirst : (Sliced.new config clock).session.buffer.hasBoundary = false := rfl
  have hpieces : (xs.map fun x => (⟨x, fails⟩ : Beat Slice)).filterMap (·.act.fed?) =
      ms.filterMap Move.fed? := by
    rw [List.filterMap_map, ← hfed]
    rfl
  rw [hpieces, hfirst, Bool.toNat_false, Nat.zero_add] at hcount
  exact Nat.le_trans (Nat.le_add_right _ _) hcount

end CueStream
