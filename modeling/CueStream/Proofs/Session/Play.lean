-- Runs with a receiver that breaks down over a cue at one time and takes it at
-- another. What every move keeps, such a run keeps as well.
import CueStream.Proofs.Session.Slice

namespace CueStream

/-- What is done next, and the cues over which the receiver breaks down meanwhile. -/
structure Beat (Act : Type) where
  act : Act
  fails : Trigger → Bool

/-- What is done, one after the other, whatever the receiver does. -/
def acts {Act : Type} (beats : List (Beat Act)) : List Act :=
  beats.map Beat.act

theorem acts_cons {Act : Type} (b : Beat Act) (beats : List (Beat Act)) :
    acts (b :: beats) = b.act :: acts beats := rfl

theorem acts_map {Act : Type} (fails : Trigger → Bool) (xs : List Act) :
    acts (xs.map fun x => ⟨x, fails⟩) = xs := by
  unfold acts
  rw [List.map_map]
  exact List.map_id xs

namespace World

/-- Moves, one after the other: the world at the end, and everything that happened. -/
def play (w : World) : List (Beat Move) → World × List Event
  | [] => (w, [])
  | b :: rest =>
    let (w, events) := w.step b.fails b.act
    let (w, later) := w.play rest
    (w, events ++ later)

/-- A run is a play whose receiver is always the same. -/
theorem play_map (fails : Trigger → Bool) (w : World) (ms : List Move) :
    w.play (ms.map fun m => ⟨m, fails⟩) = w.run fails ms := by
  induction ms generalizing w with
  | nil => rfl
  | cons m rest ih => simp only [List.map_cons, play, run, ih]

theorem play_append (w : World) (beats more : List (Beat Move)) :
    w.play (beats ++ more) =
      (((w.play beats).1.play more).1, (w.play beats).2 ++ ((w.play beats).1.play more).2) := by
  induction beats generalizing w with
  | nil => rfl
  | cons b rest ih => simp [play, ih]

theorem play_snoc (w : World) (beats : List (Beat Move)) (b : Beat Move) :
    w.play (beats ++ [b]) =
      (((w.play beats).1.step b.fails b.act).1,
        (w.play beats).2 ++ ((w.play beats).1.step b.fails b.act).2) := by
  rw [play_append]
  simp [play]

/-- What each move keeps, a play keeps. -/
theorem play_keeps {P : World → Prop}
    (hstep : ∀ w fails m, P w → P (World.step fails w m).1) {w : World} (h : P w)
    (beats : List (Beat Move)) : P (w.play beats).1 := by
  induction beats generalizing w with
  | nil => exact h
  | cons b rest ih => exact ih (hstep w b.fails b.act h)

/-- What is configured stays through a play. -/
theorem config_play (w : World) (beats : List (Beat Move)) :
    (w.play beats).1.session.config = w.session.config :=
  play_keeps (P := fun v => v.session.config = w.session.config)
    (fun v fails m h => (grows_step fails v m).config.trans h) rfl beats

/-- In every play the model is asked about the segments that are handed over, in their order. -/
theorem callsOf_play (w : World) (beats : List (Beat Move)) :
    callsOf (w.play beats).2 = questions w.session.config (segmentsOf (w.play beats).2) := by
  induction beats generalizing w with
  | nil => rfl
  | cons b rest ih =>
    simp only [play, callsOf_append, segmentsOf_append, questions_append]
    rw [callsOf_step, ih, (grows_step b.fails w b.act).config]

/-- The tasks are sound in every play. -/
theorem sound_play (config : CueConfig) (clock : Millis) (beats : List (Beat Move)) :
    Sound ((new config clock).play beats).1 :=
  play_keeps (fun _ fails m h => h.step fails m) (sound_new config clock) beats

end World

namespace Sliced

/-- Slices, one after the other: the world at the end, and everything that happened. -/
def play (w : Sliced) : List (Beat Slice) → Sliced × List Event
  | [] => (w, [])
  | b :: rest =>
    let (w, events) := w.step b.fails b.act
    let (w, later) := w.play rest
    (w, events ++ later)

/-- A run is a play whose receiver is always the same. -/
theorem play_map (fails : Trigger → Bool) (w : Sliced) (xs : List Slice) :
    w.play (xs.map fun x => ⟨x, fails⟩) = w.run fails xs := by
  induction xs generalizing w with
  | nil => rfl
  | cons x rest ih => simp only [List.map_cons, play, run, ih]

theorem play_append (w : Sliced) (beats more : List (Beat Slice)) :
    w.play (beats ++ more) =
      (((w.play beats).1.play more).1, (w.play beats).2 ++ ((w.play beats).1.play more).2) := by
  induction beats generalizing w with
  | nil => rfl
  | cons b rest ih => simp [play, ih]

theorem play_snoc (w : Sliced) (beats : List (Beat Slice)) (b : Beat Slice) :
    w.play (beats ++ [b]) =
      (((w.play beats).1.step b.fails b.act).1,
        (w.play beats).2 ++ ((w.play beats).1.step b.fails b.act).2) := by
  rw [play_append]
  simp [play]

/-- What each slice keeps, a play keeps. -/
theorem play_keeps {P : Sliced → Prop}
    (hstep : ∀ w fails x, P w → P (Sliced.step fails w x).1) {w : Sliced} (h : P w)
    (beats : List (Beat Slice)) : P (w.play beats).1 := by
  induction beats generalizing w with
  | nil => exact h
  | cons b rest ih => exact ih (hstep w b.fails b.act h)

end Sliced

/-- Every play of moves is a play of slices. If no response begins in the one, none does in the
other. -/
theorem World.play_in_slices (w : World) (beats : List (Beat Move)) :
    ∃ slices : List (Beat Slice),
      w.sliced.play slices = ((w.play beats).1.sliced, (w.play beats).2) ∧
        ((∀ b ∈ beats, b.act.isReset = false) → ∀ b ∈ slices, b.act.isReset = false) := by
  induction beats generalizing w with
  | nil => exact ⟨[], rfl, fun _ => nofun⟩
  | cons b rest ih =>
    obtain ⟨xs, hrun, -, hfirst⟩ := step_in_slices b.fails w b.act
    obtain ⟨slices, hplay, hrest⟩ := ih (w.step b.fails b.act).1
    refine ⟨(xs.map fun x => ⟨x, b.fails⟩) ++ slices, ?_, ?_⟩
    · rw [Sliced.play_append, Sliced.play_map, hrun]
      simp only [play, hplay]
    · intro hbeats
      obtain ⟨hb, hbeats⟩ := List.forall_mem_cons.mp hbeats
      intro x hx
      rcases List.mem_append.mp hx with hx | hx
      · obtain ⟨y, hy, rfl⟩ := List.mem_map.mp hx
        exact hfirst hb y hy
      · exact hrest hbeats x hx

end CueStream
