-- What a reset leaves behind. The workers that were under way are revoked,
-- and a flush that waits for an answer belongs to a response that is over:
-- none of them touches the next response.
import CueStream.Proofs.Session.Play

namespace CueStream

namespace World

/-! ## Tasks without a trace -/

/-- However a play goes on, each turn of the task leaves the session as it is, and shows no more than
an answer that arrives and the end of the task. -/
def Inert (w : World) (a : Actor) : Prop :=
  ∀ (beats : List (Beat Move)) (b : Beat Move), b.act.task? = some a →
    ((w.play beats).1.step b.fails b.act).1.session = (w.play beats).1.session ∧
      ∀ e ∈ ((w.play beats).1.step b.fails b.act).2, e.isQuiet = true

/-- The workers with numbers under `n` are revoked, and the responses up to number `r` are over. -/
structure Past (n r : Nat) (w : World) : Prop where
  next : n ≤ w.session.nextWorker
  active : ∀ id, w.session.active = some id → n ≤ id
  response : r < w.session.response

theorem Past.step {n r : Nat} {w : World} (h : Past n r w) (fails : Trigger → Bool) (m : Move) :
    Past n r (w.step fails m).1 := by
  have hg := grows_step fails w m
  refine ⟨Nat.le_trans h.next hg.next, ?_, Nat.lt_of_lt_of_le h.response hg.response⟩
  intro id ha
  rcases hg.active id ha with ha | ha
  · exact h.active id ha
  · exact Nat.le_trans h.next ha

theorem Past.play {n r : Nat} {w : World} (h : Past n r w) (beats : List (Beat Move)) :
    Past n r (w.play beats).1 :=
  play_keeps (fun _ fails m h => h.step fails m) h beats

/-- Both kinds of reset begin a new response, and differ in the gates alone. -/
theorem step_of_isReset (fails : Trigger → Bool) (w : World) {m : Move} (hm : m.isReset = true) :
    ∃ gates,
      w.step fails m = ({ w with session := { w.session.reset with gates := gates } }, []) := by
  cases m with
  | reset => exact ⟨w.session.gates, rfl⟩
  | fullReset => exact ⟨w.session.gates.reset, rfl⟩
  | _ => cases hm

/-- A reset revokes every worker that there is, and ends the response. -/
theorem past_reset (fails : Trigger → Bool) (w : World) {m : Move} (hm : m.isReset = true) :
    Past w.session.nextWorker w.session.response (w.step fails m).1 := by
  obtain ⟨gates, hstep⟩ := step_of_isReset fails w hm
  rw [hstep]
  exact ⟨Nat.le_refl _, (fun _ ha => nomatch ha), Nat.lt_succ_self _⟩

theorem Past.not_active {n r : Nat} {w : World} (h : Past n r w) {id : Nat} (hid : id < n) :
    w.session.active ≠ some id := by
  intro ha
  have := h.active id ha
  omega

/-- A revoked worker leaves no trace. -/
theorem Past.inert_worker {n r : Nat} {w : World} (h : Past n r w) {id : Nat} (hid : id < n) :
    Inert w (.worker id) := by
  rintro beats ⟨m, fails⟩ hm
  have hrevoked := (h.play beats).not_active hid
  generalize (w.play beats).1 = v at hrevoked ⊢
  have hs := step_spec fails v m
  dsimp only at hm ⊢
  generalize v.step fails m = r at hs ⊢
  cases hs with
  | still => exact ⟨rfl, by simp⟩
  | workerTurn hl =>
    cases hm
    rw [Session.work_of_revoked hrevoked]
    exact ⟨rfl, by simp [afterWorker, Event.isQuiet]⟩
  | workerAnswer a hl =>
    cases hm
    rw [Session.resumeWork_of_revoked hrevoked]
    exact ⟨rfl, by simp [afterWorker, Session.Turn.after, Event.isQuiet]⟩
  | _ => cases hm

/-- The flush is over, or waits for an answer on behalf of a response up to number `r`. -/
structure Spent (id r : Nat) (w : World) : Prop where
  given : id < w.nextFlush
  response : r < w.session.response
  stage : ∀ stage, w.flushes.lookup id = some stage →
    ∃ segment response, stage = .waiting segment response ∧ response ≤ r

theorem Spent.step {id r : Nat} {w : World} (hw : Sound w) (h : Spent id r w)
    (fails : Trigger → Bool) (m : Move) : Spent id r (w.step fails m).1 := by
  have hresponse := Nat.lt_of_lt_of_le h.response (grows_step fails w m).response
  have hs := step_spec fails w m
  generalize w.step fails m = x at hs hresponse ⊢
  cases hs with
  | flush =>
    refine ⟨Nat.lt_succ_of_lt h.given, hresponse, ?_⟩
    intro stage hl
    have hne : (id == w.nextFlush) = false := by
      have := h.given
      simp only [beq_eq_false_iff_ne]
      omega
    rw [List.lookup_append] at hl
    cases hold : w.flushes.lookup id with
    | none => simp [hold, List.lookup_cons, hne] at hl
    | some stage' =>
      rw [hold] at hl
      cases hl
      exact h.stage stage hold
  | @flushTurn k stage hl hstage =>
    have hne : id ≠ k := by
      rintro rfl
      obtain ⟨segment, response, rfl, -⟩ := h.stage stage hl
      rcases hstage with hstage | ⟨worker, hstage, -⟩ <;> cases hstage
    refine ⟨h.given, hresponse, ?_⟩
    simp only [afterFlush, lookup_put_of_ne hne]
    exact h.stage
  | @flushAnswer k segment response a hl =>
    refine ⟨h.given, hresponse, ?_⟩
    by_cases hk : id = k
    · subst hk
      intro stage hput
      simp only [afterFlush] at hput
      rw [lookup_put_self hw.flushes_nodup (Option.isSome_of_eq_some hl)] at hput
      have hover := (Session.resumeFlush_eq fails w.session id (Classifier.settled a) response).1
      simp only [Session.Turn.after, hover] at hput
      cases hput
    · simp only [afterFlush, lookup_put_of_ne hk]
      exact h.stage
  | _ => exact ⟨h.given, hresponse, h.stage⟩

/-- A reset finds a flush that waits for an answer, and puts its response behind it. -/
theorem Sound.spent_reset {w : World} (hw : Sound w) (fails : Trigger → Bool) {m : Move}
    (hm : m.isReset = true) {id : Nat} {segment : Segment} {response : Nat}
    (he : (id, .waiting segment response) ∈ w.flushes) :
    Spent id w.session.response (w.step fails m).1 := by
  have hp := past_reset fails w hm
  obtain ⟨gates, hstep⟩ := step_of_isReset fails w hm
  rw [hstep] at hp ⊢
  refine ⟨hw.flushes_lt _ he, hp.response, ?_⟩
  intro stage hl
  change w.flushes.lookup id = some stage at hl
  rw [lookup_of_mem hw.flushes_nodup he] at hl
  cases hl
  exact ⟨segment, response, rfl, hw.response_le id segment response he⟩

/-- A flush that waits for an answer on behalf of a response that is over leaves no trace. -/
theorem Spent.inert {id r : Nat} {w : World} (hw : Sound w) (h : Spent id r w) :
    Inert w (.flush id) := by
  rintro beats ⟨m, fails⟩ hm
  have hkeeps (v : World) (fails : Trigger → Bool) (m : Move) (hv : Sound v ∧ Spent id r v) :
      Sound (v.step fails m).1 ∧ Spent id r (v.step fails m).1 :=
    ⟨hv.1.step fails m, hv.2.step hv.1 fails m⟩
  obtain ⟨-, hspent⟩ := play_keeps hkeeps ⟨hw, h⟩ beats
  generalize (w.play beats).1 = v at hspent ⊢
  have hs := step_spec fails v m
  dsimp only at hm ⊢
  generalize v.step fails m = x at hs ⊢
  cases hs with
  | still => exact ⟨rfl, by simp⟩
  | flushTurn hl hstage =>
    cases hm
    obtain ⟨segment, response, rfl, -⟩ := hspent.stage _ hl
    rcases hstage with hstage | ⟨worker, hstage, -⟩ <;> cases hstage
  | @flushAnswer k segment response a hl =>
    cases hm
    obtain ⟨segment', old, he, hle⟩ := hspent.stage _ hl
    have hover : v.session.response ≠ response := by
      have := hspent.response
      simp only [FlushStage.waiting.injEq] at he
      omega
    rw [Session.resumeFlush_of_over hover]
    exact ⟨rfl, by simp [afterFlush, Session.Turn.after, Event.isQuiet]⟩
  | _ => cases hm

end World

end CueStream
