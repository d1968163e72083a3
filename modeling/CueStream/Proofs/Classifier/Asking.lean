-- What a passage costs and what comes of it. It is asked about at most once,
-- whatever the model does; whoever does not ask why it failed cannot tell a
-- failure from an answer that names nothing; and what the keywords of the
-- passage name is never asked about or changed.
import CueStream.Proofs.Classifier.Noise
import CueStream.Proofs.Segment.Passage

namespace CueStream

open Unicode

/-! ## A text and its passage -/

namespace Text

/-- The passage is the text without the blanks around it. -/
def Stripped (text passage : Text) : Prop :=
  ∃ front behind, text = front ++ passage ++ behind ∧
    (∀ c ∈ front, isBlank c = true) ∧ (∀ c ∈ behind, isBlank c = true) ∧
    (∀ c ∈ passage.head?, isBlank c = false) ∧ ∀ c ∈ passage.getLast?, isBlank c = false

theorem trimStart_eq_self {t : Text} (h : ∀ c ∈ t.head?, isBlank c = false) : trimStart t = t := by
  cases t with
  | nil => rfl
  | cons c rest => exact List.dropWhile_cons_of_neg (by simp [h c rfl])

theorem trimEnd_eq_self {t : Text} (h : ∀ c ∈ t.getLast?, isBlank c = false) : trimEnd t = t := by
  have hback : trimStart t.reverse = t.reverse := trimStart_eq_self (by simpa using h)
  exact (congrArg List.reverse hback).trans t.reverse_reverse

theorem head?_trim (t : Text) : ∀ c ∈ (trim t).head?, isBlank c = false := by
  obtain ⟨w, hw, -⟩ := trimStart_eq_trim_append t
  intro c hc
  refine head?_trimStart t c ?_
  rw [hw, List.head?_append, hc]
  rfl

theorem getLast?_trim (t : Text) : ∀ c ∈ (trim t).getLast?, isBlank c = false := by
  intro c hc
  refine head?_trimStart (trimStart t).reverse c ?_
  rwa [trim, trimEnd, List.getLast?_reverse] at hc

/-- Every text has one passage. -/
theorem stripped_iff {text passage : Text} : Stripped text passage ↔ passage = text.trim := by
  constructor
  · rintro ⟨front, behind, rfl, hfront, hbehind, hhead, hlast⟩
    rw [trim_append_blank _ hbehind, trim_blank_append hfront, trim, trimStart_eq_self hhead,
      trimEnd_eq_self hlast]
  · rintro rfl
    obtain ⟨behind, hbehind, hblank⟩ := trimStart_eq_trim_append text
    refine ⟨text.takeWhile isBlank, behind, ?_, fun c hc => List.mem_takeWhile_imp hc, hblank,
      head?_trim text, getLast?_trim text⟩
    rw [List.append_assoc, ← hbehind]
    exact List.takeWhile_append_dropWhile.symm

end Text

namespace Classifier

variable {config : CueConfig} {text passage : Text}

/-! ## One question -/

/-- The one question about a passage: the instructions and the passage, with the model, the
temperature and the length that the settings name. -/
def question (config : CueConfig) (passage : Text) : Call :=
  ⟨[.system instructions, .user ("Passage:\n".toList ++ passage)],
    ⟨config.model, some config.temperature, some config.maxTokens⟩⟩

theorem call?_of_short (h : Text.Stripped text passage)
    (hshort : passage.length < config.minClassifyChars) : call? config text = none := by
  cases Text.stripped_iff.mp h
  exact if_pos hshort

theorem call?_of_long (h : Text.Stripped text passage)
    (hlong : ¬ passage.length < config.minClassifyChars) :
    call? config text = some (question config passage) := by
  cases Text.stripped_iff.mp h
  exact if_neg hlong

/-! ## Failures -/

/-- The call ends with a failure: an error of the backend, its breakdown, or an answer that cannot
be understood. -/
def Fails : Answer → Failure → Prop
  | .text t, f => parse t = .error f
  | .error m, f => f = .backend m
  | .crash, f => f = .crash

theorem outcome_eq_error_iff {a : Answer} {f : Failure} : outcome a = .error f ↔ Fails a f := by
  cases a <;> simp [outcome, Fails, eq_comm]

theorem outcome_eq_ok_iff {a : Answer} {i : Intent} :
    outcome a = .ok i ↔ ∃ t, a = .text t ∧ parse t = .ok i := by
  cases a <;> simp [outcome]

/-- Whoever does not ask why a call failed gets what an answer without labels says. -/
theorem settled_of_fails {a : Answer} {f : Failure} (h : Fails a f) : settled a = .empty := by
  rw [settled, outcome_eq_error_iff.mpr h]

theorem settled_of_ok {a : Answer} {i : Intent} (h : outcome a = .ok i) : settled a = i := by
  rw [settled, h]

/-- An answer in which both labels are `null`, on one line or over many, with any remarks around it
but an opening brace in front. -/
def NamesNothing (reply : Text) : Prop :=
  ∃ front behind, '\x7b' ∉ front ∧
    (reply = front ++ Intent.empty.toJson.compact ++ behind ∨
      reply = front ++ Intent.empty.toJson.lines ++ behind)

theorem settled_of_namesNothing {reply : Text} (h : NamesNothing reply) :
    settled (.text reply) = .empty := by
  obtain ⟨front, behind, hfront, h⟩ := h
  obtain ⟨hline, hlines⟩ := parse_written hfront behind Intent.empty
  rcases h with rfl | rfl
  · exact settled_of_ok hline
  · exact settled_of_ok hlines

/-! ## What is asked and what comes of it -/

variable {model : Call → Answer}

theorem trySlow_of_short (h : Text.Stripped text passage)
    (hshort : passage.length < config.minClassifyChars) :
    trySlow config model text = ⟨.ok .empty, []⟩ := by
  rw [trySlow, call?_of_short h hshort]

theorem slow_of_short (h : Text.Stripped text passage)
    (hshort : passage.length < config.minClassifyChars) :
    slow config model text = ⟨.empty, []⟩ := by
  rw [slow, call?_of_short h hshort]

theorem trySlow_of_long (h : Text.Stripped text passage)
    (hlong : ¬ passage.length < config.minClassifyChars) :
    trySlow config model text =
      ⟨outcome (model (question config passage)), [question config passage]⟩ := by
  rw [trySlow, call?_of_long h hlong]

theorem slow_of_long (h : Text.Stripped text passage)
    (hlong : ¬ passage.length < config.minClassifyChars) :
    slow config model text =
      ⟨settled (model (question config passage)), [question config passage]⟩ := by
  rw [slow, call?_of_long h hlong]

theorem calls_trySlow (config : CueConfig) (model : Call → Answer) (text : Text) :
    (trySlow config model text).calls = (slow config model text).calls := by
  unfold trySlow slow
  cases call? config text <;> rfl

theorem trySlow_eq_error_iff (h : Text.Stripped text passage) {f : Failure} :
    (trySlow config model text).result = .error f ↔
      ¬ passage.length < config.minClassifyChars ∧ Fails (model (question config passage)) f := by
  by_cases hshort : passage.length < config.minClassifyChars
  · simp [trySlow_of_short h hshort, hshort]
  · simp [trySlow_of_long h hshort, hshort, outcome_eq_error_iff]

theorem trySlow_eq_ok_iff (h : Text.Stripped text passage) {i : Intent} :
    (trySlow config model text).result = .ok i ↔
      (passage.length < config.minClassifyChars ∧ i = .empty) ∨
        (¬ passage.length < config.minClassifyChars ∧
          ∃ t, model (question config passage) = .text t ∧ parse t = .ok i) := by
  by_cases hshort : passage.length < config.minClassifyChars
  · simp [trySlow_of_short h hshort, hshort, eq_comm]
  · simp [trySlow_of_long h hshort, hshort, outcome_eq_ok_iff]

theorem result_slow_of_ok {i : Intent} (h : (trySlow config model text).result = .ok i) :
    (slow config model text).result = i := by
  unfold trySlow at h
  unfold slow
  cases hcall : call? config text with
  | none =>
    rw [hcall] at h
    cases h
    rfl
  | some c =>
    rw [hcall] at h
    exact settled_of_ok h

theorem result_slow_of_error {f : Failure} (h : (trySlow config model text).result = .error f) :
    (slow config model text).result = .empty := by
  unfold trySlow at h
  unfold slow
  cases hcall : call? config text with
  | none => rfl
  | some c =>
    rw [hcall] at h
    exact settled_of_fails (outcome_eq_error_iff.mp h)

theorem result_slow_of_namesNothing {reply : Text} (h : NamesNothing reply) (config : CueConfig)
    (text : Text) : (slow config (fun _ => .text reply) text).result = .empty := by
  unfold slow
  cases call? config text with
  | none => rfl
  | some c => exact settled_of_namesNothing h

/-- The result depends on the model only through its answers to the calls that are made. -/
theorem slow_eq_of_agree {other : Call → Answer}
    (h : ∀ c ∈ (slow config model text).calls, other c = model c) :
    slow config other text = slow config model text := by
  unfold slow at h ⊢
  cases hcall : call? config text with
  | none => rfl
  | some c =>
    rw [hcall] at h
    have hsame : other c = model c := h c (List.mem_singleton.mpr rfl)
    simp only [hsame]

/-! ## Keywords first -/

/-- The keywords name a gesture and an expression, so nothing is left to ask about. -/
def Complete (i : Intent) : Prop :=
  i.gesture.isSome = true ∧ i.expression.isSome = true

theorem Complete.or_eq {i : Intent} (h : Complete i) (j : Intent) : i.or j = i := by
  rcases i with ⟨_ | g, _ | e⟩
  case some.some => rfl
  all_goals cases h.1 <;> cases h.2

theorem hybrid_of_complete (h : Complete (quick text)) :
    hybrid config model text = ⟨quick text, []⟩ := by
  rw [hybrid, if_pos (by rw [h.1, h.2]; rfl)]

theorem hybrid_of_incomplete (h : ¬ Complete (quick text)) :
    hybrid config model text = (slow config model text).map (quick text).or := by
  refine if_neg fun hboth => h ?_
  exact Bool.and_eq_true_iff.mp hboth

theorem result_hybrid (config : CueConfig) (model : Call → Answer) (text : Text) :
    (hybrid config model text).result = (quick text).or (slow config model text).result := by
  by_cases h : Complete (quick text)
  · rw [hybrid_of_complete h, h.or_eq]
  · rw [hybrid_of_incomplete h, Asked.map]

theorem hybrid_eq_of_agree {other : Call → Answer}
    (h : ∀ c ∈ (hybrid config model text).calls, other c = model c) :
    hybrid config other text = hybrid config model text := by
  by_cases hcomplete : Complete (quick text)
  · rw [hybrid_of_complete hcomplete, hybrid_of_complete hcomplete]
  · rw [hybrid_of_incomplete hcomplete] at h
    rw [hybrid_of_incomplete hcomplete, hybrid_of_incomplete hcomplete, slow_eq_of_agree h]

/-- A passage that is too short is not shown to the model. About any other one there is one
question, whatever the model makes of it. Whether it failed shows in one way of asking; in the other
one every failure counts as an answer with both labels `null`, and everything else as it is. With
keywords first, what comes of it is the same as if the model were always asked and filled the
channels that the keywords leave free; but it is not asked if they leave none. -/
theorem a_passage_is_asked_about_at_most_once (h : Text.Stripped text passage)
    (config : CueConfig) (model : Call → Answer) :
    let short := passage.length < config.minClassifyChars
    let answer := model (question config passage)
    let tried := trySlow config model text
    let found := slow config model text
    let mixed := hybrid config model text
    ((short → found.calls = []) ∧ (¬ short → found.calls = [question config passage]) ∧
      tried.calls = found.calls ∧
      ∀ other, (∀ c ∈ found.calls, other c = model c) → slow config other text = found) ∧
    ((∀ f, tried.result = .error f ↔ ¬ short ∧ Fails answer f) ∧
      (∀ i, tried.result = .ok i ↔
        (short ∧ i = .empty) ∨ (¬ short ∧ ∃ t, answer = .text t ∧ parse t = .ok i)) ∧
      (∀ i, tried.result = .ok i → found.result = i) ∧
      ∀ f, tried.result = .error f → found.result = .empty ∧ ∀ reply, NamesNothing reply →
        found.result = (slow config (fun _ => .text reply) text).result) ∧
    (mixed.result = (quick text).or found.result ∧
      (Complete (quick text) → mixed.calls = []) ∧
      (¬ Complete (quick text) → mixed.calls = found.calls) ∧
      (∀ g, (quick text).gesture = some g → mixed.result.gesture = some g) ∧
      (∀ e, (quick text).expression = some e → mixed.result.expression = some e) ∧
      ((quick text).gesture = none → mixed.result.gesture = found.result.gesture) ∧
      ((quick text).expression = none → mixed.result.expression = found.result.expression) ∧
      ∀ other, (∀ c ∈ mixed.calls, other c = model c) → hybrid config other text = mixed) := by
  intro short answer tried found mixed
  -- Also where nothing is asked, since a complete intent hides whatever would fill it.
  have hmixed : mixed.result = (quick text).or found.result := result_hybrid config model text
  refine ⟨⟨?_, ?_, calls_trySlow config model text, fun _ => slow_eq_of_agree⟩,
    ⟨fun _ => trySlow_eq_error_iff h, fun _ => trySlow_eq_ok_iff h, fun _ => result_slow_of_ok, ?_⟩,
    hmixed, ?_, ?_, ?_, ?_, ?_, ?_, fun _ => hybrid_eq_of_agree⟩
  · intro hshort
    exact congrArg Asked.calls (slow_of_short h hshort)
  · intro hlong
    exact congrArg Asked.calls (slow_of_long h hlong)
  · intro f hfailed
    have hempty := result_slow_of_error hfailed
    exact ⟨hempty, fun reply hreply =>
      hempty.trans (result_slow_of_namesNothing hreply config text).symm⟩
  · intro hcomplete
    exact congrArg Asked.calls (hybrid_of_complete hcomplete)
  · intro hincomplete
    show (hybrid config model text).calls = _
    rw [hybrid_of_incomplete hincomplete, Asked.map]
  · intro g hg
    rw [hmixed, Intent.or, hg]
    rfl
  · intro e he
    rw [hmixed, Intent.or, he]
    rfl
  · intro hfree
    rw [hmixed, Intent.or, hfree]
    rfl
  · intro hfree
    rw [hmixed, Intent.or, hfree]
    rfl

/-- A backend that breaks down over a passage between blanks: it was asked once, and nothing was
found. -/
theorem a_breakdown_counts_as_nothing :
    let text := "\u2003Let me see how that works out. ".toList
    let passage := "Let me see how that works out.".toList
    Text.Stripped text passage ∧
      (slow {} (fun _ => .crash) text).calls = [question {} passage] ∧
      (slow {} (fun _ => .crash) text).result = .empty := by
  intro text passage
  have hstripped : Text.Stripped text passage := by
    refine ⟨['\u2003'], [' '], by decide, ?_, ?_, ?_, ?_⟩
    · exact List.forall_mem_singleton.mpr (by decide)
    · exact List.forall_mem_singleton.mpr (by decide)
    · rintro c ⟨⟩
      decide
    · rintro c ⟨⟩
      decide
  have hlong : ¬ passage.length < ({} : CueConfig).minClassifyChars := by decide
  obtain ⟨⟨-, hasked, -⟩, ⟨hfailed, -, -, hempty⟩, -⟩ :=
    a_passage_is_asked_about_at_most_once hstripped {} fun _ => .crash
  exact ⟨hstripped, hasked hlong, (hempty .crash ((hfailed .crash).mpr ⟨hlong, rfl⟩)).1⟩

end Classifier

end CueStream
