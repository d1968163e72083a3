-- A running best. A search that looks at one thing after the other, and replaces
-- what it has by what it finds only if that ranks higher, ends with the first of
-- the highest.
import Mathlib.Data.List.MinMax

namespace CueStream

variable {α β γ : Type} [LinearOrder γ] {find : α → Option β} {rank : β → γ}

/-- The first of those that rank highest. -/
def highest? (rank : β → γ) (l : List β) : Option β :=
  l.argmax rank

@[simp]
theorem highest?_nil : highest? rank [] = none := rfl

@[simp]
theorem highest?_singleton (m : β) : highest? rank [m] = some m := rfl

theorem highest?_eq_none_iff {l : List β} : highest? rank l = none ↔ l = [] :=
  List.argmax_eq_none

/-- Nothing in front of the highest ranks as high, and nothing behind it ranks higher. -/
theorem highest?_eq_some_iff_append {l : List β} {m : β} :
    highest? rank l = some m ↔
      ∃ before after, l = before ++ m :: after ∧ (∀ a ∈ before, rank a < rank m) ∧
        ∀ a ∈ after, rank a ≤ rank m := by
  unfold highest?
  induction l with
  | nil => simp
  | cons x l ih =>
    rw [List.argmax_cons]
    constructor
    · intro h
      cases hmax : l.argmax rank with
      | none =>
        simp only [hmax, Option.some.injEq] at h
        rw [List.argmax_eq_none.mp hmax, ← h]
        exact ⟨[], [], rfl, List.forall_mem_nil _, List.forall_mem_nil _⟩
      | some c =>
        simp only [hmax] at h
        split at h
        · rename_i hlt
          obtain rfl := Option.some.inj h
          obtain ⟨before, after, rfl, hbefore, hafter⟩ := ih.mp hmax
          exact ⟨x :: before, after, rfl, List.forall_mem_cons.mpr ⟨hlt, hbefore⟩, hafter⟩
        · rename_i hle
          obtain rfl := Option.some.inj h
          refine ⟨[], l, rfl, List.forall_mem_nil _, ?_⟩
          exact fun a ha => (List.le_of_mem_argmax ha hmax).trans (not_lt.mp hle)
    · rintro ⟨before, after, heq, hbefore, hafter⟩
      cases before with
      | nil =>
        obtain ⟨rfl, rfl⟩ := List.cons.inj heq
        cases hmax : l.argmax rank with
        | none => rfl
        | some c => exact if_neg (not_lt.mpr (hafter c (List.argmax_mem hmax)))
      | cons y before =>
        obtain ⟨rfl, rfl⟩ := List.cons.inj heq
        obtain ⟨hlt, hbefore⟩ := List.forall_mem_cons.mp hbefore
        rw [ih.mpr ⟨before, after, rfl, hbefore, hafter⟩]
        exact if_pos hlt

/-- Of what is found in the things of a list, the highest is found in the first of those in which
nothing higher is found. -/
theorem highest?_filterMap_eq_some_iff {l : List α} {m : β} :
    highest? rank (l.filterMap find) = some m ↔
      ∃ before a after, l = before ++ a :: after ∧ find a = some m ∧
        (∀ d ∈ before, ∀ hit ∈ find d, rank hit < rank m) ∧
          ∀ d ∈ after, ∀ hit ∈ find d, rank hit ≤ rank m := by
  have hbound (P : β → Prop) (l : List α) :
      (∀ hit ∈ l.filterMap find, P hit) ↔ ∀ d ∈ l, ∀ hit ∈ find d, P hit := by
    simp only [List.mem_filterMap]
    exact ⟨fun h d hd hit hhit => h hit ⟨d, hd, hhit⟩, fun h hit ⟨d, hd, hhit⟩ => h d hd hit hhit⟩
  rw [highest?_eq_some_iff_append]
  constructor
  · rintro ⟨found, others, heq, hbefore, hafter⟩
    obtain ⟨front, rest, rfl, rfl, hrest⟩ := List.filterMap_eq_append_iff.mp heq
    obtain ⟨silent, a, after, rfl, hsilent, hfind, rfl⟩ := List.filterMap_eq_cons_iff.mp hrest
    rw [hbound (rank · < rank m)] at hbefore
    rw [hbound (rank · ≤ rank m)] at hafter
    refine ⟨front ++ silent, a, after, by simp, hfind, ?_, hafter⟩
    intro d hd hit hhit
    rcases List.mem_append.mp hd with hd | hd
    · exact hbefore d hd hit hhit
    · rw [hsilent d hd] at hhit
      cases hhit
  · rintro ⟨before, a, after, rfl, hfind, hbefore, hafter⟩
    refine ⟨before.filterMap find, after.filterMap find, ?_, ?_, ?_⟩
    · rw [List.filterMap_append, List.filterMap_cons_some hfind]
    · exact (hbound (rank · < rank m) before).mpr hbefore
    · exact (hbound (rank · ≤ rank m) after).mpr hafter

/-- One step of such a search: what is found in one more thing counts only if it ranks higher. -/
structure KeepsBest (step : Option β → α → Option β) (find : α → Option β) (rank : β → γ) :
    Prop where
  silent : ∀ best a, find a = none → step best a = best
  first : ∀ a hit, find a = some hit → step none a = some hit
  next : ∀ b a hit, find a = some hit →
    step (some b) a = if rank b < rank hit then some hit else some b

/-- The search passes over nothing that would have been better. -/
theorem KeepsBest.foldl_eq {step : Option β → α → Option β} (h : KeepsBest step find rank)
    (l : List α) : l.foldl step none = highest? rank (l.filterMap find) := by
  unfold highest?
  induction l using List.reverseRecOn with
  | nil => rfl
  | append_singleton l a ih =>
    rw [List.foldl_append, List.foldl_cons, List.foldl_nil, ih, List.filterMap_append]
    cases hfind : find a with
    | none =>
      rw [h.silent _ a hfind, List.filterMap_cons_none hfind, List.filterMap_nil, List.append_nil]
    | some hit =>
      rw [List.filterMap_cons_some hfind, List.filterMap_nil, List.argmax_concat]
      cases (l.filterMap find).argmax rank with
      | none => exact h.first a hit hfind
      | some b => exact h.next b a hit hfind

end CueStream
