-- The reader takes every word as what it is: a text is read as a value only if
-- its words are the words of that value.
import CueStream.Proofs.Json.Cutting

namespace CueStream.Json

/-! ## Words with a comma behind each part -/

/-- The elements in front of another one. -/
def leadingItems (items : List Json) : List Token :=
  items.flatMap fun v => words v ++ [.comma]

/-- The members in front of another one. -/
def leadingMembers (members : List (Option Text × Json)) : List Token :=
  members.flatMap fun m => .string m.1 :: .colon :: words m.2 ++ [.comma]

theorem itemWords_concat (items : List Json) (v : Json) :
    itemWords (items ++ [v]) = .comma :: (leadingItems items ++ words v) := by
  induction items with
  | nil => simp [itemWords, leadingItems]
  | cons w items ih => simp [itemWords, leadingItems, ih]

theorem memberWords_concat (members : List (Option Text × Json)) (name : Option Text) (v : Json) :
    memberWords (members ++ [(name, v)]) =
      .comma :: (leadingMembers members ++ .string name :: .colon :: words v) := by
  induction members with
  | nil => simp [memberWords, leadingMembers]
  | cons m members ih => simp [memberWords, leadingMembers, ih]

theorem words_array_concat (items : List Json) (v : Json) :
    words (.array (items ++ [v])) =
      .openArray :: (leadingItems items ++ words v ++ [.closeArray]) := by
  cases items with
  | nil => simp [words, itemWords, leadingItems]
  | cons w items => simp [words, itemWords_concat, leadingItems]

theorem words_object_concat (members : List (Option Text × Json)) (name : Option Text) (v : Json) :
    words (.object (members ++ [(name, v)])) =
      .openObject :: (leadingMembers members ++ .string name :: .colon :: words v ++
        [.closeObject]) := by
  cases members with
  | nil => simp [words, memberWords, leadingMembers]
  | cons m members => simp [words, memberWords_concat, leadingMembers]

namespace Reader

/-! ## What a state has read -/

/-- The words of an array or object that is still open. -/
def Frame.past : Frame → List Token
  | .array items => .openArray :: leadingItems items.reverse
  | .object members name => .openObject :: leadingMembers members.reverse ++ [.string name, .colon]

/-- The words of all that is still open, from the outermost one on. -/
def pastOf (context : List Frame) : List Token :=
  context.reverse.flatMap Frame.past

/-- The words that lead to a state. -/
def State.past : State → List Token
  | .value context => pastOf context
  | .firstItem context => pastOf context ++ [.openArray]
  | .firstName context => pastOf context ++ [.openObject]
  | .name members context => pastOf context ++ .openObject :: leadingMembers members.reverse
  | .colon members key context =>
    pastOf context ++ .openObject :: leadingMembers members.reverse ++ [.string key]
  | .done v context => pastOf context ++ words v

theorem pastOf_cons (frame : Frame) (context : List Frame) :
    pastOf (frame :: context) = pastOf context ++ frame.past := by
  simp [pastOf]

/-- A word that is a value has no parts. -/
def Lone (k : Token) : Prop :=
  ∀ v, k = .scalar v → words v = [.scalar v]

theorem past_startValue {context : List Frame} {k : Token} (hk : Lone k) {s : State}
    (h : startValue context k = some s) : s.past = pastOf context ++ [k] := by
  unfold startValue at h
  split at h
  · cases h
    rfl
  · cases h
    rfl
  · cases h
    rfl
  · rename_i v
    cases h
    exact congrArg (pastOf context ++ ·) (hk v rfl)
  · cases h

/-- A step adds its word to the past. -/
theorem past_step {s s' : State} {k : Token} (hk : Lone k) (h : step s k = some s') :
    s'.past = s.past ++ [k] := by
  unfold step at h
  split at h
  case h_1 => exact past_startValue hk h
  case h_3 =>
    rw [past_startValue hk h, pastOf_cons]
    rfl
  case h_12 => cases h
  -- A word that opens or separates stands at the end of the past as it is; one that closes makes a
  -- value of the top frame, whose words are what the frame has read and the closing one.
  all_goals
    cases h
    simp [State.past, pastOf_cons, Frame.past, words, leadingItems, leadingMembers,
      words_array_concat, words_object_concat]

theorem past_run {s s' : State} {ws : List Token} (hws : ∀ k ∈ ws, Lone k)
    (h : run s ws = some s') : s'.past = s.past ++ ws := by
  induction ws generalizing s with
  | nil =>
    cases h
    exact (List.append_nil _).symm
  | cons k ws ih =>
    obtain ⟨hk, hws⟩ := List.forall_mem_cons.mp hws
    obtain ⟨middle, hstep, hrun⟩ := Option.bind_eq_some_iff.mp h
    rw [ih hws hrun, past_step hk hstep, List.append_assoc, List.singleton_append]

end Reader

/-! ## From the value back to the words -/

theorem lone_of_first? {t rest : Text} {k : Token} (h : Token.first? t = some (k, rest)) :
    Reader.Lone k := by
  unfold Token.first? at h
  split at h
  case h_7 =>
    obtain ⟨p, -, hp⟩ := Option.map_eq_some_iff.mp h
    cases hp
    nofun
  case h_11 =>
    obtain ⟨p, -, hp⟩ := Option.map_eq_some_iff.mp h
    cases hp
    rintro v ⟨⟩
    rfl
  all_goals
    cases h
    rintro v ⟨⟩ <;> rfl

theorem lone_of_all? {t : Text} {ws : List Token} (h : Token.all? t = some ws) :
    ∀ k ∈ ws, Reader.Lone k := by
  fun_induction Token.all? t generalizing ws with
  | case1 =>
    cases h
    exact fun k hk => absurd hk List.not_mem_nil
  | case2 c t hc ih => exact ih h
  | case3 => cases h
  | case4 c t hc k rest hfirst _ ih =>
    obtain ⟨ks, hks, rfl⟩ := Option.map_eq_some_iff.mp h
    exact List.forall_mem_cons.mpr ⟨lone_of_first? hfirst, ih hks⟩

/-- A text is read as a value exactly if its words are those of the value. -/
theorem skim?_eq_some_iff {t : Text} {v : Json} :
    skim? t = some v ↔ Token.all? t = some (words v) := by
  constructor
  · intro h
    obtain ⟨ws, hws, hread⟩ := Option.bind_eq_some_iff.mp h
    obtain ⟨s, hrun, hvalue⟩ := Option.bind_eq_some_iff.mp hread
    have hs : s = .done v [] := by
      unfold Reader.State.value? at hvalue
      split at hvalue
      · cases hvalue
        rfl
      · cases hvalue
    subst hs
    -- Nothing is open at the end, so the past is the words of the value alone.
    have hpast := Reader.past_run (lone_of_all? hws) hrun
    rw [hws]
    exact congrArg some hpast.symm
  · intro h
    have hread := Reader.run_words [] [] v
    rw [List.append_nil] at hread
    rw [skim?, h, Option.bind_some, hread]
    rfl

end CueStream.Json
