import MasternodeBft.Engine.Action

/-!
Steps as courses of changes. A step follows a kind of change if it takes its state from one to the next
by such changes alone, and what leaves the node is what those changes send. Steps that are made of
others are followed part by part, also where a part is refused.
-/

namespace MasternodeBft

abbrev Transition := EngineState → List Effect → EngineState → Prop

/-- The effects that leave the node. Notices do not, nor does the record of its rounds. -/
def outward (effects : List Effect) : List Effect :=
  effects.filter fun
    | .notice _ | .entered _ _ => false
    | _ => true

@[simp] theorem outward_append (first rest : List Effect) :
    outward (first ++ rest) = outward first ++ outward rest := List.filter_append first rest

@[simp] theorem outward_notices (notices : List Notice) : outward (notices.map .notice) = [] := by
  induction notices with
  | nil => rfl
  | cons notice rest ih => exact ih

/-- What steps keep to when they come one after another, and when they only note things down. -/
structure Composes (relation : Transition) : Prop where
  noted (state : EngineState) (notices : List Notice) : relation state (notices.map .notice) state
  trans {first middle last : EngineState} {sent rest : List Effect} (begun : relation first sent middle)
    (ended : relation middle rest last) : relation first (sent ++ rest) last

inductive Course (change : Transition) : Transition
  | stay (state : EngineState) : Course change state [] state
  | move {first middle last : EngineState} {sent rest : List Effect} (moved : change first sent middle)
      (onward : Course change middle rest last) : Course change first (sent ++ rest) last

namespace Course

variable {change : Transition} {first middle last : EngineState} {sent rest : List Effect}

theorem trans (begun : Course change first sent middle) (ended : Course change middle rest last) :
    Course change first (sent ++ rest) last := by
  induction begun with
  | stay state => exact ended
  | move moved _ ih =>
    rw [List.append_assoc]
    exact .move moved (ih ended)

theorem single (moved : change first sent last) : Course change first sent last := by
  have course := move moved (stay last)
  rwa [List.append_nil] at course

def sending (change : Transition) : Transition := fun first effects last =>
  Course change first (outward effects) last

theorem composes : Composes (sending change) where
  noted state notices := by
    unfold sending
    rw [outward_notices]
    exact .stay state
  trans begun ended := by
    unfold sending
    rw [outward_append]
    exact begun.trans ended

theorem relates (relation : EngineState → EngineState → Prop) (refl : ∀ state, relation state state)
    (trans : ∀ {a b c}, relation a b → relation b c → relation a c)
    (each : ∀ {a effects b}, change a effects b → relation a b) (course : Course change first sent last) :
    relation first last := by
  induction course with
  | stay state => exact refl state
  | move moved _ ih => exact trans (each moved) ih

theorem keeps (invariant : EngineState → Prop)
    (each : ∀ {a effects b}, change a effects b → invariant a → invariant b)
    (course : Course change first sent last) (holds : invariant first) : invariant last := by
  induction course with
  | stay state => exact holds
  | move moved _ ih => exact ih (each moved holds)

/-- Where each change leaves a part of the state as it is or makes it good, so does a course. -/
theorem keeps_or_improves {α : Type} (part : EngineState → α) (good : α → Prop)
    (each : ∀ {a effects b}, change a effects b → part b = part a ∨ good (part b))
    (course : Course change first sent last) : part last = part first ∨ good (part last) := by
  apply course.relates (fun first last => part last = part first ∨ good (part last)) (fun _ => .inl rfl)
  · intro a b c before after
    rcases after with kept | improved
    · rw [kept]
      exact before
    · exact .inr improved
  · exact each

end Course

namespace Action

variable {α β : Type} {change : Transition} {state : EngineState}

theorem bind_of_done {first : Action α} {next : α → Action β} {value : α}
    (ended : (first state).ending = .done value) :
    (first >>= next) state =
      ⟨(next value (first state).state).ending, (next value (first state).state).state,
        (first state).effects ++ (next value (first state).state).effects⟩ := by
  simp only [Bind.bind, ended]

theorem bind_of_refused {first : Action α} {next : α → Action β} {error : ConsensusError}
    (ended : (first state).ending = .refused error) :
    (first >>= next) state = ⟨.refused error, (first state).state, (first state).effects⟩ := by
  simp only [Bind.bind, ended]

theorem bind_of_overflowed {first : Action α} {next : α → Action β}
    (ended : (first state).ending = .overflowed) :
    (first >>= next) state = ⟨.overflowed, (first state).state, (first state).effects⟩ := by
  simp only [Bind.bind, ended]

section Obeys

variable {relation : Transition} (composes : Composes relation)

/-- A relation holds between the state that a step starts from, its effects, and the state that it leads to. -/
def Obeys (relation : Transition) (action : Action α) (state : EngineState) : Prop :=
  relation state (action state).effects (action state).state

theorem obeys_attempt {action : Action α} (obeys : action.Obeys relation state) :
    (attempt action).Obeys relation state := by
  unfold Obeys attempt
  cases ended : (action state).ending <;> simp only [ended] <;> exact obeys

theorem obeys_ite {condition : Prop} [Decidable condition] {first second : Action α}
    (holds : condition → first.Obeys relation state) (fails : ¬condition → second.Obeys relation state) :
    (if condition then first else second).Obeys relation state := by
  by_cases met : condition
  · rw [if_pos met]
    exact holds met
  · rw [if_neg met]
    exact fails met

include composes

theorem obeys_ofCheck (check : Check α) : (ofCheck check).Obeys relation state := composes.noted state check.notices

theorem obeys_pure (value : α) : (pure value : Action α).Obeys relation state := composes.noted state []

theorem obeys_note (notice : Notice) : (note notice).Obeys relation state := composes.noted state [notice]

theorem obeys_bind {first : Action α} {next : α → Action β} (begins : first.Obeys relation state)
    (continues : ∀ value, (first state).ending = .done value → (next value).Obeys relation (first state).state) :
    (first >>= next).Obeys relation state := by
  unfold Obeys
  cases ended : (first state).ending with
  | done value =>
    rw [bind_of_done ended]
    exact composes.trans begins (continues value ended)
  | refused error =>
    rw [bind_of_refused ended]
    exact begins
  | overflowed =>
    rw [bind_of_overflowed ended]
    exact begins

end Obeys

def InTurn (early late : Transition) : Transition := fun first effects last =>
  ∃ middle before after, early first before middle ∧ late middle after last ∧ effects = before ++ after

section InTurn

variable {early late : Transition} {first : Action α} {next : α → Action β}

theorem obeys_inTurn_of_early (later : Composes late) (begins : first.Obeys early state) :
    first.Obeys (InTurn early late) state :=
  ⟨(first state).state, (first state).effects, [], begins, later.noted _ [], (List.append_nil _).symm⟩

theorem obeys_early_bind (earlier : Composes early) (later : Composes late) (begins : first.Obeys early state)
    (continues : ∀ value, (first state).ending = .done value →
      (next value).Obeys (InTurn early late) (first state).state) :
    (first >>= next).Obeys (InTurn early late) state := by
  cases ended : (first state).ending with
  | done value =>
    obtain ⟨middle, before, after, begun, rest, split⟩ := continues value ended
    unfold Obeys
    rw [bind_of_done ended]
    refine ⟨middle, (first state).effects ++ before, after, earlier.trans begins begun, rest, ?_⟩
    rw [List.append_assoc, split]
  | refused error =>
    unfold Obeys
    rw [bind_of_refused ended]
    exact obeys_inTurn_of_early later begins
  | overflowed =>
    unfold Obeys
    rw [bind_of_overflowed ended]
    exact obeys_inTurn_of_early later begins

theorem obeys_bind_late (later : Composes late) (begins : first.Obeys (InTurn early late) state)
    (continues : ∀ value, (first state).ending = .done value → (next value).Obeys late (first state).state) :
    (first >>= next).Obeys (InTurn early late) state := by
  cases ended : (first state).ending with
  | done value =>
    obtain ⟨middle, before, after, begun, rest, split⟩ := begins
    unfold Obeys
    rw [bind_of_done ended]
    refine ⟨middle, before, _, begun, later.trans rest (continues value ended), ?_⟩
    rw [split, List.append_assoc]
  | refused error =>
    unfold Obeys
    rw [bind_of_refused ended]
    exact begins
  | overflowed =>
    unfold Obeys
    rw [bind_of_overflowed ended]
    exact begins

end InTurn

/-- A step takes a state along a course, and sends what the course sends. -/
abbrev Follows (change : Transition) (action : Action α) (state : EngineState) : Prop :=
  action.Obeys (Course.sending change) state

theorem follows_pure (value : α) : (pure value : Action α).Follows change state := .stay state

theorem follows_note (notice : Notice) : (note notice).Follows change state := .stay state

theorem follows_ofCheck (check : Check α) : (ofCheck check).Follows change state :=
  obeys_ofCheck Course.composes check

theorem follows_bind {first : Action α} {next : α → Action β} (begins : first.Follows change state)
    (continues : ∀ value, (first state).ending = .done value → (next value).Follows change (first state).state) :
    (first >>= next).Follows change state := obeys_bind Course.composes begins continues

theorem follows_ite {condition : Prop} [Decidable condition] {first second : Action α}
    (holds : condition → first.Follows change state) (fails : ¬condition → second.Follows change state) :
    (if condition then first else second).Follows change state := obeys_ite holds fails

theorem follows_read_bind {next : EngineState → Action β} (continues : (next state).Follows change state) :
    (read >>= next).Follows change state := continues

theorem follows_note_bind {notice : Notice} {next : Unit → Action β}
    (continues : (next ()).Follows change state) : (note notice >>= next).Follows change state := continues

theorem follows_check_bind {check : Check α} {next : α → Action β}
    (continues : ∀ value, check.ending = .done value → (next value).Follows change state) :
    (ofCheck check >>= next).Follows change state :=
  follows_bind (follows_ofCheck check) continues

theorem follows_update {move : EngineState → EngineState} (moved : change state [] (move state)) :
    (update move).Follows change state := .single moved

theorem follows_emit {effect : Effect} (sent : change state (outward [effect]) state) :
    (emit effect).Follows change state := .single sent

theorem follows_attempt {action : Action α} (follows : action.Follows change state) :
    (attempt action).Follows change state := obeys_attempt follows

theorem follows_notingRefusal {notice : EngineState → ConsensusError → Notice} {action : Action α}
    (follows : action.Follows change state) : (notingRefusal notice action).Follows change state := by
  refine follows_bind (follows_attempt follows) fun result _ => ?_
  cases result with
  | ok value => exact follows_pure value
  | error cause => exact follows_read_bind (follows_note_bind (follows_ofCheck _))

end Action

end MasternodeBft
