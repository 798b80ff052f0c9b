import MasternodeBft.Proofs.Course

/-!
Outcomes that come to the same. What a check notes down, and what is noted beside a refusal, is all that sets
some outcomes apart; then one of them can be studied in place of the other.
-/

namespace MasternodeBft

namespace Outcome

variable {α : Type} {first second third : Outcome α} {state : EngineState}

/-- Outcomes that differ in their notices at most. -/
structure Agrees (first second : Outcome α) : Prop where
  ending : first.ending = second.ending
  state : first.state = second.state
  sent : outward first.effects = outward second.effects

structure Idle (outcome : Outcome α) (state : EngineState) : Prop where
  kept : outcome.state = state
  silent : outward outcome.effects = []

theorem Agrees.of_eq (same : first = second) : first.Agrees second := by
  cases same
  exact ⟨rfl, rfl, rfl⟩

theorem Agrees.trans (begun : first.Agrees second) (ended : second.Agrees third) : first.Agrees third :=
  ⟨begun.ending.trans ended.ending, begun.state.trans ended.state, begun.sent.trans ended.sent⟩

theorem Idle.of_agrees (idle : second.Idle state) (agrees : first.Agrees second) : first.Idle state :=
  ⟨agrees.state.trans idle.kept, agrees.sent.trans idle.silent⟩

end Outcome

namespace Action

variable {α β : Type} {check : Check α} {state : EngineState}

theorem agrees_of_done {next : α → Action β} {value : α} (done : check.ending = .done value) :
    ((ofCheck check >>= next) state).Agrees (next value state) := by
  rw [bind_of_done done]
  refine ⟨rfl, rfl, ?_⟩
  rw [outward_append]
  change outward (check.notices.map .notice) ++ _ = _
  rw [outward_notices, List.nil_append]
  rfl

theorem agrees_of_refused {next : α → Action β} {error : ConsensusError} (refused : check.ending = .refused error) :
    ((ofCheck check >>= next) state).Agrees ⟨.refused error, state, []⟩ := by
  rw [bind_of_refused refused]
  exact ⟨rfl, rfl, outward_notices check.notices⟩

theorem agrees_of_overflowed {next : α → Action β} (overflowed : check.ending = .overflowed) :
    ((ofCheck check >>= next) state).Agrees ⟨.overflowed, state, []⟩ := by
  rw [bind_of_overflowed overflowed]
  exact ⟨rfl, rfl, outward_notices check.notices⟩

theorem attempt_ofCheck (check : Check α) : attempt (ofCheck check) = ofCheck
    ⟨match check.ending with
      | .done value => .done (.ok value)
      | .refused error => .done (.error error)
      | .overflowed => .overflowed, check.notices⟩ := by
  funext state
  unfold attempt ofCheck
  cases check.ending <;> rfl

theorem agrees_of_attempt_done {next : Except ConsensusError α → Action β} {value : α}
    (done : check.ending = .done value) :
    ((attempt (ofCheck check) >>= next) state).Agrees (next (.ok value) state) := by
  rw [attempt_ofCheck]
  exact agrees_of_done (by rw [done])

theorem agrees_of_attempt_refused {next : Except ConsensusError α → Action β} {error : ConsensusError}
    (refused : check.ending = .refused error) :
    ((attempt (ofCheck check) >>= next) state).Agrees (next (.error error) state) := by
  rw [attempt_ofCheck]
  exact agrees_of_done (by rw [refused])

theorem agrees_bind_left {first other : Action α} {next : α → Action β}
    (alike : (first state).Agrees (other state)) : ((first >>= next) state).Agrees ((other >>= next) state) := by
  obtain ⟨ending, after, sent⟩ := alike
  cases ended : (other state).ending with
  | done value =>
    rw [bind_of_done (ending.trans ended), bind_of_done ended, after]
    refine ⟨rfl, rfl, ?_⟩
    rw [outward_append, outward_append, sent]
  | refused error =>
    rw [bind_of_refused (ending.trans ended), bind_of_refused ended]
    exact ⟨rfl, after, sent⟩
  | overflowed =>
    rw [bind_of_overflowed (ending.trans ended), bind_of_overflowed ended]
    exact ⟨rfl, after, sent⟩

theorem agrees_bind_right {first : Action α} {next other : α → Action β}
    (alike : ∀ value, (first state).ending = .done value →
      (next value (first state).state).Agrees (other value (first state).state)) :
    ((first >>= next) state).Agrees ((first >>= other) state) := by
  cases ended : (first state).ending with
  | done value =>
    obtain ⟨ending, after, sent⟩ := alike value ended
    rw [bind_of_done ended, bind_of_done ended]
    refine ⟨ending, after, ?_⟩
    rw [outward_append, outward_append, sent]
  | refused error =>
    rw [bind_of_refused ended, bind_of_refused ended]
    exact ⟨rfl, rfl, rfl⟩
  | overflowed =>
    rw [bind_of_overflowed ended, bind_of_overflowed ended]
    exact ⟨rfl, rfl, rfl⟩

theorem notingRefusal_agrees (notice : EngineState → ConsensusError → Notice) (action : Action α)
    (state : EngineState) : (notingRefusal notice action state).Agrees (action state) := by
  unfold notingRefusal attempt
  rcases result : action state with ⟨ending, after, effects⟩
  cases ending with
  | done value =>
    simp only [Bind.bind, result]
    exact ⟨rfl, rfl, (outward_append _ _).trans (List.append_nil _)⟩
  | refused error =>
    simp only [Bind.bind, result]
    exact ⟨rfl, rfl, (outward_append _ _).trans (List.append_nil _)⟩
  | overflowed =>
    simp only [Bind.bind, result]
    exact ⟨rfl, rfl, rfl⟩

theorem noted_before (notice : Notice) (next : Unit → Action α) :
    ((note notice >>= next) state).Agrees (next () state) := ⟨rfl, rfl, rfl⟩

theorem noted_after (action : Action Unit) (notice : Notice) :
    ((action >>= fun _ => note notice) state).Agrees (action state) := by
  cases ended : (action state).ending with
  | done =>
    rw [bind_of_done ended]
    exact ⟨ended.symm, rfl, (outward_append _ _).trans (List.append_nil _)⟩
  | refused error =>
    rw [bind_of_refused ended]
    exact ⟨ended.symm, rfl, rfl⟩
  | overflowed =>
    rw [bind_of_overflowed ended]
    exact ⟨ended.symm, rfl, rfl⟩

end Action

end MasternodeBft
