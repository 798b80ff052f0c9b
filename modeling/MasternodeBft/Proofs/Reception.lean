import MasternodeBft.Proofs.Refusal

/-!
What a message comes to, by the verdict on it. A vote or a timeout whose signer is found is collected, and
any other one is of no effect; a bundle is taken up, kept for later, or of no effect.
-/

namespace MasternodeBft

/-- How an action ends that goes no further than a check. -/
def Check.verdict {α : Type} (check : Check α) : Ending Unit :=
  match check.ending with
  | .done _ => .done ()
  | .refused error => .refused error
  | .overflowed => .overflowed

theorem Action.agrees_of_nothing {α : Type} {check : Check (Option α)} {next : Option α → Action Unit}
    {state : EngineState} (stops : next none = pure ()) (nothing : ∀ found, check.ending ≠ .done (some found)) :
    ((ofCheck check >>= next) state).Agrees ⟨check.verdict, state, []⟩ := by
  unfold Check.verdict
  cases ended : check.ending with
  | done value =>
    cases value with
    | none =>
      refine (agrees_of_done ended).trans ?_
      rw [stops]
      exact ⟨rfl, rfl, rfl⟩
    | some found => exact absurd ended (nothing found)
  | refused error => exact agrees_of_refused ended
  | overflowed => exact agrees_of_overflowed ended

namespace Engine

open MasternodeBft.Action

variable {setting : Setting} {state : EngineState} {signed : Signed} {bundle : SyncInfo}

theorem handleSigned_of_unverified
    (nobody : ∀ signer, (verifySigned setting state.round.currentRound signed).ending ≠ .done (some signer)) :
    (handleSigned setting signed state).Agrees
      ⟨(verifySigned setting state.round.currentRound signed).verdict, state, []⟩ :=
  agrees_of_nothing rfl nobody

theorem handleSigned_of_past (past : signed.round < state.round.currentRound) :
    (handleSigned setting signed state).Agrees ⟨.done (), state, []⟩ := by
  have disqualified : (verifySigned setting state.round.currentRound signed).ending = .done none := by
    unfold verifySigned
    rw [if_pos past]
    rfl
  exact agrees_of_done disqualified

/-! Bundles. -/

theorem receiveSyncInfo_of_newer (newer : (verifySyncInfo setting state.round bundle).ending = .done true) :
    (receiveSyncInfo setting bundle state).Agrees (handleSyncInfo setting bundle state) :=
  agrees_of_attempt_done newer

theorem receiveSyncInfo_of_covered
    (covered : (verifySyncInfo setting state.round bundle).ending = .done false) :
    (receiveSyncInfo setting bundle state).Agrees ⟨.done (), state, []⟩ :=
  agrees_of_attempt_done covered

theorem receiveSyncInfo_of_pending {error : ConsensusError}
    (refused : (verifySyncInfo setting state.round bundle).ending = .refused error)
    (pending : error.isChainPending = true) :
    (receiveSyncInfo setting bundle state).Agrees
      ⟨.done (), { state with bundles := state.bundles.add bundle }, []⟩ := by
  refine (agrees_of_attempt_refused refused).trans ?_
  dsimp only
  rw [if_pos pending]
  exact ⟨rfl, rfl, rfl⟩

theorem receiveSyncInfo_of_invalid {error : ConsensusError}
    (refused : (verifySyncInfo setting state.round bundle).ending = .refused error)
    (final : error.isChainPending = false) :
    (receiveSyncInfo setting bundle state).Agrees ⟨.refused error, state, []⟩ := by
  refine (agrees_of_attempt_refused refused).trans ?_
  dsimp only
  rw [final]
  exact ⟨rfl, rfl, rfl⟩

end Engine

end MasternodeBft
