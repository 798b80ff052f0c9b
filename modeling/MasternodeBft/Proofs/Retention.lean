import MasternodeBft.Proofs.LastRound
import MasternodeBft.Proofs.Refusal

/-!
How long bundles are kept. Bundles get into their pool when they are received, and are taken out of it by
sweeps only; another bundle takes the place of one only if it has the same digest.
-/

namespace MasternodeBft

namespace EngineState

variable (state : EngineState)

theorem leave_bundles (round : Round) : (state.leave round).bundles = state.bundles := by
  unfold leave
  split <;> rfl

theorem adopt_bundles (cert : AnyCert) : (state.adopt cert).bundles = state.bundles := leave_bundles _ _

end EngineState

section Deeds

variable {setting : Setting} {state : EngineState}

theorem Deed.keeps_bundles (invariant : SyncPool → Prop) (deed : Deed)
    (adds : ∀ bundle, deed = .keepBundle bundle → ∀ pool, invariant pool → invariant (pool.add bundle))
    (sweeps : ∀ current, deed = .sweepBundles current →
      ∀ pool, invariant pool → invariant (pool.sweep current Engine.hygieneWindow)) :
    (deed.action setting).Keeps (fun state => invariant state.bundles) False := by
  cases deed with
  | process cert =>
    refine .of_sure fun state holds => ?_
    have kept : (Engine.process setting cert state).state.bundles = state.bundles :=
      (Engine.process_fate cert).spares EngineState.bundles (state.adopt_bundles cert)
    exact kept ▸ holds
  | keepBundle bundle => exact .of_sure fun _ holds => adds bundle rfl _ holds
  | sweepBundles current => exact .of_sure fun _ holds => sweeps current rfl _ holds
  | _ => exact .of_sure fun _ holds => holds

theorem MadeOf.spares_bundles {α : Type} {action : Action α} (made : MadeOf setting Deed.SparesBundles action)
    (state : EngineState) : (action state).state.bundles = state.bundles := by
  have kept := made.keeps fun deed spares => deed.keeps_bundles (fun pool => pool = state.bundles)
    (fun bundle same => (same ▸ spares : (Deed.keepBundle bundle).SparesBundles).elim)
    (fun current same => (same ▸ spares : (Deed.sweepBundles current).SparesBundles).elim)
  exact (kept state rfl).resolve_right fun stopped => stopped.1

theorem Step.keeps_bundles (invariant : SyncPool → Prop) {step : Step}
    (adds : ∀ bundle, step.Admits state (.syncInfo bundle) → ∀ pool, invariant pool → invariant (pool.add bundle))
    (sweeps : step.operation = .sweepBundles ∨ step.operation = .sweepAll →
      ∀ current pool, invariant pool → invariant (pool.sweep current Engine.hygieneWindow))
    (holds : invariant state.bundles) : invariant (step.next state).bundles := by
  have made : MadeOf step.setting (step.operation.Allows step.setting state) _ := step.operation.made
  have kept := made.keeps fun deed allowed => deed.keeps_bundles invariant
    (fun bundle same => adds bundle (same ▸ allowed : step.operation.Allows step.setting state (.keepBundle bundle)))
    (fun current same pool => sweeps
      (same ▸ allowed : step.operation.Allows step.setting state (.sweepBundles current)) current pool)
  exact (kept state holds).resolve_right fun stopped => stopped.1

end Deeds

theorem isPool_bundles : IsPool EngineState.bundles .syncInfo where
  starts started := (pools_of_started started).2.2
  keeps _ _ invariant _ adds sweeps := Step.keeps_bundles invariant
    (fun bundle admission pool => adds pool bundle admission)
    fun _ current pool => sweeps pool current Engine.hygieneWindow

/-! Sweeps. -/

namespace Engine

open MasternodeBft.Action

theorem sweepBundles_bundles (state : EngineState) :
    (sweepBundles state).state.bundles = state.bundles.sweep state.round.currentRound hygieneWindow := rfl

theorem sweepAll_state (state : EngineState) :
    (sweepAll state).state =
      { state with
        votes := state.votes.sweep state.round.currentRound hygieneWindow
        timeouts := state.timeouts.sweep state.round.currentRound hygieneWindow
        bundles := state.bundles.sweep state.round.currentRound hygieneWindow } := by
  have votes : (sweepVotes state).ending = .done (state.votes.stale _ _).length := rfl
  have timeouts (state : EngineState) : (sweepTimeouts state).ending = .done (state.timeouts.stale _ _).length := rfl
  have bundles (state : EngineState) : (sweepBundles state).ending = .done (state.bundles.stale _ _).length := rfl
  unfold sweepAll
  rw [bind_of_done votes, bind_of_done (timeouts _), bind_of_done (bundles _)]
  split <;> rfl

end Engine

structure Step.SweepsAway (key : SyncKey) (step : Step) (state : EngineState) : Prop where
  sweeps : step.operation = .sweepBundles ∨ step.operation = .sweepAll
  stale : key ∈ state.bundles.stale state.round.currentRound Engine.hygieneWindow

theorem Step.sweep_bundles {step : Step} (sweeps : step.operation = .sweepBundles ∨ step.operation = .sweepAll)
    (state : EngineState) :
    (step.next state).bundles = state.bundles.sweep state.round.currentRound Engine.hygieneWindow := by
  unfold next outcome
  rcases sweeps with same | same
  · rw [same]
    exact Engine.sweepBundles_bundles state
  · rw [same]
    exact congrArg EngineState.bundles (Engine.sweepAll_state state)

section Retention

variable {bundle : SyncInfo} {state : EngineState}

theorem Step.keeps_bundle {step : Step} (holds : state.bundles.Holds bundle)
    (apart : ∀ other, step.Admits state (.syncInfo other) → other.digest = bundle.digest → other = bundle) :
    (step.next state).bundles.Holds bundle ∨ step.SweepsAway bundle.key state := by
  by_cases sweeps : step.operation = .sweepBundles ∨ step.operation = .sweepAll
  · by_cases stale : bundle.key ∈ state.bundles.stale state.round.currentRound Engine.hygieneWindow
    · exact .inr ⟨sweeps, stale⟩
    · rw [Step.sweep_bundles sweeps]
      exact .inl (holds.sweep stale)
  · refine .inl (step.keeps_bundles (fun pool => pool.Holds bundle) ?_ ?_ holds)
    · exact fun other admitted pool holds => holds.add (apart other admitted)
    · exact fun sweeping => absurd sweeping sweeps

/-- A bundle stays in its pool until a sweep takes its key away. -/
theorem bundle_kept_until_swept (holds : state.bundles.Holds bundle) (run : List Step)
    (apart : ∀ other, AdmittedIn state run (.syncInfo other) → other.digest = bundle.digest → other = bundle) :
    (state.after run).bundles.Holds bundle ∨ Occurs (Step.SweepsAway bundle.key) state run := by
  induction run using List.reverseRecOn with
  | nil => exact .inl holds
  | append_singleton run step ih =>
    rw [EngineState.after_concat]
    rcases ih fun other admitted => apart other (admitted.concat step) with kept | swept
    · exact (step.keeps_bundle kept fun other admitted => apart other (.last admitted)).imp_right .last
    · exact .inr (swept.concat step)

end Retention

/-! Receipt. -/

namespace Engine

open MasternodeBft.Action

variable {setting : Setting} {state : EngineState} {bundle : SyncInfo}

theorem verifySyncInfo_done_false {known : RoundState}
    (passed : (verifySyncInfo setting known bundle).ending = .done false) : known.dominates bundle = true := by
  by_contra newer
  unfold verifySyncInfo at passed
  rw [if_neg newer, Check.bind_unit_done_iff] at passed
  have rest := passed.2
  cases present : bundle.timeoutCert with
  | none =>
    rw [present] at rest
    cases rest
  | some cert =>
    rw [present] at rest
    cases (Check.bind_unit_done_iff.mp rest).2

theorem handleSyncInfo_holds : (handleSyncInfo setting bundle state).state.bundles.Holds bundle := by
  let kept : EngineState := { state with bundles := state.bundles.add bundle }
  have spared : (takeUp setting bundle kept).state.bundles = kept.bundles :=
    (takeUp_made (fun _ common => common.bundles) bundle).spares_bundles kept
  change (takeUp setting bundle kept).state.bundles.Holds bundle
  rw [spared]
  exact Pool.holds_add_self state.bundles bundle

theorem bufferSyncInfo_holds : (bufferSyncInfo bundle state).state.bundles.Holds bundle :=
  Pool.holds_add_self state.bundles bundle

/-- A bundle with something newer in it that is not refused is kept. -/
theorem receiveSyncInfo_holds (newer : state.round.dominates bundle = false)
    (done : (receiveSyncInfo setting bundle state).ending = .done ()) :
    (receiveSyncInfo setting bundle state).state.bundles.Holds bundle := by
  change ((attempt (ofCheck (verifySyncInfo setting state.round bundle)) >>= _) state).ending = _ at done
  change ((attempt (ofCheck (verifySyncInfo setting state.round bundle)) >>= _) state).state.bundles.Holds bundle
  cases checked : (attempt (ofCheck (verifySyncInfo setting state.round bundle)) state).ending with
  | refused error => exact absurd checked (attempt_unrefused _ error)
  | overflowed =>
    rw [bind_of_overflowed checked] at done
    cases done
  | done verdict =>
    rw [bind_of_done checked, attempt_ofCheck_state] at done ⊢
    match verdict with
    | .ok true => exact handleSyncInfo_holds
    | .ok false =>
      rw [verifySyncInfo_done_false (attempt_ofCheck_done checked)] at newer
      cases newer
    | .error cause =>
      by_cases pending : cause.isChainPending = true
      · simp only [pending, if_true] at done ⊢
        exact bufferSyncInfo_holds
      · simp only [pending] at done
        cases done

end Engine

end MasternodeBft
