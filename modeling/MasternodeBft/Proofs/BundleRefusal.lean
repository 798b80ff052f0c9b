import MasternodeBft.Proofs.CatchUp
import MasternodeBft.Proofs.LastRound
import MasternodeBft.Proofs.Refusal

/-!
What a bundle that is refused leaves behind. Its certificates are taken up one after the other, and the first
one is adopted before the second one is checked. So a bundle is refused as a whole unless the first one is
newer and passes, and the second one is newer and does not.
-/

namespace MasternodeBft

/-- A bundle of which a node takes up the quorum certificate, and then refuses the timeout certificate. -/
structure SyncInfo.Torn (bundle : SyncInfo) (setting : Setting) (state : RoundState) : Prop where
  quorumNewer : state.quorumRound < bundle.quorumCert.round
  quorumPasses : (Engine.verifyQuorum setting bundle.quorumCert).ending = .done ()
  timeoutNewer : state.timeoutRound < bundle.timeoutRound
  timeoutFails : ∀ cert ∈ bundle.timeoutCert, (Engine.verifyTimeoutCert setting cert).ending ≠ .done ()

def EngineState.keeping (state : EngineState) (bundle : SyncInfo) : EngineState :=
  { state with bundles := state.bundles.add bundle }

namespace Engine

open MasternodeBft.Action

variable {setting : Setting} {state : EngineState} {bundle : SyncInfo}

/-! The certificates one by one. -/

theorem process_sent {cert : AnyCert} (newer : cert.highest state.round < cert.round) (passes : cert.Passes setting) :
    outward (process setting cert state).effects = departure setting state cert.round := by
  rw [process_of_newer passes newer, outward_append, outward_notices, List.nil_append]
  exact adopt_sent newer

theorem process_unrefused {cert : AnyCert} (passes : cert.highest state.round < cert.round → cert.Passes setting) :
    (process setting cert).Unrefused state := by
  intro error refused
  have fate : Fate setting state cert (process setting cert state) := process_fate cert
  cases fate with
  | stale _ done | adopted _ _ _ done => exact nomatch done.symm.trans refused
  | rejected newer fails => exact fails (passes newer)
  | stuck _ _ _ overflowed => exact nomatch overflowed.symm.trans refused

theorem process_unchanged {cert : AnyCert} (idle : ¬(cert.highest state.round < cert.round ∧ cert.Passes setting)) :
    (process setting cert state).state = state ∧ outward (process setting cert state).effects = [] := by
  have fate : Fate setting state cert (process setting cert state) := process_fate cert
  cases fate with
  | stale _ _ kept silent | rejected _ _ _ kept silent => exact ⟨kept, silent⟩
  | adopted newer passed | stuck newer passed => exact absurd ⟨newer, passed⟩ idle

/-! Both of them. -/

theorem processBoth_leavesBehind (whole : ¬bundle.Torn setting state.round) :
    (processBoth setting bundle).LeavesBehind (fun _ after => after = state) state := by
  let quorum : AnyCert := .quorum bundle.quorumCert
  by_cases adopts : quorum.highest state.round < quorum.round ∧ quorum.Passes setting
  · refine ((process_leavesBehind quorum).mono fun _ _ left => left.2).bind_unrefused fun _ => ?_
    cases present : bundle.timeoutCert with
    | none => exact unrefused_pure ()
    | some cert =>
      refine process_unrefused fun newer => ?_
      have kept : (state.adopt quorum).round.timeoutRound = state.round.timeoutRound :=
        EngineState.adopt_timeoutRound state quorum
      rw [process_state adopts.2, if_pos adopts.1] at newer
      change (state.adopt quorum).round.timeoutRound < cert.round at newer
      rw [kept] at newer
      by_contra fails
      refine whole ⟨adopts.1, adopts.2, ?_, fun other listed => ?_⟩
      · unfold SyncInfo.timeoutRound
        rw [present]
        exact newer
      · cases present.symm.trans listed
        exact fails
  · obtain ⟨kept, silent⟩ := process_unchanged adopts
    refine leavesBehind_bind ((process_leavesBehind quorum).mono fun _ _ left => left.2) silent fun _ _ => ?_
    rw [kept]
    cases bundle.timeoutCert with
    | none => exact (unrefused_pure ()).leavesBehind
    | some cert => exact (process_leavesBehind (.timeout cert)).mono fun _ _ left => left.2

theorem processBoth_of_torn {error : ConsensusError} (torn : bundle.Torn setting state.round)
    (refused : (processBoth setting bundle state).ending = .refused error) :
    (processBoth setting bundle state).state = state.adoptQuorum bundle.quorumCert ∧
      outward (processBoth setting bundle state).effects = departure setting state bundle.quorumCert.round := by
  let quorum : AnyCert := .quorum bundle.quorumCert
  have newer : quorum.highest state.round < quorum.round := torn.quorumNewer
  have passes : quorum.Passes setting := torn.quorumPasses
  obtain ⟨moved, ended⟩ := (process_fate quorum).of_passed newer passes
  have sent := process_sent newer passes
  unfold processBoth at refused ⊢
  rcases ended with ⟨-, done⟩ | ⟨-, overflowed⟩
  · rw [bind_of_done done] at refused ⊢
    cases present : bundle.timeoutCert with
    | none =>
      rw [present] at refused
      cases refused
    | some cert =>
      rw [present] at refused
      obtain ⟨⟨-, kept⟩, silent⟩ := process_leavesBehind (.timeout cert) error refused
      rw [outward_append, sent]
      exact ⟨kept.trans moved, (congrArg _ silent).trans (List.append_nil _)⟩
  · rw [bind_of_overflowed overflowed] at refused
    cases refused

theorem processBoth_refuses_torn {cert : TimeoutCert} {error : ConsensusError}
    (torn : bundle.Torn setting state.round) (next : bundle.quorumCert.round.HasNext)
    (present : bundle.timeoutCert = some cert) (fails : (verifyTimeoutCert setting cert).ending = .refused error) :
    (processBoth setting bundle state).ending = .refused error := by
  let quorum : AnyCert := .quorum bundle.quorumCert
  have quorumNewer : quorum.highest state.round < quorum.round := torn.quorumNewer
  have passes : quorum.Passes setting := torn.quorumPasses
  obtain ⟨done, moved⟩ := @process_done setting state quorum passes next
  have kept : (state.adopt quorum).round.timeoutRound = state.round.timeoutRound :=
    EngineState.adopt_timeoutRound state quorum
  have newer : (state.adopt quorum).round.timeoutRound < cert.round := by
    have newer := torn.timeoutNewer
    unfold SyncInfo.timeoutRound at newer
    rw [present] at newer
    rw [kept]
    exact newer
  unfold processBoth
  rw [bind_of_done done, moved, if_pos quorumNewer, present]
  exact @process_refuses setting (state.adopt quorum) (.timeout cert) error newer fails

theorem handleSyncInfo_eq : handleSyncInfo setting bundle state =
    if state.round.dominates bundle = true then
      ⟨.done (), state.keeping bundle, [.notice (.bundleSkipped state.round bundle)]⟩
    else processBoth setting bundle (state.keeping bundle) := takeUp_eq

theorem handleSyncInfo_of_refused {error : ConsensusError}
    (refused : (handleSyncInfo setting bundle state).ending = .refused error) :
    handleSyncInfo setting bundle state = processBoth setting bundle (state.keeping bundle) := by
  rw [handleSyncInfo_eq] at refused ⊢
  split at refused
  · cases refused
  · rename_i newer
    rw [if_neg newer]

end Engine

/-! Bundles with a timeout certificate that nobody has signed. -/

namespace Sample

def unsigned : TimeoutCert := ⟨2, 0, []⟩

theorem verifyTimeoutCert_unsigned :
    (Engine.verifyTimeoutCert setting unsigned).ending = .refused .invalidTimeoutCert := rfl

/-- Its quorum certificate is no news, and its timeout certificate does not pass. -/
def worthless : SyncInfo := ⟨genesis, some unsigned⟩

theorem worthless_not_torn : ¬worthless.Torn setting start.round := fun torn =>
  absurd torn.quorumNewer (by decide)

def mixed : SyncInfo := ⟨quorumCert 1 [1, 2, 3], some unsigned⟩

theorem mixed_next : mixed.quorumCert.round.HasNext := hasNext 1

theorem mixed_torn : mixed.Torn setting start.round where
  quorumNewer := by decide
  quorumPasses := by
    apply Engine.verifyQuorum_done_iff.mpr
    exact .inr (quorumCert_certified (by decide) (by decide) (by decide) (by decide))
  timeoutNewer := by decide
  timeoutFails cert present := by
    cases present
    exact nofun

end Sample

namespace Engine

open MasternodeBft.Action

variable {setting : Setting} {state : EngineState} {bundle : SyncInfo}

/-- A bundle that is refused is kept, and has changed nothing else, nor has anything been sent, unless the node
has taken up its quorum certificate before it refused the timeout certificate. Then that is what has changed:
the quorum certificate has been adopted, and the round that follows it has begun. -/
theorem refused_bundle_changes_nothing_unless_torn {error : ConsensusError}
    (refused : (handleSyncInfo setting bundle state).ending = .refused error) :
    (¬bundle.Torn setting state.round →
      (handleSyncInfo setting bundle state).state = state.keeping bundle ∧
        outward (handleSyncInfo setting bundle state).effects = []) ∧
    (bundle.Torn setting state.round →
      (handleSyncInfo setting bundle state).state = (state.keeping bundle).adoptQuorum bundle.quorumCert ∧
        outward (handleSyncInfo setting bundle state).effects = departure setting state bundle.quorumCert.round) := by
  have both := handleSyncInfo_of_refused refused
  rw [both] at refused ⊢
  refine ⟨fun whole => ?_, fun torn => processBoth_of_torn torn refused⟩
  have leaves : (processBoth setting bundle).LeavesBehind _ (state.keeping bundle) := processBoth_leavesBehind whole
  exact leaves error refused

theorem worthless_bundle_changes_nothing :
    (handleSyncInfo Sample.setting Sample.worthless Sample.start).ending = .refused .invalidTimeoutCert ∧
      ¬Sample.worthless.Torn Sample.setting Sample.start.round ∧
      (handleSyncInfo Sample.setting Sample.worthless Sample.start).state = Sample.start.keeping Sample.worthless ∧
      outward (handleSyncInfo Sample.setting Sample.worthless Sample.start).effects = [] := by
  have refused : (handleSyncInfo Sample.setting Sample.worthless Sample.start).ending =
      .refused .invalidTimeoutCert := rfl
  have untorn := Sample.worthless_not_torn
  exact ⟨refused, untorn, (refused_bundle_changes_nothing_unless_torn refused).1 untorn⟩

/-- The bundle is refused, and the node is a round further. -/
theorem refused_bundle_opens_round :
    (handleSyncInfo Sample.setting Sample.mixed Sample.start).ending = .refused .invalidTimeoutCert ∧
      (handleSyncInfo Sample.setting Sample.mixed Sample.start).state.round = ⟨2, Sample.quorumCert 1 [1, 2, 3], none⟩ ∧
      Sample.start.round = ⟨1, Sample.genesis, none⟩ ∧
      outward (handleSyncInfo Sample.setting Sample.mixed Sample.start).effects = [.reset 2 30] := by
  have both : handleSyncInfo Sample.setting Sample.mixed Sample.start =
      processBoth Sample.setting Sample.mixed (Sample.start.keeping Sample.mixed) :=
    handleSyncInfo_eq.trans (if_neg (by decide))
  have torn : Sample.mixed.Torn Sample.setting (Sample.start.keeping Sample.mixed).round := Sample.mixed_torn
  have refused := processBoth_refuses_torn torn Sample.mixed_next rfl Sample.verifyTimeoutCert_unsigned
  obtain ⟨moved, sent⟩ := processBoth_of_torn torn refused
  rw [both, moved, sent]
  exact ⟨refused, rfl, rfl, rfl⟩

end Engine

end MasternodeBft
