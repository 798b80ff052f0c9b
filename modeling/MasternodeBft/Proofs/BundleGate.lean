import MasternodeBft.Proofs.BundleRefusal
import MasternodeBft.Proofs.Retention

/-!
The check of a bundle and what is done with it, which agree also where other steps come in between. A bundle
that holds nothing newer is kept and does nothing else. One that has passed its check is never refused,
whatever the node has become in the meantime: each of its certificates is then taken up or is old, and either
way the node is as far as both of them.
-/

namespace MasternodeBft

/-- A setting in which the check of a bundle finds on the chain what it has found in an earlier one: the block
of its quorum certificate, and the masternodes of both certificates. Nothing is looked up for a quorum
certificate of round zero. -/
structure Setting.Keeps (later earlier : Setting) (bundle : SyncInfo) : Prop where
  config : later.config = earlier.config
  recover : later.authority.recover = earlier.authority.recover
  header : bundle.quorumCert.round ≠ 0 →
    later.chain.header? bundle.quorumCert.block.hash = earlier.chain.header? bundle.quorumCert.block.hash
  quorumSnapshot : bundle.quorumCert.round ≠ 0 →
    later.chain.snapshot bundle.quorumCert.gapNumber = earlier.chain.snapshot bundle.quorumCert.gapNumber
  timeoutSnapshot : ∀ cert ∈ bundle.timeoutCert,
    later.chain.snapshot cert.gapNumber = earlier.chain.snapshot cert.gapNumber

namespace Setting.Keeps

variable {setting later : Setting} {bundle : SyncInfo}

theorem quorumCert (keeps : later.Keeps setting bundle)
    (verified : (Engine.verifyQuorum setting bundle.quorumCert).ending = .done ()) :
    (Engine.verifyQuorum later bundle.quorumCert).ending = .done () := by
  rw [Engine.verifyQuorum_done_iff] at verified ⊢
  refine verified.imp_right fun certified => ?_
  have positive : bundle.quorumCert.round ≠ 0 := UInt64.pos_iff_ne_zero.mp certified.positive
  refine ⟨certified.positive, ?_, ?_⟩
  · rw [keeps.header positive]
    exact certified.known
  · apply certified.endorsed.transfer keeps.config keeps.recover
    intro snapshot selected
    exact (keeps.quorumSnapshot positive).trans selected

theorem timeoutCert (keeps : later.Keeps setting bundle) {cert : TimeoutCert} (present : cert ∈ bundle.timeoutCert)
    (verified : (Engine.verifyTimeoutCert setting cert).ending = .done ()) :
    (Engine.verifyTimeoutCert later cert).ending = .done () := by
  rw [Engine.verifyTimeoutCert_done_iff] at verified ⊢
  apply verified.transfer keeps.config keeps.recover
  intro snapshot selected
  exact (keeps.timeoutSnapshot cert present).trans selected

theorem inOrder (keeps : later.Keeps setting bundle) {known : RoundState}
    (passed : (Engine.verifySyncInfo setting known bundle).ending = .done true)
    (quorumNext : bundle.quorumCert.round.HasNext)
    (timeoutNext : ∀ cert ∈ bundle.timeoutCert, cert.round.HasNext) :
    bundle.InOrder later := by
  obtain ⟨quorum, timeout⟩ := Engine.verified_of_verifySyncInfo passed
  exact ⟨keeps.quorumCert quorum, fun cert present => keeps.timeoutCert present (timeout cert present),
    quorumNext, timeoutNext⟩

end Setting.Keeps

section Agreement

variable {cert : QuorumCert} {start : EngineState}

theorem handleSyncInfo_exact (started : EngineState.start? cert = some start) (run : List Step) {setting : Setting}
    {bundle : SyncInfo} (inOrder : bundle.InOrder setting) (bounded : (start.after run).round.Bounded) :
    (Engine.handleSyncInfo setting bundle (start.after run)).state.round.Exact := by
  have exactly := EngineState.after_exact started (run ++ [⟨.handleSyncInfo bundle, setting⟩])
  rw [EngineState.after_concat] at exactly
  exact exactly (Engine.handleSyncInfo_arrives inOrder bounded).bounded

/-- A bundle of which the check says that it holds nothing newer is kept, and changes nothing else. One of which
the check says that it does is taken up as a whole, now and after any further steps, as long as the chain keeps
what the check has found on it. The current round then follows the greatest round of a highest certificate,
unless such a certificate of the last round has been adopted in between. -/
theorem bundle_check_and_handler_agree (started : EngineState.start? cert = some start) (run : List Step)
    (setting : Setting) (bundle : SyncInfo) (quorumNext : bundle.quorumCert.round.HasNext)
    (timeoutNext : ∀ cert ∈ bundle.timeoutCert, cert.round.HasNext) :
    ((Engine.verifySyncInfo setting (start.after run).round bundle).ending = .done false →
      ∀ handling : Setting,
        (Engine.handleSyncInfo handling bundle (start.after run)).ending = .done () ∧
          (Engine.handleSyncInfo handling bundle (start.after run)).state = (start.after run).keeping bundle ∧
          outward (Engine.handleSyncInfo handling bundle (start.after run)).effects = []) ∧
    ((Engine.verifySyncInfo setting (start.after run).round bundle).ending = .done true →
      ∀ (rest : List Step) (later : Setting), later.Keeps setting bundle →
        (Engine.handleSyncInfo later bundle (start.after (run ++ rest))).ending = .done () ∧
          (Engine.handleSyncInfo later bundle (start.after (run ++ rest))).state.round.Joins
            (start.after (run ++ rest)).round bundle ∧
          ((start.after (run ++ rest)).round.Bounded →
            (Engine.handleSyncInfo later bundle (start.after (run ++ rest))).state.round.Exact)) := by
  constructor
  · intro passed handling
    rw [Engine.handleSyncInfo_eq, if_pos (Engine.verifySyncInfo_done_false passed)]
    exact ⟨rfl, rfl, rfl⟩
  · intro passed rest later keeps
    have inOrder := keeps.inOrder passed quorumNext timeoutNext
    obtain ⟨done, joins⟩ := Engine.handleSyncInfo_joins inOrder (start.after (run ++ rest))
    exact ⟨done, joins, handleSyncInfo_exact started (run ++ rest) inOrder⟩

end Agreement

/-! A bundle that is news to a node, half of which has grown old when it is handled. -/

namespace Sample

def newer : SyncInfo := ⟨quorumCert 4 [2, 3, 4], some (timeoutCert 5 [1, 2, 3])⟩

theorem newer_inOrder : newer.InOrder setting where
  quorumCert := by
    apply Engine.verifyQuorum_done_iff.mpr
    exact .inr (quorumCert_certified (by decide) (by decide) (by decide) (by decide))
  timeoutCert cert present := by
    cases present
    apply Engine.verifyTimeoutCert_done_iff.mpr
    exact endorsed _ _ (by decide) (by decide) (by decide)
  quorumNext := hasNext 4
  timeoutNext cert present := by
    cases present
    exact hasNext 5

/-- In between, a later timeout certificate arrives. -/
def overtaking : List Step := [⟨.processTimeoutCert (timeoutCert 6 [1, 2, 4]), setting⟩]

theorem after_overtaking_round : (start.after (run ++ overtaking)).round =
    ⟨7, quorumCert 1 [1, 2, 3], some (timeoutCert 6 [1, 2, 4])⟩ := by
  have overtaken : Step.next ⟨.processTimeoutCert (timeoutCert 6 [1, 2, 4]), setting⟩ (start.after run) = _ :=
    processTimeoutCert_next (by rw [after_run_round]; decide) (by decide) (by decide) (by decide)
  unfold overtaking
  rw [EngineState.after_concat, overtaken, after_run]
  rfl

def grown : Setting := { setting with chain := { chain with head := headerOf (block 9).hash } }

theorem grown_keeps (bundle : SyncInfo) : grown.Keeps setting bundle :=
  ⟨rfl, rfl, fun _ => rfl, fun _ => rfl, fun _ _ => rfl⟩

end Sample

theorem bundle_check_and_handler_agree_after_run :
    (Engine.verifySyncInfo Sample.setting (Sample.start.after Sample.run).round
        (Sample.start.after Sample.run).round.syncInfo).ending = .done false ∧
      (Engine.handleSyncInfo Sample.grown (Sample.start.after Sample.run).round.syncInfo
        (Sample.start.after Sample.run)).state =
          (Sample.start.after Sample.run).keeping (Sample.start.after Sample.run).round.syncInfo ∧
      (Engine.verifySyncInfo Sample.setting (Sample.start.after Sample.run).round Sample.newer).ending = .done true ∧
      (Engine.handleSyncInfo Sample.grown Sample.newer
        (Sample.start.after (Sample.run ++ Sample.overtaking))).ending = .done () ∧
      (Engine.handleSyncInfo Sample.grown Sample.newer
        (Sample.start.after (Sample.run ++ Sample.overtaking))).state.round.Joins
          ⟨7, Sample.quorumCert 1 [1, 2, 3], some (Sample.timeoutCert 6 [1, 2, 4])⟩ Sample.newer ∧
      (Engine.handleSyncInfo Sample.grown Sample.newer
        (Sample.start.after (Sample.run ++ Sample.overtaking))).state.round.Exact := by
  have skipped : (Engine.verifySyncInfo Sample.setting (Sample.start.after Sample.run).round
      (Sample.start.after Sample.run).round.syncInfo).ending = .done false := by
    rw [Sample.after_run_round]
    rfl
  have passed : (Engine.verifySyncInfo Sample.setting (Sample.start.after Sample.run).round Sample.newer).ending =
      .done true := by
    rw [Engine.verifySyncInfo_inOrder Sample.newer_inOrder, Sample.after_run_round]
    rfl
  have bounded : (Sample.start.after (Sample.run ++ Sample.overtaking)).round.Bounded := by
    rw [Sample.after_overtaking_round]
    exact ⟨Sample.hasNext 1, Sample.hasNext 6⟩
  have quorumNext : (Sample.start.after Sample.run).round.syncInfo.quorumCert.round.HasNext := by
    rw [Sample.after_run_round]
    exact Sample.hasNext 1
  have timeoutNext : ∀ cert ∈ (Sample.start.after Sample.run).round.syncInfo.timeoutCert, cert.round.HasNext := by
    rw [Sample.after_run_round]
    intro cert present
    cases present
    exact Sample.hasNext 2
  have old := (bundle_check_and_handler_agree Sample.started Sample.run Sample.setting
    (Sample.start.after Sample.run).round.syncInfo quorumNext timeoutNext).1 skipped Sample.grown
  obtain ⟨done, joins, exactly⟩ := (bundle_check_and_handler_agree Sample.started Sample.run Sample.setting
    Sample.newer Sample.newer_inOrder.quorumNext Sample.newer_inOrder.timeoutNext).2 passed Sample.overtaking
      Sample.grown (Sample.grown_keeps _)
  rw [Sample.after_overtaking_round] at joins
  exact ⟨skipped, old.2.1, passed, done, joins, exactly bounded⟩

end MasternodeBft
