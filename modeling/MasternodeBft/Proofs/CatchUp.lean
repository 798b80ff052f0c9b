import MasternodeBft.Proofs.RoundOrder
import MasternodeBft.Proofs.WireRoundTrip

/-!
One bundle catches a node up. What one node has certified, another one verifies as well, as long as the
chain forgets nothing; and a bundle that is in order takes a node at least as far as the node that has
sent it.
-/

namespace MasternodeBft

/-- A later view of a chain, on which blocks and selections of masternodes that were known are unchanged. -/
structure ChainView.Extends (later earlier : ChainView) : Prop where
  header? : ∀ hash header, earlier.header? hash = some header → later.header? hash = some header
  snapshot : ∀ gapNumber snapshot,
    earlier.snapshot gapNumber = .ok snapshot → later.snapshot gapNumber = .ok snapshot

/-- A setting with the same configuration and signatures as another one, and a later view of its chain. -/
structure Setting.Extends (later earlier : Setting) : Prop where
  config : later.config = earlier.config
  recover : later.authority.recover = earlier.authority.recover
  chain : later.chain.Extends earlier.chain

section Certificates

variable {earlier later : Setting}

/-- Signatures that stand for enough masternodes in one setting do so in any other one that reads them in the
same way, and selects the same masternodes. -/
theorem Endorsed.transfer {digest : Digest} {signatures : List Signature} {gapNumber : UInt64} {round : Round}
    (config : later.config = earlier.config) (recover : later.authority.recover = earlier.authority.recover)
    (selects : ∀ snapshot,
      earlier.chain.snapshot gapNumber = .ok snapshot → later.chain.snapshot gapNumber = .ok snapshot)
    (endorsed : Endorsed earlier digest signatures gapNumber round) :
    Endorsed later digest signatures gapNumber round where
  signed := endorsed.signed
  verified := by
    obtain ⟨snapshot, selected, some, verified⟩ := endorsed.verified
    refine ⟨snapshot, selects snapshot selected, some, ?_⟩
    unfold Setting.configAt
    rw [recover, config]
    exact verified

theorem Endorsed.of_extends {digest : Digest} {signatures : List Signature} {gapNumber : UInt64} {round : Round}
    (extension : later.Extends earlier) (endorsed : Endorsed earlier digest signatures gapNumber round) :
    Endorsed later digest signatures gapNumber round :=
  endorsed.transfer extension.config extension.recover (extension.chain.snapshot gapNumber)

theorem QuorumCert.Certified.of_extends {cert : QuorumCert} (extension : later.Extends earlier)
    (certified : cert.Certified earlier) : cert.Certified later where
  positive := certified.positive
  known := by
    obtain ⟨header, found, alike⟩ := certified.known
    exact ⟨header, extension.chain.header? _ _ found, alike⟩
  endorsed := certified.endorsed.of_extends extension

end Certificates

/-- A bundle whose certificates verify, none of them of the last round. -/
structure SyncInfo.InOrder (bundle : SyncInfo) (setting : Setting) : Prop where
  quorumCert : (Engine.verifyQuorum setting bundle.quorumCert).ending = .done ()
  timeoutCert : ∀ cert ∈ bundle.timeoutCert, (Engine.verifyTimeoutCert setting cert).ending = .done ()
  quorumNext : bundle.quorumCert.round.HasNext
  timeoutNext : ∀ cert ∈ bundle.timeoutCert, cert.round.HasNext

theorem SyncInfo.InOrder.timeoutRound_hasNext {bundle : SyncInfo} {setting : Setting}
    (inOrder : bundle.InOrder setting) : bundle.timeoutRound.HasNext := by
  unfold timeoutRound
  cases present : bundle.timeoutCert with
  | none => exact (by decide : Round.HasNext 0)
  | some cert => exact inOrder.timeoutNext cert present

/-! The later one of two rounds. -/

namespace Round

theorem max_of_lt {earlier later : Round} (newer : earlier < later) : max earlier later = later :=
  if_pos (UInt64.le_of_lt newer)

theorem max_of_le {earlier later : Round} (reached : later ≤ earlier) : max earlier later = earlier := by
  rcases UInt64.lt_or_eq_of_le reached with older | rfl
  · exact if_neg (UInt64.not_le.mpr older)
  · exact if_pos (UInt64.le_refl _)

theorem le_max_right (first second : Round) : second ≤ max first second := by
  by_cases newer : first < second
  · rw [max_of_lt newer]
    exact UInt64.le_refl _
  · rw [max_of_le (UInt64.not_lt.mp newer)]
    exact UInt64.not_lt.mp newer

theorem max_hasNext {first second : Round} (firstNext : first.HasNext) (secondNext : second.HasNext) :
    (max first second).HasNext := by
  by_cases newer : first < second
  · rwa [max_of_lt newer]
  · rwa [max_of_le (UInt64.not_lt.mp newer)]

end Round

namespace RoundState

structure Reaches (state : RoundState) (bundle : SyncInfo) : Prop where
  quorumRound : bundle.quorumCert.round ≤ state.quorumRound
  timeoutRound : bundle.timeoutRound ≤ state.timeoutRound

theorem dominates_iff {state : RoundState} {bundle : SyncInfo} :
    state.dominates bundle = true ↔ state.Reaches bundle := by
  unfold dominates
  rw [Bool.and_eq_true, decide_eq_true_iff]
  have timeout : (bundle.timeoutCert.all fun cert => cert.round ≤ state.timeoutRound) = true ↔
      bundle.timeoutRound ≤ state.timeoutRound := by
    unfold SyncInfo.timeoutRound
    cases bundle.timeoutCert with
    | none => exact iff_of_true rfl UInt64.zero_le
    | some cert => exact decide_eq_true_iff
  rw [timeout]
  exact ⟨fun both => ⟨both.1, both.2⟩, fun reaches => ⟨reaches.quorumRound, reaches.timeoutRound⟩⟩

/-- A later state has come as far as an earlier one and a bundle, and no further. -/
structure Joins (later earlier : RoundState) (bundle : SyncInfo) : Prop where
  quorumRound : later.quorumRound = max earlier.quorumRound bundle.quorumCert.round
  timeoutRound : later.timeoutRound = max earlier.timeoutRound bundle.timeoutRound

theorem Reaches.joins {state : RoundState} {bundle : SyncInfo} (reaches : state.Reaches bundle) :
    state.Joins state bundle :=
  ⟨(Round.max_of_le reaches.quorumRound).symm, (Round.max_of_le reaches.timeoutRound).symm⟩

namespace Joins

variable {later earlier : RoundState} {bundle : SyncInfo} {setting : Setting}

theorem reaches (joins : later.Joins earlier bundle) : later.Reaches bundle where
  quorumRound := joins.quorumRound ▸ Round.le_max_right _ _
  timeoutRound := joins.timeoutRound ▸ Round.le_max_right _ _

theorem bounded (joins : later.Joins earlier bundle) (bounded : earlier.Bounded) (inOrder : bundle.InOrder setting) :
    later.Bounded where
  quorumRound := joins.quorumRound ▸ Round.max_hasNext bounded.quorumRound inOrder.quorumNext
  timeoutRound := joins.timeoutRound ▸ Round.max_hasNext bounded.timeoutRound inOrder.timeoutRound_hasNext

end Joins

end RoundState

namespace AnyCert

def quorumRound : AnyCert → Round
  | quorum cert => cert.round
  | timeout _ => 0

def timeoutRound : AnyCert → Round
  | quorum _ => 0
  | timeout cert => cert.round

end AnyCert

namespace Engine

open MasternodeBft.Action

variable {setting : Setting} {state : EngineState} {bundle : SyncInfo}

theorem process_raises {cert : AnyCert} (passes : cert.Passes setting) (next : cert.round.HasNext) :
    (process setting cert state).ending = .done () ∧
      (process setting cert state).state.round.quorumRound = max state.round.quorumRound cert.quorumRound ∧
      (process setting cert state).state.round.timeoutRound = max state.round.timeoutRound cert.timeoutRound := by
  obtain ⟨done, reached⟩ := process_done passes next
  refine ⟨done, ?_⟩
  rw [reached]
  by_cases newer : cert.highest state.round < cert.round
  · rw [if_pos newer, EngineState.adopt_quorumRound, EngineState.adopt_timeoutRound]
    cases cert with
    | quorum => exact ⟨(Round.max_of_lt newer).symm, (Round.max_of_le UInt64.zero_le).symm⟩
    | timeout => exact ⟨(Round.max_of_le UInt64.zero_le).symm, (Round.max_of_lt newer).symm⟩
  · rw [if_neg newer]
    have old := UInt64.not_lt.mp newer
    cases cert with
    | quorum => exact ⟨(Round.max_of_le old).symm, (Round.max_of_le UInt64.zero_le).symm⟩
    | timeout => exact ⟨(Round.max_of_le UInt64.zero_le).symm, (Round.max_of_le old).symm⟩

def processBoth (setting : Setting) (bundle : SyncInfo) : Action Unit := do
  process setting (.quorum bundle.quorumCert)
  match bundle.timeoutCert with
  | none => pure ()
  | some cert => process setting (.timeout cert)

theorem takeUp_eq : takeUp setting bundle state =
    if state.round.dominates bundle = true then
      ⟨.done (), state, [.notice (.bundleSkipped state.round bundle)]⟩
    else processBoth setting bundle state := by
  change (if state.round.dominates bundle = true then _ else _ : Action Unit) state = _
  split <;> rfl

theorem processBoth_joins (inOrder : bundle.InOrder setting) :
    (processBoth setting bundle state).ending = .done () ∧
      (processBoth setting bundle state).state.round.Joins state.round bundle := by
  have quorumPasses : (AnyCert.quorum bundle.quorumCert).Passes setting := inOrder.quorumCert
  obtain ⟨quorumDone, quorumRound, timeoutKept⟩ := process_raises quorumPasses inOrder.quorumNext
  unfold processBoth
  rw [bind_of_done quorumDone]
  cases present : bundle.timeoutCert with
  | none =>
    refine ⟨rfl, quorumRound, timeoutKept.trans ?_⟩
    unfold SyncInfo.timeoutRound
    rw [present]
    rfl
  | some cert =>
    have timeoutPasses : (AnyCert.timeout cert).Passes setting := inOrder.timeoutCert cert present
    obtain ⟨timeoutDone, quorumKept, timeoutRound⟩ := process_raises timeoutPasses (inOrder.timeoutNext cert present)
    refine ⟨timeoutDone, ?_, timeoutRound.trans ?_⟩
    · rw [quorumKept, quorumRound]
      exact Round.max_of_le UInt64.zero_le
    · unfold SyncInfo.timeoutRound
      rw [timeoutKept, present]
      exact congrArg (max · cert.round) (Round.max_of_le UInt64.zero_le)

theorem takeUp_joins (inOrder : bundle.InOrder setting) (state : EngineState) :
    (takeUp setting bundle state).ending = .done () ∧
      (takeUp setting bundle state).state.round.Joins state.round bundle := by
  rw [takeUp_eq]
  by_cases dominated : state.round.dominates bundle = true
  · rw [if_pos dominated]
    exact ⟨rfl, (RoundState.dominates_iff.mp dominated).joins⟩
  · rw [if_neg dominated]
    exact processBoth_joins inOrder

theorem handleSyncInfo_joins (inOrder : bundle.InOrder setting) (state : EngineState) :
    (handleSyncInfo setting bundle state).ending = .done () ∧
      (handleSyncInfo setting bundle state).state.round.Joins state.round bundle := by
  exact takeUp_joins inOrder { state with bundles := state.bundles.add bundle }

/-- What it means that an engine ends well in a state that has come as far as a bundle. -/
structure Arrives (outcome : Outcome Unit) (bundle : SyncInfo) : Prop where
  done : outcome.ending = .done ()
  reaches : outcome.state.round.Reaches bundle
  bounded : outcome.state.round.Bounded

theorem handleSyncInfo_arrives (inOrder : bundle.InOrder setting) (bounded : state.round.Bounded) :
    Arrives (handleSyncInfo setting bundle state) bundle := by
  obtain ⟨done, joins⟩ := handleSyncInfo_joins inOrder state
  exact ⟨done, joins.reaches, joins.bounded bounded inOrder⟩

theorem verifySyncInfo_inOrder (inOrder : bundle.InOrder setting) (state : RoundState) :
    (verifySyncInfo setting state bundle).ending = .done (!state.dominates bundle) := by
  unfold verifySyncInfo
  by_cases dominated : state.dominates bundle = true
  · rw [if_pos dominated, dominated]
    rfl
  · have newer : state.dominates bundle = false := Bool.not_eq_true _ ▸ dominated
    rw [if_neg dominated, newer, Check.bind_unit_done_iff]
    refine ⟨inOrder.quorumCert, ?_⟩
    cases present : bundle.timeoutCert with
    | none => rfl
    | some cert =>
      rw [Check.bind_unit_done_iff]
      exact ⟨inOrder.timeoutCert cert present, rfl⟩

theorem receiveSyncInfo_arrives (inOrder : bundle.InOrder setting) (bounded : state.round.Bounded) :
    Arrives (receiveSyncInfo setting bundle state) bundle := by
  have verdict := verifySyncInfo_inOrder inOrder state.round
  have attempted : attempt (ofCheck (verifySyncInfo setting state.round bundle)) state =
      ⟨.done (.ok (!state.round.dominates bundle)), state,
        (verifySyncInfo setting state.round bundle).notices.map .notice⟩ := by
    unfold attempt ofCheck
    simp only [verdict]
  unfold receiveSyncInfo
  change Arrives ((attempt (ofCheck (verifySyncInfo setting state.round bundle)) >>= _) state) bundle
  rw [bind_of_done (congrArg Outcome.ending attempted), attempted]
  by_cases dominated : state.round.dominates bundle = true
  · rw [dominated]
    exact ⟨rfl, RoundState.dominates_iff.mp dominated, bounded⟩
  · rw [Bool.not_eq_true] at dominated
    rw [dominated]
    obtain ⟨done, reaches, bounded⟩ := handleSyncInfo_arrives inOrder bounded
    exact ⟨done, reaches, bounded⟩

end Engine

/-- A message takes its receiver at least as far as its sender. -/
structure CatchesUp (setting : Setting) (receiver : EngineState) (sender : RoundState) (message : Message) :
    Prop where
  accepted : (Engine.handleMessage setting message receiver).ending = .done ()
  quorumRound : sender.quorumRound ≤ (Engine.handleMessage setting message receiver).state.round.quorumRound
  timeoutRound : sender.timeoutRound ≤ (Engine.handleMessage setting message receiver).state.round.timeoutRound
  currentRound : sender.currentRound ≤ (Engine.handleMessage setting message receiver).state.round.currentRound

section Peers

variable {cert peerCert : QuorumCert} {start peerStart : EngineState} {setting : Setting}

theorem syncInfo_inOrder (started : EngineState.start? cert = some start) (genesis : cert.round = 0)
    (run : List Step) (shared : ∀ step ∈ run, setting.Extends step.setting)
    (bounded : (start.after run).round.Bounded) :
    (start.after run).round.syncInfo.InOrder setting where
  quorumCert := by
    apply Engine.verifyQuorum_done_iff.mpr
    rcases highestQuorumCert_of_started started run with initial | ⟨step, installed, certified⟩
    · left
      change (start.after run).round.highestQuorumCert.round = 0
      rw [initial, genesis]
    · exact .inr (certified.of_extends (shared step installed.mem))
  timeoutCert := by
    intro timeoutCert present
    obtain ⟨step, installed, certified⟩ := highestTimeoutCert_of_started started run present
    exact Engine.verifyTimeoutCert_done_iff.mpr (certified.endorsed.of_extends (shared step installed.mem))
  quorumNext := bounded.quorumRound
  timeoutNext := by
    intro timeoutCert present
    have next := bounded.timeoutRound
    unfold RoundState.timeoutRound at next
    rwa [show (start.after run).round.highestTimeoutCert = some timeoutCert from present] at next

theorem catchesUp_of_inOrder {sender : RoundState} (exact : sender.Exact)
    (peerStarted : EngineState.start? peerCert = some peerStart) (peerRun : List Step)
    (inOrder : sender.syncInfo.InOrder setting) (peerBounded : (peerStart.after peerRun).round.Bounded) :
    CatchesUp setting (peerStart.after peerRun) sender (.syncInfo sender.syncInfo) := by
  obtain ⟨done, reaches, bounded⟩ := Engine.receiveSyncInfo_arrives inOrder peerBounded
  refine ⟨done, reaches.quorumRound, reaches.timeoutRound, ?_⟩
  let receipt : Step := ⟨.handleMessage (.syncInfo sender.syncInfo), setting⟩
  have peerExact : (receipt.next (peerStart.after peerRun)).round.Exact := by
    have after := EngineState.after_exact peerStarted (peerRun ++ [receipt])
    rw [EngineState.after_concat] at after
    exact after bounded
  have quorumRound := UInt64.le_iff_toNat_le.mp reaches.quorumRound
  have timeoutRound := UInt64.le_iff_toNat_le.mp reaches.timeoutRound
  change sender.quorumRound.toNat ≤ (receipt.next (peerStart.after peerRun)).round.quorumRound.toNat at quorumRound
  change sender.timeoutRound.toNat ≤ (receipt.next (peerStart.after peerRun)).round.timeoutRound.toNat
    at timeoutRound
  unfold RoundState.Exact at exact peerExact
  apply UInt64.le_iff_toNat_le.mpr
  change sender.currentRound.toNat ≤ (receipt.next (peerStart.after peerRun)).round.currentRound.toNat
  omega

/-- The bundle that a node sends of itself takes any other node at least as far, directly or in the form in
which it travels. -/
theorem bundle_catches_peer_up (started : EngineState.start? cert = some start) (genesis : cert.round = 0)
    (run : List Step) (peerStarted : EngineState.start? peerCert = some peerStart) (peerRun : List Step)
    (shared : ∀ step ∈ run, setting.Extends step.setting) (bounded : (start.after run).round.Bounded)
    (peerBounded : (peerStart.after peerRun).round.Bounded) :
    CatchesUp setting (peerStart.after peerRun) (start.after run).round
        (.syncInfo (start.after run).round.syncInfo) ∧
      ∃ message, Message.decode (Message.encode (.syncInfo (start.after run).round.syncInfo)) = some message ∧
        CatchesUp setting (peerStart.after peerRun) (start.after run).round message := by
  have inOrder := syncInfo_inOrder started genesis run shared bounded
  have exact := EngineState.after_exact started run bounded
  have direct := catchesUp_of_inOrder exact peerStarted peerRun inOrder peerBounded
  exact ⟨direct, _, Message.decode_encode _, direct⟩

theorem bundle_catches_fresh_peer_up :
    CatchesUp Sample.setting Sample.start (Sample.start.after Sample.run).round
        (.syncInfo (Sample.start.after Sample.run).round.syncInfo) ∧
      ∃ message, Message.decode (Message.encode (.syncInfo (Sample.start.after Sample.run).round.syncInfo)) =
          some message ∧
        CatchesUp Sample.setting Sample.start (Sample.start.after Sample.run).round message := by
  have bounded : (Sample.start.after Sample.run).round.Bounded := by
    rw [Sample.after_run_round]
    exact ⟨Sample.hasNext 1, Sample.hasNext 2⟩
  have shared : ∀ step ∈ Sample.run, Sample.setting.Extends step.setting := by
    intro step listed
    have same : step.setting = Sample.setting := by
      rcases List.mem_cons.mp listed with rfl | listed
      · rfl
      · rw [List.mem_singleton.mp listed]
    rw [same]
    exact ⟨rfl, rfl, fun _ _ found => found, fun _ _ found => found⟩
  exact bundle_catches_peer_up Sample.started rfl Sample.run Sample.started [] shared bounded
    ⟨Sample.hasNext 0, Sample.hasNext 0⟩

end Peers

end MasternodeBft
