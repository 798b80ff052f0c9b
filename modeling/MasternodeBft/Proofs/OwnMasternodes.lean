import Mathlib.Data.Finset.Card
import MasternodeBft.Proofs.Certification

/-!
Whose masternodes certify a block. A certificate names the number at which its masternodes are selected, and
is checked against those; that the number is the one which the rule gives for the block is nowhere asked. So
the rule is as good as the masternodes that are selected: it is kept to as long as too few of their votes are
cast under numbers that it does not give.
-/

namespace MasternodeBft

/-- A vote of a round that a masternode has cast under a gap number, for a block to which the rule gives another
one. -/
structure Vote.Strays (vote : Vote) (setting : Setting) (masternodes : List Address) (round : Round)
    (gapNumber : UInt64) : Prop where
  ofRound : vote.round = round
  underGap : vote.gapNumber = gapNumber
  elsewhere : setting.config.gapOf vote.block.number ≠ gapNumber
  signed : ∃ member ∈ masternodes, setting.authority.recover vote.payload.digest vote.signature = .ok member

/-- Of the votes that there are of a round and under a gap number, those that stray are too few for a
certificate. -/
def FewStray (setting : Setting) (votes : Set Vote) (masternodes : List Address) (round : Round)
    (gapNumber : UInt64) : Prop :=
  ∀ signatures : Finset Signature,
    (∀ signature ∈ signatures, ∃ vote ∈ votes, vote.signature = signature ∧
      vote.Strays setting masternodes round gapNumber) →
    thresholdReached signatures.card masternodes.length (setting.configAt round).certThreshold = false

/-- The signatures of a certificate are those of votes that there are. -/
def QuorumCert.CastIn (cert : QuorumCert) (votes : Set Vote) : Prop :=
  ∀ signature ∈ cert.signatures, ∃ vote ∈ votes, vote.payload = cert.payload ∧ vote.signature = signature

namespace QuorumCert.Certified

variable {setting : Setting} {cert : QuorumCert} {votes : Set Vote}

theorem gapNumber_of_fewStray (certified : cert.Certified setting) {snapshot : Snapshot}
    (selected : setting.chain.snapshot cert.gapNumber = .ok snapshot) (cast : cert.CastIn votes)
    (few : FewStray setting votes snapshot.masternodes cert.round cert.gapNumber) :
    cert.gapNumber = setting.config.gapOf cert.block.number := by
  obtain ⟨found, same, -, verified⟩ := certified.endorsed.verified
  cases selected.symm.trans same
  obtain ⟨reached, signed⟩ := Certificate.verify_ok_iff.mp verified
  by_contra elsewhere
  -- Under a wrong number, all votes that make up the certificate stray.
  have short := few (Certificate.unique cert.signatures).toFinset fun signature listed => by
    have present := Certificate.mem_unique.mp (List.mem_toFinset.mp listed)
    obtain ⟨vote, there, payload, rfl⟩ := cast signature present
    have block : vote.block = cert.block := congrArg VotePayload.block payload
    refine ⟨vote, there, rfl, congrArg BlockInfo.round block, congrArg VotePayload.gapNumber payload, ?_, ?_⟩
    · rw [block]
      exact Ne.symm elsewhere
    · rw [payload]
      exact signed vote.signature present
  rw [List.toFinset_card_of_nodup (Certificate.unique_nodup cert.signatures)] at short
  exact absurd (reached.symm.trans short) (by decide)

end QuorumCert.Certified

theorem EngineState.after_processQuorum {setting : Setting} {state : EngineState} {cert : QuorumCert}
    (certified : cert.Certified setting) (newer : state.round.quorumRound < cert.round) (next : cert.round.HasNext) :
    state.after [⟨.processQuorum cert, setting⟩] = state.adopt (.quorum cert) :=
  Step.next_process (.quorum cert) (Engine.verifyQuorum_done_iff.mpr (.inr certified)) next newer

/-! Masternodes that are selected for a later epoch, and certify the first block. -/

namespace Sample

def successors : List UInt8 := [5, 6, 7, 8]

def successionChain : ChainView :=
  { chain with
    snapshot := fun gapNumber =>
      if gapNumber = 450 then .ok ⟨450, successors.map address⟩ else chain.snapshot gapNumber }

def succession : Setting := { setting with chain := successionChain }

def usurped : QuorumCert := ⟨block 1, 450, [5, 6, 7].map (sign (VotePayload.digest ⟨block 1, 450⟩))⟩

theorem usurped_endorsed (digest : Digest) (round : Round) :
    Endorsed succession digest ([5, 6, 7].map (sign digest)) 450 round := by
  have names : [(5 : UInt8), 6, 7].Nodup := by decide
  have apart : ([5, 6, 7].map (sign digest)).Nodup := names.map (sign_injective digest)
  have members : [(5 : UInt8), 6, 7] ⊆ successors := by decide
  have threshold : (succession.configAt round).certThreshold = 0.667 := certThreshold round
  refine ⟨List.cons_ne_nil _ _, ⟨450, successors.map address⟩, rfl, by decide, ?_⟩
  rw [threshold, Certificate.verify_ok_iff, Certificate.unique_of_nodup apart, List.length_map]
  refine ⟨by decide, fun signature present => ?_⟩
  obtain ⟨name, signs, rfl⟩ := List.mem_map.mp present
  exact ⟨address name, List.mem_map_of_mem (members signs), recover_sign digest name⟩

theorem usurped_certified : usurped.Certified succession where
  positive := by decide
  known := ⟨headerOf (block 1).hash, rfl, rfl, rfl⟩
  endorsed := usurped_endorsed (VotePayload.digest ⟨block 1, 450⟩) usurped.round

theorem usurped_next : usurped.round.HasNext := hasNext 1

theorem after_usurped : start.after [⟨.processQuorum usurped, succession⟩] = start.adopt (.quorum usurped) :=
  EngineState.after_processQuorum usurped_certified (by decide) usurped_next

/-! One of four masternodes votes for a block of the next epoch as if it were of the first one. -/

def cast (payload : VotePayload) (name : UInt8) : Vote :=
  ⟨payload.block, payload.gapNumber, sign payload.digest name, address name⟩

def strayPayload : VotePayload := ⟨⟨FixedBytes.zero 32, 900, 1⟩, 0⟩

theorem cast_signed (payload : VotePayload) {name : UInt8} (member : name ∈ names) :
    ∃ member ∈ names.map address, setting.authority.recover (cast payload name).payload.digest
      (cast payload name).signature = .ok member :=
  ⟨address name, List.mem_map_of_mem member, recover_sign payload.digest name⟩

theorem gapOf_stray : setting.config.gapOf strayPayload.block.number ≠ 0 := by decide

theorem cast_strays {name : UInt8} (member : name ∈ names) :
    (cast strayPayload name).Strays setting (names.map address) 1 0 where
  ofRound := rfl
  underGap := rfl
  elsewhere := gapOf_stray
  signed := cast_signed strayPayload member

/-- All votes for the first block, and the one that strays. -/
def votes : Set Vote := {vote | vote.payload = ⟨block 1, 0⟩ ∨ vote = cast strayPayload 4}

theorem quorumCert_castIn (signers : List UInt8) : (quorumCert 1 signers).CastIn votes := fun signature _ =>
  ⟨⟨block 1, 0, signature, address 1⟩, .inl rfl, rfl, rfl⟩

theorem fewStray (masternodes : List Address) (four : masternodes.length = 4) :
    FewStray setting votes masternodes 1 0 := by
  intro signatures stray
  have single : signatures ⊆ {(cast strayPayload 4).signature} := by
    intro signature present
    obtain ⟨vote, there, rfl, strays⟩ := stray signature present
    rcases there with own | rfl
    · have block : vote.block = block 1 := congrArg VotePayload.block own
      apply absurd _ strays.elsewhere
      rw [block]
      decide
    · exact Finset.mem_singleton.mpr rfl
  have few : signatures.card = 0 ∨ signatures.card = 1 :=
    Nat.le_one_iff_eq_zero_or_eq_one.mp (Finset.card_le_card single)
  rw [four, certThreshold]
  rcases few with none | one
  · rw [none]
    decide
  · rw [one]
    decide

end Sample

section Selection

variable {cert : QuorumCert} {start : EngineState}

/-- Once an engine that starts from round zero has a later highest quorum certificate, this has passed against
the masternodes that are selected at its own gap number. That number is the block's, and so are the masternodes,
if of all votes that they have cast in the round under that number, too few are for blocks to which the rule gives
another one. -/
theorem highest_quorum_certified_at_its_gap_number (started : EngineState.start? cert = some start)
    (genesis : cert.round = 0) (run : List Step) (later : 0 < (start.after run).round.quorumRound) :
    let highest := (start.after run).round.highestQuorumCert
    ∃ step, InstalledBy RoundState.highestQuorumCert start run step highest ∧ highest.Certified step.setting ∧
      ∃ snapshot, step.setting.chain.snapshot highest.gapNumber = .ok snapshot ∧
        ∀ votes : Set Vote, highest.CastIn votes →
          FewStray step.setting votes snapshot.masternodes highest.round highest.gapNumber →
          highest.gapNumber = step.setting.config.gapOf highest.block.number ∧
            step.setting.chain.snapshot (step.setting.config.gapOf highest.block.number) = .ok snapshot := by
  intro highest
  have newer : highest ≠ cert := by
    intro same
    change 0 < highest.round at later
    rw [same, genesis] at later
    exact UInt64.not_lt_zero later
  obtain ⟨step, installed, certified⟩ := (highestQuorumCert_of_started started run).resolve_left newer
  obtain ⟨snapshot, selected, -⟩ := certified.endorsed.verified
  refine ⟨step, installed, certified, snapshot, selected, fun votes cast few => ?_⟩
  have own := certified.gapNumber_of_fewStray selected cast few
  exact ⟨own, own ▸ selected⟩

/-- One vote that strays does no harm. -/
theorem first_block_certified_by_its_masternodes :
    0 < (Sample.start.after Sample.run).round.quorumRound ∧
      (∃ vote ∈ Sample.votes, vote.Strays Sample.setting (Sample.names.map Sample.address) 1 0) ∧
      ∃ step, InstalledBy RoundState.highestQuorumCert Sample.start Sample.run step (Sample.quorumCert 1 [1, 2, 3]) ∧
        (Sample.quorumCert 1 [1, 2, 3]).Certified step.setting ∧
        step.setting.chain.snapshot (step.setting.config.gapOf 1) = .ok ⟨0, Sample.names.map Sample.address⟩ := by
  have later : 0 < (Sample.start.after Sample.run).round.quorumRound := by
    rw [Sample.after_run_round]
    decide
  have certified := highest_quorum_certified_at_its_gap_number Sample.started rfl Sample.run later
  rw [Sample.after_run_round] at certified
  obtain ⟨step, installed, certified, snapshot, selected, own⟩ := certified
  have place : step.setting = Sample.setting := by
    rcases List.mem_cons.mp installed.mem with rfl | other
    · rfl
    · rw [List.mem_singleton.mp other]
  refine ⟨later, ⟨_, .inr rfl, Sample.cast_strays (by decide)⟩, step, installed, certified, ?_⟩
  rw [place] at selected own ⊢
  cases selected
  exact (own Sample.votes (Sample.quorumCert_castIn _) (Sample.fewStray _ rfl)).2

/-- Masternodes that are selected for a later epoch certify the first block. -/
theorem successors_certify_first_block :
    (Sample.start.after [⟨.processQuorum Sample.usurped, Sample.succession⟩]).round.highestQuorumCert =
        Sample.usurped ∧
      0 < (Sample.start.after [⟨.processQuorum Sample.usurped, Sample.succession⟩]).round.quorumRound ∧
      Sample.usurped.gapNumber ≠ Sample.succession.config.gapOf Sample.usurped.block.number := by
  rw [Sample.after_usurped]
  have highest := EngineState.adopt_highestQuorumCert Sample.start (.quorum Sample.usurped)
  refine ⟨highest, ?_, by decide⟩
  unfold RoundState.quorumRound
  rw [highest]
  decide

end Selection

end MasternodeBft
