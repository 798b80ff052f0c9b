import MasternodeBft.Proofs.Assembly
import MasternodeBft.Proofs.Expiry

/-!
The timeouts that a node signs itself. Others' are checked against the masternodes of their gap numbers, its
own by the masternodes of the head's epoch; so a certificate of timeouts can fail on signatures, but only on
an own timeout for masternodes that the node is not one of.
-/

namespace MasternodeBft

/-- A timeout with the signature of its signer, who has been selected at its gap number or is the node
itself. -/
structure Timeout.Credible (setting : Setting) (timeout : Timeout) : Prop where
  genuine : timeout.attestation.Genuine setting
  signer : timeout.attestation.Selected setting ∨ timeout.signer = setting.authority.address

/-- There is a timeout of the node's own in its pool, for masternodes that it is not one of. -/
def EngineState.OwnUnselected (setting : Setting) (state : EngineState) : Prop :=
  ∃ key, ∃ entry ∈ state.timeouts.bucket key,
    entry.1 = setting.authority.address ∧ ¬entry.2.attestation.Selected setting

theorem EngineState.OwnUnselected.of_sameTimeouts {setting : Setting} {earlier later : EngineState}
    (same : SameTimeouts earlier later) (spoiled : earlier.OwnUnselected setting) : later.OwnUnselected setting := by
  unfold EngineState.OwnUnselected
  rw [same.timeouts]
  exact spoiled

namespace Engine

open MasternodeBft.Action

variable {setting : Setting} {state : EngineState}

theorem collectTimeout_ownUnselected (files : state.timeouts.Files (Timeout.Credible setting))
    (unique : state.timeouts.OnePerSigner) {timeout : Timeout} (credible : timeout.Credible setting)
    {cause : CertificateError}
    (refused : (collectTimeout setting timeout state).ending = .refused (.invalidTimeoutSignatures cause)) :
    (collectTimeout setting timeout state).state.OwnUnselected setting := by
  obtain ⟨refusal, -⟩ := collectTimeout_leavesBehind timeout _ refused
  generalize (collectTimeout setting timeout state).state = after at refusal
  cases refusal with
  | uncertified _ refusal =>
    cases refusal with
    | unselected missing => rcases snapshot_refused missing with ⟨_, other⟩ | other <;> cases other
    | uncertified found selected reached unverified =>
      by_contra clean
      have present : (state.timeouts.add timeout).bucket timeout.key ≠ [] := bucket_add_ne_nil state.timeouts timeout
      have holds : ∀ entry ∈ (state.timeouts.add timeout).bucket timeout.key, entry.2.key = timeout.key ∧
          entry.2.signer = entry.1 ∧ entry.2.attestation.Holds setting := by
        intro entry listed
        obtain ⟨credible, key, signer⟩ := files.add credible timeout.key entry listed
        refine ⟨key, signer, credible.genuine, ?_⟩
        by_contra unselected
        have own := credible.signer.resolve_left unselected
        exact clean ⟨timeout.key, entry, listed, signer.symm.trans own, unselected⟩
      have endorsed := assembleTimeoutCert_endorsed (unique.add timeout) present holds selected reached
      cases (verifyTimeoutCert_done_iff.mpr endorsed).symm.trans unverified

theorem verifyTimeoutCert_of_rejected {cert : TimeoutCert} {found : Snapshot} {cause : CertificateError}
    (signed : cert.signatures ≠ []) (selected : (snapshot setting cert.gapNumber).ending = .done found)
    (rejected : Certificate.verify setting.authority.recover cert.payload.digest cert.signatures found.masternodes
      (setting.configAt cert.round).certThreshold = .error cause) :
    (verifyTimeoutCert setting cert).ending = .refused (.invalidTimeoutSignatures cause) := by
  unfold verifyTimeoutCert
  rw [if_neg (List.isEmpty_iff.not.mpr signed), Check.ending_bind, selected]
  dsimp only
  rw [Check.ending_bind, verifySignatures_ending, rejected]
  rfl

end Engine

/-! A node that leaves the masternodes with the next block. -/

namespace Sample

/-- The node is the masternode of the head's epoch, and two others have been selected for the next block. -/
def movedChain : ChainView where
  head := Header.zero
  header? _ := none
  snapshot gapNumber := .ok ⟨gapNumber, [address 2, address 3]⟩
  epochSwitch header := .ok ⟨header.blockInfo, [address 1]⟩

def moved : Setting := { setting with chain := movedChain }

def timeout (round signer : UInt8) : Timeout :=
  ⟨round.toUInt64, 0, sign (TimeoutPayload.digest ⟨round.toUInt64, 0⟩) signer, address signer⟩

theorem moved_recovers : moved.authority.RecoversItself := fun digest => recover_sign digest 1

theorem moved_selected (gapNumber : UInt64) :
    (Engine.snapshot moved gapNumber).ending = .done ⟨gapNumber, [address 2, address 3]⟩ := rfl

theorem timeout_genuine (round signer : UInt8) : (timeout round signer).attestation.Genuine moved :=
  recover_sign (TimeoutPayload.digest ⟨round.toUInt64, 0⟩) signer

theorem verifyTimeout_moved {current : Round} {round : UInt8} (fresh : current ≤ round.toUInt64) :
    (Engine.verifyTimeout moved current (timeout round 2)).ending = .done (some (address 2)) := by
  apply Engine.verifySigned_done_iff.mpr
  exact ⟨fresh, timeout_genuine round 2, ⟨0, [address 2, address 3]⟩, rfl, List.mem_cons_self⟩

def half : EngineState := { start with timeouts := start.timeouts.add (timeout 1 2) }

theorem half_short : thresholdReached 1 2 (moved.configAt 1).certThreshold = false := by
  rw [show (moved.configAt 1).certThreshold = 0.667 from certThreshold 1]
  decide

theorem half_reached : thresholdReached 2 2 (moved.configAt 1).certThreshold = true := by
  rw [show (moved.configAt 1).certThreshold = 0.667 from certThreshold 1]
  decide

theorem collectTimeout_half : (Engine.collectTimeout moved (timeout 1 2) start).state = half := by
  have current : (timeout 1 2).round = start.round.currentRound := rfl
  have short : thresholdReached (half.timeouts.bucket (timeout 1 2).key).length 2
      (moved.configAt (timeout 1 2).round).certThreshold = false := half_short
  exact (Engine.collectTimeout_of_short current (moved_selected 0) short).state

theorem handleTimeout_half : start.after [⟨.handleMessage (.timeout (timeout 1 2)), moved⟩] = half := by
  have passed : (Engine.verifyTimeout moved start.round.currentRound (timeout 1 2)).ending =
    .done (some (address 2)) := verifyTimeout_moved (by decide)
  exact (Engine.handleSigned_of_verified passed).state.trans collectTimeout_half

theorem verify_moved (digest : Digest) :
    Certificate.verify recover digest [sign digest 2, sign digest 1] [address 2, address 3]
      (moved.configAt 1).certThreshold = .error (.notAMasternode (sign digest 1) (address 1)) := by
  have member : Certificate.failure? recover digest [address 2, address 3] (sign digest 2) = none :=
    Certificate.failure?_eq_none_iff.mpr ⟨address 2, List.mem_cons_self, recover_sign digest 2⟩
  have stranger : Certificate.failure? recover digest [address 2, address 3] (sign digest 1) =
      some (.notAMasternode (sign digest 1) (address 1)) := by
    unfold Certificate.failure?
    rw [recover_sign]
    exact if_neg (by decide)
  have names : [(2 : UInt8), 1].Nodup := by decide
  have apart : [sign digest 2, sign digest 1].Nodup := names.map (sign_injective digest)
  unfold Certificate.verify Certificate.examine
  rw [Certificate.unique_of_nodup apart]
  simp only [List.length_cons, List.length_nil, List.filterMap_cons, member, stranger, List.filterMap_nil]
  rfl

theorem verifyTimeoutCert_moved : (Engine.verifyTimeoutCert moved
    ⟨1, 0, [sign (TimeoutPayload.digest ⟨1, 0⟩) 2, sign (TimeoutPayload.digest ⟨1, 0⟩) 1]⟩).ending =
      .refused (.invalidTimeoutSignatures
        (.notAMasternode (sign (TimeoutPayload.digest ⟨1, 0⟩) 1) (address 1))) :=
  Engine.verifyTimeoutCert_of_rejected (List.cons_ne_nil _ _) (moved_selected 0) (verify_moved _)

def ownTimeout : Timeout := Engine.ownTimeout moved 1 0

theorem half_signs : Engine.Signs moved half ownTimeout := ⟨rfl, rfl, rfl, rfl⟩

theorem half_bucket : (half.timeouts.add ownTimeout).bucket ownTimeout.key =
    [(address 2, timeout 1 2), (address 1, ownTimeout)] := rfl

theorem half_assembled :
    Engine.assembleTimeoutCert moved ownTimeout [(address 2, timeout 1 2), (address 1, ownTimeout)] =
      ⟨1, 0, [sign (TimeoutPayload.digest ⟨1, 0⟩) 2, sign (TimeoutPayload.digest ⟨1, 0⟩) 1]⟩ := rfl

theorem collectTimeout_own : (Engine.collectTimeout moved ownTimeout half).ending =
    .refused (.invalidTimeoutSignatures
      (.notAMasternode (sign (TimeoutPayload.digest ⟨1, 0⟩) 1) (address 1))) := by
  let pooled : EngineState := { half with timeouts := half.timeouts.add ownTimeout }
  have current : ownTimeout.round = half.round.currentRound := rfl
  have newer : pooled.round.timeoutRound < 1 := by decide
  have reached : thresholdReached ((half.timeouts.add ownTimeout).bucket ownTimeout.key).length
      (⟨0, [address 2, address 3]⟩ : Snapshot).masternodes.length
      (moved.configAt ownTimeout.round).certThreshold = true := by
    rw [half_bucket]
    exact half_reached
  have collected := (Engine.collectTimeout_of_reached current (moved_selected 0) reached).ending
  rw [half_bucket, half_assembled] at collected
  exact collected.trans (@Engine.process_refuses moved pooled (.timeout ⟨1, 0, _⟩) _ newer verifyTimeoutCert_moved)

theorem handleExpiry_half : (Engine.handleExpiry moved half).ending = .refused (.invalidTimeoutSignatures
    (.notAMasternode (sign (TimeoutPayload.digest ⟨1, 0⟩) 1) (address 1))) := by
  have replayed : (Engine.replay moved half).state = half := rfl
  refine Engine.handleExpiry_refuses half_signs ?_
  rw [replayed]
  exact collectTimeout_own

def halfRun : List Step :=
  [⟨.verifyTimeout (timeout 1 2), moved⟩, ⟨.look, moved⟩, ⟨.collectTimeout (timeout 1 2), moved⟩]

theorem halfRun_checks : Step.Checks ⟨.verifyTimeout (timeout 1 2), moved⟩ start (.timeout (timeout 1 2)) :=
  .timeout (timeout 1 2) (address 2) rfl (verifyTimeout_moved (by decide))

theorem halfRun_checked : HandsOverChecked .collectTimeout .timeout start halfRun := by
  have checked : HandsOverChecked .collectTimeout .timeout start
      [⟨.verifyTimeout (timeout 1 2), moved⟩, ⟨.look, moved⟩] :=
    HandsOverChecked.concat_iff.mpr ⟨HandsOverChecked.concat_iff.mpr ⟨.nil, nofun⟩, nofun⟩
  refine HandsOverChecked.concat_iff.mpr ⟨checked, fun object asked => ?_⟩
  cases asked
  exact ⟨[], _, [⟨.look, moved⟩], rfl, halfRun_checks⟩

theorem halfRun_continues : ∀ step ∈ halfRun, moved.Continues step.setting := by
  apply continues_of_same
  intro step listed
  simp only [halfRun, List.mem_cons, List.not_mem_nil, or_false] at listed
  rcases listed with rfl | rfl | rfl <;> rfl

theorem after_halfRun : start.after halfRun = half := by
  have checked : Step.next ⟨.verifyTimeout (timeout 1 2), moved⟩ start = start :=
    Step.next_check (.timeout (timeout 1 2)) moved start
  unfold halfRun EngineState.after
  rw [List.foldl_cons, checked]
  exact collectTimeout_half

end Sample

section Runs

variable {cert : QuorumCert} {start : EngineState} {run : List Step} {setting : Setting}

theorem credible_of_admitted {timeout : Timeout} (checked : HandsOverChecked .collectTimeout .timeout start run)
    (continues : ∀ step ∈ run, setting.Continues step.setting) (recovers : setting.authority.RecoversItself)
    (admitted : AdmittedIn start run (.timeout timeout)) : timeout.Credible setting := by
  rcases timeout_holds_of_admitted continues checked admitted with holds | own
  · exact ⟨holds.genuine, .inl holds.selected⟩
  · obtain ⟨step, listed, state, -, signs⟩ := own.mem
    have same := (continues step listed).authority
    have genuine := signs.genuine (same ▸ recovers)
    refine ⟨genuine.of_continues (continues step listed), .inr ?_⟩
    rw [same, signs.own]
    rfl

/-- Where timeouts are checked before they are handed over, all pooled timeouts are credible, and a timeout
that a node receives or signs is refused for the signatures of the certificate that it completes only if one
of the node's own is in its pool for masternodes that the node is not one of. -/
theorem timeout_certificates_fail_on_own_timeouts_only (started : EngineState.start? cert = some start)
    (checked : HandsOverChecked .collectTimeout .timeout start run)
    (continues : ∀ step ∈ run, setting.Continues step.setting) (recovers : setting.authority.RecoversItself) :
    ((start.after run).timeouts.Files (Timeout.Credible setting)) ∧
      (∀ timeout cause, (Engine.handleMessage setting (.timeout timeout) (start.after run)).ending =
          .refused (.invalidTimeoutSignatures cause) →
        (Engine.handleMessage setting (.timeout timeout) (start.after run)).state.OwnUnselected setting) ∧
      ∀ cause, (Engine.handleExpiry setting (start.after run)).ending =
          .refused (.invalidTimeoutSignatures cause) →
        (Engine.handleExpiry setting (start.after run)).state.OwnUnselected setting := by
  have files : (start.after run).timeouts.Files (Timeout.Credible setting) :=
    (isPool_timeouts.admitted started run).mono fun _ admitted =>
      credible_of_admitted checked continues recovers admitted
  have unique := (isPool_timeouts.tidy started run).unique
  refine ⟨files, fun timeout cause refused => ?_, fun cause refused => ?_⟩
  · rcases Engine.handleSigned_refused refused with unverified | ⟨signer, passed, rejected⟩
    · exact absurd rfl (Engine.verifySigned_refused unverified cause).2
    · have holds := (Engine.verifySigned_done_iff.mp passed).2
      change (Engine.handleSigned setting (.timeout timeout) (start.after run)).state.OwnUnselected setting
      rw [(Engine.handleSigned_of_verified passed).state]
      exact Engine.collectTimeout_ownUnselected files unique ⟨holds.genuine, .inl holds.selected⟩ rejected
  · rcases Engine.handleExpiry_refused refused with ⟨_, other⟩ | ⟨timeout, signs, rejected⟩
    · cases other
    · have own : timeout.signer = setting.authority.address := by
        rw [signs.own]
        rfl
      have replayedFiles : (Engine.replay setting (start.after run)).state.timeouts.Files _ :=
        Engine.replay_keeps_timeouts (Pool.Files _) .empty (fun _ _ _ files => files.sweep _ _) files
      have replayedUnique : (Engine.replay setting (start.after run)).state.timeouts.OnePerSigner :=
        Engine.replay_keeps_timeouts Pool.OnePerSigner .empty (fun _ _ _ unique => unique.sweep _ _) unique
      exact (Engine.collectTimeout_ownUnselected replayedFiles replayedUnique
        ⟨signs.genuine recovers, .inr own⟩ rejected).of_sameTimeouts (Engine.handleExpiry_sameTimeouts signs)

end Runs

/-- A node that only handles messages and expiries refuses its own timeout, and with it a certificate of
timeouts, though all that others have sent has passed its check. -/
theorem own_timeout_refused_for_signatures :
    EngineState.start? Sample.genesis = some Sample.start ∧ Sample.moved.authority.RecoversItself ∧
      (Engine.handleExpiry Sample.moved
        (Sample.start.after [⟨.handleMessage (.timeout (Sample.timeout 1 2)), Sample.moved⟩])).ending =
          .refused (.invalidTimeoutSignatures
            (.notAMasternode (Sample.sign (TimeoutPayload.digest ⟨1, 0⟩) 1) (Sample.address 1))) := by
  rw [Sample.handleTimeout_half]
  exact ⟨Sample.started, Sample.moved_recovers, Sample.handleExpiry_half⟩

theorem own_timeout_spoils_certificate :
    HandsOverChecked .collectTimeout .timeout Sample.start Sample.halfRun ∧
      (∀ step ∈ Sample.halfRun, Sample.moved.Continues step.setting) ∧ Sample.moved.authority.RecoversItself ∧
      (Sample.start.after Sample.halfRun).timeouts.Files (Timeout.Credible Sample.moved) ∧
      (Engine.handleExpiry Sample.moved (Sample.start.after Sample.halfRun)).state.OwnUnselected Sample.moved := by
  obtain ⟨files, -, expiry⟩ := timeout_certificates_fail_on_own_timeouts_only Sample.started
    Sample.halfRun_checked Sample.halfRun_continues Sample.moved_recovers
  have refused := Sample.handleExpiry_half
  rw [← Sample.after_halfRun] at refused
  exact ⟨Sample.halfRun_checked, Sample.halfRun_continues, Sample.moved_recovers, files, expiry _ refused⟩

end MasternodeBft
