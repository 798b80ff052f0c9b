import MasternodeBft.Proofs.Provenance
import MasternodeBft.Proofs.Refusal

/-!
Certificates that nodes make of what they have collected. A bucket whose entries are in order makes a
certificate that is signed by enough masternodes as soon as it reaches the threshold, so a certificate of
votes can only be refused for its block.
-/

namespace MasternodeBft

section Buckets

variable {setting : Setting}

/-- The signatures of a bucket endorse what they are all over, if those of its signers are in order. -/
theorem endorsed_of_bucket {Object : Type} {bucket : Bucket Object Address} {digest : Digest}
    {gapNumber : UInt64} {round : Round} {signature : Object → Signature} {found : Snapshot}
    (order : VisitOrder Object) (unique : bucket.keys.Nodup) (present : bucket ≠ [])
    (holds : ∀ entry ∈ bucket, Attestation.Holds ⟨digest, signature entry.2, gapNumber, entry.1⟩ setting)
    (selected : (Engine.snapshot setting gapNumber).ending = .done found)
    (reached : thresholdReached bucket.length found.masternodes.length
      (setting.configAt round).certThreshold = true) :
    Endorsed setting digest ((order.arrange bucket.values).map signature) gapNumber round := by
  obtain ⟨chosen, some⟩ := Engine.snapshot_done_iff.mp selected
  have genuine : ∀ entry ∈ bucket, setting.authority.recover digest (signature entry.2) = .ok entry.1 :=
    fun entry listed => (holds entry listed).genuine
  have members : ∀ entry ∈ bucket, entry.1 ∈ found.masternodes := by
    intro entry listed
    obtain ⟨snapshot, other, member⟩ := (holds entry listed).selected
    cases Except.ok.inj (chosen.symm.trans other)
    exact member
  refine ⟨?_, found, chosen, some, (Certificate.verify_bucket_iff order unique genuine).mpr ⟨reached, members⟩⟩
  have count : ((order.arrange bucket.values).map signature).length = bucket.length := by
    rw [List.length_map, (order.perm bucket.values).length_eq]
    exact List.length_map _
  intro unsigned
  rw [unsigned] at count
  exact present (List.length_eq_zero_iff.mp count.symm)

theorem bucket_add_ne_nil {Object Key Signer : Type} [DecidableEq Key] [DecidableEq Signer]
    [Poolable Object Key Signer] (pool : Pool Object Key Signer) (object : Object) :
    (pool.add object).bucket (Poolable.key object) ≠ [] := by
  rw [Pool.bucket_add, if_pos rfl]
  exact List.ne_nil_of_mem (Entries.mem_put_self _ _ _)

theorem Vote.payload_of_key {vote other : Vote} (same : other.key = vote.key) : other.payload = vote.payload := by
  obtain ⟨⟨_, _, _⟩, _, _, _⟩ := vote
  obtain ⟨⟨_, _, _⟩, _, _, _⟩ := other
  simp only [Vote.key, VoteKey.mk.injEq] at same
  obtain ⟨rfl, rfl, rfl, rfl⟩ := same
  rfl

theorem Timeout.payload_of_key {timeout other : Timeout} (same : other.key = timeout.key) :
    other.payload = timeout.payload := by
  obtain ⟨_, _, _, _⟩ := timeout
  obtain ⟨_, _, _, _⟩ := other
  simp only [Timeout.key, TimeoutKey.mk.injEq] at same
  obtain ⟨rfl, rfl⟩ := same
  rfl

theorem assembleQuorum_endorsed {pool : VotePool} {vote : Vote} {found : Snapshot}
    (files : pool.Files fun vote => vote.attestation.Holds setting) (unique : pool.OnePerSigner)
    (present : pool.bucket vote.key ≠ [])
    (selected : (Engine.snapshot setting vote.gapNumber).ending = .done found)
    (reached : thresholdReached (pool.bucket vote.key).length found.masternodes.length
      (setting.configAt vote.round).certThreshold = true) :
    let cert := Engine.assembleQuorum setting vote (pool.bucket vote.key)
    Endorsed setting cert.payload.digest cert.signatures cert.gapNumber cert.round := by
  refine endorsed_of_bucket setting.voteOrder (unique vote.key) present ?_ selected reached
  intro entry listed
  change Attestation.Holds ⟨vote.payload.digest, entry.2.signature, vote.gapNumber, entry.1⟩ setting
  obtain ⟨holds, key, signer⟩ := files vote.key entry listed
  have payload := Vote.payload_of_key key
  rw [← payload, ← signer, show vote.gapNumber = entry.2.gapNumber from congrArg VotePayload.gapNumber payload.symm]
  exact holds

theorem assembleTimeoutCert_endorsed {pool : TimeoutPool} {timeout : Timeout} {found : Snapshot}
    (unique : pool.OnePerSigner) (present : pool.bucket timeout.key ≠ [])
    (holds : ∀ entry ∈ pool.bucket timeout.key, entry.2.key = timeout.key ∧ entry.2.signer = entry.1 ∧
      entry.2.attestation.Holds setting)
    (selected : (Engine.snapshot setting timeout.gapNumber).ending = .done found)
    (reached : thresholdReached (pool.bucket timeout.key).length found.masternodes.length
      (setting.configAt timeout.round).certThreshold = true) :
    let cert := Engine.assembleTimeoutCert setting timeout (pool.bucket timeout.key)
    Endorsed setting cert.payload.digest cert.signatures cert.gapNumber cert.round := by
  refine endorsed_of_bucket setting.timeoutOrder (unique timeout.key) present ?_ selected reached
  intro entry listed
  change Attestation.Holds ⟨timeout.payload.digest, entry.2.signature, timeout.gapNumber, entry.1⟩ setting
  obtain ⟨key, signer, holds⟩ := holds entry listed
  have payload := Timeout.payload_of_key key
  rw [← payload, ← signer,
    show timeout.gapNumber = entry.2.gapNumber from congrArg TimeoutPayload.gapNumber payload.symm]
  exact holds

end Buckets

namespace Engine

variable {setting : Setting}

theorem verifyQuorum_refused_of_endorsed {cert : QuorumCert} {error : ConsensusError}
    (endorsed : Endorsed setting cert.payload.digest cert.signatures cert.gapNumber cert.round)
    (refused : (verifyQuorum setting cert).ending = .refused error) :
    (verifyBlock setting cert.block).ending = .refused error := by
  have unverified : (verifyQuorum setting cert).ending ≠ .done () := by
    rw [refused]
    exact nofun
  have nonzero : cert.round ≠ 0 := fun zero => unverified (verifyQuorum_done_iff.mpr (.inl zero))
  unfold verifyQuorum at refused
  rw [if_neg nonzero, if_neg (List.isEmpty_iff.not.mpr endorsed.signed)] at refused
  rcases Check.refused_of_bind refused with block | ⟨_, block, -⟩
  · exact block
  · have certified : cert.Certified setting :=
      ⟨UInt64.pos_iff_ne_zero.mpr nonzero, verifyBlock_done_iff.mp block, endorsed⟩
    exact absurd (verifyQuorum_done_iff.mpr (.inr certified)) unverified

theorem verifyBlock_refused {block : BlockInfo} {error : ConsensusError}
    (refused : (verifyBlock setting block).ending = .refused error) :
    (setting.chain.header? block.hash = none ∧ error = .blockNotSynced block.number block.hash) ∨
      ∃ header, setting.chain.header? block.hash = some header ∧
        (header.number ≠ block.number ∨ header.round ≠ block.round) ∧ error = .invalidQuorum := by
  unfold verifyBlock at refused
  cases known : setting.chain.header? block.hash with
  | none =>
    rw [known] at refused
    cases refused
    exact .inl ⟨rfl, rfl⟩
  | some header =>
    rw [known] at refused
    by_cases differs : header.number ≠ block.number ∨ header.round ≠ block.round
    · simp only [differs, ↓reduceIte] at refused
      cases refused
      exact .inr ⟨header, rfl, differs, rfl⟩
    · simp only [differs, ↓reduceIte] at refused
      cases refused

theorem snapshot_refused {gapNumber : UInt64} {error : ConsensusError}
    (refused : (snapshot setting gapNumber).ending = .refused error) :
    (∃ cause, error = .chain cause) ∨ error = .emptyMasternodes gapNumber := by
  unfold snapshot at refused
  cases found : setting.chain.snapshot gapNumber with
  | error cause =>
    rw [found] at refused
    cases refused
    exact .inl ⟨cause, rfl⟩
  | ok snapshot =>
    rw [found] at refused
    by_cases empty : snapshot.masternodes.isEmpty = true
    · simp only [empty, ↓reduceIte] at refused
      cases refused
      exact .inr rfl
    · simp only [empty] at refused
      cases refused

theorem verifySigner_refused {signed : Signed} {error : ConsensusError}
    (refused : (verifySigner setting signed).ending = .refused error) :
    (∃ cause, error = .chain cause) ∨ error = .emptyMasternodes signed.gapNumber ∨
      ∃ cause, error = .crypto cause := by
  unfold verifySigner at refused
  rcases Check.refused_of_bind refused with missing | ⟨found, -, rest⟩
  · exact (snapshot_refused missing).imp_right .inl
  · cases recovered : setting.authority.recover signed.payloadDigest signed.signature with
    | error cause =>
      simp only [recovered] at rest
      cases rest
      exact .inr (.inr ⟨cause, rfl⟩)
    | ok signer =>
      simp only [recovered] at rest
      split at rest <;> cases rest

end Engine

/-- What can be wrong with a vote that has passed its check: it is too far ahead to be kept, or it completes
a certificate for a block that is not known, or that is known with another number or round. -/
inductive Vote.Fault (setting : Setting) (current : Round) (vote : Vote) : ConsensusError → Prop
  | tooFar (far : current.toNat + 1 < vote.round.toNat) : Fault setting current vote (.roundTooFar vote.round current)
  | unknownBlock (unknown : setting.chain.header? vote.block.hash = none) :
      Fault setting current vote (.blockNotSynced vote.block.number vote.block.hash)
  | otherBlock (header : Header) (known : setting.chain.header? vote.block.hash = some header)
      (differs : header.number ≠ vote.block.number ∨ header.round ≠ vote.block.round) :
      Fault setting current vote .invalidQuorum

namespace Vote.Fault

variable {setting : Setting} {current : Round} {vote : Vote} {error : ConsensusError}

theorem not_signatures (fault : vote.Fault setting current error) (cause : CertificateError) :
    error ≠ .invalidQuorumSignatures cause := by
  cases fault <;> exact nofun

theorem of_signer {signer : Address} (fault : Fault setting current { vote with signer } error) :
    vote.Fault setting current error := by
  cases fault with
  | tooFar far => exact .tooFar far
  | unknownBlock unknown => exact .unknownBlock unknown
  | otherBlock header known differs => exact .otherBlock header known differs

end Vote.Fault

namespace Engine

open MasternodeBft.Action

variable {setting : Setting} {state : EngineState}

/-- Among votes that are in order, one that is in order is not refused for signatures. -/
theorem collectVote_fault (files : state.votes.Files fun vote => vote.attestation.Holds setting)
    (unique : state.votes.OnePerSigner) {vote : Vote} (holds : vote.attestation.Holds setting)
    {error : ConsensusError} (refused : (collectVote setting vote state).ending = .refused error) :
    vote.Fault setting state.round.currentRound error := by
  obtain ⟨refusal, -⟩ := collectVote_leavesBehind vote error refused
  generalize (collectVote setting vote state).state = after at refusal
  cases refusal with
  | tooFar far => exact .tooFar far
  | uncertified _ refusal =>
    cases refusal with
    | unselected missing =>
      obtain ⟨found, present, -⟩ := snapshot_of_selected holds.selected
      cases present.symm.trans missing
    | uncertified found selected reached unverified =>
      have present : (state.votes.add vote).bucket vote.key ≠ [] := bucket_add_ne_nil state.votes vote
      have endorsed := assembleQuorum_endorsed (files.add holds) (unique.add vote) present selected reached
      have block := verifyQuorum_refused_of_endorsed endorsed unverified
      rcases verifyBlock_refused block with
        ⟨unknown, rfl⟩ | ⟨header, known, differs, rfl⟩
      · exact .unknownBlock unknown
      · exact .otherBlock header known differs

/-! The collection of votes, step by step. -/

theorem certify_agrees (signed : Signed) (count : Nat) (cert : AnyCert) {found : Snapshot}
    (selected : (snapshot setting signed.gapNumber).ending = .done found) :
    (certify setting signed count cert state).Agrees
      (if thresholdReached count found.masternodes.length (setting.configAt signed.round).certThreshold = true then
        process setting cert state
      else ⟨.done (), state, []⟩) := by
  refine (agrees_of_done selected).trans ?_
  by_cases reached : thresholdReached count found.masternodes.length
      (setting.configAt signed.round).certThreshold = true
  · rw [if_pos reached, if_pos reached]
    exact (noted_before _ _).trans ((noted_after _ _).trans (notingRefusal_agrees _ _ _))
  · rw [if_neg reached, if_neg reached]
    exact ⟨rfl, rfl, rfl⟩

/-- Whether a vote is among others that make a certificate together, and such a one is still of use. -/
def CompletesQuorum (setting : Setting) (state : EngineState) (vote : Vote) (found : Snapshot) : Prop :=
  state.round.quorumRound < vote.round ∧
    thresholdReached (state.votes.bucket vote.key).length found.masternodes.length
      (setting.configAt vote.round).certThreshold = true

instance (vote : Vote) (found : Snapshot) : Decidable (CompletesQuorum setting state vote found) :=
  inferInstanceAs (Decidable (_ ∧ _))

section Collection

variable {vote : Vote}

theorem collectVote_of_last (current : state.round.currentRound ≤ vote.round)
    (last : ¬state.round.currentRound.HasNext) :
    (collectVote setting vote state).Agrees ⟨.overflowed, state, []⟩ := by
  change Outcome.Agrees ((if vote.round < state.round.currentRound then _ else _ : Action Unit) state) _
  rw [if_neg (UInt64.not_lt.mpr current), Check.add_one_of_not_hasNext last]
  exact ⟨rfl, rfl, rfl⟩

theorem collectVote_of_far (current : state.round.currentRound ≤ vote.round)
    (next : state.round.currentRound.HasNext) (far : state.round.currentRound + 1 < vote.round) :
    (collectVote setting vote state).Agrees
      ⟨.refused (.roundTooFar vote.round state.round.currentRound), state, []⟩ := by
  change Outcome.Agrees ((if vote.round < state.round.currentRound then _ else _ : Action Unit) state) _
  rw [if_neg (UInt64.not_lt.mpr current), Check.add_one_of_hasNext next]
  change Outcome.Agrees ((if state.round.currentRound + 1 < vote.round then _ else _ : Action Unit) state) _
  rw [if_pos far]
  exact ⟨rfl, rfl, rfl⟩

theorem collectVote_of_selected {found : Snapshot} (current : state.round.currentRound ≤ vote.round)
    (next : state.round.currentRound.HasNext) (near : ¬state.round.currentRound + 1 < vote.round)
    (selected : (snapshot setting vote.gapNumber).ending = .done found) :
    let pooled : EngineState := { state with votes := state.votes.add vote }
    (collectVote setting vote state).Agrees
      (if CompletesQuorum setting pooled vote found then
        process setting (.quorum (assembleQuorum setting vote (pooled.votes.bucket vote.key))) pooled
      else ⟨.done (), pooled, []⟩) := by
  intro pooled
  change Outcome.Agrees ((if vote.round < state.round.currentRound then _ else _ : Action Unit) state) _
  rw [if_neg (UInt64.not_lt.mpr current), Check.add_one_of_hasNext next]
  change Outcome.Agrees ((if state.round.currentRound + 1 < vote.round then _ else _ : Action Unit) state) _
  rw [if_neg near]
  let bucket := pooled.votes.bucket vote.key
  change Outcome.Agrees ((note (.collected (.vote vote) bucket.length) >>= fun _ =>
    if pooled.round.quorumRound < vote.round then
      certify setting (.vote vote) bucket.length (.quorum (assembleQuorum setting vote bucket))
    else pure () : Action Unit) pooled) _
  refine (noted_before _ _).trans ?_
  by_cases newer : pooled.round.quorumRound < vote.round
  · rw [if_pos newer]
    refine (certify_agrees _ _ _ selected).trans (.of_eq (if_congr ?_ rfl rfl))
    exact (and_iff_right newer).symm
  · rw [if_neg newer, if_neg fun completes => newer completes.1]
    exact ⟨rfl, rfl, rfl⟩

end Collection

theorem collectTimeout_of_current {timeout : Timeout} (current : timeout.round = state.round.currentRound) :
    let pooled : EngineState := { state with timeouts := state.timeouts.add timeout }
    let bucket := pooled.timeouts.bucket timeout.key
    (collectTimeout setting timeout state).Agrees
      (certify setting (.timeout timeout) bucket.length (.timeout (assembleTimeoutCert setting timeout bucket))
        pooled) := by
  intro pooled bucket
  change Outcome.Agrees ((if timeout.round ≠ state.round.currentRound then _ else _ : Action Unit) state) _
  rw [if_neg (not_not.mpr current)]
  exact ⟨rfl, rfl, rfl⟩

theorem collectTimeout_of_selected {timeout : Timeout} {found : Snapshot}
    (current : timeout.round = state.round.currentRound)
    (selected : (snapshot setting timeout.gapNumber).ending = .done found) :
    let pooled : EngineState := { state with timeouts := state.timeouts.add timeout }
    let bucket := pooled.timeouts.bucket timeout.key
    (collectTimeout setting timeout state).Agrees
      (if thresholdReached bucket.length found.masternodes.length
          (setting.configAt timeout.round).certThreshold = true then
        process setting (.timeout (assembleTimeoutCert setting timeout bucket)) pooled
      else ⟨.done (), pooled, []⟩) :=
  (collectTimeout_of_current current).trans (certify_agrees _ _ _ selected)

theorem collectTimeout_of_mismatch {timeout : Timeout} (other : timeout.round ≠ state.round.currentRound) :
    (collectTimeout setting timeout state).Agrees
      ⟨.refused (.roundMismatch timeout.round state.round.currentRound), state, []⟩ := by
  change Outcome.Agrees ((if timeout.round ≠ state.round.currentRound then _ else _ : Action Unit) state) _
  rw [if_pos other]
  exact ⟨rfl, rfl, rfl⟩

theorem collectTimeout_of_short {timeout : Timeout} {found : Snapshot}
    (current : timeout.round = state.round.currentRound)
    (selected : (snapshot setting timeout.gapNumber).ending = .done found)
    (short : thresholdReached ((state.timeouts.add timeout).bucket timeout.key).length found.masternodes.length
      (setting.configAt timeout.round).certThreshold = false) :
    (collectTimeout setting timeout state).Agrees
      ⟨.done (), { state with timeouts := state.timeouts.add timeout }, []⟩ :=
  (collectTimeout_of_selected current selected).trans (.of_eq (if_neg (Bool.eq_false_iff.mp short)))

theorem collectTimeout_of_reached {timeout : Timeout} {found : Snapshot}
    (current : timeout.round = state.round.currentRound)
    (selected : (snapshot setting timeout.gapNumber).ending = .done found)
    (reached : thresholdReached ((state.timeouts.add timeout).bucket timeout.key).length found.masternodes.length
      (setting.configAt timeout.round).certThreshold = true) :
    let pooled : EngineState := { state with timeouts := state.timeouts.add timeout }
    (collectTimeout setting timeout state).Agrees
      (process setting (.timeout (assembleTimeoutCert setting timeout (pooled.timeouts.bucket timeout.key)))
        pooled) :=
  (collectTimeout_of_selected current selected).trans (.of_eq (if_pos reached))

theorem collectTimeout_of_behind {timeout : Timeout} {found : Snapshot}
    (current : timeout.round = state.round.currentRound)
    (selected : (snapshot setting timeout.gapNumber).ending = .done found)
    (behind : timeout.round ≤ state.round.timeoutRound) :
    (collectTimeout setting timeout state).state = { state with timeouts := state.timeouts.add timeout } := by
  let pooled : EngineState := { state with timeouts := state.timeouts.add timeout }
  cases count : thresholdReached (pooled.timeouts.bucket timeout.key).length found.masternodes.length
      (setting.configAt timeout.round).certThreshold with
  | false => exact (collectTimeout_of_short current selected count).state
  | true =>
    let cert := AnyCert.timeout (assembleTimeoutCert setting timeout (pooled.timeouts.bucket timeout.key))
    have stale : (process setting cert pooled).state = pooled := by
      have old : cert.round ≤ cert.highest pooled.round := behind
      rw [process_eq, if_pos old]
    exact (collectTimeout_of_reached current selected count).state.trans stale

theorem verifySigned_refused {current : Round} {signed : Signed} {error : ConsensusError}
    (refused : (verifySigned setting current signed).ending = .refused error) (cause : CertificateError) :
    error ≠ .invalidQuorumSignatures cause ∧ error ≠ .invalidTimeoutSignatures cause := by
  unfold verifySigned at refused
  split at refused
  · cases refused
  · rcases verifySigner_refused refused with ⟨_, rfl⟩ | rfl | ⟨_, rfl⟩ <;> exact ⟨nofun, nofun⟩

end Engine

theorem Action.ofCheck_then_state {α : Type} (check : Check α) (state : EngineState) :
    ((ofCheck check >>= fun _ => pure () : Action Unit) state).state = state := by
  rcases check with ⟨ending, notices⟩
  cases ending <;> rfl

/-- The operation that checks a vote or a timeout. -/
def Signed.check : Signed → Operation
  | vote body => .verifyVote body
  | timeout body => .verifyTimeout body

theorem Step.next_check (signed : Signed) (setting : Setting) (state : EngineState) :
    Step.next ⟨signed.check, setting⟩ state = state := by
  have checks := Action.ofCheck_then_state (Engine.verifySigned setting state.round.currentRound signed) state
  cases signed <;> exact checks

/-! A vote that is checked, and handed over after another look at the state. -/

namespace Sample

def earlyRun : List Step :=
  [⟨.verifyVote (vote 1 1), early⟩, ⟨.look, early⟩, ⟨.collectVote (vote 1 1), early⟩]

theorem earlyRun_checks : Step.Checks ⟨.verifyVote (vote 1 1), early⟩ start (.vote (vote 1 1)) :=
  .vote (vote 1 1) (address 1) rfl (verifyVote_early (by decide))

theorem earlyRun_checked : HandsOverChecked .collectVote .vote start earlyRun := by
  have checked : HandsOverChecked .collectVote .vote start [⟨.verifyVote (vote 1 1), early⟩, ⟨.look, early⟩] :=
    HandsOverChecked.concat_iff.mpr ⟨HandsOverChecked.concat_iff.mpr ⟨.nil, nofun⟩, nofun⟩
  refine HandsOverChecked.concat_iff.mpr ⟨checked, fun object asked => ?_⟩
  cases asked
  exact ⟨[], _, [⟨.look, early⟩], rfl, earlyRun_checks⟩

theorem earlyRun_continues : ∀ step ∈ earlyRun, early.Continues step.setting := by
  apply continues_of_same
  intro step listed
  simp only [earlyRun, List.mem_cons, List.not_mem_nil, or_false] at listed
  rcases listed with rfl | rfl | rfl <;> rfl

theorem after_earlyRun : start.after earlyRun = { start with votes := start.votes.add (vote 1 1) } := by
  have checked : Step.next ⟨.verifyVote (vote 1 1), early⟩ start = start :=
    Step.next_check (.vote (vote 1 1)) early start
  unfold earlyRun EngineState.after
  rw [List.foldl_cons, checked]
  rfl

end Sample

/-- Where votes are checked before they are handed over, every pooled vote is that of a masternode that has
been selected at the gap number of its key; and of votes that have passed their check, none is refused for
the signatures of the certificate that it completes. -/
theorem vote_certificates_never_fail_on_signatures {cert : QuorumCert} {start : EngineState}
    (started : EngineState.start? cert = some start) (run : List Step)
    (checked : HandsOverChecked .collectVote .vote start run) {setting : Setting}
    (continues : ∀ step ∈ run, setting.Continues step.setting) :
    ((start.after run).votes.Files fun vote => vote.attestation.Holds setting) ∧
      (∀ vote error, CheckedIn start run (.vote vote) →
        (Engine.collectVote setting vote (start.after run)).ending = .refused error →
          vote.Fault setting (start.after run).round.currentRound error) ∧
      ∀ vote error, (Engine.handleMessage setting (.vote vote) (start.after run)).ending = .refused error →
        (∀ cause, error ≠ .invalidQuorumSignatures cause) ∧
          ((Engine.verifyVote setting (start.after run).round.currentRound vote).ending = .refused error ∨
            vote.Fault setting (start.after run).round.currentRound error) := by
  have files := votes_hold started checked continues
  have unique := (isPool_votes.tidy started run).unique
  refine ⟨files, fun vote error passed refused => ?_, fun vote error refused => ?_⟩
  · exact Engine.collectVote_fault files unique (holds_of_checked (.vote vote) continues passed) refused
  · rcases Engine.handleSigned_refused refused with unverified | ⟨signer, passed, rejected⟩
    · exact ⟨fun cause => (Engine.verifySigned_refused unverified cause).1, .inl unverified⟩
    · have fault := Engine.collectVote_fault files unique (Engine.verifySigned_done_iff.mp passed).2 rejected
      exact ⟨fault.not_signatures, .inr fault.of_signer⟩

/-- The block has not arrived, and nothing else is wrong. -/
theorem vote_certificate_fails_on_unknown_block :
    HandsOverChecked .collectVote .vote Sample.start Sample.earlyRun ∧
      (∀ step ∈ Sample.earlyRun, Sample.early.Continues step.setting) ∧
      ((Sample.start.after Sample.earlyRun).votes.Files fun vote => vote.attestation.Holds Sample.early) ∧
      CheckedIn Sample.start Sample.earlyRun (.vote (Sample.vote 1 1)) ∧
      (Engine.collectVote Sample.early (Sample.vote 1 1) (Sample.start.after Sample.earlyRun)).ending =
        .refused (.blockNotSynced 1 (Sample.block 1).hash) ∧
      (Sample.vote 1 1).Fault Sample.early 1 (.blockNotSynced 1 (Sample.block 1).hash) := by
  have checked : CheckedIn Sample.start Sample.earlyRun (.vote (Sample.vote 1 1)) :=
    ⟨[], _, _, rfl, Sample.earlyRun_checks⟩
  have refused : (Engine.collectVote Sample.early (Sample.vote 1 1) (Sample.start.after Sample.earlyRun)).ending =
      .refused (.blockNotSynced 1 (Sample.block 1).hash) := by
    rw [Sample.after_earlyRun]
    rfl
  obtain ⟨files, faults, -⟩ := vote_certificates_never_fail_on_signatures Sample.started Sample.earlyRun
    Sample.earlyRun_checked Sample.earlyRun_continues
  have fault := faults _ _ checked refused
  rw [Sample.after_earlyRun] at fault
  exact ⟨Sample.earlyRun_checked, Sample.earlyRun_continues, files, checked, refused, fault⟩

end MasternodeBft
