import MasternodeBft.Proofs.Attestation
import MasternodeBft.Proofs.Outcomes
import MasternodeBft.Proofs.Run

/-!
What refusals leave behind. A step that is refused has sent nothing, and of a message that is refused
nothing stays but itself, in its pool, if it has passed its check.
-/

namespace MasternodeBft

namespace Action

variable {α β : Type} {state : EngineState} {left : ConsensusError → EngineState → Prop}

theorem refused_of_bind {first : Action α} {next : α → Action β} {error : ConsensusError}
    (refused : ((first >>= next) state).ending = .refused error) :
    (first state).ending = .refused error ∨
      ∃ value, (first state).ending = .done value ∧ (next value (first state).state).ending = .refused error := by
  cases ended : (first state).ending with
  | done value =>
    rw [bind_of_done ended] at refused
    exact .inr ⟨value, rfl, refused⟩
  | refused cause =>
    rw [bind_of_refused ended] at refused
    cases refused
    exact .inl rfl
  | overflowed =>
    rw [bind_of_overflowed ended] at refused
    cases refused

def Unrefused (action : Action α) (state : EngineState) : Prop :=
  ∀ error, (action state).ending ≠ .refused error

theorem unrefused_pure (value : α) : (pure value : Action α).Unrefused state := fun _ same => nomatch same

theorem unrefused_note (notice : Notice) : (note notice).Unrefused state := fun _ same => nomatch same

theorem unrefused_read : read.Unrefused state := fun _ same => nomatch same

theorem unrefused_bind {first : Action α} {next : α → Action β} (begins : first.Unrefused state)
    (continues : ∀ value, (next value).Unrefused (first state).state) : (first >>= next).Unrefused state := by
  intro error refused
  rcases refused_of_bind refused with early | ⟨value, -, late⟩
  · exact begins error early
  · exact continues value error late

theorem unrefused_ite {condition : Prop} [Decidable condition] {first second : Action α}
    (holds : condition → first.Unrefused state) (fails : ¬condition → second.Unrefused state) :
    (if condition then first else second).Unrefused state := by
  by_cases met : condition
  · rw [if_pos met]
    exact holds met
  · rw [if_neg met]
    exact fails met

/-- If a step is refused, it has sent nothing, and the reason and the state that it leaves are of a certain
kind. -/
def LeavesBehind (left : ConsensusError → EngineState → Prop) (action : Action α) (state : EngineState) : Prop :=
  ∀ error, (action state).ending = .refused error →
    left error (action state).state ∧ outward (action state).effects = []

theorem Unrefused.leavesBehind {action : Action α} (unrefused : action.Unrefused state) :
    action.LeavesBehind left state := fun error refused => absurd refused (unrefused error)

theorem leavesBehind_ofCheck {check : Check α} (stays : ∀ error, check.ending = .refused error → left error state) :
    (ofCheck check).LeavesBehind left state :=
  fun error refused => ⟨stays error refused, outward_notices check.notices⟩

theorem leavesBehind_ite {condition : Prop} [Decidable condition] {first second : Action α}
    (holds : condition → first.LeavesBehind left state) (fails : ¬condition → second.LeavesBehind left state) :
    (if condition then first else second).LeavesBehind left state := by
  by_cases met : condition
  · rw [if_pos met]
    exact holds met
  · rw [if_neg met]
    exact fails met

theorem leavesBehind_bind {first : Action α} {next : α → Action β} (begins : first.LeavesBehind left state)
    (silent : outward (first state).effects = [])
    (continues : ∀ value, (first state).ending = .done value → (next value).LeavesBehind left (first state).state) :
    (first >>= next).LeavesBehind left state := by
  intro error refused
  rcases refused_of_bind refused with early | ⟨value, done, late⟩
  · rw [bind_of_refused early]
    exact begins error early
  · rw [bind_of_done done, outward_append, silent]
    exact continues value done error late

theorem leavesBehind_read_bind {next : EngineState → Action β}
    (continues : (next state).LeavesBehind left state) : (read >>= next).LeavesBehind left state := continues

theorem leavesBehind_note_bind {notice : Notice} {next : Unit → Action β}
    (continues : (next ()).LeavesBehind left state) : (note notice >>= next).LeavesBehind left state := continues

theorem leavesBehind_check_bind {check : Check α} {next : α → Action β}
    (stays : ∀ error, check.ending = .refused error → left error state)
    (continues : ∀ value, check.ending = .done value → (next value).LeavesBehind left state) :
    (ofCheck check >>= next).LeavesBehind left state :=
  leavesBehind_bind (leavesBehind_ofCheck stays) (outward_notices check.notices) continues

theorem LeavesBehind.bind_unrefused {first : Action α} {next : α → Action β}
    (begins : first.LeavesBehind left state)
    (continues : ∀ value, (next value).Unrefused (first state).state) :
    (first >>= next).LeavesBehind left state := by
  intro error refused
  rcases refused_of_bind refused with early | ⟨value, -, late⟩
  · rw [bind_of_refused early]
    exact begins error early
  · exact absurd late (continues value error)

theorem LeavesBehind.mono {action : Action α} {wider : ConsensusError → EngineState → Prop}
    (leaves : action.LeavesBehind left state) (included : ∀ error after, left error after → wider error after) :
    action.LeavesBehind wider state :=
  fun error refused => (leaves error refused).imp_left (included _ _)

theorem LeavesBehind.notingRefusal {notice : EngineState → ConsensusError → Notice} {action : Action α}
    (leaves : action.LeavesBehind left state) : (notingRefusal notice action).LeavesBehind left state := by
  obtain ⟨ending, after, sent⟩ := notingRefusal_agrees notice action state
  intro error refused
  rw [ending] at refused
  rw [after, sent]
  exact leaves error refused

theorem attempt_unrefused (action : Action α) : (attempt action).Unrefused state := by
  intro error refused
  unfold attempt at refused
  cases ended : (action state).ending <;> simp [ended] at refused

theorem attempt_ofCheck_done {check : Check α} {value : α}
    (passed : (attempt (ofCheck check) state).ending = .done (.ok value)) : check.ending = .done value := by
  unfold attempt ofCheck at passed
  cases ended : check.ending <;> simp_all

theorem attempt_ofCheck_state (check : Check α) : (attempt (ofCheck check) state).state = state := by
  rw [attempt_ofCheck]
  rfl

theorem attempt_ofCheck_sent (check : Check α) : outward (attempt (ofCheck check) state).effects = [] := by
  rw [attempt_ofCheck]
  exact outward_notices check.notices

end Action

namespace Check

theorem add_unrefused (left right : UInt64) (error : ConsensusError) : (add left right).ending ≠ .refused error := by
  unfold add
  split <;> exact nofun

theorem refused_of_bind {α β : Type} {first : Check α} {next : α → Check β} {error : ConsensusError}
    (refused : (first >>= next).ending = .refused error) :
    first.ending = .refused error ∨
      ∃ value, first.ending = .done value ∧ (next value).ending = .refused error := by
  rw [ending_bind] at refused
  cases ended : first.ending with
  | done value =>
    rw [ended] at refused
    exact .inr ⟨value, rfl, refused⟩
  | refused cause =>
    rw [ended] at refused
    cases refused
    exact .inl rfl
  | overflowed =>
    rw [ended] at refused
    cases refused

end Check

namespace Engine

open MasternodeBft.Action

variable {setting : Setting} {state : EngineState}

/-! Certificates are refused by their checks alone. -/

theorem leaveRound_unrefused (round : Round) : (leaveRound setting round).Unrefused state := by
  intro error refused
  rw [leaveRound_eq] at refused
  split at refused
  · split at refused
    · rw [enterRound_ending] at refused
      cases refused
    · cases refused
  · cases refused

theorem process_leavesBehind (cert : AnyCert) :
    (process setting cert).LeavesBehind
      (fun error after => (verifyCert setting cert).ending = .refused error ∧ after = state) state := by
  refine leavesBehind_read_bind (leavesBehind_ite (fun _ => (unrefused_note _).leavesBehind) fun fresh => ?_)
  refine leavesBehind_check_bind (fun _ refused => ⟨refused, rfl⟩) fun _ _ => Unrefused.leavesBehind fun error => ?_
  rw [adopt_eq (UInt64.not_le.mp fresh)]
  exact leaveRound_unrefused cert.round error

/-! Collection. -/

/-- Why a bucket is not made a certificate: its masternodes are not known, or the certificate does not pass. -/
inductive CertifyRefusal (setting : Setting) (signed : Signed) (count : Nat) (cert : AnyCert)
    (error : ConsensusError) : Prop
  | unselected (refused : (snapshot setting signed.gapNumber).ending = .refused error)
  | uncertified (found : Snapshot) (selected : (snapshot setting signed.gapNumber).ending = .done found)
      (reached : thresholdReached count found.masternodes.length
        (setting.configAt signed.round).certThreshold = true)
      (refused : (verifyCert setting cert).ending = .refused error)

theorem leavesBehind_addTo_bind {β Object Key Signer : Type} [DecidableEq Key] [DecidableEq Signer]
    [Poolable Object Key Signer] {pool : EngineState → Pool Object Key Signer}
    {replace : EngineState → Pool Object Key Signer → EngineState} {object : Object}
    {next : Nat × Bucket Object Signer → Action β} {left : ConsensusError → EngineState → Prop}
    (continues : (next ((pool state).collect object).1).LeavesBehind left (replace state ((pool state).add object))) :
    (addTo pool replace object >>= next).LeavesBehind left state := continues

theorem certify_leavesBehind (signed : Signed) (count : Nat) (cert : AnyCert) :
    (certify setting signed count cert).LeavesBehind
      (fun error after => CertifyRefusal setting signed count cert error ∧ after = state) state := by
  refine leavesBehind_check_bind (fun error refused => ⟨.unselected refused, rfl⟩) fun found selected => ?_
  refine leavesBehind_ite (fun reached => leavesBehind_note_bind ?_) fun _ => (unrefused_pure ()).leavesBehind
  have formed : (form setting cert).LeavesBehind _ state :=
    (process_leavesBehind cert).notingRefusal.bind_unrefused fun _ => unrefused_note _
  refine formed.mono ?_
  rintro error after ⟨refused, rfl⟩
  exact ⟨.uncertified found selected reached refused, rfl⟩

/-- Why the collection of a vote is refused, and what it leaves: the vote is too far ahead, and is not kept;
or it is kept, but its bucket is not made a certificate. -/
inductive VoteRefusal (setting : Setting) (state : EngineState) (vote : Vote) : ConsensusError → EngineState → Prop
  | tooFar (far : state.round.currentRound.toNat + 1 < vote.round.toNat) :
      VoteRefusal setting state vote (.roundTooFar vote.round state.round.currentRound) state
  | uncertified (error : ConsensusError)
      (refusal : CertifyRefusal setting (.vote vote) ((state.votes.add vote).bucket vote.key).length
        (.quorum (assembleQuorum setting vote ((state.votes.add vote).bucket vote.key))) error) :
      VoteRefusal setting state vote error { state with votes := state.votes.add vote }

theorem collectVote_leavesBehind (vote : Vote) :
    (collectVote setting vote).LeavesBehind (VoteRefusal setting state vote) state := by
  refine leavesBehind_read_bind (leavesBehind_ite (fun _ => (unrefused_note _).leavesBehind) fun _ => ?_)
  refine leavesBehind_check_bind (fun error refused => ?_) fun next added => ?_
  · exact absurd refused (Check.add_unrefused _ _ error)
  refine leavesBehind_ite (fun far => leavesBehind_ofCheck fun error refused => ?_) fun _ => ?_
  · obtain ⟨fits, same⟩ := Check.add_one_done added
    rw [same, UInt64.lt_iff_toNat_lt, Round.toNat_add_one fits] at far
    cases refused
    exact .tooFar far
  refine leavesBehind_addTo_bind (leavesBehind_note_bind (leavesBehind_read_bind ?_))
  refine leavesBehind_ite (fun _ => ?_) fun _ => (unrefused_pure ()).leavesBehind
  refine (certify_leavesBehind _ _ _).mono ?_
  rintro error after ⟨refusal, rfl⟩
  exact .uncertified error refusal

/-- Why the collection of a timeout is refused, and what it leaves: the timeout is of another round, and is
not kept; or it is kept, but its bucket is not made a certificate. -/
inductive TimeoutRefusal (setting : Setting) (state : EngineState) (timeout : Timeout) :
    ConsensusError → EngineState → Prop
  | mismatch (other : timeout.round ≠ state.round.currentRound) :
      TimeoutRefusal setting state timeout (.roundMismatch timeout.round state.round.currentRound) state
  | uncertified (error : ConsensusError)
      (refusal : CertifyRefusal setting (.timeout timeout) ((state.timeouts.add timeout).bucket timeout.key).length
        (.timeout (assembleTimeoutCert setting timeout ((state.timeouts.add timeout).bucket timeout.key))) error) :
      TimeoutRefusal setting state timeout error { state with timeouts := state.timeouts.add timeout }

theorem collectTimeout_leavesBehind (timeout : Timeout) :
    (collectTimeout setting timeout).LeavesBehind (TimeoutRefusal setting state timeout) state := by
  refine leavesBehind_read_bind (leavesBehind_ite (fun other => leavesBehind_ofCheck fun error refused => ?_) ?_)
  · cases refused
    exact .mismatch other
  intro _
  refine leavesBehind_addTo_bind (leavesBehind_note_bind ?_)
  refine (certify_leavesBehind _ _ _).mono ?_
  rintro error after ⟨refusal, rfl⟩
  exact .uncertified error refusal

/-! A bundle that has passed its check cannot be refused any more. -/

theorem verified_of_verifySyncInfo {bundle : SyncInfo} {known : RoundState}
    (passed : (verifySyncInfo setting known bundle).ending = .done true) :
    (verifyQuorum setting bundle.quorumCert).ending = .done () ∧
      ∀ cert ∈ bundle.timeoutCert, (verifyTimeoutCert setting cert).ending = .done () := by
  unfold verifySyncInfo at passed
  by_cases dominated : known.dominates bundle = true
  · rw [if_pos dominated] at passed
    cases passed
  · rw [if_neg dominated, Check.bind_unit_done_iff] at passed
    refine ⟨passed.1, fun cert present => ?_⟩
    have rest := passed.2
    rw [Option.mem_def.mp present] at rest
    exact (Check.bind_unit_done_iff.mp rest).1

theorem takeUp_unrefused {bundle : SyncInfo} (quorum : (verifyQuorum setting bundle.quorumCert).ending = .done ())
    (timeout : ∀ cert ∈ bundle.timeoutCert, (verifyTimeoutCert setting cert).ending = .done ()) :
    (takeUp setting bundle).Unrefused state := by
  refine unrefused_ite (fun _ => unrefused_note _) fun _ => unrefused_bind ?_ fun _ => ?_
  · intro error refused
    cases quorum.symm.trans (process_leavesBehind _ error refused).1.1
  · cases present : bundle.timeoutCert with
    | none => exact unrefused_pure ()
    | some cert =>
      intro error refused
      cases (timeout cert present).symm.trans (process_leavesBehind (.timeout cert) error refused).1.1

theorem receiveSyncInfo_leavesBehind (bundle : SyncInfo) :
    (receiveSyncInfo setting bundle).LeavesBehind (fun _ after => after = state) state := by
  apply leavesBehind_read_bind
  apply leavesBehind_bind (attempt_unrefused _).leavesBehind (attempt_ofCheck_sent _)
  intro verdict passed
  rw [attempt_ofCheck_state]
  match verdict with
  | .ok true =>
    obtain ⟨quorum, timeout⟩ := verified_of_verifySyncInfo (attempt_ofCheck_done passed)
    exact leavesBehind_addTo_bind (takeUp_unrefused quorum timeout).leavesBehind
  | .ok false => exact (unrefused_pure ()).leavesBehind
  | .error cause =>
    refine leavesBehind_ite (fun _ => leavesBehind_note_bind ?_) fun _ => leavesBehind_ofCheck fun _ _ => rfl
    exact leavesBehind_addTo_bind (unrefused_note _).leavesBehind

end Engine

/-- What a refused message can leave behind: the state as it was, or one more object in a pool, which is the
message itself with its signer, once that has passed its check. -/
inductive Message.Residue (setting : Setting) (state : EngineState) : Message → EngineState → Prop
  | nothing (message : Message) : Residue setting state message state
  | vote (vote : Vote) (signer : Address)
      (passed : (Engine.verifyVote setting state.round.currentRound vote).ending = .done (some signer))
      (recovered : setting.authority.recover vote.payload.digest vote.signature = .ok signer) :
      Residue setting state (.vote vote) { state with votes := state.votes.add { vote with signer } }
  | timeout (timeout : Timeout) (signer : Address)
      (passed : (Engine.verifyTimeout setting state.round.currentRound timeout).ending = .done (some signer))
      (recovered : setting.authority.recover timeout.payload.digest timeout.signature = .ok signer) :
      Residue setting state (.timeout timeout) { state with timeouts := state.timeouts.add { timeout with signer } }

namespace Engine

open MasternodeBft.Action

variable {setting : Setting} {state : EngineState}

theorem handleSigned_leavesBehind {left : ConsensusError → EngineState → Prop} (signed : Signed)
    (nothing : ∀ error, left error state)
    (collects : ∀ signer, (verifySigned setting state.round.currentRound signed).ending = .done (some signer) →
      (collect setting (signed.signedBy signer)).LeavesBehind left state) :
    (handleSigned setting signed).LeavesBehind left state := by
  apply leavesBehind_read_bind
  apply leavesBehind_check_bind (fun error _ => nothing error)
  intro found passed
  cases found with
  | none => exact (unrefused_pure ()).leavesBehind
  | some signer => exact collects signer passed

theorem handleSigned_residue (signed : Signed) :
    (handleSigned setting signed).LeavesBehind (fun _ => signed.message.Residue setting state) state := by
  refine handleSigned_leavesBehind signed (fun _ => .nothing _) fun signer passed => ?_
  have genuine := (verifySigned_done_iff.mp passed).2.genuine
  cases signed with
  | vote vote =>
    apply (collectVote_leavesBehind _).mono
    intro error after refusal
    cases refusal with
    | tooFar => exact .nothing _
    | _ => exact .vote vote signer passed genuine
  | timeout timeout =>
    apply (collectTimeout_leavesBehind _).mono
    intro error after refusal
    cases refusal with
    | mismatch => exact .nothing _
    | _ => exact .timeout timeout signer passed genuine

theorem refused_of_found {α : Type} {check : Check (Option α)} {next : Option α → Action Unit}
    {error : ConsensusError} (silent : next none = pure ())
    (refused : ((ofCheck check >>= next) state).ending = .refused error) :
    check.ending = .refused error ∨
      ∃ found, check.ending = .done (some found) ∧ (next (some found) state).ending = .refused error := by
  rcases refused_of_bind refused with unverified | ⟨found, passed, rest⟩
  · exact .inl unverified
  · cases found with
    | none =>
      rw [silent] at rest
      cases rest
    | some found => exact .inr ⟨found, passed, rest⟩

theorem handleSigned_of_verified {signed : Signed} {signer : Address}
    (passed : (verifySigned setting state.round.currentRound signed).ending = .done (some signer)) :
    (handleSigned setting signed state).Agrees (collect setting (signed.signedBy signer) state) :=
  agrees_of_done passed

theorem handleSigned_refused {signed : Signed} {error : ConsensusError}
    (refused : (handleSigned setting signed state).ending = .refused error) :
    (verifySigned setting state.round.currentRound signed).ending = .refused error ∨
      ∃ signer, (verifySigned setting state.round.currentRound signed).ending = .done (some signer) ∧
        (collect setting (signed.signedBy signer) state).ending = .refused error :=
  refused_of_found rfl refused

end Engine

/-! A vote that completes a certificate for a block which has not arrived yet. -/

namespace Sample

def vote (round signer : UInt8) : Vote :=
  ⟨block round, 0, sign (VotePayload.digest ⟨block round, 0⟩) signer, address signer⟩

/-- No block is known, and there is one masternode. -/
def emptyChain : ChainView where
  head := Header.zero
  header? _ := none
  snapshot gapNumber := .ok ⟨gapNumber, [address 1]⟩
  epochSwitch header := .ok ⟨header.blockInfo, [address 1]⟩

def early : Setting := { setting with chain := emptyChain }

theorem vote_genuine (round signer : UInt8) : (vote round signer).attestation.Genuine early :=
  recover_sign (VotePayload.digest ⟨block round, 0⟩) signer

theorem verifyVote_early {current : Round} {round : UInt8} (fresh : current ≤ round.toUInt64) :
    (Engine.verifyVote early current (vote round 1)).ending = .done (some (address 1)) := by
  apply Engine.verifySigned_done_iff.mpr
  exact ⟨fresh, vote_genuine round 1, ⟨0, [address 1]⟩, rfl, List.mem_singleton.mpr rfl⟩

end Sample

namespace Engine

variable {setting : Setting} {state : EngineState}

/-- Of a message that is refused nothing leaves the node, and nothing stays but the message in its pool, and
that only if it is a vote or a timeout that has passed its check. -/
theorem refused_message_leaves_no_trace {message : Message} {error : ConsensusError}
    (refused : (handleMessage setting message state).ending = .refused error) :
    message.Residue setting state (handleMessage setting message state).state ∧
      outward (handleMessage setting message state).effects = [] := by
  cases message with
  | vote vote => exact handleSigned_residue (.vote vote) error refused
  | timeout timeout => exact handleSigned_residue (.timeout timeout) error refused
  | syncInfo bundle =>
    obtain ⟨kept, sent⟩ := receiveSyncInfo_leavesBehind bundle error refused
    refine ⟨?_, sent⟩
    change (Message.syncInfo bundle).Residue setting state (receiveSyncInfo setting bundle state).state
    rw [kept]
    exact .nothing _

/-- The certificate is refused, and the vote stays. -/
theorem refused_vote_stays_in_pool :
    (handleMessage Sample.early (.vote (Sample.vote 1 1)) Sample.start).ending =
        .refused (.blockNotSynced 1 (Sample.block 1).hash) ∧
      (handleMessage Sample.early (.vote (Sample.vote 1 1)) Sample.start).state =
        { Sample.start with votes := Sample.start.votes.add (Sample.vote 1 1) } ∧
      (Message.vote (Sample.vote 1 1)).Residue Sample.early Sample.start
        (handleMessage Sample.early (.vote (Sample.vote 1 1)) Sample.start).state ∧
      outward (handleMessage Sample.early (.vote (Sample.vote 1 1)) Sample.start).effects = [] := by
  have passed : (verifyVote Sample.early Sample.start.round.currentRound (Sample.vote 1 1)).ending =
      .done (some (Sample.address 1)) := Sample.verifyVote_early (by decide)
  obtain ⟨ending, after⟩ := handleSigned_of_verified passed
  have refused : (handleMessage Sample.early (.vote (Sample.vote 1 1)) Sample.start).ending =
      .refused (.blockNotSynced 1 (Sample.block 1).hash) := ending.trans rfl
  exact ⟨refused, after.trans rfl, refused_message_leaves_no_trace refused⟩

end Engine

end MasternodeBft
