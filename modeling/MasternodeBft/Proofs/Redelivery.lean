import MasternodeBft.Proofs.Assembly
import MasternodeBft.Proofs.LastRound
import MasternodeBft.Proofs.Reception
import MasternodeBft.Proofs.Replay

/-!
Messages that come twice. What the first delivery has made of the state, the second one finds there: the
object is pooled already, its certificate is refused again or its round is over, and what a bundle brings is
known. So nothing happens any more, in whatever order pools are visited.
-/

namespace MasternodeBft

/-! Checks of single messages do not see the difference. -/

namespace Setting.Resembles

variable {other setting : Setting}

theorem symm (resembles : other.Resembles setting) : setting.Resembles other :=
  ⟨resembles.config.symm, resembles.authority.symm, resembles.chain.symm⟩

theorem snapshot (resembles : other.Resembles setting) (gapNumber : UInt64) :
    Engine.snapshot other gapNumber = Engine.snapshot setting gapNumber := by
  unfold Engine.snapshot
  rw [resembles.chain]

theorem configAt (resembles : other.Resembles setting) (round : Round) :
    other.configAt round = setting.configAt round :=
  Setting.configAt_of_config resembles.config round

theorem verifySigned (resembles : other.Resembles setting) (current : Round) (signed : Signed) :
    Engine.verifySigned other current signed = Engine.verifySigned setting current signed := by
  unfold Engine.verifySigned Engine.verifySigner
  rw [resembles.snapshot, resembles.authority]

theorem verifySyncInfo (resembles : other.Resembles setting) (state : RoundState) (bundle : SyncInfo) :
    Engine.verifySyncInfo other state bundle = Engine.verifySyncInfo setting state bundle := by
  obtain ⟨config, authority, chain, messagesTaken, commandsTaken, voteOrder, timeoutOrder, keyOrder,
    bundleOrder⟩ := setting
  obtain ⟨rfl, rfl, rfl⟩ := resembles
  rfl

end Setting.Resembles

/-! Certificates of the same signatures in another order. -/

namespace Certificate

theorem verify_perm_iff {recover : Recovery} {digest : Digest} {signatures others : List Signature}
    {masternodes : List Address} {threshold : Float} (same : others.Perm signatures) :
    verify recover digest others masternodes threshold = .ok () ↔
      verify recover digest signatures masternodes threshold = .ok () := by
  rw [verify_ok_iff, verify_ok_iff, (unique_perm fun _ => same.mem_iff).length_eq]
  exact and_congr_right fun _ => forall_congr' fun signature => imp_congr_left same.mem_iff

end Certificate

section Orders

variable {other setting : Setting}

theorem Endorsed.reordered {digest : Digest} {signatures others : List Signature} {gapNumber : UInt64} {round : Round}
    (resembles : other.Resembles setting) (same : others.Perm signatures)
    (endorsed : Endorsed setting digest signatures gapNumber round) :
    Endorsed other digest others gapNumber round where
  signed unsigned := endorsed.signed (List.nil_perm.mp (unsigned ▸ same))
  verified := by
    obtain ⟨snapshot, selected, some, verified⟩ := endorsed.verified
    refine ⟨snapshot, ?_, some, ?_⟩
    · rw [resembles.chain]
      exact selected
    · rw [resembles.authority, resembles.configAt, Certificate.verify_perm_iff same]
      exact verified

theorem QuorumCert.Certified.reordered {cert : QuorumCert} {others : List Signature}
    (resembles : other.Resembles setting) (same : others.Perm cert.signatures) (certified : cert.Certified setting) :
    QuorumCert.Certified { cert with signatures := others } other where
  positive := certified.positive
  known := by
    rw [resembles.chain]
    exact certified.known
  endorsed := certified.endorsed.reordered resembles same

theorem VisitOrder.perm_of_both {α β : Type} (first second : VisitOrder α) (read : α → β) (items : List α) :
    ((first.arrange items).map read).Perm ((second.arrange items).map read) :=
  ((first.perm items).trans (second.perm items).symm).map read

/-- The same certificate, but for the order of its signatures. -/
inductive AnyCert.Reorders : AnyCert → AnyCert → Prop
  | quorum (cert : QuorumCert) {others : List Signature} (same : others.Perm cert.signatures) :
      Reorders (.quorum { cert with signatures := others }) (.quorum cert)
  | timeout (cert : TimeoutCert) {others : List Signature} (same : others.Perm cert.signatures) :
      Reorders (.timeout { cert with signatures := others }) (.timeout cert)

namespace AnyCert

variable {cert otherCert : AnyCert}

theorem Reorders.round (reorders : otherCert.Reorders cert) : otherCert.round = cert.round := by
  cases reorders <;> rfl

theorem Reorders.highest (reorders : otherCert.Reorders cert) (state : RoundState) :
    otherCert.highest state = cert.highest state := by
  cases reorders <;> rfl

theorem Passes.reordered (resembles : other.Resembles setting) (reorders : otherCert.Reorders cert)
    (passes : cert.Passes setting) : otherCert.Passes other := by
  cases reorders with
  | quorum cert same =>
    apply Engine.verifyQuorum_done_iff.mpr
    exact (Engine.verifyQuorum_done_iff.mp passes).imp_right fun certified => certified.reordered resembles same
  | timeout cert same =>
    apply Engine.verifyTimeoutCert_done_iff.mpr
    exact (Engine.verifyTimeoutCert_done_iff.mp passes).reordered resembles same

end AnyCert

end Orders

/-! Outcomes of a second delivery. -/

inductive Ending.Alike {α : Type} : Ending α → Ending α → Prop
  | done (first second : α) : Alike (.done first) (.done second)
  | refused (first second : ConsensusError) : Alike (.refused first) (.refused second)

theorem Ending.Alike.refl {α : Type} {ending : Ending α} (returns : ending ≠ .overflowed) : ending.Alike ending := by
  cases ending with
  | done value => exact .done value value
  | refused error => exact .refused error error
  | overflowed => exact absurd rfl returns

/-- A second outcome of the same kind as a first one, after which it changes and sends nothing. -/
structure Outcome.Repeats (second first : Outcome Unit) : Prop where
  alike : first.ending.Alike second.ending
  idle : second.Idle first.state

namespace Engine

open MasternodeBft.Action

variable {setting other : Setting} {state : EngineState}

section Outcomes

variable {first : Outcome Unit} {again : EngineState → Outcome Unit} {ending secondEnding : Ending Unit}
  {settled pooled : EngineState} {cert otherCert : AnyCert}

theorem repeats_of_settled (once : first.ending = ending) (moved : first.state = settled)
    (twice : (again settled).Agrees ⟨secondEnding, settled, []⟩) (alike : ending.Alike secondEnding) :
    (again first.state).Repeats first := by
  rw [moved]
  refine ⟨?_, ?_⟩
  · rw [once, twice.ending]
    exact alike
  · rw [moved]
    exact ⟨twice.state, twice.sent⟩

theorem repeats_of_pooled {completes : Prop} [Decidable completes] (resembles : other.Resembles setting)
    (once : first.Agrees (if completes then process setting cert pooled else ⟨.done (), pooled, []⟩))
    (twice : (again pooled).Agrees (if completes then process other otherCert pooled else ⟨.done (), pooled, []⟩))
    (reorders : cert.Reorders otherCert)
    (past : ∀ later : EngineState, cert.round < later.round.currentRound → (again later).Agrees ⟨.done (), later, []⟩)
    (returns : first.ending ≠ .overflowed) : (again first.state).Repeats first := by
  by_cases enough : completes
  · rw [if_pos enough] at once twice
    have fate : Fate setting pooled cert (process setting cert pooled) := process_fate cert
    have otherFate : Fate other pooled otherCert (process other otherCert pooled) := process_fate otherCert
    by_cases fresh : cert.highest pooled.round < cert.round
    · have otherFresh : otherCert.highest pooled.round < otherCert.round := by
        rwa [← reorders.round, ← reorders.highest]
      by_cases passed : cert.Passes setting
      · obtain ⟨moved, ⟨next, done⟩ | ⟨-, overflowed⟩⟩ := fate.of_passed fresh passed
        · have gone :=
            past _ (EngineState.lt_leave_currentRound { pooled with round := pooled.round.install cert } next)
          exact repeats_of_settled (once.ending.trans done) (once.state.trans moved) gone (.done () ())
        · exact absurd (once.ending.trans overflowed) returns
      · have failed : ¬otherCert.Passes other := fun passes => passed (passes.reordered resembles.symm reorders)
        obtain ⟨error, rejected⟩ := fate.of_rejected fresh passed
        obtain ⟨otherError, otherRejected⟩ := otherFate.of_rejected otherFresh failed
        exact repeats_of_settled (once.trans rejected).ending (once.trans rejected).state
          (twice.trans otherRejected) (.refused error otherError)
    · have otherStale : ¬otherCert.highest pooled.round < otherCert.round := by
        rwa [← reorders.round, ← reorders.highest]
      have stale := once.trans (fate.of_stale fresh)
      exact repeats_of_settled stale.ending stale.state (twice.trans (otherFate.of_stale otherStale)) (.done () ())
  · rw [if_neg enough] at once twice
    exact repeats_of_settled once.ending once.state twice (.done () ())

end Outcomes

theorem collectVote_of_pooled (resembles : other.Resembles setting) {vote : Vote} {found : Snapshot}
    (current : state.round.currentRound ≤ vote.round) (next : state.round.currentRound.HasNext)
    (near : ¬state.round.currentRound + 1 < vote.round)
    (selected : (snapshot setting vote.gapNumber).ending = .done found)
    (kept : { state with votes := state.votes.add vote } = state) :
    (collectVote other vote state).Agrees
      (if CompletesQuorum setting state vote found then
        process other (.quorum (assembleQuorum other vote (state.votes.bucket vote.key))) state
      else ⟨.done (), state, []⟩) := by
  have completes : CompletesQuorum other state vote found ↔ CompletesQuorum setting state vote found := by
    unfold CompletesQuorum
    rw [resembles.configAt]
  rw [← resembles.snapshot] at selected
  have collected := collectVote_of_selected current next near selected
  rw [kept] at collected
  dsimp only at collected
  rwa [if_congr completes rfl rfl] at collected

/-- What comes again is collected again while the rounds are what they were, and is of no use once its own round
is over. -/
structure ComesAgain (other : Setting) (state : EngineState) (signed : Signed) (again : EngineState → Outcome Unit) :
    Prop where
  collected : ∀ later : EngineState, later.round = state.round → (again later).Agrees (collect other signed later)
  past : ∀ later : EngineState, signed.round < later.round.currentRound → (again later).Agrees ⟨.done (), later, []⟩

section Collection

variable {found : Snapshot} {first : Outcome Unit} {again : EngineState → Outcome Unit}

theorem collectVote_repeats (resembles : other.Resembles setting) {vote : Vote}
    (once : first.Agrees (collectVote setting vote state)) (comes : ComesAgain other state (.vote vote) again)
    (current : state.round.currentRound ≤ vote.round)
    (selected : (snapshot setting vote.gapNumber).ending = .done found) (returns : first.ending ≠ .overflowed) :
    (again first.state).Repeats first := by
  by_cases next : state.round.currentRound.HasNext
  · by_cases far : state.round.currentRound + 1 < vote.round
    · have refused := once.trans (collectVote_of_far current next far)
      have again := (comes.collected state rfl).trans (collectVote_of_far current next far)
      exact repeats_of_settled refused.ending refused.state again (.refused _ _)
    · let pooled : EngineState := { state with votes := state.votes.add vote }
      have kept : { pooled with votes := pooled.votes.add vote } = pooled :=
        congrArg (fun votes => { state with votes }) (Pool.add_add_self state.votes vote)
      refine repeats_of_pooled resembles (once.trans (collectVote_of_selected current next far selected))
        ((comes.collected pooled rfl).trans (collectVote_of_pooled resembles current next far selected kept)) ?_
        comes.past returns
      exact .quorum (assembleQuorum other vote _) (VisitOrder.perm_of_both _ _ _ _)
  · exact absurd (once.trans (collectVote_of_last current next)).ending returns

theorem collectTimeout_of_pooled (resembles : other.Resembles setting) {timeout : Timeout}
    (current : timeout.round = state.round.currentRound)
    (selected : (snapshot setting timeout.gapNumber).ending = .done found)
    (kept : { state with timeouts := state.timeouts.add timeout } = state) :
    (collectTimeout other timeout state).Agrees
      (if thresholdReached (state.timeouts.bucket timeout.key).length found.masternodes.length
          (setting.configAt timeout.round).certThreshold = true then
        process other (.timeout (assembleTimeoutCert other timeout (state.timeouts.bucket timeout.key))) state
      else ⟨.done (), state, []⟩) := by
  rw [← resembles.snapshot] at selected
  have collected := collectTimeout_of_selected current selected
  rw [kept] at collected
  rw [← resembles.configAt]
  exact collected

theorem collectTimeout_repeats (resembles : other.Resembles setting) {timeout : Timeout}
    (once : first.Agrees (collectTimeout setting timeout state))
    (comes : ComesAgain other state (.timeout timeout) again)
    (selected : (snapshot setting timeout.gapNumber).ending = .done found) (returns : first.ending ≠ .overflowed) :
    (again first.state).Repeats first := by
  by_cases current : timeout.round = state.round.currentRound
  · let pooled : EngineState := { state with timeouts := state.timeouts.add timeout }
    have kept : { pooled with timeouts := pooled.timeouts.add timeout } = pooled :=
      congrArg (fun timeouts => { state with timeouts }) (Pool.add_add_self state.timeouts timeout)
    refine repeats_of_pooled resembles (once.trans (collectTimeout_of_selected current selected))
      ((comes.collected pooled rfl).trans (collectTimeout_of_pooled resembles current selected kept)) ?_
      comes.past returns
    exact .timeout (assembleTimeoutCert other timeout _) (VisitOrder.perm_of_both _ _ _ _)
  · have refused := once.trans (collectTimeout_of_mismatch current)
    have again := (comes.collected state rfl).trans (collectTimeout_of_mismatch current)
    exact repeats_of_settled refused.ending refused.state again (.refused _ _)

end Collection

theorem handleSigned_repeats (resembles : other.Resembles setting) (signed : Signed)
    (returns : (handleSigned setting signed state).ending ≠ .overflowed) :
    (handleSigned other signed (handleSigned setting signed state).state).Repeats
      (handleSigned setting signed state) := by
  by_cases somebody : ∃ signer, (verifySigned setting state.round.currentRound signed).ending = .done (some signer)
  · obtain ⟨signer, passed⟩ := somebody
    obtain ⟨current, holds⟩ := verifySigned_done_iff.mp passed
    obtain ⟨found, selected, -⟩ := snapshot_of_selected holds.selected
    have once := handleSigned_of_verified passed
    have comes : ComesAgain other state (signed.signedBy signer) (handleSigned other signed) := by
      refine ⟨fun later same => handleSigned_of_verified ?_, fun later past => handleSigned_of_past ?_⟩
      · rw [resembles.verifySigned, same]
        exact passed
      · cases signed <;> exact past
    cases signed with
    | vote vote => exact collectVote_repeats resembles once comes current selected returns
    | timeout timeout => exact collectTimeout_repeats resembles once comes selected returns
  · have nobody := not_exists.mp somebody
    have once := handleSigned_of_unverified nobody
    refine repeats_of_settled once.ending once.state ?_ (.refl (once.ending ▸ returns))
    rw [← resembles.verifySigned] at nobody ⊢
    exact handleSigned_of_unverified nobody

/-! Bundles. -/

theorem verifySyncInfo_fits (known : RoundState) (bundle : SyncInfo) : (verifySyncInfo setting known bundle).Fits := by
  unfold verifySyncInfo
  split
  · exact nofun
  · refine Check.fits_bind (verifyQuorum_fits _) fun _ => ?_
    cases bundle.timeoutCert with
    | none => exact nofun
    | some cert => exact Check.fits_bind (verifyTimeoutCert_fits cert) fun _ => nofun

theorem verifySyncInfo_of_reaches {known : RoundState} {bundle : SyncInfo} (reaches : known.Reaches bundle) :
    (verifySyncInfo setting known bundle).ending = .done false := by
  unfold verifySyncInfo
  rw [if_pos (RoundState.dominates_iff.mpr reaches)]
  rfl

theorem handleSyncInfo_reaches {bundle : SyncInfo}
    (newer : (verifySyncInfo setting state.round bundle).ending = .done true)
    (returns : (handleSyncInfo setting bundle state).ending ≠ .overflowed) :
    (handleSyncInfo setting bundle state).ending = .done () ∧
      (handleSyncInfo setting bundle state).state.round.Reaches bundle := by
  obtain ⟨quorum, timeout⟩ := verified_of_verifySyncInfo newer
  let kept : EngineState := { state with bundles := state.bundles.add bundle }
  change (takeUp setting bundle kept).ending ≠ .overflowed at returns
  change (takeUp setting bundle kept).ending = .done () ∧ (takeUp setting bundle kept).state.round.Reaches bundle
  cases ended : (takeUp setting bundle kept).ending with
  | done => exact ⟨rfl, takeUp_reaches ended⟩
  | refused error => exact absurd ended (takeUp_unrefused quorum timeout error)
  | overflowed => exact absurd ended returns

theorem receiveSyncInfo_repeats (resembles : other.Resembles setting) {bundle : SyncInfo}
    (returns : (receiveSyncInfo setting bundle state).ending ≠ .overflowed) :
    (receiveSyncInfo other bundle (receiveSyncInfo setting bundle state).state).Repeats
      (receiveSyncInfo setting bundle state) := by
  have same (known : RoundState) := resembles.verifySyncInfo known bundle
  match verdict : (verifySyncInfo setting state.round bundle).ending with
  | .done true =>
    have once := receiveSyncInfo_of_newer verdict
    rw [once.ending] at returns
    obtain ⟨done, reaches⟩ := handleSyncInfo_reaches verdict returns
    refine repeats_of_settled (once.ending.trans done) once.state ?_ (.done () ())
    exact receiveSyncInfo_of_covered (verifySyncInfo_of_reaches reaches)
  | .done false =>
    have once := receiveSyncInfo_of_covered verdict
    refine repeats_of_settled once.ending once.state ?_ (.done () ())
    exact receiveSyncInfo_of_covered (by rw [same, verdict])
  | .refused error =>
    cases pending : error.isChainPending with
    | true =>
      have once := receiveSyncInfo_of_pending verdict pending
      let kept : EngineState := { state with bundles := state.bundles.add bundle }
      have again : (receiveSyncInfo other bundle kept).Agrees
          ⟨.done (), { kept with bundles := kept.bundles.add bundle }, []⟩ :=
        receiveSyncInfo_of_pending (by rw [same]; exact verdict) pending
      have settled : { kept with bundles := kept.bundles.add bundle } = kept :=
        congrArg (fun bundles => { state with bundles }) (Pool.add_add_self state.bundles bundle)
      rw [settled] at again
      exact repeats_of_settled once.ending once.state again (.done () ())
    | false =>
      have once := receiveSyncInfo_of_invalid verdict pending
      refine repeats_of_settled once.ending once.state ?_ (.refused error error)
      exact receiveSyncInfo_of_invalid (by rw [same, verdict]) pending
  | .overflowed => exact absurd verdict (verifySyncInfo_fits _ _)

end Engine

/-! Where no round is the last one, no delivery is stopped. -/

def Message.rounds : Message → List Round
  | .vote body => [body.round]
  | .timeout body => [body.round]
  | .syncInfo body => body.quorumCert.round :: (body.timeoutCert.map TimeoutCert.round).toList

namespace Engine

open MasternodeBft.Action

variable {setting : Setting} {state : EngineState}

theorem verifySigned_fits (current : Round) (signed : Signed) : (verifySigned setting current signed).Fits := by
  unfold verifySigned
  split
  · exact nofun
  · refine Check.fits_bind (snapshot_fits _) fun _ => ?_
    split
    · exact Check.fits_note_bind (Check.fits_refuse _)
    · split <;> exact nofun

theorem fits_of_check {α : Type} {check : Check α} {act : α → Action Unit} (fits : check.Fits)
    (continues : ∀ value, check.ending = .done value → (act value state).ending ≠ .overflowed) :
    ((ofCheck check >>= act) state).ending ≠ .overflowed := by
  cases ended : check.ending with
  | done value =>
    rw [(agrees_of_done ended).ending]
    exact continues value ended
  | refused error =>
    rw [(agrees_of_refused ended).ending]
    exact nofun
  | overflowed => exact absurd ended fits

theorem collectVote_fits {vote : Vote} {found : Snapshot} (current : state.round.currentRound ≤ vote.round)
    (next : state.round.currentRound.HasNext) (below : vote.round.HasNext)
    (selected : (snapshot setting vote.gapNumber).ending = .done found) :
    (collectVote setting vote state).ending ≠ .overflowed := by
  by_cases far : state.round.currentRound + 1 < vote.round
  · rw [(collectVote_of_far current next far).ending]
    rintro ⟨⟩
  · rw [(collectVote_of_selected current next far selected).ending]
    split
    · exact (process_fate _).fits below
    · rintro ⟨⟩

theorem collectTimeout_fits {timeout : Timeout} {found : Snapshot} (below : timeout.round.HasNext)
    (selected : (snapshot setting timeout.gapNumber).ending = .done found) :
    (collectTimeout setting timeout state).ending ≠ .overflowed := by
  by_cases current : timeout.round = state.round.currentRound
  · rw [(collectTimeout_of_selected current selected).ending]
    split
    · exact (process_fate _).fits below
    · rintro ⟨⟩
  · rw [(collectTimeout_of_mismatch current).ending]
    rintro ⟨⟩

theorem handleSigned_fits (signed : Signed) (next : state.round.currentRound.HasNext) (below : signed.round.HasNext) :
    (handleSigned setting signed state).ending ≠ .overflowed := by
  refine fits_of_check (verifySigned_fits _ _) fun found passed => ?_
  cases found with
  | none => exact nofun
  | some signer =>
    obtain ⟨current, holds⟩ := verifySigned_done_iff.mp passed
    obtain ⟨found, selected, -⟩ := snapshot_of_selected holds.selected
    cases signed with
    | vote => exact collectVote_fits current next below selected
    | timeout => exact collectTimeout_fits below selected

theorem receiveSyncInfo_fits {bundle : SyncInfo} (quorumNext : bundle.quorumCert.round.HasNext)
    (timeoutNext : ∀ cert ∈ bundle.timeoutCert, cert.round.HasNext) :
    (receiveSyncInfo setting bundle state).ending ≠ .overflowed := by
  match verdict : (verifySyncInfo setting state.round bundle).ending with
  | .done true =>
    rw [(receiveSyncInfo_of_newer verdict).ending]
    exact takeUp_fits quorumNext timeoutNext { state with bundles := state.bundles.add bundle }
  | .done false =>
    rw [(receiveSyncInfo_of_covered verdict).ending]
    exact nofun
  | .refused error =>
    cases pending : error.isChainPending with
    | true =>
      rw [(receiveSyncInfo_of_pending verdict pending).ending]
      exact nofun
    | false =>
      rw [(receiveSyncInfo_of_invalid verdict pending).ending]
      exact nofun
  | .overflowed => exact absurd verdict (verifySyncInfo_fits _ _)

theorem handleMessage_fits {message : Message} (next : state.round.currentRound.HasNext)
    (below : ∀ round ∈ message.rounds, round.HasNext) : (handleMessage setting message state).ending ≠ .overflowed := by
  cases message with
  | vote vote => exact handleSigned_fits (.vote vote) next (below _ List.mem_cons_self)
  | timeout timeout => exact handleSigned_fits (.timeout timeout) next (below _ List.mem_cons_self)
  | syncInfo bundle =>
    refine receiveSyncInfo_fits (below _ List.mem_cons_self) fun cert present => below _ ?_
    rw [Message.rounds, Option.mem_def.mp present]
    exact List.mem_cons_of_mem _ List.mem_cons_self

theorem handleMessage_repeats {other : Setting} (resembles : other.Resembles setting) {message : Message}
    (returns : (handleMessage setting message state).ending ≠ .overflowed) :
    (handleMessage other message (handleMessage setting message state).state).Repeats
      (handleMessage setting message state) := by
  cases message with
  | vote vote => exact handleSigned_repeats resembles (.vote vote) returns
  | timeout timeout => exact handleSigned_repeats resembles (.timeout timeout) returns
  | syncInfo bundle => exact receiveSyncInfo_repeats resembles returns

end Engine

/-- As long as no round is the last one, the delivery of a message is not stopped by an overflow; and then, if
the chain has not changed, a second delivery succeeds or fails like the first one, leaves the state as that has
left it, and nothing leaves the node. -/
theorem redelivery_is_harmless (state : EngineState) {setting other : Setting} (resembles : other.Resembles setting)
    (message : Message) :
    let first := Engine.handleMessage setting message state
    let second := Engine.handleMessage other message first.state
    (state.round.currentRound.HasNext → (∀ round ∈ message.rounds, round.HasNext) → first.ending ≠ .overflowed) ∧
      (first.ending ≠ .overflowed →
        second.state = first.state ∧ first.ending.Alike second.ending ∧ outward second.effects = []) := by
  refine ⟨Engine.handleMessage_fits, fun returns => ?_⟩
  have repeats := Engine.handleMessage_repeats resembles returns
  exact ⟨repeats.idle.kept, repeats.alike, repeats.idle.silent⟩

namespace Sample

def unattended : Setting := { setting with commandsTaken := false }

def certified : SyncInfo := ⟨quorumCert 1 [1, 2, 3], none⟩

theorem certified_inOrder : certified.InOrder setting where
  quorumCert := Engine.verifyQuorum_done_iff.mpr
    (.inr (quorumCert_certified (by decide) (by decide) (by decide) (by decide)))
  timeoutCert := nofun
  quorumNext := hasNext 1
  timeoutNext := nofun

end Sample

/-- The first delivery takes the node to the second round, and the second one goes by unnoticed. -/
theorem certified_bundle_delivered_twice :
    let first := Engine.handleMessage Sample.setting (.syncInfo Sample.certified) Sample.start
    let second := Engine.handleMessage Sample.unattended (.syncInfo Sample.certified) first.state
    first.state.round.Reaches Sample.certified ∧
      second.state = first.state ∧ first.ending.Alike second.ending ∧ outward second.effects = [] := by
  have bounded : Sample.start.round.Bounded := ⟨Sample.hasNext 0, Sample.hasNext 0⟩
  have arrives := Engine.receiveSyncInfo_arrives Sample.certified_inOrder bounded
  obtain ⟨returns, harmless⟩ := redelivery_is_harmless Sample.start
    (⟨rfl, rfl, rfl⟩ : Sample.unattended.Resembles Sample.setting) (.syncInfo Sample.certified)
  have below : ∀ round ∈ (Message.syncInfo Sample.certified).rounds, round.HasNext :=
    List.forall_mem_singleton.mpr (Sample.hasNext 1)
  exact ⟨arrives.reaches, harmless (returns (Sample.hasNext 1) below)⟩

end MasternodeBft
