import MasternodeBft.Engine.Inbox
import MasternodeBft.Proofs.Change

/-!
All that an engine does to its state is a course of changes, each under its own condition. Of messages,
what it has checked itself, what it is given as checked, and its own timeouts get into pools.
-/

namespace MasternodeBft.Engine

open MasternodeBft.Action

variable {setting : Setting} {admitted : Message → Prop} {state : EngineState}

/-- What is kept to where a certificate is noted down as the highest one, and where its round ends, is kept to
where it is processed. -/
theorem obeys_process {relation : Transition} (composes : Composes relation) (cert : AnyCert)
    (installs : relation state [] { state with round := state.round.install cert })
    (leaves : ∀ state, (leaveRound setting cert.round).Obeys relation state) :
    (process setting cert).Obeys relation state := by
  refine obeys_bind composes (composes.noted state []) fun _ _ => ?_
  refine obeys_ite (fun _ => obeys_note composes _) fun _ => ?_
  refine obeys_bind composes (obeys_ofCheck composes _) fun _ _ => ?_
  refine obeys_bind composes (composes.noted state []) fun _ _ => ?_
  refine obeys_ite (fun _ => ?_) fun _ => leaves state
  refine obeys_bind composes (obeys_note composes _) fun _ _ => ?_
  exact obeys_bind composes installs fun _ _ => leaves _

theorem process_follows (cert : AnyCert) : (process setting cert).Follows (Change setting admitted) state := by
  refine follows_read_bind (follows_ite (fun _ => follows_note _) fun fresh => ?_)
  have newer : cert.highest state.round < cert.round := UInt64.not_le.mp fresh
  refine follows_check_bind fun _ passes => ?_
  unfold Follows Obeys Course.sending
  rw [adopt_state newer, adopt_sent newer]
  exact .single (.adopt state cert newer (certified_of_passes newer passes))

/-! Collection. -/

theorem addTo_follows {Object Key Signer : Type} [DecidableEq Key] [DecidableEq Signer]
    [Poolable Object Key Signer] {pool : EngineState → Pool Object Key Signer}
    {replace : EngineState → Pool Object Key Signer → EngineState} {object : Object}
    (adds : Change setting admitted state [] (replace state ((pool state).add object))) :
    (addTo pool replace object).Follows (Change setting admitted) state :=
  follows_read_bind (follows_bind (follows_update adds) fun _ _ => follows_pure _)

theorem certify_follows (signed : Signed) (count : Nat) (cert : AnyCert) :
    (certify setting signed count cert).Follows (Change setting admitted) state := by
  refine follows_check_bind fun found _ => follows_ite (fun _ => follows_note_bind ?_) fun _ => follows_pure _
  exact follows_bind (follows_notingRefusal (process_follows cert)) fun _ _ => follows_note _

theorem collectVote_follows (vote : Vote) (admission : admitted (.vote vote)) :
    (collectVote setting vote).Follows (Change setting admitted) state := by
  refine follows_read_bind (follows_ite (fun _ => follows_note _) fun fresh => ?_)
  refine follows_check_bind fun next added => ?_
  refine follows_ite (fun _ => follows_ofCheck _) fun within => ?_
  obtain ⟨fits, same⟩ := Check.add_one_done added
  have near : vote.round.toNat ≤ state.round.currentRound.toNat + 1 := by
    have bound := UInt64.le_iff_toNat_le.mp (UInt64.not_lt.mp within)
    rwa [same, Round.toNat_add_one fits] at bound
  refine follows_bind (addTo_follows (.vote state vote admission (UInt64.not_lt.mp fresh) near)) fun _ _ => ?_
  refine follows_note_bind (follows_read_bind ?_)
  exact follows_ite (fun _ => certify_follows _ _ _) fun _ => follows_pure _

theorem collectTimeout_follows (timeout : Timeout) (admission : admitted (.timeout timeout)) :
    (collectTimeout setting timeout).Follows (Change setting admitted) state := by
  refine follows_read_bind (follows_ite (fun _ => follows_ofCheck _) fun current => ?_)
  refine follows_bind (addTo_follows (.timeout state timeout admission (not_not.mp current))) fun _ _ => ?_
  exact follows_note_bind (certify_follows _ _ _)

/-! Bundles. -/

theorem takeUp_follows (bundle : SyncInfo) : (takeUp setting bundle).Follows (Change setting admitted) state := by
  apply follows_read_bind
  apply follows_ite
  · intro _
    exact follows_note _
  · intro _
    apply follows_bind (process_follows _)
    intro _ _
    cases bundle.timeoutCert with
    | none => exact follows_pure ()
    | some cert => exact process_follows _

theorem keepBundle_follows (bundle : SyncInfo) (admission : admitted (.syncInfo bundle)) :
    (keepBundle bundle).Follows (Change setting admitted) state :=
  addTo_follows (.bundle state bundle admission)

theorem handleSyncInfo_follows (bundle : SyncInfo) (admission : admitted (.syncInfo bundle)) :
    (handleSyncInfo setting bundle).Follows (Change setting admitted) state :=
  follows_bind (keepBundle_follows bundle admission) fun _ _ => takeUp_follows bundle

theorem bufferSyncInfo_follows (bundle : SyncInfo) (admission : admitted (.syncInfo bundle)) :
    (bufferSyncInfo bundle).Follows (Change setting admitted) state :=
  follows_bind (keepBundle_follows bundle admission) fun _ _ => follows_note _

theorem replayBucket_follows (key : SyncKey) (bundles : List SyncInfo) :
    (replayBucket setting key bundles).Follows (Change setting admitted) state := by
  induction bundles generalizing state with
  | nil => exact follows_pure ()
  | cons bundle rest ih =>
    apply follows_bind (follows_attempt (takeUp_follows bundle))
    intro result _
    cases result with
    | ok => exact follows_pure ()
    | error cause => exact follows_read_bind (follows_note_bind ih)

theorem replayKeys_follows (keys : List SyncKey) :
    (replayKeys setting keys).Follows (Change setting admitted) state := by
  induction keys generalizing state with
  | nil => exact follows_pure ()
  | cons key rest ih =>
    apply follows_note_bind
    apply follows_read_bind
    apply follows_bind (replayBucket_follows key _)
    intro _ _
    exact ih

theorem replay_follows : (replay setting).Follows (Change setting admitted) state :=
  follows_read_bind (replayKeys_follows _)

/-! Expiries of the countdown. -/

theorem broadcast_follows (message : Message) : (broadcast setting message).Follows (Change setting admitted) state :=
  follows_ite (fun _ => follows_emit (.send state message)) fun _ => follows_note _

theorem sendTimeout_follows
    (admission : ∀ gapNumber, (timeoutGapNumber setting state.round.currentRound).ending = .done gapNumber →
      admitted (.timeout (ownTimeout setting state.round.currentRound gapNumber))) :
    (sendTimeout setting).Follows (Change setting admitted) state := by
  apply follows_read_bind
  apply follows_check_bind
  intro gapNumber found
  apply follows_note_bind
  apply follows_bind (collectTimeout_follows _ (admission gapNumber found))
  intro _ _
  exact broadcast_follows _

theorem countTimeout_follows : (countTimeout).Follows (Change setting admitted) state := by
  apply follows_read_bind
  apply follows_check_bind
  intro count added
  obtain ⟨-, same⟩ := Check.add_one_done added
  rw [same]
  exact follows_update (.count state)

theorem sendSyncInfo_follows : (sendSyncInfo setting).Follows (Change setting admitted) state := by
  apply follows_read_bind
  apply follows_ite
  · intro _
    exact follows_note_bind (broadcast_follows _)
  · intro _
    exact follows_pure ()

/-- The expiry of the countdown makes a node sign a timeout of its own, for the round that it is in once it
has taken up the bundles that it has kept. -/
structure Signs (setting : Setting) (state : EngineState) (timeout : Timeout) : Prop where
  eligible : (mayTimeOut setting).ending = .done true
  replayed : (replay setting state).ending = .done ()
  gapNumber : (timeoutGapNumber setting (replay setting state).state.round.currentRound).ending =
    .done timeout.gapNumber
  own : timeout = ownTimeout setting (replay setting state).state.round.currentRound timeout.gapNumber

theorem Signs.unique {timeout other : Timeout} (signs : Signs setting state timeout)
    (alsoSigns : Signs setting state other) : timeout = other := by
  have gapNumber := signs.gapNumber.symm.trans alsoSigns.gapNumber
  rw [signs.own, alsoSigns.own, Ending.done.inj gapNumber]

theorem handleExpiry_follows (admission : ∀ timeout, Signs setting state timeout → admitted (.timeout timeout)) :
    (handleExpiry setting).Follows (Change setting admitted) state := by
  apply follows_check_bind
  intro eligible asked
  apply follows_ite
  · intro allowed
    rw [allowed] at asked
    apply follows_bind replay_follows
    intro _ replayed
    apply follows_bind
    · apply follows_notingRefusal
      exact sendTimeout_follows fun gapNumber found => admission _ ⟨asked, replayed, found, rfl⟩
    intro _ _
    exact follows_bind countTimeout_follows fun _ _ => sendSyncInfo_follows
  · intro _
    exact follows_pure ()

/-! Sweeps. -/

theorem noteStale_follows {Object Key Signer : Type} [PoolKey Key] (current : Round)
    (pool : Pool Object Key Signer) : (noteStale current pool).Follows (Change setting admitted) state :=
  follows_check_bind fun _ _ => follows_pure _

theorem sweepPool_follows {Object Key Signer : Type} [PoolKey Key] {pool : EngineState → Pool Object Key Signer}
    {replace : EngineState → Pool Object Key Signer → EngineState}
    (sweeps : Change setting admitted state [] (replace state
      ((pool state).sweep state.round.currentRound hygieneWindow))) :
    (sweepPool pool replace).Follows (Change setting admitted) state :=
  follows_read_bind (follows_bind (follows_update sweeps) fun _ _ => noteStale_follows _ _)

theorem sweepVotes_follows : sweepVotes.Follows (Change setting admitted) state :=
  sweepPool_follows (.sweepVotes state)

theorem sweepTimeouts_follows : sweepTimeouts.Follows (Change setting admitted) state :=
  sweepPool_follows (.sweepTimeouts state)

theorem sweepBundles_follows : sweepBundles.Follows (Change setting admitted) state :=
  sweepPool_follows (.sweepBundles state)

theorem sweepAll_follows : sweepAll.Follows (Change setting admitted) state := by
  apply follows_bind sweepVotes_follows
  intro votes _
  apply follows_bind sweepTimeouts_follows
  intro timeouts _
  apply follows_bind sweepBundles_follows
  intro bundles _
  exact follows_ite (fun _ => follows_note _) fun _ => follows_pure ()

/-! Messages. -/

theorem collect_follows (signed : Signed) (admission : admitted signed.message) :
    (collect setting signed).Follows (Change setting admitted) state := by
  cases signed with
  | vote vote => exact collectVote_follows vote admission
  | timeout timeout => exact collectTimeout_follows timeout admission

theorem handleSigned_follows (signed : Signed)
    (admission : ∀ signer, (verifySigned setting state.round.currentRound signed).ending = .done (some signer) →
      admitted (signed.signedBy signer).message) :
    (handleSigned setting signed).Follows (Change setting admitted) state := by
  apply follows_read_bind
  apply follows_check_bind
  intro found passed
  cases found with
  | none => exact follows_pure ()
  | some signer => exact collect_follows _ (admission signer passed)

theorem receiveSyncInfo_follows (bundle : SyncInfo) (admission : admitted (.syncInfo bundle)) :
    (receiveSyncInfo setting bundle).Follows (Change setting admitted) state := by
  apply follows_read_bind
  apply follows_bind (follows_attempt (follows_ofCheck _))
  intro verdict _
  match verdict with
  | .ok true => exact handleSyncInfo_follows bundle admission
  | .ok false => exact follows_pure ()
  | .error cause =>
    refine follows_ite (fun _ => ?_) fun _ => follows_ofCheck _
    exact follows_note_bind (bufferSyncInfo_follows bundle admission)

end MasternodeBft.Engine
