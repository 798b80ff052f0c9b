import MasternodeBft.Proofs.Run

/-!
What operations are made of. An engine does a few things only, one after another, with looks at what it has
and at what is around it in between; so what each of these deeds keeps, an operation keeps, unless it ends
where a number overflows.
-/

namespace MasternodeBft

open MasternodeBft.Action

inductive Deed where
  | process (cert : AnyCert)
  | keepVote (vote : Vote)
  | keepTimeout (timeout : Timeout)
  | keepBundle (bundle : SyncInfo)
  | countTimeouts (count : UInt64)
  | sweepVotes (current : Round)
  | sweepTimeouts (current : Round)
  | sweepBundles (current : Round)
  | emit (effect : Effect)

namespace Deed

def action (setting : Setting) : Deed → Action Unit
  | process cert => Engine.process setting cert
  | keepVote vote => update fun state => { state with votes := state.votes.add vote }
  | keepTimeout timeout => update fun state => { state with timeouts := state.timeouts.add timeout }
  | keepBundle bundle => update fun state => { state with bundles := state.bundles.add bundle }
  | countTimeouts count => update fun state => { state with timeoutCount := count }
  | sweepVotes current => update fun state => { state with votes := state.votes.sweep current Engine.hygieneWindow }
  | sweepTimeouts current =>
    update fun state => { state with timeouts := state.timeouts.sweep current Engine.hygieneWindow }
  | sweepBundles current =>
    update fun state => { state with bundles := state.bundles.sweep current Engine.hygieneWindow }
  | emit effect => Action.emit effect

/-- All deeds but those that put votes into their pool, or take them out of it. -/
def SparesVotes : Deed → Prop
  | keepVote _ | sweepVotes _ => False
  | _ => True

def SparesBundles : Deed → Prop
  | keepBundle _ | sweepBundles _ => False
  | _ => True

/-- All deeds but those that send messages, or count them. -/
def Silent : Deed → Prop
  | countTimeouts _ | emit (.broadcast _) => False
  | _ => True

/-- All deeds but those that command the countdown, or record a round, on their own. -/
def SparesCountdown : Deed → Prop
  | emit (.reset _ _) | emit (.entered _ _) => False
  | _ => True

/-- The deeds that are no operation's own. -/
structure Common (deed : Deed) : Prop where
  votes : deed.SparesVotes
  bundles : deed.SparesBundles
  silent : deed.Silent
  countdown : deed.SparesCountdown

end Deed

inductive MadeOf (setting : Setting) (allowed : Deed → Prop) : {α : Type} → Action α → Prop
  | pure {α : Type} (value : α) : MadeOf setting allowed (pure value)
  | ofCheck {α : Type} (check : Check α) : MadeOf setting allowed (ofCheck check)
  | read : MadeOf setting allowed read
  | deed (deed : Deed) (fits : allowed deed) : MadeOf setting allowed (deed.action setting)
  | bind {α β : Type} {first : Action α} {next : α → Action β} (begins : MadeOf setting allowed first)
      (continues : ∀ value, MadeOf setting allowed (next value)) : MadeOf setting allowed (first >>= next)
  | attempt {α : Type} {action : Action α} (made : MadeOf setting allowed action) :
      MadeOf setting allowed (attempt action)

/-- From states with a property, an action leads to such states, except where it ends with an overflow, if
that is excused. -/
def Action.Keeps {α : Type} (invariant : EngineState → Prop) (excused : Prop) (action : Action α) : Prop :=
  ∀ state, invariant state → invariant (action state).state ∨ (excused ∧ (action state).ending = .overflowed)

namespace Action.Keeps

variable {α β : Type} {invariant : EngineState → Prop} {excused : Prop}

theorem of_sure {action : Action α} (keeps : ∀ state, invariant state → invariant (action state).state) :
    action.Keeps invariant excused := fun state holds => .inl (keeps state holds)

theorem bind {first : Action α} {next : α → Action β} (begins : first.Keeps invariant excused)
    (continues : ∀ value, (next value).Keeps invariant excused) : (first >>= next).Keeps invariant excused := by
  intro state holds
  have begun := begins state holds
  cases ended : (first state).ending with
  | done value =>
    have kept := begun.resolve_right fun stopped => nomatch ended.symm.trans stopped.2
    rw [bind_of_done ended]
    exact continues value _ kept
  | refused error =>
    have kept := begun.resolve_right fun stopped => nomatch ended.symm.trans stopped.2
    rw [bind_of_refused ended]
    exact .inl kept
  | overflowed =>
    rw [bind_of_overflowed ended]
    exact begun.imp_right fun stopped => ⟨stopped.1, rfl⟩

theorem attempt {action : Action α} (keeps : action.Keeps invariant excused) :
    (Action.attempt action).Keeps invariant excused := by
  intro state holds
  have kept := keeps state holds
  unfold Action.attempt
  cases ended : (action state).ending with
  | overflowed =>
    simp only [ended]
    exact kept.imp_right fun stopped => ⟨stopped.1, trivial⟩
  | _ =>
    simp only [ended]
    exact .inl (kept.resolve_right fun stopped => nomatch ended.symm.trans stopped.2)

end Action.Keeps

namespace MadeOf

variable {α β : Type} {setting : Setting} {allowed : Deed → Prop}

/-- What every deed of a kind keeps, an action that is made of them keeps. -/
theorem keeps {invariant : EngineState → Prop} {excused : Prop} {action : Action α}
    (made : MadeOf setting allowed action)
    (each : ∀ deed, allowed deed → (deed.action setting).Keeps invariant excused) :
    action.Keeps invariant excused := by
  induction made with
  | pure | ofCheck | read => exact .of_sure fun _ holds => holds
  | deed deed fits => exact each deed fits
  | bind _ _ begins continues => exact begins.bind continues
  | attempt _ keeps => exact keeps.attempt

theorem obeys {relation : Transition} {action : Action α} (composes : Composes relation)
    (made : MadeOf setting allowed action)
    (each : ∀ deed, allowed deed → ∀ state, (deed.action setting).Obeys relation state) (state : EngineState) :
    action.Obeys relation state := by
  induction made generalizing state with
  | pure value => exact obeys_pure composes value
  | ofCheck check => exact obeys_ofCheck composes check
  | read => exact composes.noted state []
  | deed deed fits => exact each deed fits state
  | bind _ _ begins continues => exact obeys_bind composes (begins state) fun value _ => continues value _
  | attempt _ obeys => exact obeys_attempt (obeys state)

theorem ite {condition : Prop} [Decidable condition] {first second : Action α}
    (holds : MadeOf setting allowed first) (fails : MadeOf setting allowed second) :
    MadeOf setting allowed (if condition then first else second) := by
  split
  · exact holds
  · exact fails

theorem read_bind {next : EngineState → Action β} (continues : ∀ state, MadeOf setting allowed (next state)) :
    MadeOf setting allowed (Action.read >>= next) := .bind .read continues

theorem check_bind {check : Check α} {next : α → Action β} (continues : ∀ value, MadeOf setting allowed (next value)) :
    MadeOf setting allowed (Action.ofCheck check >>= next) := .bind (.ofCheck check) continues

end MadeOf

/-! The parts of an engine. -/

namespace Engine

variable {setting : Setting} {allowed : Deed → Prop}

theorem handleSigned_made (signed : Signed)
    (collects : ∀ signer, MadeOf setting allowed (collect setting (signed.signedBy signer))) :
    MadeOf setting allowed (handleSigned setting signed) := by
  refine .read_bind fun _ => .check_bind fun found => ?_
  cases found with
  | none => exact .pure ()
  | some signer => exact collects signer

section Common

variable (common : ∀ deed : Deed, deed.Common → allowed deed)

include common

theorem note_made (notice : Notice) : MadeOf setting allowed (note notice) :=
  .deed (.emit (.notice notice)) (common _ ⟨trivial, trivial, trivial, trivial⟩)

theorem note_bind_made {β : Type} {notice : Notice} {next : Unit → Action β}
    (continues : MadeOf setting allowed (next ())) : MadeOf setting allowed (note notice >>= next) :=
  .bind (note_made common notice) fun _ => continues

theorem notingRefusal_made {α : Type} {notice : EngineState → ConsensusError → Notice} {action : Action α}
    (made : MadeOf setting allowed action) : MadeOf setting allowed (notingRefusal notice action) := by
  refine .bind made.attempt fun result => ?_
  cases result with
  | ok value => exact .pure value
  | error cause => exact .read_bind fun _ => note_bind_made common (.ofCheck _)

theorem resetCountdown_made (resets : ∀ round period, allowed (.emit (.reset round period))) (round : Round) :
    MadeOf setting allowed (resetCountdown setting round) := .ite (.deed (.emit _) (resets _ _)) (note_made common _)

theorem broadcast_made {message : Message} (sends : allowed (.emit (.broadcast message))) :
    MadeOf setting allowed (broadcast setting message) := .ite (.deed (.emit _) sends) (note_made common _)

theorem process_made (cert : AnyCert) : MadeOf setting allowed (process setting cert) :=
  .deed (.process cert) (common _ ⟨trivial, trivial, trivial, trivial⟩)

theorem certify_made (signed : Signed) (count : Nat) (cert : AnyCert) :
    MadeOf setting allowed (certify setting signed count cert) := by
  refine .check_bind fun _ => .ite (note_bind_made common ?_) (.pure ())
  exact .bind (notingRefusal_made common (process_made common cert)) fun _ => note_made common _

omit common in
theorem addTo_made {Object Key Signer : Type} [DecidableEq Key] [DecidableEq Signer] [Poolable Object Key Signer]
    {pool : EngineState → Pool Object Key Signer} {replace : EngineState → Pool Object Key Signer → EngineState}
    {object : Object} (adds : MadeOf setting allowed (update fun state => replace state ((pool state).add object))) :
    MadeOf setting allowed (addTo pool replace object) := by
  have same : addTo pool replace object = read >>= fun before =>
      (update fun state => replace state ((pool state).add object)) >>= fun _ =>
        pure ((pool before).collect object).1 := rfl
  rw [same]
  exact .read_bind fun _ => .bind adds fun _ => .pure _

theorem collectVote_made (vote : Vote) (kept : allowed (.keepVote vote)) :
    MadeOf setting allowed (collectVote setting vote) := by
  refine .read_bind fun _ => .ite (note_made common _) (.check_bind fun _ => .ite (.ofCheck _) ?_)
  refine .bind (addTo_made (.deed (.keepVote vote) kept)) fun _ => note_bind_made common ?_
  exact .read_bind fun _ => .ite (certify_made common _ _ _) (.pure ())

theorem collectTimeout_made (timeout : Timeout) : MadeOf setting allowed (collectTimeout setting timeout) := by
  refine .read_bind fun _ => .ite (.ofCheck _) ?_
  have adds : MadeOf setting allowed (update fun state => { state with timeouts := state.timeouts.add timeout }) :=
    .deed (.keepTimeout timeout) (common _ ⟨trivial, trivial, trivial, trivial⟩)
  refine .bind (addTo_made adds) fun _ => ?_
  exact note_bind_made common (certify_made common _ _ _)

theorem takeUp_made (bundle : SyncInfo) : MadeOf setting allowed (takeUp setting bundle) := by
  refine .read_bind fun _ => .ite (note_made common _) (.bind (process_made common _) fun _ => ?_)
  cases bundle.timeoutCert with
  | none => exact .pure ()
  | some cert => exact process_made common _

theorem replayBucket_made (key : SyncKey) (bundles : List SyncInfo) :
    MadeOf setting allowed (replayBucket setting key bundles) := by
  induction bundles with
  | nil => exact .pure ()
  | cons bundle rest ih =>
    refine .bind (takeUp_made common bundle).attempt fun result => ?_
    cases result with
    | ok => exact .pure ()
    | error cause => exact .read_bind fun _ => note_bind_made common ih

theorem replayKeys_made (keys : List SyncKey) : MadeOf setting allowed (replayKeys setting keys) := by
  induction keys with
  | nil => exact .pure ()
  | cons key rest ih =>
    refine note_bind_made common (.read_bind fun _ => ?_)
    exact .bind (replayBucket_made common key _) fun _ => ih

theorem replay_made : MadeOf setting allowed (replay setting) := .read_bind fun _ => replayKeys_made common _

theorem handleExpiry_made (counts : ∀ count, allowed (.countTimeouts count))
    (sends : ∀ message, allowed (.emit (.broadcast message))) : MadeOf setting allowed (handleExpiry setting) := by
  refine .check_bind fun _ => .ite (.bind (replay_made common) fun _ => ?_) (.pure ())
  have sent : MadeOf setting allowed (sendTimeout setting) := by
    refine .read_bind fun _ => .check_bind fun _ => note_bind_made common ?_
    exact .bind (collectTimeout_made common _) fun _ => broadcast_made common (sends _)
  have counted : MadeOf setting allowed countTimeout :=
    .read_bind fun _ => .check_bind fun count => .deed (.countTimeouts count) (counts count)
  refine .bind (notingRefusal_made common sent) fun _ => .bind counted fun _ => .read_bind fun _ => ?_
  exact .ite (note_bind_made common (broadcast_made common (sends _))) (.pure ())

theorem handleSyncInfo_made (bundle : SyncInfo) (kept : allowed (.keepBundle bundle)) :
    MadeOf setting allowed (handleSyncInfo setting bundle) :=
  .bind (addTo_made (.deed (.keepBundle bundle) kept)) fun _ => takeUp_made common bundle

theorem bufferSyncInfo_made (bundle : SyncInfo) (kept : allowed (.keepBundle bundle)) :
    MadeOf setting allowed (bufferSyncInfo bundle) :=
  .bind (addTo_made (.deed (.keepBundle bundle) kept)) fun _ => note_made common _

theorem receiveSyncInfo_made (bundle : SyncInfo) (kept : allowed (.keepBundle bundle)) :
    MadeOf setting allowed (receiveSyncInfo setting bundle) := by
  refine .read_bind fun _ => .bind (.attempt (.ofCheck _)) fun verdict => ?_
  match verdict with
  | .ok true => exact handleSyncInfo_made common bundle kept
  | .ok false => exact .pure ()
  | .error cause => exact .ite (note_bind_made common (bufferSyncInfo_made common bundle kept)) (.ofCheck _)

theorem handleMessage_made (message : Message)
    (pooled : ∀ vote signer, message = .vote vote → allowed (.keepVote { vote with signer }))
    (kept : ∀ bundle, message = .syncInfo bundle → allowed (.keepBundle bundle)) :
    MadeOf setting allowed (handleMessage setting message) := by
  cases message with
  | vote vote => exact handleSigned_made (.vote vote) fun signer => collectVote_made common _ (pooled vote signer rfl)
  | timeout timeout => exact handleSigned_made (.timeout timeout) fun signer => collectTimeout_made common _
  | syncInfo bundle => exact receiveSyncInfo_made common bundle (kept bundle rfl)

end Common

theorem sweepPool_made {Object Key Signer : Type} [PoolKey Key] {pool : EngineState → Pool Object Key Signer}
    {replace : EngineState → Pool Object Key Signer → EngineState}
    (sweeps : ∀ state : EngineState, MadeOf setting allowed (update fun later => replace later
      ((pool later).sweep state.round.currentRound hygieneWindow))) :
    MadeOf setting allowed (sweepPool pool replace) :=
  .read_bind fun state => .bind (sweeps state) fun _ => .check_bind fun _ => .pure _

theorem sweepVotes_made (sweeps : ∀ current, allowed (.sweepVotes current)) : MadeOf setting allowed sweepVotes :=
  sweepPool_made fun state => .deed (.sweepVotes state.round.currentRound) (sweeps _)

theorem sweepTimeouts_made (common : ∀ deed : Deed, deed.Common → allowed deed) :
    MadeOf setting allowed sweepTimeouts :=
  sweepPool_made fun state =>
    .deed (.sweepTimeouts state.round.currentRound) (common _ ⟨trivial, trivial, trivial, trivial⟩)

theorem sweepBundles_made (sweeps : ∀ current, allowed (.sweepBundles current)) :
    MadeOf setting allowed sweepBundles :=
  sweepPool_made fun state => .deed (.sweepBundles state.round.currentRound) (sweeps _)

theorem sweepAll_made (common : ∀ deed : Deed, deed.Common → allowed deed)
    (sweepsVotes : ∀ current, allowed (.sweepVotes current))
    (sweepsBundles : ∀ current, allowed (.sweepBundles current)) : MadeOf setting allowed sweepAll := by
  refine .bind (sweepVotes_made sweepsVotes) fun _ => .bind (sweepTimeouts_made common) fun _ => ?_
  exact .bind (sweepBundles_made sweepsBundles) fun _ => .ite (note_made common _) (.pure ())

end Engine

namespace Operation

def TakesVote : Operation → Prop
  | collectVote _ | handleMessage (.vote _) => True
  | _ => False

/-- The deeds that an operation may do. Votes are pooled only where one is handed over or received, bundles get
into their pool only if the operation admits them, and both get out of theirs only by its sweeps; messages are
sent only when the countdown expires, and the countdown is commanded only at its start and by certificates. -/
def Allows (setting : Setting) (state : EngineState) (operation : Operation) : Deed → Prop
  | .keepVote _ => operation.TakesVote
  | .keepBundle bundle => operation.Admits setting state (.syncInfo bundle)
  | .sweepVotes _ => operation = .sweepVotes ∨ operation = .sweepAll
  | .sweepBundles _ => operation = .sweepBundles ∨ operation = .sweepAll
  | .countTimeouts _ | .emit (.broadcast _) => operation = .handleExpiry
  | .emit (.reset _ _) => operation = .start
  | .emit (.entered _ _) => False
  | _ => True

variable {setting : Setting} {state : EngineState}

theorem allows_common (operation : Operation) (deed : Deed) (common : deed.Common) :
    operation.Allows setting state deed := by
  cases deed with
  | keepVote | sweepVotes => exact common.votes.elim
  | keepBundle | sweepBundles => exact common.bundles.elim
  | countTimeouts => exact common.silent.elim
  | emit effect =>
    cases effect with
    | broadcast => exact common.silent.elim
    | reset | entered => exact common.countdown.elim
    | notice => trivial
  | _ => trivial

theorem silent_of_allows {operation : Operation} {deed : Deed} (allowed : operation.Allows setting state deed)
    (other : operation ≠ .handleExpiry) : deed.Silent := by
  cases deed with
  | countTimeouts => exact other allowed
  | emit effect =>
    cases effect with
    | broadcast => exact other allowed
    | _ => trivial
  | _ => trivial

theorem sparesCountdown_of_allows {operation : Operation} {deed : Deed}
    (allowed : operation.Allows setting state deed) (running : operation ≠ .start) : deed.SparesCountdown := by
  cases deed with
  | emit effect =>
    cases effect with
    | reset => exact running allowed
    | entered => exact allowed
    | _ => trivial
  | _ => trivial

theorem sparesVotes_of_allows {operation : Operation} {deed : Deed} (allowed : operation.Allows setting state deed)
    (takes : ¬operation.TakesVote) (sweeps : ¬(operation = .sweepVotes ∨ operation = .sweepAll)) :
    deed.SparesVotes := by
  cases deed with
  | keepVote => exact takes allowed
  | sweepVotes => exact sweeps allowed
  | _ => trivial

theorem made (operation : Operation) : MadeOf setting (operation.Allows setting state) (operation.action setting) := by
  have common : ∀ deed : Deed, deed.Common → operation.Allows setting state deed := operation.allows_common
  cases operation with
  | start => exact .read_bind fun _ => Engine.resetCountdown_made common (fun _ _ => rfl) _
  | look => exact .read_bind fun _ => .pure ()
  | handleMessage message =>
    refine Engine.handleMessage_made common message (fun vote signer same => ?_) fun bundle same => ?_
    · rw [same]
      trivial
    · rw [same]
      exact .receiveSyncInfo bundle
  | collectVote vote => exact Engine.collectVote_made common vote trivial
  | collectTimeout timeout => exact Engine.collectTimeout_made common timeout
  | verifyVote | verifyTimeout | verifySyncInfo => exact .read_bind fun _ => .check_bind fun _ => .pure ()
  | handleSyncInfo bundle => exact Engine.handleSyncInfo_made common bundle (.handleSyncInfo bundle)
  | bufferSyncInfo bundle => exact Engine.bufferSyncInfo_made common bundle (.bufferSyncInfo bundle)
  | takeUp bundle => exact Engine.takeUp_made common bundle
  | processQuorum cert => exact Engine.process_made common (.quorum cert)
  | processTimeoutCert cert => exact Engine.process_made common (.timeout cert)
  | replay => exact Engine.replay_made common
  | handleExpiry => exact Engine.handleExpiry_made common (fun _ => rfl) fun _ => rfl
  | timeoutGapNumber | isEpochSwitch => exact .check_bind fun _ => .pure ()
  | sweepVotes => exact .bind (Engine.sweepVotes_made fun _ => .inl rfl) fun _ => .pure ()
  | sweepTimeouts => exact .bind (Engine.sweepTimeouts_made common) fun _ => .pure ()
  | sweepBundles => exact .bind (Engine.sweepBundles_made fun _ => .inl rfl) fun _ => .pure ()
  | sweepAll => exact Engine.sweepAll_made common (fun _ => .inr rfl) fun _ => .inr rfl

end Operation

end MasternodeBft
