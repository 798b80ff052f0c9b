import MasternodeBft.Proofs.CatchUp
import MasternodeBft.Proofs.Confluence
import MasternodeBft.Proofs.Expiry
import MasternodeBft.Proofs.Retention

/-!
What a replay of the kept bundles does. Of each key bundles are taken up until one is accepted, and then the
others of that key hold nothing newer; so no bundle in order is passed over, whatever else is in the pool and
in whichever order it is visited.
-/

namespace MasternodeBft

namespace Action

variable {α : Type} {action : Action α} {state : EngineState}

theorem attempt_of_done {value : α} (done : (action state).ending = .done value) :
    attempt action state = ⟨.done (.ok value), (action state).state, (action state).effects⟩ := by
  simp only [attempt, done]

theorem attempt_of_refused {error : ConsensusError} (refused : (action state).ending = .refused error) :
    attempt action state = ⟨.done (.error error), (action state).state, (action state).effects⟩ := by
  simp only [attempt, refused]

theorem attempt_of_overflowed (overflowed : (action state).ending = .overflowed) :
    attempt action state = ⟨.overflowed, (action state).state, (action state).effects⟩ := by
  simp only [attempt, overflowed]

end Action

theorem RoundState.Advances.reaches {earlier later : RoundState} {bundle : SyncInfo} (advances : earlier.Advances later)
    (reaches : earlier.Reaches bundle) : later.Reaches bundle where
  quorumRound := UInt64.le_trans reaches.quorumRound advances.quorumRound
  timeoutRound := UInt64.le_trans reaches.timeoutRound advances.timeoutRound

namespace Engine

open MasternodeBft.Action

variable {setting : Setting} {state : EngineState} {bundle : SyncInfo}

/-! One bundle. -/

/-- What becomes of a bundle that is taken up: the node comes as far as it, or one of its certificates is
refused, or one of the last round gets the node stuck. -/
inductive BundleFate (setting : Setting) (before : EngineState) (bundle : SyncInfo) (ending : Ending Unit)
    (after : EngineState) : Prop
  | reached (done : ending = .done ()) (reaches : after.round.Reaches bundle)
  | quorumRefused (refused : ∃ error, ending = .refused error)
      (newer : before.round.quorumRound < bundle.quorumCert.round)
      (fails : (verifyQuorum setting bundle.quorumCert).ending ≠ .done ())
  | timeoutRefused (refused : ∃ error, ending = .refused error)
      (quorumRound : bundle.quorumCert.round ≤ after.round.quorumRound)
      (fails : ∀ cert ∈ bundle.timeoutCert, (verifyTimeoutCert setting cert).ending ≠ .done ())
  | stuck (overflowed : ending = .overflowed)
      (last : ¬bundle.quorumCert.round.HasNext ∨ ∃ cert ∈ bundle.timeoutCert, ¬cert.round.HasNext)

theorem process_bundleFate {before : EngineState} {cert : TimeoutCert}
    (present : bundle.timeoutCert = some cert) (quorumRound : bundle.quorumCert.round ≤ state.round.quorumRound) :
    BundleFate setting before bundle (process setting (.timeout cert) state).ending
      (process setting (.timeout cert) state).state := by
  have timeoutRound : bundle.timeoutRound = cert.round := by
    unfold SyncInfo.timeoutRound
    rw [present]
    rfl
  have fate : Fate setting state (.timeout cert) (process setting (.timeout cert) state) := process_fate _
  have kept : (process setting (.timeout cert) state).state.round.quorumRound = state.round.quorumRound :=
    fate.spares (fun state => state.round.quorumRound) (state.adopt_quorumRound (.timeout cert))
  cases fate with
  | stale old done same =>
    refine .reached done ⟨kept ▸ quorumRound, ?_⟩
    rw [same, timeoutRound]
    exact UInt64.not_lt.mp old
  | rejected _ fails refused =>
    refine .timeoutRefused refused (kept ▸ quorumRound) fun other listed => ?_
    cases present.symm.trans listed
    exact fails
  | adopted _ _ _ done moved =>
    refine .reached done ⟨kept ▸ quorumRound, ?_⟩
    rw [moved, timeoutRound, EngineState.adopt_timeoutRound]
    exact UInt64.le_refl _
  | stuck _ _ last overflowed => exact .stuck overflowed (.inr ⟨cert, present, last⟩)

theorem process_reached {cert : AnyCert} (done : (process setting cert state).ending = .done ()) :
    cert.round ≤ cert.highest (process setting cert state).state.round := by
  have fate : Fate setting state cert (process setting cert state) := process_fate cert
  cases fate with
  | stale old _ kept =>
    rw [kept]
    exact UInt64.not_lt.mp old
  | rejected _ _ refused =>
    rw [done] at refused
    exact absurd refused nofun
  | adopted _ _ _ _ moved =>
    rw [moved, EngineState.highest_adopt]
    exact UInt64.le_refl _
  | stuck _ _ _ overflowed => exact nomatch done.symm.trans overflowed

theorem processBoth_bundleFate :
    BundleFate setting state bundle (processBoth setting bundle state).ending
      (processBoth setting bundle state).state := by
  let quorum : AnyCert := .quorum bundle.quorumCert
  have fate : Fate setting state quorum (process setting quorum state) := process_fate quorum
  unfold processBoth
  cases fate with
  | stale _ done | adopted _ _ _ done =>
    have reached := process_reached done
    rw [bind_of_done done]
    cases present : bundle.timeoutCert with
    | none =>
      refine .reached rfl ⟨reached, ?_⟩
      unfold SyncInfo.timeoutRound
      rw [present]
      exact UInt64.zero_le
    | some cert => exact process_bundleFate present reached
  | rejected newer fails refused =>
    obtain ⟨error, refused⟩ := refused
    rw [bind_of_refused refused]
    exact .quorumRefused ⟨error, rfl⟩ newer fails
  | stuck _ _ last overflowed =>
    rw [bind_of_overflowed overflowed]
    exact .stuck rfl (.inl last)

theorem takeUp_fate :
    BundleFate setting state bundle (takeUp setting bundle state).ending (takeUp setting bundle state).state := by
  rw [takeUp_eq]
  by_cases dominated : state.round.dominates bundle = true
  · rw [if_pos dominated]
    exact .reached rfl (RoundState.dominates_iff.mp dominated)
  · rw [if_neg dominated]
    exact processBoth_bundleFate

theorem takeUp_of_refused {error : ConsensusError} (newer : state.round.quorumRound < bundle.quorumCert.round)
    (refused : (verifyQuorum setting bundle.quorumCert).ending = .refused error) :
    (takeUp setting bundle state).ending = .refused error ∧ (takeUp setting bundle state).state = state := by
  have fresh : ¬state.round.dominates bundle = true := fun dominated =>
    UInt64.not_le.mpr newer (RoundState.dominates_iff.mp dominated).quorumRound
  let quorum : AnyCert := .quorum bundle.quorumCert
  have stopped : (process setting quorum state).ending = .refused error := process_refuses newer refused
  have kept : (process setting quorum state).state = state := (process_leavesBehind quorum error stopped).1.2
  rw [takeUp_eq, if_neg fresh]
  unfold processBoth
  rw [bind_of_refused stopped]
  exact ⟨rfl, kept⟩

theorem takeUp_of_quorum {cert : QuorumCert} (newer : state.round.quorumRound < cert.round)
    (verified : (verifyQuorum setting cert).ending = .done ()) (next : cert.round.HasNext) :
    (takeUp setting ⟨cert, none⟩ state).ending = .done () ∧
      (takeUp setting ⟨cert, none⟩ state).state = state.adopt (.quorum cert) := by
  have fresh : ¬state.round.dominates ⟨cert, none⟩ = true := fun dominated =>
    UInt64.not_le.mpr newer (RoundState.dominates_iff.mp dominated).quorumRound
  obtain ⟨done, moved⟩ := @process_done setting state (.quorum cert) verified next
  rw [takeUp_eq, if_neg fresh]
  unfold processBoth
  rw [bind_of_done done, moved]
  exact ⟨rfl, if_pos newer⟩

theorem takeUp_of_processed {quorumCert : QuorumCert} {cert : TimeoutCert} {middle : EngineState}
    (done : (process setting (.quorum quorumCert) state).ending = .done ())
    (moved : (process setting (.quorum quorumCert) state).state = middle)
    (newer : middle.round.timeoutRound < cert.round)
    (verified : (verifyTimeoutCert setting cert).ending = .done ()) :
    (takeUp setting ⟨quorumCert, some cert⟩ state).ending = (adopt setting (.timeout cert) middle).ending ∧
      (takeUp setting ⟨quorumCert, some cert⟩ state).state = middle.adopt (.timeout cert) := by
  have advances : state.round.Advances (process setting (.quorum quorumCert) state).state.round :=
    Step.advances ⟨.processQuorum quorumCert, setting⟩ state
  rw [moved] at advances
  have fresh : ¬state.round.dominates ⟨quorumCert, some cert⟩ = true := fun dominated =>
    UInt64.not_le.mpr newer (advances.reaches (RoundState.dominates_iff.mp dominated)).timeoutRound
  let timeout : AnyCert := .timeout cert
  have timeoutNewer : timeout.highest middle.round < timeout.round := newer
  have passes : timeout.Passes setting := verified
  rw [takeUp_eq, if_neg fresh]
  unfold processBoth
  rw [bind_of_done done, moved]
  change (process setting timeout middle).ending = _ ∧ (process setting timeout middle).state = _
  rw [process_of_newer passes timeoutNewer]
  exact ⟨rfl, adopt_state timeoutNewer⟩

end Engine

namespace RoundState

theorem Reaches.of_key {state : RoundState} {bundle other : SyncInfo} (reaches : state.Reaches bundle)
    (same : other.key = bundle.key) : state.Reaches other where
  quorumRound := by
    have quorumRound : other.quorumCert.round = bundle.quorumCert.round := congrArg SyncKey.quorumRound same
    exact quorumRound ▸ reaches.quorumRound
  timeoutRound := by
    have timeoutRound : other.timeoutRound = bundle.timeoutRound := congrArg SyncKey.timeoutRound same
    exact timeoutRound ▸ reaches.timeoutRound

/-- What a later state owes to a bundle: it has come as far as each certificate of it that passes, but as far
as the timeout certificate only if the quorum certificate passes too, or is not newer than the highest one of
the earlier state. -/
structure Settles (setting : Setting) (earlier : RoundState) (bundle : SyncInfo) (later : RoundState) : Prop where
  quorumRound : (Engine.verifyQuorum setting bundle.quorumCert).ending = .done () →
    bundle.quorumCert.round ≤ later.quorumRound
  timeoutRound : ((Engine.verifyQuorum setting bundle.quorumCert).ending = .done () ∨
      bundle.quorumCert.round ≤ earlier.quorumRound) →
    ∀ cert ∈ bundle.timeoutCert, (Engine.verifyTimeoutCert setting cert).ending = .done () →
      cert.round ≤ later.timeoutRound

namespace Settles

variable {setting : Setting} {earlier later : RoundState} {bundle : SyncInfo}

theorem of_reaches (reaches : later.Reaches bundle) : Settles setting earlier bundle later where
  quorumRound _ := reaches.quorumRound
  timeoutRound _ cert present _ := by
    have timeoutRound := reaches.timeoutRound
    unfold SyncInfo.timeoutRound at timeoutRound
    rwa [Option.mem_def.mp present] at timeoutRound

theorem mono {first last : RoundState} (settles : Settles setting earlier bundle later)
    (before : first.Advances earlier) (after : later.Advances last) : Settles setting first bundle last where
  quorumRound passed := UInt64.le_trans (settles.quorumRound passed) after.quorumRound
  timeoutRound met cert present passed := by
    have reached := settles.timeoutRound (met.imp_right fun old => UInt64.le_trans old before.quorumRound) cert present
    exact UInt64.le_trans (reached passed) after.timeoutRound

theorem reaches (settles : Settles setting earlier bundle later)
    (quorumCert : (Engine.verifyQuorum setting bundle.quorumCert).ending = .done ())
    (timeoutCert : ∀ cert ∈ bundle.timeoutCert, (Engine.verifyTimeoutCert setting cert).ending = .done ()) :
    later.Reaches bundle where
  quorumRound := settles.quorumRound quorumCert
  timeoutRound := by
    unfold SyncInfo.timeoutRound
    cases present : bundle.timeoutCert with
    | none => exact UInt64.zero_le
    | some cert => exact settles.timeoutRound (.inl quorumCert) cert present (timeoutCert cert present)

end Settles

end RoundState

namespace Engine

open MasternodeBft.Action

variable {setting : Setting} {state : EngineState} {bundle : SyncInfo}

theorem takeUp_advances (bundle : SyncInfo) (state : EngineState) :
    state.round.Advances (takeUp setting bundle state).state.round :=
  Step.advances ⟨.takeUp bundle, setting⟩ state

theorem takeUp_reaches (done : (takeUp setting bundle state).ending = .done ()) :
    (takeUp setting bundle state).state.round.Reaches bundle := by
  have fate : BundleFate setting state bundle _ _ := takeUp_fate
  rw [done] at fate
  cases fate with
  | reached _ reaches => exact reaches
  | quorumRefused refused | timeoutRefused refused => exact absurd refused nofun
  | stuck overflowed => cases overflowed

theorem takeUp_settles (fits : (takeUp setting bundle state).ending ≠ .overflowed) :
    RoundState.Settles setting state.round bundle (takeUp setting bundle state).state.round := by
  have fate : BundleFate setting state bundle _ _ := takeUp_fate
  cases fate with
  | reached _ reaches => exact .of_reaches reaches
  | quorumRefused _ newer fails =>
    refine ⟨fun passed => absurd passed fails, fun met => ?_⟩
    exact absurd met (not_or.mpr ⟨fails, UInt64.not_le.mpr newer⟩)
  | timeoutRefused _ quorumRound fails =>
    exact ⟨fun _ => quorumRound, fun _ cert present passed => absurd passed (fails cert present)⟩
  | stuck overflowed => exact absurd overflowed fits

/-! The bundles of a key. -/

theorem replayBucket_of_done {key : SyncKey} {rest : List SyncInfo}
    (done : (takeUp setting bundle state).ending = .done ()) :
    (replayBucket setting key (bundle :: rest) state).ending = .done () ∧
      (replayBucket setting key (bundle :: rest) state).state = (takeUp setting bundle state).state := by
  have taken := attempt_of_done done
  have attempted : (attempt (takeUp setting bundle) state).ending = .done (.ok ()) := by rw [taken]
  unfold replayBucket
  rw [bind_of_done attempted, taken]
  exact ⟨rfl, rfl⟩

theorem replayBucket_of_refused {key : SyncKey} {rest : List SyncInfo} {error : ConsensusError}
    (refused : (takeUp setting bundle state).ending = .refused error) :
    (replayBucket setting key (bundle :: rest) state).ending =
        (replayBucket setting key rest (takeUp setting bundle state).state).ending ∧
      (replayBucket setting key (bundle :: rest) state).state =
        (replayBucket setting key rest (takeUp setting bundle state).state).state := by
  have taken := attempt_of_refused refused
  have attempted : (attempt (takeUp setting bundle) state).ending = .done (.error error) := by rw [taken]
  rw [replayBucket, bind_of_done attempted, taken]
  exact ⟨rfl, rfl⟩

theorem replayBucket_single (key : SyncKey) (fits : (takeUp setting bundle state).ending ≠ .overflowed) :
    (replayBucket setting key [bundle] state).ending = .done () ∧
      (replayBucket setting key [bundle] state).state = (takeUp setting bundle state).state := by
  cases ended : (takeUp setting bundle state).ending with
  | done => exact replayBucket_of_done ended
  | refused error => exact replayBucket_of_refused ended
  | overflowed => exact absurd ended fits

theorem replayBucket_of_overflowed {key : SyncKey} {rest : List SyncInfo}
    (overflowed : (takeUp setting bundle state).ending = .overflowed) :
    (replayBucket setting key (bundle :: rest) state).ending = .overflowed ∧
      (replayBucket setting key (bundle :: rest) state).state = (takeUp setting bundle state).state := by
  have taken := attempt_of_overflowed overflowed
  have attempted : (attempt (takeUp setting bundle) state).ending = .overflowed := by rw [taken]
  unfold replayBucket
  rw [bind_of_overflowed attempted, taken]
  exact ⟨rfl, rfl⟩

theorem replayBucket_relates (relation : EngineState → EngineState → Prop) (refl : ∀ state, relation state state)
    (trans : ∀ {a b c}, relation a b → relation b c → relation a c) (key : SyncKey) {bundles : List SyncInfo}
    (each : ∀ bundle ∈ bundles, ∀ state, relation state (takeUp setting bundle state).state) (state : EngineState) :
    relation state (replayBucket setting key bundles state).state := by
  induction bundles generalizing state with
  | nil => exact refl state
  | cons bundle rest ih =>
    obtain ⟨first, others⟩ := List.forall_mem_cons.mp each
    cases ended : (takeUp setting bundle state).ending with
    | done =>
      rw [(replayBucket_of_done ended).2]
      exact first state
    | refused error =>
      rw [(replayBucket_of_refused ended).2]
      exact trans (first state) (ih others _)
    | overflowed =>
      rw [(replayBucket_of_overflowed ended).2]
      exact first state

theorem replayBucket_advances (key : SyncKey) (bundles : List SyncInfo) (state : EngineState) :
    state.round.Advances (replayBucket setting key bundles state).state.round :=
  replayBucket_relates (fun first last => first.round.Advances last.round) (fun state => .refl state.round) .trans key
    (fun bundle _ state => takeUp_advances bundle state) state

/-- No bundle of a key is passed over: where one is accepted, the others are of the same rounds. -/
theorem replayBucket_settles {key : SyncKey} {bundles : List SyncInfo} (together : ∀ bundle ∈ bundles, bundle.key = key)
    (fits : (replayBucket setting key bundles state).ending ≠ .overflowed) :
    ∀ bundle ∈ bundles,
      RoundState.Settles setting state.round bundle (replayBucket setting key bundles state).state.round := by
  induction bundles generalizing state with
  | nil => exact fun bundle listed => absurd listed List.not_mem_nil
  | cons first rest ih =>
    obtain ⟨firstKey, restKeys⟩ := List.forall_mem_cons.mp together
    have advances : state.round.Advances (takeUp setting first state).state.round := takeUp_advances first state
    cases ended : (takeUp setting first state).ending with
    | done =>
      rw [(replayBucket_of_done ended).2]
      intro bundle listed
      exact .of_reaches ((takeUp_reaches ended).of_key ((together bundle listed).trans firstKey.symm))
    | refused error =>
      have onward := @replayBucket_of_refused setting state first key rest error ended
      rw [onward.1] at fits
      rw [onward.2]
      have settles : RoundState.Settles setting state.round first _ := takeUp_settles (ended ▸ nofun)
      refine List.forall_mem_cons.mpr ⟨?_, fun bundle listed => ?_⟩
      · exact settles.mono (.refl _) (replayBucket_advances key rest _)
      · exact (ih restKeys fits bundle listed).mono advances (.refl _)
    | overflowed => exact absurd (replayBucket_of_overflowed ended).1 fits

theorem takeUp_fits (quorumNext : bundle.quorumCert.round.HasNext)
    (timeoutNext : ∀ cert ∈ bundle.timeoutCert, cert.round.HasNext) (state : EngineState) :
    (takeUp setting bundle state).ending ≠ .overflowed := by
  have fate : BundleFate setting state bundle _ _ := takeUp_fate
  intro overflowed
  rw [overflowed] at fate
  cases fate with
  | reached done => cases done
  | quorumRefused refused | timeoutRefused refused => exact absurd refused nofun
  | stuck _ last =>
    rcases last with last | ⟨cert, present, last⟩
    · exact last quorumNext
    · exact last (timeoutNext cert present)

theorem replayBucket_done {key : SyncKey} {bundles : List SyncInfo}
    (fits : ∀ bundle ∈ bundles, ∀ state, (takeUp setting bundle state).ending ≠ .overflowed) (state : EngineState) :
    (replayBucket setting key bundles state).ending = .done () := by
  induction bundles generalizing state with
  | nil => rfl
  | cons first rest ih =>
    obtain ⟨firstFits, restFit⟩ := List.forall_mem_cons.mp fits
    cases ended : (takeUp setting first state).ending with
    | done => exact (replayBucket_of_done ended).1
    | refused error =>
      rw [(replayBucket_of_refused ended).1]
      exact ih restFit _
    | overflowed => exact absurd ended (firstFits state)

/-! All keys. -/

def visited (setting : Setting) (pool : SyncPool) (key : SyncKey) : List SyncInfo :=
  setting.bundleOrder.arrange (pool.bucket key).values

theorem mem_visited_iff {pool : SyncPool} {key : SyncKey} :
    bundle ∈ visited setting pool key ↔ bundle ∈ (pool.bucket key).values :=
  (setting.bundleOrder.perm _).mem_iff

theorem replayKeys_of_done {key : SyncKey} {rest : List SyncKey}
    (done : (replayBucket setting key (visited setting state.bundles key) state).ending = .done ()) :
    (replayKeys setting (key :: rest) state).ending =
        (replayKeys setting rest (replayBucket setting key (visited setting state.bundles key) state).state).ending ∧
      (replayKeys setting (key :: rest) state).state =
        (replayKeys setting rest (replayBucket setting key (visited setting state.bundles key) state).state).state := by
  change ((replayBucket setting key (visited setting state.bundles key) >>= fun _ => replayKeys setting rest)
      state).ending = _ ∧
    ((replayBucket setting key (visited setting state.bundles key) >>= fun _ => replayKeys setting rest)
      state).state = _
  rw [bind_of_done done]
  exact ⟨rfl, rfl⟩

theorem replayKeys_of_visited {key : SyncKey} {rest : List SyncKey} {bundles : List SyncInfo} {next : EngineState}
    (listed : visited setting state.bundles key = bundles)
    (replayed : (replayBucket setting key bundles state).ending = .done () ∧
      (replayBucket setting key bundles state).state = next) :
    (replayKeys setting (key :: rest) state).ending = (replayKeys setting rest next).ending ∧
      (replayKeys setting (key :: rest) state).state = (replayKeys setting rest next).state := by
  obtain ⟨done, rfl⟩ := replayed
  subst listed
  exact replayKeys_of_done done

theorem replayKeys_of_overflowed {key : SyncKey} {rest : List SyncKey}
    (overflowed : (replayBucket setting key (visited setting state.bundles key) state).ending = .overflowed) :
    (replayKeys setting (key :: rest) state).ending = .overflowed ∧
      (replayKeys setting (key :: rest) state).state =
        (replayBucket setting key (visited setting state.bundles key) state).state := by
  change ((replayBucket setting key (visited setting state.bundles key) >>= fun _ => replayKeys setting rest)
      state).ending = _ ∧
    ((replayBucket setting key (visited setting state.bundles key) >>= fun _ => replayKeys setting rest)
      state).state = _
  rw [bind_of_overflowed overflowed]
  exact ⟨rfl, rfl⟩

theorem replayBucket_bundles (key : SyncKey) (bundles : List SyncInfo) (state : EngineState) :
    (replayBucket setting key bundles state).state.bundles = state.bundles :=
  (replayBucket_made (fun _ common => common.bundles) key bundles).spares_bundles state

theorem replayKeys_relates (relation : EngineState → EngineState → Prop) (refl : ∀ state, relation state state)
    (trans : ∀ {a b c}, relation a b → relation b c → relation a c) {pool : SyncPool} {keys : List SyncKey}
    (each : ∀ key ∈ keys, ∀ bundle ∈ (pool.bucket key).values, ∀ state,
      relation state (takeUp setting bundle state).state)
    (state : EngineState) (same : state.bundles = pool) : relation state (replayKeys setting keys state).state := by
  induction keys generalizing state with
  | nil => exact refl state
  | cons key rest ih =>
    obtain ⟨first, others⟩ := List.forall_mem_cons.mp each
    have begins : relation state (replayBucket setting key (visited setting state.bundles key) state).state :=
      replayBucket_relates relation refl trans key
        (fun bundle listed => first bundle (mem_visited_iff.mp (same ▸ listed))) state
    cases ended : (replayBucket setting key (visited setting state.bundles key) state).ending with
    | done =>
      rw [(replayKeys_of_done ended).2]
      exact trans begins (ih others _ ((replayBucket_bundles key _ state).trans same))
    | refused error => exact absurd ended (replayBucket_unrefused key _ error)
    | overflowed =>
      rw [(replayKeys_of_overflowed ended).2]
      exact begins

theorem replayKeys_advances (keys : List SyncKey) (state : EngineState) :
    state.round.Advances (replayKeys setting keys state).state.round :=
  replayKeys_relates (fun first last => first.round.Advances last.round) (fun state => .refl state.round) .trans
    (fun _ _ bundle _ state => takeUp_advances bundle state) state rfl

theorem replayKeys_settles {pool : SyncPool} {kind : SyncInfo → Prop} (files : pool.Files kind) {keys : List SyncKey}
    (same : state.bundles = pool) (fits : (replayKeys setting keys state).ending ≠ .overflowed) :
    ∀ key ∈ keys, ∀ bundle ∈ (pool.bucket key).values,
      RoundState.Settles setting state.round bundle (replayKeys setting keys state).state.round := by
  induction keys generalizing state with
  | nil => exact fun key listed => absurd listed List.not_mem_nil
  | cons first rest ih =>
    cases ended : (replayBucket setting first (visited setting state.bundles first) state).ending with
    | done =>
      have onward := @replayKeys_of_done setting state first rest ended
      rw [onward.1] at fits
      rw [onward.2]
      refine List.forall_mem_cons.mpr ⟨fun bundle listed => ?_, fun key present bundle listed => ?_⟩
      · have together : ∀ bundle ∈ visited setting state.bundles first, bundle.key = first := by
          intro bundle listed
          obtain ⟨entry, present, rfl⟩ := List.mem_map.mp (mem_visited_iff.mp listed)
          exact (files first entry (same ▸ present)).2.1
        have stops : (replayBucket setting first (visited setting state.bundles first) state).ending ≠ .overflowed := by
          rw [ended]
          exact nofun
        have settles := replayBucket_settles together stops bundle (mem_visited_iff.mpr (same ▸ listed))
        exact settles.mono (.refl _) (replayKeys_advances rest _)
      · have settles := ih ((replayBucket_bundles first _ state).trans same) fits key present bundle listed
        exact settles.mono (replayBucket_advances first _ state) (.refl _)
    | refused error => exact absurd ended (replayBucket_unrefused first _ error)
    | overflowed => exact absurd (replayKeys_of_overflowed ended).1 fits

theorem replayKeys_done {pool : SyncPool} {keys : List SyncKey}
    (fits : ∀ key ∈ keys, ∀ bundle ∈ (pool.bucket key).values, ∀ state,
      (takeUp setting bundle state).ending ≠ .overflowed)
    (state : EngineState) (same : state.bundles = pool) : (replayKeys setting keys state).ending = .done () := by
  induction keys generalizing state with
  | nil => rfl
  | cons key rest ih =>
    obtain ⟨first, others⟩ := List.forall_mem_cons.mp fits
    have done : (replayBucket setting key (visited setting state.bundles key) state).ending = .done () :=
      replayBucket_done (fun bundle listed => first bundle (mem_visited_iff.mp (same ▸ listed))) state
    rw [(replayKeys_of_done done).1]
    exact ih others _ ((replayBucket_bundles key _ state).trans same)

/-! The whole pool. -/

theorem replay_eq : replay setting state = replayKeys setting (setting.keyOrder.arrange state.bundles.keys) state := rfl

theorem replay_pair {first second : SyncInfo} {middle last : EngineState}
    (keys : setting.keyOrder.arrange state.bundles.keys = [first.key, second.key])
    (firstListed : visited setting state.bundles first.key = [first])
    (secondListed : visited setting state.bundles second.key = [second])
    (begun : (takeUp setting first state).ending ≠ .overflowed ∧ (takeUp setting first state).state = middle)
    (ended : (takeUp setting second middle).ending ≠ .overflowed ∧ (takeUp setting second middle).state = last) :
    (replay setting state).ending = .done () ∧ (replay setting state).state = last := by
  obtain ⟨firstFits, rfl⟩ := begun
  obtain ⟨secondFits, rfl⟩ := ended
  have kept : (takeUp setting first state).state.bundles = state.bundles :=
    (takeUp_made (fun _ common => common.bundles) first).spares_bundles state
  have onward := @replayKeys_of_visited _ _ first.key [second.key] _ _ firstListed
    (replayBucket_single first.key firstFits)
  have stops := @replayKeys_of_visited _ _ second.key [] _ _ (kept ▸ secondListed)
    (replayBucket_single second.key secondFits)
  rw [replay_eq, keys]
  exact ⟨onward.1.trans stops.1, onward.2.trans stops.2⟩

theorem contains_of_values {pool : SyncPool} {kind : SyncInfo → Prop} (files : pool.Files kind) {key : SyncKey}
    (listed : bundle ∈ (pool.bucket key).values) : pool.Contains bundle := by
  obtain ⟨entry, present, rfl⟩ := List.mem_map.mp listed
  have filed : entry.2.key = key := (files key entry present).2.1
  unfold Pool.Contains
  change entry.2 ∈ (pool.bucket entry.2.key).values
  rwa [filed]

theorem replay_relates {kind : SyncInfo → Prop} (files : state.bundles.Files kind)
    (relation : EngineState → EngineState → Prop) (refl : ∀ state, relation state state)
    (trans : ∀ {a b c}, relation a b → relation b c → relation a c)
    (each : ∀ bundle, state.bundles.Contains bundle → ∀ state, relation state (takeUp setting bundle state).state) :
    relation state (replay setting state).state :=
  replayKeys_relates relation refl trans
    (fun _ _ bundle listed => each bundle (contains_of_values files listed)) state rfl

theorem replay_settles {kind : SyncInfo → Prop} (files : state.bundles.Files kind)
    (fits : (replay setting state).ending ≠ .overflowed) (contains : state.bundles.Contains bundle) :
    RoundState.Settles setting state.round bundle (replay setting state).state.round := by
  obtain ⟨entry, present, rfl⟩ := List.mem_map.mp contains
  have listed : entry.2.key ∈ setting.keyOrder.arrange state.bundles.keys :=
    (setting.keyOrder.perm _).mem_iff.mpr (Pool.mem_keys_of_mem_bucket present)
  exact replayKeys_settles files rfl fits entry.2.key listed entry.2 contains

theorem replay_done {kind : SyncInfo → Prop} (files : state.bundles.Files kind)
    (fits : ∀ bundle, state.bundles.Contains bundle → ∀ state, (takeUp setting bundle state).ending ≠ .overflowed) :
    (replay setting state).ending = .done () :=
  replayKeys_done (fun _ _ bundle listed => fits bundle (contains_of_values files listed)) state rfl

end Engine

/-! Bundles that wait for the chain. -/

/-- From a state on, a bundle is in the pool until a sweep takes its key away, unless another one of its digest
comes. -/
def SyncInfo.KeptFrom (bundle : SyncInfo) (state : EngineState) : Prop :=
  ∀ run, (∀ other, AdmittedIn state run (.syncInfo other) → other.digest = bundle.digest → other = bundle) →
    (state.after run).bundles.Contains bundle ∨ Occurs (Step.SweepsAway bundle.key) state run

def EngineState.BundlesBounded (state : EngineState) : Prop :=
  ∀ bundle, state.bundles.Contains bundle →
    bundle.quorumCert.round.HasNext ∧ ∀ cert ∈ bundle.timeoutCert, cert.round.HasNext

section Waiting

variable {cert : QuorumCert} {start : EngineState} {bundle : SyncInfo}

/-- A bundle with something newer in it that is not refused is kept until it is swept away; and a replay takes
up every bundle that is in order by then, whatever else is kept, and in whichever order it is visited. -/
theorem bundles_kept_and_taken_up (started : EngineState.start? cert = some start) (run : List Step)
    (setting : Setting) (bundle : SyncInfo) :
    ((start.after run).round.dominates bundle = false →
      (Engine.handleMessage setting (.syncInfo bundle) (start.after run)).ending = .done () →
      (Engine.handleMessage setting (.syncInfo bundle) (start.after run)).state.bundles.Contains bundle ∧
        bundle.KeptFrom (Engine.handleMessage setting (.syncInfo bundle) (start.after run)).state) ∧
    ((start.after run).bundles.Contains bundle → (start.after run).BundlesBounded →
      (Engine.verifyQuorum setting bundle.quorumCert).ending = .done () →
      (∀ cert ∈ bundle.timeoutCert, (Engine.verifyTimeoutCert setting cert).ending = .done ()) →
      (Engine.replay setting (start.after run)).ending = .done () ∧
        (Engine.replay setting (start.after run)).state.round.Reaches bundle) := by
  constructor
  · intro newer done
    have holds := Engine.receiveSyncInfo_holds newer done
    refine ⟨holds.contains, fun rest apart => ?_⟩
    exact (bundle_kept_until_swept holds rest apart).imp_left Pool.Holds.contains
  · intro contains bundlesBounded quorumCert timeoutCert
    have files := isPool_bundles.admitted started run
    have done : (Engine.replay setting (start.after run)).ending = .done () :=
      Engine.replay_done files fun other present =>
        Engine.takeUp_fits (bundlesBounded other present).1 (bundlesBounded other present).2
    have fits : (Engine.replay setting (start.after run)).ending ≠ .overflowed := by
      rw [done]
      exact nofun
    exact ⟨done, (Engine.replay_settles files fits contains).reaches quorumCert timeoutCert⟩

end Waiting

/-! A bundle that comes before its block. -/

namespace Sample

def unsynced : Setting := { setting with chain := { chain with header? := fun _ => none } }

def ahead : SyncInfo := ⟨quorumCert 2 [1, 2, 3], some (timeoutCert 3 [2, 3, 4])⟩

def waiting : EngineState := { start with bundles := start.bundles.add ahead }

theorem handleMessage_ahead : (Engine.handleMessage unsynced (.syncInfo ahead) start).ending = .done () ∧
    (Engine.handleMessage unsynced (.syncInfo ahead) start).state = waiting := ⟨rfl, rfl⟩

theorem waiting_bundlesBounded : waiting.BundlesBounded := by
  intro bundle contains
  rcases Pool.contains_add contains with rfl | earlier
  · refine ⟨hasNext 2, fun cert present => ?_⟩
    cases present
    exact hasNext 3
  · exact absurd earlier Pool.not_contains_empty

end Sample

/-- The bundle is kept when it comes, and taken up once the block is there. -/
theorem bundle_waits_for_block :
    (Sample.start.round.dominates Sample.ahead = false ∧
      (Engine.handleMessage Sample.unsynced (.syncInfo Sample.ahead) Sample.start).ending = .done () ∧
      Sample.waiting.bundles.Contains Sample.ahead ∧ Sample.ahead.KeptFrom Sample.waiting) ∧
    Sample.waiting.BundlesBounded ∧ (Engine.replay Sample.setting Sample.waiting).ending = .done () ∧
      (Engine.replay Sample.setting Sample.waiting).state.round.Reaches Sample.ahead := by
  obtain ⟨done, received⟩ := Sample.handleMessage_ahead
  have keeps := (bundles_kept_and_taken_up Sample.started [] Sample.unsynced Sample.ahead).1
  rw [show Sample.start.after [] = Sample.start from rfl, received] at keeps
  obtain ⟨contains, kept⟩ := keeps rfl done
  have quorumCert : (Sample.quorumCert 2 [1, 2, 3]).Certified Sample.setting :=
    Sample.quorumCert_certified (by decide) (by decide) (by decide) (by decide)
  have timeoutCert : (Sample.timeoutCert 3 [2, 3, 4]).Certified Sample.setting :=
    Sample.timeoutCert_certified (by decide) (by decide) (by decide) (by decide)
  have timeoutCerts : ∀ cert ∈ Sample.ahead.timeoutCert,
      (Engine.verifyTimeoutCert Sample.setting cert).ending = .done () := by
    intro cert present
    cases present
    exact Engine.verifyTimeoutCert_done_iff.mpr timeoutCert.endorsed
  have waited : Sample.start.after [⟨.handleMessage (.syncInfo Sample.ahead), Sample.unsynced⟩] = Sample.waiting :=
    received
  have takesUp := (bundles_kept_and_taken_up Sample.started
    [⟨.handleMessage (.syncInfo Sample.ahead), Sample.unsynced⟩] Sample.setting Sample.ahead).2
  rw [waited] at takesUp
  exact ⟨⟨rfl, done, contains, kept⟩, Sample.waiting_bundlesBounded,
    takesUp contains Sample.waiting_bundlesBounded (Engine.verifyQuorum_done_iff.mpr (.inr quorumCert)) timeoutCerts⟩

end MasternodeBft
