import MasternodeBft.Proofs.Replay

/-!
What a replay owes to the order in which bundles are visited. The highest quorum certificate does not depend
on it. A bundle whose quorum certificate does not pass, though, may have its timeout certificate taken up, if
a later quorum certificate comes from another bundle before; that is the only way for the order to show.
-/

namespace MasternodeBft

structure Visit where
  keyOrder : VisitOrder SyncKey
  bundleOrder : VisitOrder SyncInfo

/-- The same setting with other orders. Checks do not see the difference. -/
def Setting.visiting (setting : Setting) (visit : Visit) : Setting :=
  { setting with keyOrder := visit.keyOrder, bundleOrder := visit.bundleOrder }

theorem AnyCert.passes_visiting {setting : Setting} {visit : Visit} {cert : AnyCert} :
    cert.Passes (setting.visiting visit) ↔ cert.Passes setting := by
  cases cert <;> exact .rfl

namespace RoundState

/-- The highest certificates of a later state are those of an earlier one, or come from a pool of bundles: quorum
certificates that pass, and timeout certificates that pass, from bundles whose quorum certificates are not
newer than the highest one. -/
structure Drawn (setting : Setting) (pool : SyncPool) (earlier later : RoundState) : Prop where
  quorumRound : later.quorumRound = earlier.quorumRound ∨ ∃ bundle, pool.Contains bundle ∧
    (Engine.verifyQuorum setting bundle.quorumCert).ending = .done () ∧ bundle.quorumCert.round = later.quorumRound
  timeoutRound : later.timeoutRound = earlier.timeoutRound ∨ ∃ bundle, pool.Contains bundle ∧
    bundle.quorumCert.round ≤ later.quorumRound ∧ ∃ cert ∈ bundle.timeoutCert,
      (Engine.verifyTimeoutCert setting cert).ending = .done () ∧ cert.round = later.timeoutRound

namespace Drawn

variable {setting : Setting} {pool : SyncPool} {first middle last : RoundState}

theorem refl (state : RoundState) : Drawn setting pool state state := ⟨.inl rfl, .inl rfl⟩

theorem trans (begun : Drawn setting pool first middle) (ended : Drawn setting pool middle last)
    (after : middle.Advances last) : Drawn setting pool first last where
  quorumRound := by
    rcases ended.quorumRound with same | drawn
    · rw [same]
      exact begun.quorumRound
    · exact .inr drawn
  timeoutRound := by
    rcases ended.timeoutRound with same | drawn
    · rw [same]
      refine begun.timeoutRound.imp_right fun ⟨bundle, contains, reached, rest⟩ => ?_
      exact ⟨bundle, contains, UInt64.le_trans reached after.quorumRound, rest⟩
    · exact .inr drawn

end Drawn

end RoundState

namespace Engine

open MasternodeBft.Action

variable {setting : Setting} {state : EngineState} {pool : SyncPool} {bundle : SyncInfo}

theorem processQuorum_drawn (contains : pool.Contains bundle) :
    RoundState.Drawn setting pool state.round (process setting (.quorum bundle.quorumCert) state).state.round := by
  have absorbs : RoundState.Absorbs setting [.quorum bundle.quorumCert] state.round
    (process setting (.quorum bundle.quorumCert) state).state.round := .single _
  constructor
  · refine absorbs.quorumRound.attained.imp_right fun ⟨cert, listed, passed, same⟩ => ?_
    cases List.mem_singleton.mp listed
    exact ⟨bundle, contains, passed, same⟩
  · refine absorbs.timeoutRound.attained.imp_right fun ⟨cert, listed, _⟩ => ?_
    cases List.mem_singleton.mp listed

theorem processTimeoutCert_drawn (contains : pool.Contains bundle) {cert : TimeoutCert}
    (present : cert ∈ bundle.timeoutCert) (reached : bundle.quorumCert.round ≤ state.round.quorumRound) :
    RoundState.Drawn setting pool state.round (process setting (.timeout cert) state).state.round := by
  have absorbs : RoundState.Absorbs setting [.timeout cert] state.round
    (process setting (.timeout cert) state).state.round := .single _
  constructor
  · refine absorbs.quorumRound.attained.imp_right fun ⟨other, listed, _⟩ => ?_
    cases List.mem_singleton.mp listed
  · refine absorbs.timeoutRound.attained.imp_right fun ⟨other, listed, passed, same⟩ => ?_
    cases List.mem_singleton.mp listed
    exact ⟨bundle, contains, UInt64.le_trans reached absorbs.quorumRound.earlier_le, cert, present, passed, same⟩

theorem takeUp_drawn (contains : pool.Contains bundle) (state : EngineState) :
    RoundState.Drawn setting pool state.round (takeUp setting bundle state).state.round := by
  rw [takeUp_eq]
  by_cases dominated : state.round.dominates bundle = true
  · rw [if_pos dominated]
    exact .refl _
  rw [if_neg dominated]
  have begun : RoundState.Drawn setting pool state.round _ := processQuorum_drawn contains
  unfold processBoth
  cases ended : (process setting (.quorum bundle.quorumCert) state).ending with
  | done =>
    rw [bind_of_done ended]
    cases present : bundle.timeoutCert with
    | none => exact begun
    | some cert =>
      have advances := Step.advances ⟨.processTimeoutCert cert, setting⟩
        (process setting (.quorum bundle.quorumCert) state).state
      exact begun.trans (processTimeoutCert_drawn contains present (process_reached ended)) advances
  | refused error =>
    rw [bind_of_refused ended]
    exact begun
  | overflowed =>
    rw [bind_of_overflowed ended]
    exact begun

theorem replay_drawn {kind : SyncInfo → Prop} (files : state.bundles.Files kind) :
    RoundState.Drawn setting state.bundles state.round (replay setting state).state.round := by
  have related : state.round.Advances (replay setting state).state.round ∧
      RoundState.Drawn setting state.bundles state.round (replay setting state).state.round :=
    replay_relates files
      (fun first last => first.round.Advances last.round ∧
        RoundState.Drawn setting state.bundles first.round last.round)
      (fun state => ⟨.refl state.round, .refl state.round⟩)
      (fun ⟨before, begun⟩ ⟨after, ended⟩ => ⟨before.trans after, begun.trans ended after⟩)
      (fun bundle contains state => ⟨takeUp_advances bundle state, takeUp_drawn contains state⟩)
  exact related.2

theorem replay_quorumRound {kind : SyncInfo → Prop} (files : state.bundles.Files kind)
    (fits : (replay setting state).ending ≠ .overflowed) :
    Round.Greatest state.round.quorumRound
      (fun round => ∃ bundle, state.bundles.Contains bundle ∧
        (verifyQuorum setting bundle.quorumCert).ending = .done () ∧ bundle.quorumCert.round = round)
      (replay setting state).state.round.quorumRound where
  earlier_le := (Step.advances ⟨.replay, setting⟩ state).quorumRound
  others_le := by
    rintro round ⟨bundle, contains, passed, rfl⟩
    exact (replay_settles files fits contains).quorumRound passed
  attained := (replay_drawn files).quorumRound

end Engine

/-- A bundle whose quorum certificate does not pass, and is newer than the highest one of an earlier state, but
not than that of a later one. -/
structure Stranded (setting : Setting) (earlier later : RoundState) (bundle : SyncInfo) : Prop where
  fails : (Engine.verifyQuorum setting bundle.quorumCert).ending ≠ .done ()
  newer : earlier.quorumRound < bundle.quorumCert.round
  overtaken : bundle.quorumCert.round ≤ later.quorumRound

section Orders

open Engine

variable {setting : Setting} {state : EngineState} {first second : Visit}

def EngineState.replayed (state : EngineState) (setting : Setting) (visit : Visit) : RoundState :=
  (replay (setting.visiting visit) state).state.round

/-- A replay ends with the timeout certificate of a stranded bundle, and another one, in other orders, comes
less far. -/
structure GoesBeyond (setting : Setting) (state : EngineState) (further nearer : RoundState) : Prop where
  timeoutRound : nearer.timeoutRound < further.timeoutRound
  stranded : ∃ bundle, state.bundles.Contains bundle ∧ Stranded setting state.round further bundle ∧
    ∃ cert ∈ bundle.timeoutCert, (verifyTimeoutCert setting cert).ending = .done () ∧
      cert.round = further.timeoutRound

/-- One replay comes further than another one only with the timeout certificate of a stranded bundle. -/
theorem timeoutRound_le_or_goesBeyond {kind : SyncInfo → Prop} (files : state.bundles.Files kind)
    (fits : (replay (setting.visiting second) state).ending ≠ .overflowed) :
    (state.replayed setting first).timeoutRound ≤ (state.replayed setting second).timeoutRound ∨
      GoesBeyond setting state (state.replayed setting first) (state.replayed setting second) := by
  have drawn : RoundState.Drawn (setting.visiting first) state.bundles state.round (state.replayed setting first) :=
    replay_drawn files
  by_cases beyond : (state.replayed setting second).timeoutRound < (state.replayed setting first).timeoutRound
  · refine .inr ⟨beyond, ?_⟩
    rcases drawn.timeoutRound with same | ⟨bundle, contains, reached, cert, present, passed, same⟩
    · rw [same] at beyond
      have advances := Step.advances ⟨.replay, setting.visiting second⟩ state
      exact absurd advances.timeoutRound (UInt64.not_le.mpr beyond)
    · refine ⟨bundle, contains, ?_, cert, present, passed, same⟩
      have settles : RoundState.Settles (setting.visiting second) state.round bundle (state.replayed setting second) :=
        replay_settles files fits contains
      -- Where the bundle is not stranded, the other replay comes as far.
      have unowed : ¬((verifyQuorum setting bundle.quorumCert).ending = .done () ∨
          bundle.quorumCert.round ≤ state.round.quorumRound) := by
        intro owed
        rw [← same] at beyond
        exact UInt64.not_lt.mpr (settles.timeoutRound owed cert present passed) beyond
      rw [not_or, UInt64.not_le] at unowed
      exact ⟨unowed.1, unowed.2, reached⟩
  · exact .inl (UInt64.not_lt.mp beyond)

theorem replayed_sameRounds (firstFits : (replay (setting.visiting first) state).ending ≠ .overflowed)
    (secondFits : (replay (setting.visiting second) state).ending ≠ .overflowed)
    (quorumRound : (state.replayed setting first).quorumRound = (state.replayed setting second).quorumRound)
    (timeoutRound : (state.replayed setting first).timeoutRound = (state.replayed setting second).timeoutRound) :
    (state.replayed setting first).SameRounds (state.replayed setting second) where
  currentRound := by
    have firstOpens : state.round.Opens (state.replayed setting first) :=
      @Step.opens ⟨.replay, setting.visiting first⟩ state firstFits
    have secondOpens : state.round.Opens (state.replayed setting second) :=
      @Step.opens ⟨.replay, setting.visiting second⟩ state secondFits
    apply UInt64.toNat_inj.mp
    rw [firstOpens, secondOpens, quorumRound, timeoutRound]
  quorumRound := quorumRound
  timeoutRound := timeoutRound

/-- The highest quorum certificate after a replay is of the same round in all orders, and so are the other
rounds, unless there is a stranded bundle, whose timeout certificate is taken up in one order and not in the
other. -/
theorem replay_order_matters_for_stranded_bundles_only {cert : QuorumCert} {start : EngineState}
    (started : EngineState.start? cert = some start) (run : List Step)
    (firstFits : (replay (setting.visiting first) (start.after run)).ending ≠ .overflowed)
    (secondFits : (replay (setting.visiting second) (start.after run)).ending ≠ .overflowed) :
    ((start.after run).replayed setting first).quorumRound = ((start.after run).replayed setting second).quorumRound ∧
      (((start.after run).replayed setting first).SameRounds ((start.after run).replayed setting second) ∨
        GoesBeyond setting (start.after run) ((start.after run).replayed setting first)
          ((start.after run).replayed setting second) ∨
        GoesBeyond setting (start.after run) ((start.after run).replayed setting second)
          ((start.after run).replayed setting first)) := by
  have files := isPool_bundles.admitted started run
  have level : ((start.after run).replayed setting first).quorumRound =
      ((start.after run).replayed setting second).quorumRound :=
    (replay_quorumRound files firstFits).unique (replay_quorumRound files secondFits)
  refine ⟨level, ?_⟩
  rcases timeoutRound_le_or_goesBeyond files secondFits with firstLe | firstBeyond
  · rcases timeoutRound_le_or_goesBeyond files firstFits with secondLe | secondBeyond
    · exact .inl (replayed_sameRounds firstFits secondFits level (UInt64.le_antisymm firstLe secondLe))
    · exact .inr (.inr secondBeyond)
  · exact .inr (.inl firstBeyond)

end Orders

/-! Two bundles that come before their blocks, and are kept. The second one has nothing but a quorum certificate. -/

namespace Sample

open Engine

def confirmed : SyncInfo := ⟨quorumCert 2 [1, 2, 3], none⟩

def deliveries (first : SyncInfo) : List Step :=
  [⟨.handleMessage (.syncInfo first), unsynced⟩, ⟨.handleMessage (.syncInfo confirmed), unsynced⟩]

def delivered (first : SyncInfo) : EngineState := { start with bundles := (start.bundles.add first).add confirmed }

theorem deliveries_extended {later : Setting} (extension : later.Extends unsynced) (first : SyncInfo) :
    ∀ step ∈ deliveries first, (∃ message, step.operation = .handleMessage message) ∧
      later.Extends step.setting := by
  unfold deliveries
  rw [List.forall_mem_cons, List.forall_mem_singleton]
  exact ⟨⟨⟨_, rfl⟩, extension⟩, ⟨_, rfl⟩, extension⟩

def forwards : Visit := ⟨.arrival SyncKey, .arrival SyncInfo⟩

def backwards : Visit := ⟨⟨List.reverse, List.reverse_perm⟩, .arrival SyncInfo⟩

theorem visited_of_arrival (visit : Visit) (same : visit.bundleOrder = .arrival SyncInfo) (setting : Setting)
    {pool : SyncPool} {key : SyncKey} {bundles : List SyncInfo} (listed : (pool.bucket key).values = bundles) :
    visited (setting.visiting visit) pool key = bundles := by
  change visit.bundleOrder.arrange _ = _
  rw [same]
  exact listed

theorem takeUp_confirmed {setting : Setting} {first : SyncInfo}
    (verified : (verifyQuorum setting (quorumCert 2 [1, 2, 3])).ending = .done ()) :
    (takeUp setting confirmed (delivered first)).ending = .done () ∧
      (takeUp setting confirmed (delivered first)).state = (delivered first).adopt (.quorum (quorumCert 2 [1, 2, 3])) :=
  takeUp_of_quorum (show (0 : Round) < 2 by decide) verified (hasNext 2)

/-! The first block does not come, so that the quorum certificate of the first bundle cannot be checked. -/

def stranded : SyncInfo := ⟨quorumCert 1 [1, 2, 3], some (timeoutCert 5 [1, 2, 3])⟩

theorem after_deliveries_stranded : start.after (deliveries stranded) = delivered stranded := rfl

/-- The masternodes are known, and of the blocks the second one. -/
def partlySynced : Setting :=
  { setting with
    chain := { chain with header? := fun hash => if hash = (block 2).hash then some (headerOf hash) else none } }

theorem partlySynced_extends : partlySynced.Extends unsynced :=
  ⟨rfl, rfl, fun _ _ found => (nomatch found), fun _ _ selected => selected⟩

theorem keys_stranded : (delivered stranded).bundles.keys = [stranded.key, confirmed.key] := rfl

theorem bucket_stranded : ((delivered stranded).bundles.bucket stranded.key).values = [stranded] := rfl

theorem bucket_confirmed : ((delivered stranded).bundles.bucket confirmed.key).values = [confirmed] := rfl

section Visits

variable (visit : Visit)

theorem confirmed_passes : (verifyQuorum (partlySynced.visiting visit) (quorumCert 2 [1, 2, 3])).ending = .done () := by
  have certified : (quorumCert 2 [1, 2, 3]).Certified setting :=
    quorumCert_certified (by decide) (by decide) (by decide) (by decide)
  have known : partlySynced.chain.header? (block 2).hash = some (headerOf (block 2).hash) := by
    change (if (block 2).hash = (block 2).hash then _ else none) = _
    exact if_pos rfl
  refine verifyQuorum_done_iff.mpr (.inr ⟨certified.positive, ⟨_, known, rfl, rfl⟩, ?_⟩)
  exact ⟨certified.endorsed.signed, certified.endorsed.verified⟩

theorem timeoutCert_passes :
    (verifyTimeoutCert (partlySynced.visiting visit) (timeoutCert 5 [1, 2, 3])).ending = .done () := by
  have certified : (timeoutCert 5 [1, 2, 3]).Certified setting :=
    timeoutCert_certified (by decide) (by decide) (by decide) (by decide)
  exact verifyTimeoutCert_done_iff.mpr ⟨certified.endorsed.signed, certified.endorsed.verified⟩

theorem stranded_refused :
    (verifyQuorum (partlySynced.visiting visit) (quorumCert 1 [1, 2, 3])).ending =
      .refused (.blockNotSynced 1 (block 1).hash) := rfl

end Visits

theorem replay_forwards : (replay (partlySynced.visiting forwards) (delivered stranded)).ending = .done () ∧
    (replay (partlySynced.visiting forwards) (delivered stranded)).state =
      (delivered stranded).adopt (.quorum (quorumCert 2 [1, 2, 3])) := by
  have refused : (takeUp (partlySynced.visiting forwards) stranded (delivered stranded)).ending = _ ∧
      (takeUp (partlySynced.visiting forwards) stranded (delivered stranded)).state = delivered stranded :=
    takeUp_of_refused (show (0 : Round) < 1 by decide) (stranded_refused forwards)
  have taken := @takeUp_confirmed _ stranded (confirmed_passes forwards)
  exact replay_pair keys_stranded (visited_of_arrival forwards rfl partlySynced bucket_stranded)
    (visited_of_arrival forwards rfl partlySynced bucket_confirmed) ⟨refused.1 ▸ nofun, refused.2⟩
    ⟨taken.1 ▸ nofun, taken.2⟩

theorem replay_backwards : (replay (partlySynced.visiting backwards) (delivered stranded)).ending = .done () ∧
    (replay (partlySynced.visiting backwards) (delivered stranded)).state =
      ((delivered stranded).adopt (.quorum (quorumCert 2 [1, 2, 3]))).adopt (.timeout (timeoutCert 5 [1, 2, 3])) := by
  have confirms := @takeUp_confirmed _ stranded (confirmed_passes backwards)
  generalize reached : (delivered stranded).adopt (.quorum (quorumCert 2 [1, 2, 3])) = middle at confirms ⊢
  have old : (quorumCert 1 [1, 2, 3]).round ≤ middle.round.quorumRound := by
    rw [← reached, EngineState.adopt_quorumRound]
    decide
  have newer : middle.round.timeoutRound < (timeoutCert 5 [1, 2, 3]).round := by
    rw [← reached, EngineState.adopt_timeoutRound]
    decide
  let quorum : AnyCert := .quorum (quorumCert 1 [1, 2, 3])
  have skips : process (partlySynced.visiting backwards) quorum middle =
      ⟨.done (), middle, [.notice (.staleCert quorum middle.round.quorumRound)]⟩ :=
    (process_eq quorum).trans (if_pos old)
  have taken := takeUp_of_processed (congrArg Outcome.ending skips) (congrArg Outcome.state skips) newer
    (timeoutCert_passes backwards)
  have follows : (takeUp (partlySynced.visiting backwards) stranded middle).ending = .done () :=
    taken.1.trans (@adopt_ending _ _ (.timeout (timeoutCert 5 [1, 2, 3])) newer (hasNext 5))
  exact replay_pair (congrArg List.reverse keys_stranded)
    (visited_of_arrival backwards rfl partlySynced bucket_confirmed)
    (visited_of_arrival backwards rfl partlySynced bucket_stranded) ⟨confirms.1 ▸ nofun, confirms.2⟩
    ⟨follows ▸ nofun, taken.2⟩

theorem replayed_forwards :
    (delivered stranded).replayed partlySynced forwards = ⟨3, quorumCert 2 [1, 2, 3], none⟩ := by
  rw [EngineState.replayed, replay_forwards.2]
  rfl

theorem replayed_backwards :
    (delivered stranded).replayed partlySynced backwards =
      ⟨6, quorumCert 2 [1, 2, 3], some (timeoutCert 5 [1, 2, 3])⟩ := by
  rw [EngineState.replayed, replay_backwards.2]
  rfl

/-! Both blocks come, but the timeout certificate of the first bundle is of the last round. -/

def lastCert : TimeoutCert :=
  ⟨18446744073709551615, 0, [1, 2, 3].map (sign (TimeoutPayload.digest ⟨18446744073709551615, 0⟩))⟩

def final : SyncInfo := ⟨quorumCert 1 [1, 2, 3], some lastCert⟩

theorem after_deliveries_final : start.after (deliveries final) = delivered final := rfl

theorem setting_extends : setting.Extends unsynced :=
  ⟨rfl, rfl, fun _ _ found => (nomatch found), fun _ _ selected => selected⟩

theorem keys_final : (delivered final).bundles.keys = [final.key, confirmed.key] := rfl

theorem replay_final_forwards : (replay (setting.visiting forwards) (delivered final)).ending = .overflowed ∧
    (replay (setting.visiting forwards) (delivered final)).state =
      ((delivered final).adopt (.quorum (quorumCert 1 [1, 2, 3]))).adopt (.timeout lastCert) := by
  have certified : (quorumCert 1 [1, 2, 3]).Certified setting :=
    quorumCert_certified (by decide) (by decide) (by decide) (by decide)
  have passes : (AnyCert.quorum (quorumCert 1 [1, 2, 3])).Passes (setting.visiting forwards) :=
    AnyCert.passes_visiting.mpr (verifyQuorum_done_iff.mpr (.inr certified))
  have lastPasses : (AnyCert.timeout lastCert).Passes (setting.visiting forwards) :=
    AnyCert.passes_visiting.mpr (verifyTimeoutCert_done_iff.mpr (endorsed _ _ (by decide) (by decide) (by decide)))
  have first : (delivered final).round.quorumRound < (quorumCert 1 [1, 2, 3]).round := show (0 : Round) < 1 by decide
  obtain ⟨done, moved⟩ := @process_done _ (delivered final) _ passes (hasNext 1)
  replace moved := moved.trans (if_pos first)
  have newer : ((delivered final).adopt (.quorum (quorumCert 1 [1, 2, 3]))).round.timeoutRound < lastCert.round := by
    rw [EngineState.adopt_timeoutRound]
    decide
  have taken := takeUp_of_processed done moved newer lastPasses
  rw [@adopt_overflowed _ _ (.timeout lastCert) newer (by decide)] at taken
  have stuck := @replayBucket_of_overflowed _ _ final final.key [] taken.1
  have keys : (setting.visiting forwards).keyOrder.arrange (delivered final).bundles.keys =
      [final.key, confirmed.key] := keys_final
  have stops := @replayKeys_of_overflowed _ (delivered final) final.key [confirmed.key] stuck.1
  rw [replay_eq, keys]
  exact ⟨stops.1, stops.2.trans (stuck.2.trans taken.2)⟩

theorem replayed_final_backwards : 2 ≤ ((delivered final).replayed setting backwards).quorumRound := by
  have certified : (quorumCert 2 [1, 2, 3]).Certified setting :=
    quorumCert_certified (by decide) (by decide) (by decide) (by decide)
  have passes : (AnyCert.quorum (quorumCert 2 [1, 2, 3])).Passes (setting.visiting backwards) :=
    AnyCert.passes_visiting.mpr (verifyQuorum_done_iff.mpr (.inr certified))
  have confirms := @takeUp_confirmed _ final passes
  have first := @replayBucket_of_done _ _ _ confirmed.key [] confirms.1
  rw [confirms.2] at first
  have listed : ((delivered final).bundles.bucket confirmed.key).values = [confirmed] := rfl
  have begun := @replayKeys_of_visited _ _ confirmed.key [final.key] _ _
    (visited_of_arrival backwards rfl setting listed) first
  have keys : (setting.visiting backwards).keyOrder.arrange (delivered final).bundles.keys =
      [confirmed.key, final.key] := congrArg List.reverse keys_final
  rw [EngineState.replayed, replay_eq, keys, begun.2]
  have quorumRound := (@replayKeys_advances (setting.visiting backwards) [final.key]
    ((delivered final).adopt (.quorum (quorumCert 2 [1, 2, 3])))).quorumRound
  rwa [EngineState.adopt_quorumRound] at quorumRound

end Sample

/-- With a stranded bundle the order shows in the round, and with a certificate of the last round even in the
highest quorum certificate. -/
theorem replay_depends_on_order :
    (EngineState.start? Sample.genesis = some Sample.start ∧
      (∀ step ∈ Sample.deliveries Sample.stranded,
        (∃ message, step.operation = .handleMessage message) ∧ Sample.partlySynced.Extends step.setting) ∧
      (Sample.start.after (Sample.deliveries Sample.stranded)).replayed Sample.partlySynced Sample.forwards =
        ⟨3, Sample.quorumCert 2 [1, 2, 3], none⟩ ∧
      (Sample.start.after (Sample.deliveries Sample.stranded)).replayed Sample.partlySynced Sample.backwards =
        ⟨6, Sample.quorumCert 2 [1, 2, 3], some (Sample.timeoutCert 5 [1, 2, 3])⟩) ∧
    (∀ step ∈ Sample.deliveries Sample.final,
      (∃ message, step.operation = .handleMessage message) ∧ Sample.setting.Extends step.setting) ∧
    ((Sample.start.after (Sample.deliveries Sample.final)).replayed Sample.setting Sample.forwards).quorumRound = 1 ∧
    2 ≤ ((Sample.start.after (Sample.deliveries Sample.final)).replayed Sample.setting
      Sample.backwards).quorumRound := by
  rw [Sample.after_deliveries_stranded, Sample.after_deliveries_final]
  refine ⟨⟨Sample.started, Sample.deliveries_extended Sample.partlySynced_extends _, Sample.replayed_forwards,
    Sample.replayed_backwards⟩, Sample.deliveries_extended Sample.setting_extends _, ?_,
    Sample.replayed_final_backwards⟩
  rw [EngineState.replayed, Sample.replay_final_forwards.2, EngineState.adopt_round, EngineState.adopt_round]
  rfl

/-- The backward replay ends with the timeout certificate of the stranded bundle. -/
theorem stranded_bundle_goes_beyond :
    (Engine.replay (Sample.partlySynced.visiting Sample.forwards)
        (Sample.start.after (Sample.deliveries Sample.stranded))).ending ≠ .overflowed ∧
    (Engine.replay (Sample.partlySynced.visiting Sample.backwards)
        (Sample.start.after (Sample.deliveries Sample.stranded))).ending ≠ .overflowed ∧
    GoesBeyond Sample.partlySynced (Sample.start.after (Sample.deliveries Sample.stranded))
      ((Sample.start.after (Sample.deliveries Sample.stranded)).replayed Sample.partlySynced Sample.backwards)
      ((Sample.start.after (Sample.deliveries Sample.stranded)).replayed Sample.partlySynced Sample.forwards) := by
  have firstFits : (Engine.replay (Sample.partlySynced.visiting Sample.forwards)
      (Sample.start.after (Sample.deliveries Sample.stranded))).ending ≠ .overflowed := by
    rw [Sample.after_deliveries_stranded, Sample.replay_forwards.1]
    exact nofun
  have secondFits : (Engine.replay (Sample.partlySynced.visiting Sample.backwards)
      (Sample.start.after (Sample.deliveries Sample.stranded))).ending ≠ .overflowed := by
    rw [Sample.after_deliveries_stranded, Sample.replay_backwards.1]
    exact nofun
  refine ⟨firstFits, secondFits, ?_⟩
  have either := (replay_order_matters_for_stranded_bundles_only Sample.started (Sample.deliveries Sample.stranded)
    firstFits secondFits).2
  rw [Sample.after_deliveries_stranded, Sample.replayed_forwards, Sample.replayed_backwards] at either ⊢
  rcases either with same | beyond | beyond
  · exact absurd same.timeoutRound (by decide)
  · exact absurd beyond.timeoutRound (by decide)
  · exact beyond

end MasternodeBft
