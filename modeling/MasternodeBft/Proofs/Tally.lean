import Mathlib.Data.Set.Card
import MasternodeBft.Proofs.Expiry

/-!
Who has timed out. A run collects timeouts that it receives and timeouts that the node signs; the bucket of a
key of the current round holds exactly the signers of those that have been collected for it.
-/

namespace MasternodeBft

/-! Where in a step a timeout is collected. -/

namespace Step

variable {step : Step} {state : EngineState}

def collectionPoint (step : Step) (state : EngineState) : EngineState :=
  match step.operation with
  | .handleExpiry => (Engine.replay step.setting state).state
  | _ => state

def Collects (step : Step) (state : EngineState) (timeout : Timeout) : Prop :=
  step.Admits state (.timeout timeout) ∧ timeout.round = (step.collectionPoint state).round.currentRound

theorem admits_unique {timeout other : Timeout} (admits : step.Admits state (.timeout timeout))
    (alsoAdmits : step.Admits state (.timeout other)) : timeout = other := by
  unfold Admits at admits alsoAdmits
  generalize step.operation = operation at admits alsoAdmits
  cases admits with
  | collectTimeout => cases alsoAdmits; rfl
  | handleTimeout _ signer passed =>
    cases alsoAdmits with
    | handleTimeout _ _ alsoPassed =>
      rw [passed] at alsoPassed
      cases alsoPassed
      rfl
  | handleExpiry _ signs =>
    cases alsoAdmits with
    | handleExpiry _ alsoSigns => exact signs.unique alsoSigns

theorem collects_iff {timeout : Timeout} (collects : step.Collects state timeout) {key : TimeoutKey}
    {signer : Address} :
    (∃ other : Timeout, other.key = key ∧ other.signer = signer ∧ step.Collects state other) ↔
      timeout.key = key ∧ timeout.signer = signer := by
  constructor
  · rintro ⟨other, key, signer, alsoCollects⟩
    rw [admits_unique collects.1 alsoCollects.1]
    exact ⟨key, signer⟩
  · rintro ⟨key, signer⟩
    exact ⟨timeout, key, signer, collects⟩

theorem course_collectionPoint (step : Step) (state : EngineState) :
    ∃ sent, Course (Change step.setting fun _ => False) state sent (step.collectionPoint state) := by
  unfold collectionPoint
  split
  · exact ⟨_, Engine.replay_follows⟩
  · exact ⟨[], .stay state⟩

theorem sameTimeouts_of_admits {timeout : Timeout} (admits : step.Admits state (.timeout timeout)) :
    SameTimeouts (Engine.collectTimeout step.setting timeout (step.collectionPoint state)).state
      (step.next state) := by
  obtain ⟨operation, setting⟩ := step
  unfold Admits at admits
  cases admits with
  | collectTimeout => exact .refl _
  | handleTimeout unsigned signer passed =>
    change SameTimeouts _ (Engine.handleTimeout setting unsigned state).state
    have collected : (Engine.handleTimeout setting unsigned state).state = _ :=
      (Engine.handleSigned_of_verified passed).state
    rw [collected]
    exact .refl _
  | handleExpiry _ signs => exact Engine.handleExpiry_sameTimeouts signs

end Step

/-- Those whose timeouts for a key a run has collected. -/
def signersIn (start : EngineState) (run : List Step) (key : TimeoutKey) : Set Address :=
  {signer | ∃ timeout : Timeout, timeout.key = key ∧ timeout.signer = signer ∧
    Occurs (fun step state => step.Collects state timeout) start run}

theorem mem_signersIn_concat {start : EngineState} {run : List Step} {step : Step} {key : TimeoutKey}
    {signer : Address} :
    signer ∈ signersIn start (run ++ [step]) key ↔ signer ∈ signersIn start run key ∨
      ∃ timeout : Timeout, timeout.key = key ∧ timeout.signer = signer ∧ step.Collects (start.after run) timeout := by
  unfold signersIn
  simp only [Set.mem_ofPred_eq, Occurs.concat_iff, and_or_left, exists_or]

/-! The count of signers. -/

/-- The pool holds the timeouts that have been collected in the current round, and no others. -/
structure Tallies (signers : TimeoutKey → Set Address) (state : EngineState) : Prop where
  stale : ∀ key, key.round ≠ state.round.currentRound → state.timeouts.bucket key = []
  current : ∀ key, key.round = state.round.currentRound →
    ∀ signer, signer ∈ (state.timeouts.bucket key).keys ↔ signer ∈ signers key
  ahead : ∀ key, state.round.currentRound < key.round → signers key = ∅

namespace Tallies

variable {signers later : TimeoutKey → Set Address} {state : EngineState}

theorem leave (tallies : Tallies signers state) (round : Round) : Tallies signers (state.leave round) := by
  unfold EngineState.leave
  split
  · rename_i leaves
    have advance : state.round.currentRound < round + 1 := by
      have reached := UInt64.le_iff_toNat_le.mp leaves.1
      rw [UInt64.lt_iff_toNat_lt, Round.toNat_add_one leaves.2]
      omega
    refine ⟨fun _ _ => rfl, fun key current signer => ?_, fun key ahead => ?_⟩
    · change key.round = round + 1 at current
      rw [tallies.ahead key (current ▸ advance)]
      exact iff_of_false List.not_mem_nil (Set.notMem_empty signer)
    · exact tallies.ahead key (UInt64.lt_trans advance ahead)
  · exact tallies

theorem sweep (tallies : Tallies signers state) (window : UInt64) :
    Tallies signers { state with timeouts := state.timeouts.sweep state.round.currentRound window } where
  stale key other := by
    rw [Pool.bucket_sweep]
    split
    · rfl
    · exact tallies.stale key other
  current key current := by
    have kept : ¬∃ bound ∈ Pool.sweepBound? state.round.currentRound window,
        PoolKey.isOlderThan key bound = true := by
      rintro ⟨bound, swept, older⟩
      have below : key.round < bound := of_decide_eq_true older
      have within := Pool.sweepBound?_le swept
      rw [current] at below
      exact absurd (UInt64.lt_of_lt_of_le below within) (UInt64.lt_irrefl _)
    rw [Pool.bucket_sweep, if_neg kept]
    exact tallies.current key current
  ahead := tallies.ahead

theorem add (tallies : Tallies signers state) {timeout : Timeout}
    (current : timeout.round = state.round.currentRound)
    (adds : ∀ key signer, signer ∈ later key ↔
      signer ∈ signers key ∨ (timeout.key = key ∧ timeout.signer = signer)) :
    Tallies later { state with timeouts := state.timeouts.add timeout } where
  stale key other := by
    have apart : timeout.key ≠ key := fun same => other (same ▸ current)
    exact (Pool.bucket_add _ _ _).trans ((if_neg apart).trans (tallies.stale key other))
  current key round signer := by
    rw [adds]
    by_cases own : timeout.key = key
    · rw [show (state.timeouts.add timeout).bucket key = _ from (Pool.bucket_add _ _ _).trans (if_pos own),
        Entries.mem_keys_put, tallies.current key round, or_comm]
      exact or_congr_right ⟨fun same => ⟨own, same.symm⟩, fun both => both.2.symm⟩
    · rw [show (state.timeouts.add timeout).bucket key = _ from (Pool.bucket_add _ _ _).trans (if_neg own),
        tallies.current key round]
      exact ⟨.inl, fun either => either.resolve_right fun both => own both.1⟩
  ahead key ahead := by
    have apart : timeout.key ≠ key := by
      rintro rfl
      exact absurd (current ▸ ahead) (UInt64.lt_irrefl _)
    apply Set.eq_empty_of_forall_notMem
    intro signer present
    rcases (adds key signer).mp present with earlier | own
    · rw [tallies.ahead key ahead] at earlier
      exact earlier
    · exact apart own.1

/-- There are as many signers as entries. -/
theorem ncard_signers (tallies : Tallies signers state) (unique : state.timeouts.OnePerSigner) {key : TimeoutKey}
    (current : key.round = state.round.currentRound) :
    (signers key).ncard = (state.timeouts.bucket key).length := by
  have same : signers key = ((state.timeouts.bucket key).keys.toFinset : Set Address) := by
    ext signer
    rw [Finset.mem_coe, List.mem_toFinset]
    exact (tallies.current key current signer).symm
  rw [same, Set.ncard_coe_finset, List.toFinset_card_of_nodup (unique key)]
  exact List.length_map _

end Tallies

end MasternodeBft
