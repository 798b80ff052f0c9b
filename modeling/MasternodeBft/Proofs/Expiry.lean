import MasternodeBft.Proofs.Provenance
import MasternodeBft.Proofs.Refusal

/-!
What happens when the countdown expires. A node that signs a timeout replays its bundles and collects the
timeout; what it counts and sends after that has nothing to do with its rounds and timeouts.
-/

namespace MasternodeBft

structure SameTimeouts (earlier later : EngineState) : Prop where
  round : later.round = earlier.round
  timeouts : later.timeouts = earlier.timeouts

theorem SameTimeouts.refl (state : EngineState) : SameTimeouts state state := ⟨rfl, rfl⟩

theorem SameTimeouts.trans {first second third : EngineState} (begun : SameTimeouts first second)
    (ended : SameTimeouts second third) : SameTimeouts first third :=
  ⟨ended.round.trans begun.round, ended.timeouts.trans begun.timeouts⟩

namespace Action

variable {α β : Type} {state : EngineState}

/-- What follows a step does not matter to the rounds and timeouts, whether or not it comes to pass. -/
theorem sameTimeouts_bind {first : Action α} {next : α → Action β}
    (continues : ∀ value state, SameTimeouts state (next value state).state) :
    SameTimeouts (first state).state ((first >>= next) state).state := by
  cases ended : (first state).ending with
  | done value =>
    rw [bind_of_done ended]
    exact continues value _
  | refused error =>
    rw [bind_of_refused ended]
    exact .refl _
  | overflowed =>
    rw [bind_of_overflowed ended]
    exact .refl _

end Action

namespace Engine

open MasternodeBft.Action

variable {setting : Setting} {state : EngineState}

theorem broadcast_state (message : Message) : (broadcast setting message state).state = state := by
  unfold broadcast
  split <;> rfl

theorem broadcast_unrefused (message : Message) : (broadcast setting message).Unrefused state := by
  unfold broadcast
  exact unrefused_ite (fun _ _ => nofun) fun _ => unrefused_note _

theorem countTimeout_sameTimeouts (state : EngineState) : SameTimeouts state (countTimeout state).state := by
  change SameTimeouts (ofCheck (Check.add state.timeoutCount 1) state).state
    ((ofCheck (Check.add state.timeoutCount 1) >>= fun count =>
      update fun state => { state with timeoutCount := count }) state).state
  apply sameTimeouts_bind
  intro _ _
  exact ⟨rfl, rfl⟩

theorem countTimeout_unrefused : countTimeout.Unrefused state := by
  intro error refused
  change ((ofCheck (Check.add state.timeoutCount 1) >>= _) state).ending = _ at refused
  rcases refused_of_bind refused with early | ⟨_, -, late⟩
  · exact Check.add_unrefused _ _ error early
  · cases late

theorem sendSyncInfo_state : (sendSyncInfo setting state).state = state := by
  change ((if _ then note _ >>= fun _ => broadcast setting _ else pure () : Action Unit) state).state = state
  split
  · exact broadcast_state _
  · rfl

theorem sendSyncInfo_unrefused : (sendSyncInfo setting).Unrefused state :=
  unrefused_ite (fun _ => unrefused_bind (unrefused_note _) fun _ => broadcast_unrefused _) fun _ => unrefused_pure ()

theorem mayTimeOut_unrefused (error : ConsensusError) : (mayTimeOut setting).ending ≠ .refused error := by
  unfold mayTimeOut
  split
  · exact nofun
  · split <;> exact nofun

theorem replayBucket_unrefused (key : SyncKey) (bundles : List SyncInfo) :
    (replayBucket setting key bundles).Unrefused state := by
  induction bundles generalizing state with
  | nil => exact unrefused_pure ()
  | cons bundle rest ih =>
    apply unrefused_bind (attempt_unrefused _)
    intro result
    cases result with
    | ok => exact unrefused_pure ()
    | error cause => exact unrefused_bind unrefused_read fun _ => unrefused_bind (unrefused_note _) fun _ => ih

theorem replayKeys_unrefused (keys : List SyncKey) : (replayKeys setting keys).Unrefused state := by
  induction keys generalizing state with
  | nil => exact unrefused_pure ()
  | cons key rest ih =>
    apply unrefused_bind (unrefused_note _)
    intro _
    apply unrefused_bind unrefused_read
    intro _
    exact unrefused_bind (replayBucket_unrefused key _) fun _ => ih

theorem replay_unrefused : (replay setting).Unrefused state :=
  unrefused_bind unrefused_read fun _ => replayKeys_unrefused _

theorem replay_keeps_timeouts (invariant : TimeoutPool → Prop) (empties : invariant .empty)
    (sweeps : ∀ pool current window, invariant pool → invariant (pool.sweep current window))
    (holds : invariant state.timeouts) : invariant (replay setting state).state.timeouts := by
  have course : Course (Change setting fun _ => False) state _ (replay setting state).state := replay_follows
  exact course.keeps (fun state => invariant state.timeouts)
    (fun change => change.keeps_timeouts invariant empties (fun _ _ none => none.elim) sweeps) holds

/-! The countdown's expiry, taken apart. -/

theorem sendTimeout_sameTimeouts {gapNumber : UInt64}
    (found : (timeoutGapNumber setting state.round.currentRound).ending = .done gapNumber) :
    SameTimeouts (collectTimeout setting (ownTimeout setting state.round.currentRound gapNumber) state).state
      (sendTimeout setting state).state := by
  change SameTimeouts _ ((ofCheck (timeoutGapNumber setting state.round.currentRound) >>= _) state).state
  rw [bind_of_done found]
  change SameTimeouts _ ((collectTimeout setting _ >>= fun _ => broadcast setting _) state).state
  apply sameTimeouts_bind
  intro _ state
  rw [broadcast_state]
  exact .refl state

theorem handleExpiry_sameTimeouts {timeout : Timeout} (signs : Signs setting state timeout) :
    SameTimeouts (collectTimeout setting timeout (replay setting state).state).state
      (handleExpiry setting state).state := by
  change SameTimeouts _ ((ofCheck (mayTimeOut setting) >>= _) state).state
  rw [bind_of_done signs.eligible]
  change SameTimeouts _ ((replay setting >>= _) state).state
  rw [bind_of_done signs.replayed]
  refine .trans ?_ (sameTimeouts_bind fun _ state => ?_)
  · rw [(notingRefusal_agrees _ _ _).state, signs.own]
    exact sendTimeout_sameTimeouts signs.gapNumber
  · refine .trans (countTimeout_sameTimeouts state) (sameTimeouts_bind fun _ state => ?_)
    rw [sendSyncInfo_state]
    exact .refl state

theorem isEpochSwitch_unrefused (round : Round) (parent : Header) (error : ConsensusError) :
    (isEpochSwitch setting round parent).ending ≠ .refused error := by
  unfold isEpochSwitch
  intro refused
  dsimp only at refused
  split at refused
  · cases refused
  · rcases Check.refused_of_bind refused with early | ⟨index, -, late⟩
    · exact Check.add_unrefused _ _ error early
    · by_cases switch : parent.number = setting.config.upgrade.switchBlock
      · rw [if_pos switch] at late
        cases late
      · rw [if_neg switch] at late
        cases late

theorem timeoutGapNumber_refused {round : Round} {error : ConsensusError}
    (refused : (timeoutGapNumber setting round).ending = .refused error) : ∃ cause, error = .chain cause := by
  unfold timeoutGapNumber at refused
  rcases Check.refused_of_bind refused with early | ⟨opens, -, late⟩
  · exact absurd early (isEpochSwitch_unrefused _ _ error)
  cases opens with
  | true =>
    rcases Check.refused_of_bind late with early | ⟨number, -, later⟩
    · exact absurd early (Check.add_unrefused _ _ error)
    · cases later
  | false =>
    cases switch : setting.chain.epochSwitch setting.chain.head with
    | error cause =>
      simp only [switch] at late
      cases late
      exact ⟨cause, rfl⟩
    | ok found =>
      simp only [switch] at late
      cases late

theorem sendTimeout_refused {error : ConsensusError} (refused : (sendTimeout setting state).ending = .refused error) :
    (∃ cause, error = .chain cause) ∨
      ∃ gapNumber, (timeoutGapNumber setting state.round.currentRound).ending = .done gapNumber ∧
        (collectTimeout setting (ownTimeout setting state.round.currentRound gapNumber) state).ending =
          .refused error := by
  change ((ofCheck (timeoutGapNumber setting state.round.currentRound) >>= _) state).ending = _ at refused
  rcases refused_of_bind refused with lost | ⟨gapNumber, found, rest⟩
  · exact .inl (timeoutGapNumber_refused lost)
  · change ((collectTimeout setting _ >>= fun _ => broadcast setting _) state).ending = _ at rest
    rcases refused_of_bind rest with rejected | ⟨_, -, unsent⟩
    · exact .inr ⟨gapNumber, found, rejected⟩
    · exact absurd unsent (broadcast_unrefused _ error)

theorem handleExpiry_refused {error : ConsensusError} (refused : (handleExpiry setting state).ending = .refused error) :
    (∃ cause, error = .chain cause) ∨
      ∃ timeout, Signs setting state timeout ∧
        (collectTimeout setting timeout (replay setting state).state).ending = .refused error := by
  change ((ofCheck (mayTimeOut setting) >>= _) state).ending = _ at refused
  rcases refused_of_bind refused with unknown | ⟨allowed, eligible, rest⟩
  · exact absurd unknown (mayTimeOut_unrefused error)
  cases allowed with
  | false => cases rest
  | true =>
    change ((replay setting >>= _) state).ending = _ at rest
    rcases refused_of_bind rest with stuck | ⟨_, replayed, rest⟩
    · exact absurd stuck (replay_unrefused error)
    rcases refused_of_bind rest with unsent | ⟨_, -, rest⟩
    · rw [(notingRefusal_agrees _ _ _).ending] at unsent
      rcases sendTimeout_refused unsent with lost | ⟨gapNumber, found, rejected⟩
      · exact .inl lost
      · exact .inr ⟨_, ⟨eligible, replayed, found, rfl⟩, rejected⟩
    · exact absurd rest (unrefused_bind countTimeout_unrefused (fun _ => sendSyncInfo_unrefused) error)

theorem handleExpiry_refuses {timeout : Timeout} {error : ConsensusError} (signs : Signs setting state timeout)
    (rejected : (collectTimeout setting timeout (replay setting state).state).ending = .refused error) :
    (handleExpiry setting state).ending = .refused error := by
  have unsent : (sendTimeout setting (replay setting state).state).ending = .refused error := by
    change ((ofCheck (timeoutGapNumber setting (replay setting state).state.round.currentRound) >>= _) _).ending = _
    rw [bind_of_done signs.gapNumber]
    rw [signs.own] at rejected
    exact congrArg Outcome.ending (bind_of_refused rejected)
  change ((ofCheck (mayTimeOut setting) >>= _) state).ending = _
  rw [bind_of_done signs.eligible]
  change ((replay setting >>= _) state).ending = _
  rw [bind_of_done signs.replayed]
  rw [← (notingRefusal_agrees (fun state => .timeoutUnsent state.round.currentRound) _ _).ending] at unsent
  exact congrArg Outcome.ending (bind_of_refused unsent)

end Engine

end MasternodeBft
