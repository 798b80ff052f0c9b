import MasternodeBft.Proofs.LastWrites
import MasternodeBft.Proofs.Redelivery
import MasternodeBft.Proofs.TimeoutQuorum

/-!
The rounds of pooled timeouts. Whatever is asked of a node, its pool holds timeouts of the current round only:
those of another one are turned away, and a node that enters a round throws all of them away. So there is nothing
in it for sweeps to take, and after a change of rounds it is empty, unless the node has signed a timeout since.
-/

namespace MasternodeBft

theorem Pool.sweep_of_fresh {Object Key Signer : Type} [PoolKey Key] {pool : Pool Object Key Signer}
    {current : Round} {window : UInt64} (fresh : pool.stale current window = []) :
    pool.sweep current window = pool := by
  by_cases reached : window ≤ current
  · rw [sweep_of_reached reached]
    refine congrArg Pool.mk (List.filter_eq_self.mpr fun entry listed => decide_eq_true fun older => ?_)
    have stale : entry.1 ∈ pool.stale current window := mem_stale_iff.mpr ⟨List.mem_map_of_mem listed, reached, older⟩
    rw [fresh] at stale
    exact absurd stale List.not_mem_nil
  · exact sweep_of_early reached

namespace EngineState

def TimeoutsCurrent (state : EngineState) : Prop :=
  ∀ key ∈ state.timeouts.keys, key.round = state.round.currentRound

/-- In between, neither the round nor the timeouts have changed, or all timeouts have been thrown away. -/
inductive SparesOrClears (earlier later : EngineState) : Prop
  | spares (round : later.round.currentRound = earlier.round.currentRound)
      (timeouts : later.timeouts = earlier.timeouts)
  | clears (empty : later.timeouts = .empty)

variable {state earlier middle later : EngineState}

theorem SparesOrClears.trans (begun : earlier.SparesOrClears middle) (ended : middle.SparesOrClears later) :
    earlier.SparesOrClears later := by
  cases ended with
  | clears empty => exact .clears empty
  | spares round timeouts =>
    cases begun with
    | spares roundBefore timeoutsBefore => exact .spares (round.trans roundBefore) (timeouts.trans timeoutsBefore)
    | clears empty => exact .clears (timeouts.trans empty)

theorem SparesOrClears.leave (spared : earlier.SparesOrClears state) (round : Round) :
    earlier.SparesOrClears (state.leave round) := by
  unfold EngineState.leave
  split
  · exact .clears rfl
  · exact spared

theorem TimeoutsCurrent.of_empty (empty : state.timeouts = .empty) : state.TimeoutsCurrent := by
  intro key listed
  rw [empty] at listed
  exact absurd listed List.not_mem_nil

theorem TimeoutsCurrent.after_spared (current : earlier.TimeoutsCurrent) (between : earlier.SparesOrClears later) :
    later.TimeoutsCurrent := by
  cases between with
  | clears empty => exact .of_empty empty
  | spares round timeouts =>
    intro key listed
    rw [timeouts] at listed
    rw [round]
    exact current key listed

theorem TimeoutsCurrent.add (current : state.TimeoutsCurrent) {timeout : Timeout}
    (own : timeout.round = state.round.currentRound) :
    EngineState.TimeoutsCurrent { state with timeouts := state.timeouts.add timeout } := by
  intro key listed
  rcases Entries.mem_keys_put.mp listed with rfl | old
  · exact own
  · exact current key old

theorem TimeoutsCurrent.stale (current : state.TimeoutsCurrent) (window : UInt64) :
    state.timeouts.stale state.round.currentRound window = [] := by
  refine List.eq_nil_iff_forall_not_mem.mpr fun key stale => ?_
  obtain ⟨listed, reached, older⟩ := Pool.mem_stale_iff.mp stale
  have below : key.round < state.round.currentRound - window := of_decide_eq_true older
  rw [current key listed, UInt64.lt_iff_toNat_lt, UInt64.toNat_sub_of_le _ _ reached] at below
  exact absurd below (Nat.not_lt.mpr (Nat.sub_le _ _))

end EngineState

/-! What steps do to timeouts. -/

section Changes

variable {setting : Setting} {admitted : Message → Prop} {first last : EngineState} {sent : List Effect}

theorem Change.timeouts_cases (change : Change setting admitted first sent last) (current : first.TimeoutsCurrent) :
    (∃ timeout : Timeout, admitted (.timeout timeout) ∧ timeout.round = first.round.currentRound ∧
      last = { first with timeouts := first.timeouts.add timeout }) ∨ first.SparesOrClears last := by
  cases change with
  | adopt _ cert =>
    have adopts : first.SparesOrClears { first with round := first.round.install cert } :=
      .spares (by cases cert <;> rfl) rfl
    exact .inr (adopts.leave cert.round)
  | timeout _ timeout admission own => exact .inl ⟨timeout, admission, own, rfl⟩
  | sweepTimeouts => exact .inr (.spares rfl (Pool.sweep_of_fresh (current.stale Engine.hygieneWindow)))
  | _ => exact .inr (.spares rfl rfl)

theorem Change.timeoutsCurrent (change : Change setting admitted first sent last) (current : first.TimeoutsCurrent) :
    last.TimeoutsCurrent := by
  rcases change.timeouts_cases current with ⟨timeout, -, own, rfl⟩ | between
  · exact current.add own
  · exact current.after_spared between

theorem Course.sparesOrClears (course : Course (Change setting admitted) first sent last)
    (silent : ∀ timeout, ¬admitted (.timeout timeout)) (current : first.TimeoutsCurrent) :
    first.SparesOrClears last := by
  have between := course.relates
    (fun first last => first.TimeoutsCurrent → last.TimeoutsCurrent ∧ first.SparesOrClears last)
    (fun _ current => ⟨current, .spares rfl rfl⟩)
    (fun begun ended current => ⟨(ended (begun current).1).1, (begun current).2.trans (ended (begun current).1).2⟩)
    fun change current => ⟨change.timeoutsCurrent current, (change.timeouts_cases current).resolve_left
      fun ⟨timeout, admission, _⟩ => silent timeout admission⟩
  exact (between current).2

end Changes

namespace Engine

open MasternodeBft.Action

variable {setting : Setting} {state : EngineState}

theorem collectTimeout_sparesOrClears (current : state.TimeoutsCurrent) {timeout : Timeout}
    (own : timeout.round = state.round.currentRound) :
    EngineState.SparesOrClears { state with timeouts := state.timeouts.add timeout }
      (collectTimeout setting timeout state).state := by
  let pooled : EngineState := { state with timeouts := state.timeouts.add timeout }
  have follows := @certify_follows setting (fun _ => False) pooled (.timeout timeout)
  rw [(collectTimeout_of_current own).state]
  exact (follows _ _).sparesOrClears (fun _ => id) (current.add own)

theorem sweepTimeouts_of_current (current : state.TimeoutsCurrent) :
    sweepTimeouts state = ⟨.done 0, state, []⟩ := by
  have stale := current.stale hygieneWindow
  have noted : noteStale state.round.currentRound state.timeouts = pure 0 := by
    unfold noteStale
    rw [stale]
    rfl
  change (update (fun state => { state with timeouts := state.timeouts.sweep _ hygieneWindow }) >>= fun _ =>
    noteStale state.round.currentRound state.timeouts) state = _
  rw [noted]
  change Outcome.mk _ { state with timeouts := state.timeouts.sweep state.round.currentRound hygieneWindow } _ = _
  rw [Pool.sweep_of_fresh stale]
  rfl

end Engine

namespace Step

variable {step : Step} {state : EngineState}

theorem timeoutsCurrent (current : state.TimeoutsCurrent) : (step.next state).TimeoutsCurrent := by
  obtain ⟨sent, course⟩ := step.course state
  exact course.keeps EngineState.TimeoutsCurrent Change.timeoutsCurrent current

theorem collectionPoint_sparesOrClears (step : Step) (current : state.TimeoutsCurrent) :
    state.SparesOrClears (step.collectionPoint state) := by
  obtain ⟨sent, course⟩ := step.course_collectionPoint state
  exact course.sparesOrClears (fun _ => id) current

theorem collectionPoint_handleExpiry (setting : Setting) (state : EngineState) :
    collectionPoint ⟨.handleExpiry, setting⟩ state = (Engine.replay setting state).state := rfl

theorem handleExpiry_of_moved (moved : (step.collectionPoint state).round.currentRound ≠ state.round.currentRound) :
    step.operation = .handleExpiry := by
  unfold collectionPoint at moved
  split at moved
  · assumption
  · exact absurd rfl moved

theorem timeouts_of_changed (current : state.TimeoutsCurrent)
    (changed : (step.next state).round.currentRound ≠ state.round.currentRound) :
    (step.next state).timeouts = .empty ∨
      (step.operation = .handleExpiry ∧ ∃ timeout, Engine.Signs step.setting state timeout ∧
        timeout.round = (step.next state).round.currentRound ∧
        (step.next state).timeouts = Pool.empty.add timeout) := by
  by_cases admitting : ∃ timeout, step.Admits state (.timeout timeout)
  · obtain ⟨timeout, admits⟩ := admitting
    have arrives := step.collectionPoint_sparesOrClears current
    have same := sameTimeouts_of_admits admits
    generalize point : step.collectionPoint state = before at arrives same
    by_cases own : timeout.round = before.round.currentRound
    · -- The timeout is pooled; so the round may have changed before, when the pool was cleared, or after.
      cases Engine.collectTimeout_sparesOrClears (current.after_spared arrives) own with
      | clears empty => exact .inl (same.timeouts.trans empty)
      | spares round timeouts =>
        rw [same.round, round] at changed ⊢
        rw [same.timeouts, timeouts]
        cases arrives with
        | spares unchanged => exact absurd unchanged changed
        | clears empty =>
          have expiry : step.operation = .handleExpiry := handleExpiry_of_moved (point ▸ changed)
          have signs : Engine.Signs step.setting state timeout := by
            unfold Admits at admits
            rw [expiry] at admits
            cases admits with
            | handleExpiry _ signs => exact signs
          exact .inr ⟨expiry, timeout, signs, own, congrArg (Pool.add · timeout) empty⟩
    · rw [Engine.collectTimeout_of_other own] at same
      rw [same.round] at changed
      rw [same.timeouts]
      cases arrives with
      | spares unchanged => exact absurd unchanged changed
      | clears empty => exact .inl empty
  · obtain ⟨sent, course⟩ := step.course state
    cases course.sparesOrClears (not_exists.mp admitting) current with
    | spares unchanged => exact absurd unchanged changed
    | clears empty => exact .inl empty

end Step

structure TimeoutsOfRound (state : EngineState) : Prop where
  current : state.TimeoutsCurrent
  /-- Every timeout is under its own key and its own signer. -/
  tidy : state.timeouts.Tidy
  /-- A sweep takes nothing away. -/
  swept : Engine.sweepTimeouts state = ⟨.done 0, state, []⟩
  /-- A step that changes the round leaves no timeouts, but for the one that the node signs when the countdown
  expires, which is of the new round. -/
  changed : ∀ step : Step, (step.next state).round.currentRound ≠ state.round.currentRound →
    (step.next state).timeouts = .empty ∨
      (step.operation = .handleExpiry ∧ ∃ timeout, Engine.Signs step.setting state timeout ∧
        timeout.round = (step.next state).round.currentRound ∧
        (step.next state).timeouts = Pool.empty.add timeout)

section Runs

variable {cert : QuorumCert} {start : EngineState}

theorem timeoutsCurrent_of_started (started : EngineState.start? cert = some start) (run : List Step) :
    (start.after run).TimeoutsCurrent :=
  EngineState.after_keeps EngineState.TimeoutsCurrent (.of_empty (pools_of_started started).2.1)
    (fun _ _ => Step.timeoutsCurrent) run

/-- Whatever is asked of a node, its timeouts are of the current round. -/
theorem timeouts_are_of_current_round (started : EngineState.start? cert = some start) (run : List Step) :
    TimeoutsOfRound (start.after run) where
  current := timeoutsCurrent_of_started started run
  tidy := isPool_timeouts.tidy started run
  swept := Engine.sweepTimeouts_of_current (timeoutsCurrent_of_started started run)
  changed _ := Step.timeouts_of_changed (timeoutsCurrent_of_started started run)

end Runs

/-! A node that takes up a certificate when its countdown expires, and times out in the round that this opens. -/

namespace Sample

def buffered : EngineState := { start with bundles := start.bundles.add certified }

def bufferedRun : List Step := [⟨.bufferSyncInfo certified, setting⟩]

theorem after_bufferedRun : start.after bufferedRun = buffered := rfl

def entered : EngineState := buffered.adopt (.quorum (quorumCert 1 [1, 2, 3]))

theorem entered_round : entered.round.currentRound = 2 := rfl

theorem replay_buffered : (Engine.replay setting buffered).ending = .done () ∧
    (Engine.replay setting buffered).state = entered := by
  have newer : buffered.round.quorumRound < (quorumCert 1 [1, 2, 3]).round := by decide
  have taken : (Engine.takeUp setting certified buffered).ending = .done () ∧
      (Engine.takeUp setting certified buffered).state = entered :=
    Engine.takeUp_of_quorum newer certified_inOrder.quorumCert certified_inOrder.quorumNext
  have keys : setting.keyOrder.arrange buffered.bundles.keys = [certified.key] := rfl
  have listed : Engine.visited setting buffered.bundles certified.key = [certified] := rfl
  have replayed := @Engine.replayBucket_of_done _ _ _ certified.key [] taken.1
  rw [taken.2] at replayed
  have onward := @Engine.replayKeys_of_visited _ _ certified.key [] _ _ listed replayed
  rw [Engine.replay_eq, keys]
  exact onward

theorem buffered_signs : Engine.Signs setting buffered (timeout 2 1) where
  eligible := rfl
  replayed := replay_buffered.1
  gapNumber := by
    rw [replay_buffered.2]
    rfl
  own := by
    rw [replay_buffered.2]
    rfl

theorem collectTimeout_entered : (Engine.collectTimeout setting (timeout 2 1) entered).state =
    { entered with timeouts := Pool.empty.add (timeout 2 1) } := by
  have current : (timeout 2 1).round = entered.round.currentRound := rfl
  refine (Engine.collectTimeout_of_short current selected ?_).state
  rw [certThreshold]
  change thresholdReached 1 4 0.667 = false
  decide

end Sample

/-- The node enters the second round, and its pool holds the timeout that it has signed for it. -/
theorem own_timeout_of_new_round_stays :
    EngineState.start? Sample.genesis = some Sample.start ∧ TimeoutsOfRound (Sample.start.after Sample.bufferedRun) ∧
      (Sample.start.after Sample.bufferedRun).round.currentRound = 1 ∧
      (Step.next ⟨.handleExpiry, Sample.setting⟩ (Sample.start.after Sample.bufferedRun)).round.currentRound = 2 ∧
      (Step.next ⟨.handleExpiry, Sample.setting⟩ (Sample.start.after Sample.bufferedRun)).timeouts =
        Pool.empty.add (Sample.timeout 2 1) := by
  have ofRound := timeouts_are_of_current_round Sample.started Sample.bufferedRun
  rw [Sample.after_bufferedRun] at ofRound ⊢
  have same : SameTimeouts _ (Step.next ⟨.handleExpiry, Sample.setting⟩ Sample.buffered) :=
    Step.sameTimeouts_of_admits (.handleExpiry _ Sample.buffered_signs)
  rw [Step.collectionPoint_handleExpiry, Sample.replay_buffered.2, Sample.collectTimeout_entered] at same
  have second : (Step.next ⟨.handleExpiry, Sample.setting⟩ Sample.buffered).round.currentRound = 2 := by
    rw [same.round]
    exact Sample.entered_round
  exact ⟨Sample.started, ofRound, rfl, second, same.timeouts⟩

end MasternodeBft
