import MasternodeBft.Engine.Adoption
import MasternodeBft.Engine.Hygiene
import MasternodeBft.Proofs.Checks
import MasternodeBft.Proofs.Course

/-!
The changes that a node's state can undergo, and what the adoption of a certificate does to it. A
certificate is adopted only if it is newer than the highest one of its kind, and certified.
-/

namespace MasternodeBft

def Round.HasNext (round : Round) : Prop := round.toNat + 1 < UInt64.size

instance (round : Round) : Decidable round.HasNext := inferInstanceAs (Decidable (_ < _))

theorem Round.toNat_add_one {round : Round} (next : round.HasNext) : (round + 1).toNat = round.toNat + 1 := by
  rw [UInt64.toNat_add]
  exact Nat.mod_eq_of_lt next

namespace Check

theorem add_one_of_hasNext {round : Round} (next : round.HasNext) : add round 1 = pure (round + 1) :=
  if_pos next

theorem add_one_of_not_hasNext {round : Round} (last : ¬round.HasNext) : add round 1 = ⟨.overflowed, []⟩ :=
  if_neg last

theorem add_one_done {round next : Round} (added : (add round 1).ending = .done next) :
    round.HasNext ∧ next = round + 1 := by
  by_cases fits : round.HasNext
  · rw [add_one_of_hasNext fits] at added
    cases added
    exact ⟨fits, rfl⟩
  · rw [add_one_of_not_hasNext fits] at added
    cases added

end Check

namespace EngineState

def enter (state : EngineState) (round : Round) : EngineState :=
  { state with
    round := { state.round with currentRound := round }
    timeouts := .empty
    timeoutCount := 0 }

/-- The state after a certificate of a round has ended it, if it was not over, and if there is a next one. -/
def leave (state : EngineState) (round : Round) : EngineState :=
  if state.round.currentRound ≤ round ∧ round.HasNext then state.enter (round + 1) else state

def adopt (state : EngineState) (cert : AnyCert) : EngineState :=
  leave { state with round := state.round.install cert } cert.round

def adoptQuorum (state : EngineState) (cert : QuorumCert) : EngineState := state.adopt (.quorum cert)

theorem leave_round (state : EngineState) (round : Round) :
    (state.leave round).round = { state.round with currentRound := (state.leave round).round.currentRound } := by
  unfold leave
  split <;> rfl

theorem adopt_round (state : EngineState) (cert : AnyCert) :
    (state.adopt cert).round =
      { state.round.install cert with currentRound := (state.adopt cert).round.currentRound } := leave_round _ _

theorem adopt_highestQuorumCert (state : EngineState) (cert : AnyCert) :
    (state.adopt cert).round.highestQuorumCert = (state.round.install cert).highestQuorumCert := by
  rw [adopt_round]

theorem adopt_highestTimeoutCert (state : EngineState) (cert : AnyCert) :
    (state.adopt cert).round.highestTimeoutCert = (state.round.install cert).highestTimeoutCert := by
  rw [adopt_round]

end EngineState

/-- What the countdown is told when a certificate of a round is adopted. -/
def departure (setting : Setting) (state : EngineState) (round : Round) : List Effect :=
  if state.round.currentRound ≤ round ∧ round.HasNext ∧ setting.commandsTaken then
    [.reset (round + 1) (setting.configAt (round + 1)).timeoutPeriodSecs]
  else []

/-- One change of a node's state, with what is sent at it. Of messages, only those that are admitted get into
pools. -/
inductive Change (setting : Setting) (admitted : Message → Prop) : Transition
  | adopt (state : EngineState) (cert : AnyCert) (newer : cert.highest state.round < cert.round)
      (certified : cert.Certified setting) :
      Change setting admitted state (departure setting state cert.round) (state.adopt cert)
  | vote (state : EngineState) (vote : Vote) (admission : admitted (.vote vote))
      (current : state.round.currentRound ≤ vote.round)
      (near : vote.round.toNat ≤ state.round.currentRound.toNat + 1) :
      Change setting admitted state [] { state with votes := state.votes.add vote }
  | timeout (state : EngineState) (timeout : Timeout) (admission : admitted (.timeout timeout))
      (current : timeout.round = state.round.currentRound) :
      Change setting admitted state [] { state with timeouts := state.timeouts.add timeout }
  | bundle (state : EngineState) (bundle : SyncInfo) (admission : admitted (.syncInfo bundle)) :
      Change setting admitted state [] { state with bundles := state.bundles.add bundle }
  | count (state : EngineState) :
      Change setting admitted state [] { state with timeoutCount := state.timeoutCount + 1 }
  | sweepVotes (state : EngineState) :
      Change setting admitted state []
        { state with votes := state.votes.sweep state.round.currentRound Engine.hygieneWindow }
  | sweepTimeouts (state : EngineState) :
      Change setting admitted state []
        { state with timeouts := state.timeouts.sweep state.round.currentRound Engine.hygieneWindow }
  | sweepBundles (state : EngineState) :
      Change setting admitted state []
        { state with bundles := state.bundles.sweep state.round.currentRound Engine.hygieneWindow }
  | send (state : EngineState) (message : Message) : Change setting admitted state [.broadcast message] state

namespace Engine

open MasternodeBft.Action

variable {setting : Setting} {state : EngineState}

/-! Adoption. -/

theorem enterRound_state (round : Round) : (enterRound setting round state).state = state.enter round := by
  unfold enterRound resetCountdown
  cases setting.commandsTaken <;> rfl

theorem enterRound_ending (round : Round) : (enterRound setting round state).ending = .done () := by
  unfold enterRound resetCountdown
  cases setting.commandsTaken <;> rfl

theorem enterRound_sent (round : Round) :
    outward (enterRound setting round state).effects =
      if setting.commandsTaken then [.reset round (setting.configAt round).timeoutPeriodSecs] else [] := by
  unfold enterRound resetCountdown
  cases setting.commandsTaken <;> rfl

/-- How the end of a round goes: nothing happens where it is over, and nothing can where it is the last. -/
theorem leaveRound_eq (round : Round) :
    leaveRound setting round state =
      if state.round.currentRound ≤ round then
        if round.HasNext then enterRound setting (round + 1) state else ⟨.overflowed, state, []⟩
      else ⟨.done (), state, []⟩ := by
  change (if state.round.currentRound ≤ round then
    ((ofCheck (Check.add round 1) >>= enterRound setting : Action Unit)) else (pure () : Action Unit)) state = _
  by_cases reached : state.round.currentRound ≤ round
  · rw [if_pos reached, if_pos reached]
    by_cases next : round.HasNext
    · rw [if_pos next, Check.add_one_of_hasNext next]
      rfl
    · rw [if_neg next, Check.add_one_of_not_hasNext next]
      rfl
  · rw [if_neg reached, if_neg reached]
    rfl

theorem leaveRound_state (round : Round) : (leaveRound setting round state).state = state.leave round := by
  rw [leaveRound_eq]
  unfold EngineState.leave
  by_cases reached : state.round.currentRound ≤ round
  · by_cases next : round.HasNext
    · rw [if_pos reached, if_pos next, if_pos ⟨reached, next⟩, enterRound_state]
    · rw [if_pos reached, if_neg next, if_neg fun both => next both.2]
  · rw [if_neg reached, if_neg fun both => reached both.1]

theorem leaveRound_sent (round : Round) :
    outward (leaveRound setting round state).effects = departure setting state round := by
  rw [leaveRound_eq]
  unfold departure
  by_cases reached : state.round.currentRound ≤ round
  · by_cases next : round.HasNext
    · rw [if_pos reached, if_pos next, enterRound_sent]
      simp only [reached, next, true_and]
    · rw [if_pos reached, if_neg next, if_neg fun both => next both.2.1]
      rfl
  · rw [if_neg reached, if_neg fun both => reached both.1]
    rfl

theorem leaveRound_ending {round : Round} (next : round.HasNext) :
    (leaveRound setting round state).ending = .done () := by
  rw [leaveRound_eq, if_pos next]
  split
  · exact enterRound_ending _
  · rfl

variable {cert : AnyCert}

theorem adopt_eq (newer : cert.highest state.round < cert.round) :
    adopt setting cert state =
      (do note (.newHighest cert); leaveRound setting cert.round)
        { state with round := state.round.install cert } := by
  change (if cert.highest state.round < cert.round then _ else _ : Action Unit) state = _
  rw [if_pos newer]
  rfl

theorem adopt_state (newer : cert.highest state.round < cert.round) :
    (adopt setting cert state).state = state.adopt cert := by
  rw [adopt_eq newer]
  exact leaveRound_state cert.round

theorem adopt_sent (newer : cert.highest state.round < cert.round) :
    outward (adopt setting cert state).effects = departure setting state cert.round := by
  rw [adopt_eq newer]
  cases cert <;> exact leaveRound_sent _

theorem adopt_ending (newer : cert.highest state.round < cert.round) (next : cert.round.HasNext) :
    (adopt setting cert state).ending = .done () := by
  rw [adopt_eq newer]
  exact leaveRound_ending next

/-! What comes of certificates that are in order. -/

theorem process_eq (cert : AnyCert) :
    process setting cert state =
      if cert.round ≤ cert.highest state.round then
        ⟨.done (), state, [.notice (.staleCert cert (cert.highest state.round))]⟩
      else (ofCheck (verifyCert setting cert) >>= fun _ => adopt setting cert) state := by
  change (if cert.round ≤ cert.highest state.round then _ else _ : Action Unit) state = _
  split <;> rfl

theorem process_of_newer (passes : cert.Passes setting) (newer : cert.highest state.round < cert.round) :
    process setting cert state =
      ⟨(adopt setting cert state).ending, (adopt setting cert state).state,
        (verifyCert setting cert).notices.map .notice ++ (adopt setting cert state).effects⟩ := by
  have passed : (ofCheck (verifyCert setting cert) state).ending = .done () := passes
  rw [process_eq, if_neg (UInt64.not_le.mpr newer), bind_of_done passed]
  rfl

theorem process_refuses {error : ConsensusError} (newer : cert.highest state.round < cert.round)
    (refused : (verifyCert setting cert).ending = .refused error) :
    (process setting cert state).ending = .refused error := by
  have stopped : (ofCheck (verifyCert setting cert) state).ending = .refused error := refused
  rw [process_eq, if_neg (UInt64.not_le.mpr newer), bind_of_refused stopped]

theorem process_state (passes : cert.Passes setting) :
    (process setting cert state).state = if cert.highest state.round < cert.round then state.adopt cert else state := by
  by_cases newer : cert.highest state.round < cert.round
  · rw [process_of_newer passes newer, if_pos newer]
    exact adopt_state newer
  · rw [process_eq, if_pos (UInt64.not_lt.mp newer), if_neg newer]

theorem process_done (passes : cert.Passes setting) (next : cert.round.HasNext) :
    (process setting cert state).ending = .done () ∧
      (process setting cert state).state =
        if cert.highest state.round < cert.round then state.adopt cert else state := by
  refine ⟨?_, process_state passes⟩
  by_cases newer : cert.highest state.round < cert.round
  · rw [process_of_newer passes newer]
    exact adopt_ending newer next
  · rw [process_eq, if_pos (UInt64.not_lt.mp newer)]

end Engine

end MasternodeBft
