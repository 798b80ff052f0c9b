import MasternodeBft.Proofs.Confluence
import MasternodeBft.Proofs.TimeoutQuorum

/-!
Whether the current round is ahead of the highest certificates. A certificate becomes the highest one of its
kind before the round that follows its own is reckoned; where there is none, the step ends in between, and
leaves the current round behind. The last round is the only one of which certificates do that.
-/

namespace MasternodeBft

namespace AnyCert

def step (setting : Setting) (cert : AnyCert) : Step := ⟨cert.operation, setting⟩

def IsHighest (state : RoundState) : AnyCert → Prop
  | quorum cert => state.highestQuorumCert = cert
  | timeout cert => state.highestTimeoutCert = some cert

variable {setting : Setting} {state : EngineState} {cert : AnyCert}

theorem isHighest_adopt (cert : AnyCert) (state : EngineState) : cert.IsHighest (state.adopt cert).round := by
  rw [EngineState.adopt_round]
  cases cert <;> rfl

theorem adopt_currentRound_of_last (last : ¬cert.round.HasNext) :
    (state.adopt cert).round.currentRound = state.round.currentRound := by
  unfold EngineState.adopt
  rw [EngineState.leave_currentRound, if_neg fun leaves => last leaves.2]
  cases cert <;> rfl

theorem next_of_passed (passed : cert.Passes setting) :
    (cert.step setting).next state = state ∨ (cert.step setting).next state = state.adopt cert := by
  by_cases newer : cert.highest state.round < cert.round
  · exact .inr (cert.fate.of_passed newer passed).1
  · exact .inl (cert.fate.of_stale newer).state

theorem overflowed_iff_of_passed (passed : cert.Passes setting) (state : EngineState) :
    ((cert.step setting).outcome state).ending = .overflowed ↔
      cert.highest state.round < cert.round ∧ ¬cert.round.HasNext := by
  have fate : Engine.Fate setting state cert ((cert.step setting).outcome state) := cert.fate
  constructor
  · intro overflowed
    cases fate with
    | stale _ done | adopted _ _ _ done => exact nomatch done.symm.trans overflowed
    | rejected _ fails => exact absurd passed fails
    | stuck newer _ last => exact ⟨newer, last⟩
  · rintro ⟨newer, last⟩
    rcases fate.of_passed newer passed with ⟨-, ⟨next, -⟩ | ⟨-, overflowed⟩⟩
    · exact absurd next last
    · exact overflowed

end AnyCert

/-- A certificate that passes leaves the rounds as they are, or it becomes the highest one of its kind. Then the
current round is beyond both highest certificates exactly if neither of them is of the last round. One of the
last round that is newer stops the step with an overflow when it has been adopted, and the current round has
not moved. -/
theorem round_state_torn_by_last_round_only {initial : QuorumCert} {start : EngineState}
    (started : EngineState.start? initial = some start) (run : List Step) (setting : Setting) (cert : AnyCert)
    (passed : cert.Passes setting) :
    (((cert.step setting).next (start.after run)).round = (start.after run).round ∨
      cert.IsHighest ((cert.step setting).next (start.after run)).round ∧
        (((cert.step setting).next (start.after run)).round.Ahead ↔
          ((cert.step setting).next (start.after run)).round.Bounded)) ∧
    (((cert.step setting).outcome (start.after run)).ending = .overflowed ↔
      cert.highest (start.after run).round < cert.round ∧ ¬cert.round.HasNext) ∧
    (((cert.step setting).outcome (start.after run)).ending = .overflowed →
      ((cert.step setting).next (start.after run)).round.currentRound = (start.after run).round.currentRound) := by
  have overflowed := AnyCert.overflowed_iff_of_passed passed (start.after run)
  refine ⟨?_, overflowed, fun stopped => ?_⟩
  · rcases cert.next_of_passed passed with kept | moved
    · exact .inl (congrArg EngineState.round kept)
    · right
      have ahead := EngineState.after_ahead_iff started (run ++ [cert.step setting])
      rw [EngineState.after_concat] at ahead
      refine ⟨?_, ahead⟩
      rw [moved]
      exact cert.isHighest_adopt _
  · obtain ⟨newer, last⟩ := overflowed.mp stopped
    obtain ⟨moved, -⟩ := cert.fate.of_passed newer passed
    exact (congrArg (·.round.currentRound) moved).trans (AnyCert.adopt_currentRound_of_last last)

/-- A quorum certificate of the fourth round is adopted after one of the first, and the fifth round begins. -/
theorem round_state_whole_after_run :
    (AnyCert.quorum (Sample.quorumCert 4 [2, 3, 4])).Passes Sample.setting ∧
      (AnyCert.quorum (Sample.quorumCert 4 [2, 3, 4])).IsHighest
        (((AnyCert.quorum (Sample.quorumCert 4 [2, 3, 4])).step Sample.setting).next
          (Sample.start.after Sample.run)).round ∧
      (((AnyCert.quorum (Sample.quorumCert 4 [2, 3, 4])).step Sample.setting).next
        (Sample.start.after Sample.run)).round.Ahead := by
  have certified : (Sample.quorumCert 4 [2, 3, 4]).Certified Sample.setting :=
    Sample.quorumCert_certified (by decide) (by decide) (by decide) (by decide)
  have passed : (AnyCert.quorum (Sample.quorumCert 4 [2, 3, 4])).Passes Sample.setting :=
    Engine.verifyQuorum_done_iff.mpr (.inr certified)
  have newer : (Sample.start.after Sample.run).round.quorumRound < (4 : UInt8).toUInt64 := by
    rw [Sample.after_run_round]
    decide
  have moved : ((AnyCert.quorum (Sample.quorumCert 4 [2, 3, 4])).step Sample.setting).next
      (Sample.start.after Sample.run) =
        (Sample.start.after Sample.run).adopt (.quorum (Sample.quorumCert 4 [2, 3, 4])) :=
    Sample.processQuorum_next newer (by decide) (by decide) (by decide)
  obtain ⟨unchanged | ⟨highest, ahead⟩, -⟩ :=
    round_state_torn_by_last_round_only Sample.started Sample.run Sample.setting _ passed
  · rw [moved, Sample.after_run] at unchanged
    exact absurd (congrArg RoundState.currentRound unchanged) (by decide)
  · refine ⟨passed, highest, ahead.mpr ?_⟩
    rw [moved, Sample.after_run]
    exact ⟨Sample.hasNext 4, Sample.hasNext 2⟩

/-- The timeout certificate is adopted, and the current round stays the first one. -/
theorem round_state_torn_by_timeout_certificate :
    EngineState.start? Sample.genesis = some Sample.start ∧
      (AnyCert.timeout (Sample.endorsedCert Sample.lastRound)).Passes Sample.setting ∧
      (((AnyCert.timeout (Sample.endorsedCert Sample.lastRound)).step Sample.setting).outcome
        Sample.start).ending = .overflowed ∧
      (((AnyCert.timeout (Sample.endorsedCert Sample.lastRound)).step Sample.setting).next Sample.start).round =
        ⟨1, Sample.genesis, some (Sample.endorsedCert Sample.lastRound)⟩ ∧
      Sample.start.round = ⟨1, Sample.genesis, none⟩ ∧
      ¬(((AnyCert.timeout (Sample.endorsedCert Sample.lastRound)).step Sample.setting).next
        Sample.start).round.Ahead := by
  have passed : (AnyCert.timeout (Sample.endorsedCert Sample.lastRound)).Passes Sample.setting :=
    Engine.verifyTimeoutCert_done_iff.mpr (Sample.endorsed _ _ (by decide) (by decide) (by decide))
  have moved : ((AnyCert.timeout (Sample.endorsedCert Sample.lastRound)).step Sample.setting).next Sample.start =
      Sample.torn := Sample.processTimeoutCert_lastRound
  have overflowed := (AnyCert.overflowed_iff_of_passed passed Sample.start).mpr ⟨by decide, by decide⟩
  rw [moved]
  exact ⟨Sample.started, passed, overflowed, rfl, rfl, fun ahead => absurd ahead.timeoutRound (by decide)⟩

end MasternodeBft
