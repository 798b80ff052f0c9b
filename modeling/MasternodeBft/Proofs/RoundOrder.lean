import MasternodeBft.Proofs.Certification

/-!
The order of rounds. The current round is the one after the greatest round of a highest certificate, no
round ever decreases, and of two certificates of one kind and round the first one stays.
-/

namespace MasternodeBft

namespace RoundState

structure Advances (earlier later : RoundState) : Prop where
  currentRound : earlier.currentRound ≤ later.currentRound
  quorumRound : earlier.quorumRound ≤ later.quorumRound
  timeoutRound : earlier.timeoutRound ≤ later.timeoutRound
  quorumCert : later.quorumRound = earlier.quorumRound → later.highestQuorumCert = earlier.highestQuorumCert
  timeoutCert : later.timeoutRound = earlier.timeoutRound →
    later.highestTimeoutCert = earlier.highestTimeoutCert

theorem Advances.refl (state : RoundState) : Advances state state :=
  ⟨UInt64.le_refl _, UInt64.le_refl _, UInt64.le_refl _, fun _ => rfl, fun _ => rfl⟩

theorem Advances.trans {first second third : RoundState} (begun : Advances first second)
    (ended : Advances second third) : Advances first third where
  currentRound := UInt64.le_trans begun.currentRound ended.currentRound
  quorumRound := UInt64.le_trans begun.quorumRound ended.quorumRound
  timeoutRound := UInt64.le_trans begun.timeoutRound ended.timeoutRound
  quorumCert same := by
    -- The round in between lies between equal ones.
    have between : second.quorumRound = first.quorumRound :=
      UInt64.le_antisymm (same ▸ ended.quorumRound) begun.quorumRound
    rw [ended.quorumCert (same.trans between.symm), begun.quorumCert between]
  timeoutCert same := by
    have between : second.timeoutRound = first.timeoutRound :=
      UInt64.le_antisymm (same ▸ ended.timeoutRound) begun.timeoutRound
    rw [ended.timeoutCert (same.trans between.symm), begun.timeoutCert between]

/-- The current round is the one after the greatest round of a highest certificate. -/
def Exact (state : RoundState) : Prop :=
  state.currentRound.toNat = max state.quorumRound.toNat state.timeoutRound.toNat + 1

structure Bounded (state : RoundState) : Prop where
  quorumRound : state.quorumRound.HasNext
  timeoutRound : state.timeoutRound.HasNext

end RoundState

namespace EngineState

variable (state : EngineState)

theorem leave_currentRound (round : Round) :
    (state.leave round).round.currentRound =
      if state.round.currentRound ≤ round ∧ round.HasNext then round + 1 else state.round.currentRound := by
  unfold leave
  split <;> rfl

theorem adopt_quorumRound (cert : AnyCert) :
    (state.adopt cert).round.quorumRound = (state.round.install cert).quorumRound :=
  congrArg QuorumCert.round (state.adopt_highestQuorumCert cert)

theorem adopt_timeoutRound (cert : AnyCert) :
    (state.adopt cert).round.timeoutRound = (state.round.install cert).timeoutRound :=
  congrArg (fun kept => (Option.map TimeoutCert.round kept).getD 0) (state.adopt_highestTimeoutCert cert)

theorem highest_adopt (cert : AnyCert) : cert.highest (state.adopt cert).round = cert.round := by
  rw [adopt_round]
  cases cert <;> rfl

theorem leave_currentRound_cases (round : Round) :
    (state.round.currentRound.toNat ≤ round.toNat ∧ round.HasNext ∧
      (state.leave round).round.currentRound.toNat = round.toNat + 1) ∨
    ((round.toNat < state.round.currentRound.toNat ∨ ¬round.HasNext) ∧
      (state.leave round).round.currentRound = state.round.currentRound) := by
  rw [leave_currentRound]
  by_cases leaves : state.round.currentRound ≤ round ∧ round.HasNext
  · rw [if_pos leaves]
    exact .inl ⟨UInt64.le_iff_toNat_le.mp leaves.1, leaves.2, Round.toNat_add_one leaves.2⟩
  · rw [if_neg leaves]
    refine .inr ⟨?_, rfl⟩
    rw [not_and_or, UInt64.not_le, UInt64.lt_iff_toNat_lt] at leaves
    exact leaves

theorem leave_currentRound_le (round : Round) :
    state.round.currentRound ≤ (state.leave round).round.currentRound := by
  rw [UInt64.le_iff_toNat_le]
  rcases leave_currentRound_cases state round with ⟨reached, -, entered⟩ | ⟨-, kept⟩
  · omega
  · exact Nat.le_of_eq (congrArg UInt64.toNat kept.symm)

theorem lt_leave_currentRound {round : Round} (next : round.HasNext) :
    round < (state.leave round).round.currentRound := by
  rw [UInt64.lt_iff_toNat_lt]
  rcases leave_currentRound_cases state round with ⟨-, -, entered⟩ | ⟨stays, kept⟩
  · exact Nat.lt_of_lt_of_eq (Nat.lt_succ_self _) entered.symm
  · exact Nat.lt_of_lt_of_eq (stays.resolve_right (not_not.mpr next)) (congrArg UInt64.toNat kept.symm)

variable {state}

theorem adopt_advances {cert : AnyCert} (newer : cert.highest state.round < cert.round) :
    state.round.Advances (state.adopt cert).round := by
  have opened := leave_currentRound_le { state with round := state.round.install cert } cert.round
  rw [adopt_round]
  cases cert with
  | quorum cert =>
    exact ⟨opened, UInt64.le_of_lt newer, UInt64.le_refl _, fun same => absurd same.symm (UInt64.ne_of_lt newer),
      fun _ => rfl⟩
  | timeout cert =>
    exact ⟨opened, UInt64.le_refl _, UInt64.le_of_lt newer, fun _ => rfl,
      fun same => absurd same.symm (UInt64.ne_of_lt newer)⟩

variable (state) in
/-- A certificate that raises the greatest round may leave the current round as it is, but then one of the
other kind, of its round or a later one, has opened that round. -/
theorem leave_exact {before : Nat} {round : Round} (next : round.HasNext)
    (reached : state.round.currentRound.toNat = before + 1)
    (raised : max state.round.quorumRound.toNat state.round.timeoutRound.toNat = max before round.toNat) :
    (state.leave round).round.Exact := by
  have quorumRound : (state.leave round).round.quorumRound = state.round.quorumRound := by rw [leave_round]; rfl
  have timeoutRound : (state.leave round).round.timeoutRound = state.round.timeoutRound := by rw [leave_round]; rfl
  unfold RoundState.Exact
  rw [quorumRound, timeoutRound, raised]
  rcases leave_currentRound_cases state round with ⟨passed, -, entered⟩ | ⟨stays, kept⟩
  · omega
  · have later : round.toNat < state.round.currentRound.toNat := stays.resolve_right (not_not.mpr next)
    rw [kept]
    omega

theorem adopt_exact {cert : AnyCert} (newer : cert.highest state.round < cert.round) (next : cert.round.HasNext)
    (exact : state.round.Exact) : (state.adopt cert).round.Exact := by
  rw [UInt64.lt_iff_toNat_lt] at newer
  cases cert with
  | quorum cert =>
    apply leave_exact { state with round := state.round.install (.quorum cert) } next exact
    change state.round.quorumRound.toNat < cert.round.toNat at newer
    change max cert.round.toNat state.round.timeoutRound.toNat = max (max _ _) cert.round.toNat
    omega
  | timeout cert =>
    apply leave_exact { state with round := state.round.install (.timeout cert) } next exact
    change state.round.timeoutRound.toNat < cert.round.toNat at newer
    change max state.round.quorumRound.toNat cert.round.toNat = max (max _ _) cert.round.toNat
    omega

end EngineState

namespace Round

theorem hasNext_of_le {earlier later : Round} (before : earlier ≤ later) (next : later.HasNext) :
    earlier.HasNext := by
  unfold HasNext at next ⊢
  rw [UInt64.le_iff_toNat_le] at before
  omega

theorem hasNext_of_lt {earlier later : Round} (before : earlier < later) : earlier.HasNext := by
  have bound := later.toNat_lt
  rw [UInt64.lt_iff_toNat_lt] at before
  unfold HasNext UInt64.size
  omega

end Round

namespace RoundState

structure Ahead (state : RoundState) : Prop where
  quorumRound : state.quorumRound < state.currentRound
  timeoutRound : state.timeoutRound < state.currentRound

theorem Exact.ahead {state : RoundState} (exact : state.Exact) : state.Ahead := by
  unfold Exact at exact
  constructor
  · rw [UInt64.lt_iff_toNat_lt]
    omega
  · rw [UInt64.lt_iff_toNat_lt]
    omega

theorem Ahead.bounded {state : RoundState} (ahead : state.Ahead) : state.Bounded :=
  ⟨Round.hasNext_of_lt ahead.quorumRound, Round.hasNext_of_lt ahead.timeoutRound⟩

theorem Advances.bounded {earlier later : RoundState} (advances : Advances earlier later)
    (bounded : later.Bounded) : earlier.Bounded where
  quorumRound := Round.hasNext_of_le advances.quorumRound bounded.quorumRound
  timeoutRound := Round.hasNext_of_le advances.timeoutRound bounded.timeoutRound

theorem Bounded.highest {state : RoundState} (bounded : state.Bounded) (cert : AnyCert) :
    (cert.highest state).HasNext := by
  cases cert with
  | quorum => exact bounded.quorumRound
  | timeout => exact bounded.timeoutRound

end RoundState

/-- The current round is past the highest certificates, but for those of the last round. -/
structure RoundState.Past (state : RoundState) : Prop where
  quorum : state.quorumRound.HasNext → state.quorumRound < state.currentRound
  timeout : state.timeoutRound.HasNext → state.timeoutRound < state.currentRound

namespace Change

variable {setting : Setting} {admitted : Message → Prop} {first last : EngineState} {sent : List Effect}

theorem advances (change : Change setting admitted first sent last) : first.round.Advances last.round := by
  cases change with
  | adopt _ _ newer => exact EngineState.adopt_advances newer
  | _ => exact RoundState.Advances.refl _

theorem exact (change : Change setting admitted first sent last) (exact : first.round.Bounded → first.round.Exact)
    (bounded : last.round.Bounded) : last.round.Exact := by
  have before := exact (change.advances.bounded bounded)
  cases change with
  | adopt _ cert newer =>
    have next := bounded.highest cert
    rw [EngineState.highest_adopt] at next
    exact EngineState.adopt_exact newer next before
  | _ => exact before

theorem past (change : Change setting admitted first sent last) (past : first.round.Past) : last.round.Past := by
  have advances := change.advances
  have quorum (next : last.round.quorumRound.HasNext) : first.round.quorumRound < last.round.currentRound :=
    UInt64.lt_of_lt_of_le (past.quorum (Round.hasNext_of_le advances.quorumRound next)) advances.currentRound
  have timeout (next : last.round.timeoutRound.HasNext) : first.round.timeoutRound < last.round.currentRound :=
    UInt64.lt_of_lt_of_le (past.timeout (Round.hasNext_of_le advances.timeoutRound next)) advances.currentRound
  cases change with
  | adopt _ cert =>
    rw [EngineState.adopt_quorumRound] at quorum
    rw [EngineState.adopt_timeoutRound] at timeout
    constructor <;> intro next
    · rw [EngineState.adopt_quorumRound] at next ⊢
      cases cert with
      | quorum => exact EngineState.lt_leave_currentRound _ next
      | timeout => exact quorum next
    · rw [EngineState.adopt_timeoutRound] at next ⊢
      cases cert with
      | quorum => exact timeout next
      | timeout => exact EngineState.lt_leave_currentRound _ next
  | _ => exact past

end Change

theorem Step.advances (step : Step) (state : EngineState) : state.round.Advances (step.next state).round := by
  obtain ⟨sent, course⟩ := step.course state
  exact course.relates (fun first last => first.round.Advances last.round)
    (fun state => .refl state.round) .trans Change.advances

theorem Step.exact (step : Step) (state : EngineState) (exact : state.round.Bounded → state.round.Exact) :
    (step.next state).round.Bounded → (step.next state).round.Exact := by
  obtain ⟨sent, course⟩ := step.course state
  exact course.keeps (fun state => state.round.Bounded → state.round.Exact) Change.exact exact

namespace EngineState

variable {cert : QuorumCert} {start : EngineState}

theorem start_exact (started : start? cert = some start) : start.round.Exact := by
  obtain ⟨next, round⟩ := start_round started
  rw [round]
  change (cert.round + 1).toNat = max cert.round.toNat 0 + 1
  rw [Round.toNat_add_one next, Nat.max_zero]

theorem after_exact (started : start? cert = some start) (run : List Step) :
    (start.after run).round.Bounded → (start.after run).round.Exact :=
  after_keeps (fun state => state.round.Bounded → state.round.Exact) (fun _ => start_exact started)
    Step.exact run

/-- No run leaves the current round behind, except by a certificate of the last round. -/
theorem after_ahead_iff (started : start? cert = some start) (run : List Step) :
    (start.after run).round.Ahead ↔ (start.after run).round.Bounded :=
  ⟨RoundState.Ahead.bounded, fun bounded => (after_exact started run bounded).ahead⟩

theorem start_past (started : start? cert = some start) : start.round.Past := by
  have ahead := (start_exact started).ahead
  exact ⟨fun _ => ahead.quorumRound, fun _ => ahead.timeoutRound⟩

theorem after_past (started : start? cert = some start) (run : List Step) : (start.after run).round.Past := by
  refine after_keeps (fun state => state.round.Past) (start_past started) (fun step state past => ?_) run
  obtain ⟨sent, course⟩ := step.course state
  exact course.keeps (fun state => state.round.Past) Change.past past

/-- As long as no certificate of the last round has been adopted, the current round is the one after the
greatest round of a highest certificate; no step makes a round decrease, or replaces a highest certificate
by another one of its round. An adopted certificate of the last round would still be the highest one. -/
theorem rounds_exact_and_advancing (started : start? cert = some start) (run : List Step) (step : Step) :
    ((start.after run).round.Bounded → (start.after run).round.Exact) ∧
      (start.after run).round.Advances (step.next (start.after run)).round :=
  ⟨after_exact started run, step.advances _⟩

theorem rounds_exact_and_advancing_after_run :
    start? Sample.genesis = some Sample.start ∧ (Sample.start.after Sample.run).round.Bounded ∧
      (Sample.start.after Sample.run).round.Exact ∧
      (Sample.start.after Sample.run).round.Advances
        (Step.next ⟨.processQuorum (Sample.quorumCert 2 [2, 3, 4]), Sample.setting⟩
          (Sample.start.after Sample.run)).round := by
  have bounded : (Sample.start.after Sample.run).round.Bounded := by
    rw [Sample.after_run_round]
    exact ⟨Sample.hasNext 1, Sample.hasNext 2⟩
  obtain ⟨exact, advances⟩ := rounds_exact_and_advancing Sample.started Sample.run
    ⟨.processQuorum (Sample.quorumCert 2 [2, 3, 4]), Sample.setting⟩
  exact ⟨Sample.started, bounded, exact bounded, advances⟩

end EngineState

end MasternodeBft
