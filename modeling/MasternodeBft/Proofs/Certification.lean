import MasternodeBft.Proofs.Run

/-!
Only certified certificates become the highest ones: in whichever way one reaches the round state, it
has passed in full in the setting of the step that has put it there.
-/

namespace MasternodeBft

variable {α : Type}

/-- A part of the round state that is good where a certified certificate has put it there, and that nothing else
changes. -/
structure OfCerts (setting : Setting) (part : RoundState → α) (good : α → Prop) : Prop where
  currentRound (state : RoundState) (round : Round) : part { state with currentRound := round } = part state
  install (state : RoundState) (cert : AnyCert) (certified : cert.Certified setting) :
    part (state.install cert) = part state ∨ good (part (state.install cert))

theorem ofCerts_quorum (setting : Setting) :
    OfCerts setting RoundState.highestQuorumCert fun cert => cert.Certified setting where
  currentRound _ _ := rfl
  install _ cert certified := by
    cases cert with
    | quorum => exact .inr certified
    | timeout => exact .inl rfl

theorem ofCerts_timeout (setting : Setting) :
    OfCerts setting RoundState.highestTimeoutCert fun kept => ∀ cert ∈ kept, cert.Certified setting where
  currentRound _ _ := rfl
  install _ cert certified := by
    cases cert with
    | quorum => exact .inl rfl
    | timeout =>
      right
      intro other same
      cases same
      exact certified

namespace OfCerts

variable {setting : Setting} {part : RoundState → α} {good : α → Prop}

theorem change (ofCerts : OfCerts setting part good) {admitted : Message → Prop} {first last : EngineState}
    {sent : List Effect} (change : Change setting admitted first sent last) :
    part last.round = part first.round ∨ good (part last.round) := by
  cases change with
  | adopt _ cert newer certified =>
    rw [EngineState.adopt_round, ofCerts.currentRound]
    exact ofCerts.install _ cert certified
  | _ => exact .inl rfl

theorem installed {start : EngineState} {run : List Step} {step : Step} {value : α}
    (ofCerts : OfCerts step.setting part good) (installed : InstalledBy part start run step value) : good value := by
  obtain ⟨before, after, split, absent, rfl⟩ := installed
  obtain ⟨sent, course⟩ := step.course (start.after before)
  have verdict := course.keeps_or_improves (fun state => part state.round) good ofCerts.change
  exact verdict.resolve_left absent.symm

end OfCerts

section Installation

variable {start : EngineState}

theorem start_round {cert : QuorumCert} (started : EngineState.start? cert = some start) :
    cert.round.HasNext ∧ start.round = ⟨cert.round + 1, cert, none⟩ := by
  unfold EngineState.start? RoundState.start? at started
  change Option.map _ (if cert.round.HasNext then _ else _) = _ at started
  by_cases next : cert.round.HasNext
  · rw [if_pos next] at started
    cases started
    exact ⟨next, rfl⟩
  · rw [if_neg next] at started
    cases started

theorem highestQuorumCert_of_started {cert : QuorumCert} (started : EngineState.start? cert = some start)
    (run : List Step) :
    (start.after run).round.highestQuorumCert = cert ∨
      ∃ step, InstalledBy RoundState.highestQuorumCert start run step (start.after run).round.highestQuorumCert ∧
        (start.after run).round.highestQuorumCert.Certified step.setting := by
  obtain ⟨-, round⟩ := start_round started
  rcases initial_or_installed RoundState.highestQuorumCert start run with initial | ⟨step, installed⟩
  · left
    rw [initial, round]
  · exact .inr ⟨step, installed, (ofCerts_quorum _).installed installed⟩

theorem highestTimeoutCert_of_started {cert : QuorumCert} (started : EngineState.start? cert = some start)
    (run : List Step) {timeoutCert : TimeoutCert}
    (present : (start.after run).round.highestTimeoutCert = some timeoutCert) :
    ∃ step, InstalledBy RoundState.highestTimeoutCert start run step (some timeoutCert) ∧
      timeoutCert.Certified step.setting := by
  obtain ⟨-, round⟩ := start_round started
  rcases initial_or_installed RoundState.highestTimeoutCert start run with initial | ⟨step, installed⟩
  · rw [round, present] at initial
    cases initial
  · rw [present] at installed
    exact ⟨step, installed, (ofCerts_timeout _).installed installed _ rfl⟩

/-- The highest quorum certificate of an engine is the one it was built with, or certified in the setting
of the step that installed it; its highest timeout certificate, if there is one, is the latter. -/
theorem highest_certificates_certified {cert : QuorumCert} (started : EngineState.start? cert = some start)
    (run : List Step) :
    ((start.after run).round.highestQuorumCert = cert ∨
      ∃ step, InstalledBy RoundState.highestQuorumCert start run step (start.after run).round.highestQuorumCert ∧
        (start.after run).round.highestQuorumCert.Certified step.setting) ∧
    ∀ timeoutCert, (start.after run).round.highestTimeoutCert = some timeoutCert →
      ∃ step, InstalledBy RoundState.highestTimeoutCert start run step (some timeoutCert) ∧
        timeoutCert.Certified step.setting :=
  ⟨highestQuorumCert_of_started started run, fun _ present => highestTimeoutCert_of_started started run present⟩

theorem adopted_certificates_certified :
    EngineState.start? Sample.genesis = some Sample.start ∧
      (∃ step, InstalledBy RoundState.highestQuorumCert Sample.start Sample.run step
          (Sample.quorumCert 1 [1, 2, 3]) ∧
        (Sample.quorumCert 1 [1, 2, 3]).Certified step.setting) ∧
      ∃ step, InstalledBy RoundState.highestTimeoutCert Sample.start Sample.run step
          (some (Sample.timeoutCert 2 [1, 2, 3])) ∧
        (Sample.timeoutCert 2 [1, 2, 3]).Certified step.setting := by
  obtain ⟨quorum, timeout⟩ := highest_certificates_certified Sample.started Sample.run
  rw [Sample.after_run_round] at quorum timeout
  have replaced : Sample.quorumCert 1 [1, 2, 3] ≠ Sample.genesis := by
    intro same
    exact absurd (congrArg QuorumCert.round same) (by decide)
  exact ⟨Sample.started, quorum.resolve_left replaced, timeout _ rfl⟩

end Installation

end MasternodeBft
