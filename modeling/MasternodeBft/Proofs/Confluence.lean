import MasternodeBft.Proofs.LastRound

/-!
Certificates in any order. Which certificates are checked depends on the order in which they come, since those
that are not newer than the highest one are not. Where they lead to does not: of each kind the greatest round
of those that pass counts.
-/

namespace MasternodeBft

namespace AnyCert

variable {setting : Setting} {state : EngineState}

theorem fate (cert : AnyCert) : Engine.Fate setting state cert (cert.operation.action setting state) := by
  rw [cert.action_operation]
  exact Engine.process_fate cert

structure Idle (setting : Setting) (state : EngineState) (cert : AnyCert) : Prop where
  kept : (cert.operation.action setting state).state = state
  silent : outward (cert.operation.action setting state).effects = []

theorem idle_of_reached {cert : AnyCert} (reached : cert.Passes setting → cert.round ≤ cert.highest state.round) :
    cert.Idle setting state := by
  cases (cert.fate : Engine.Fate setting state cert _) with
  | stale _ _ kept silent | rejected _ _ _ kept silent => exact ⟨kept, silent⟩
  | adopted newer passes | stuck newer passes => exact absurd newer (UInt64.not_lt.mpr (reached passes))

end AnyCert

def EngineState.process (setting : Setting) (state : EngineState) (certs : List AnyCert) : EngineState :=
  state.after (certs.map fun cert => ⟨cert.operation, setting⟩)

/-- A round is the greatest one of an earlier round and others. -/
structure Round.Greatest (earlier : Round) (others : Round → Prop) (greatest : Round) : Prop where
  earlier_le : earlier ≤ greatest
  others_le : ∀ round, others round → round ≤ greatest
  attained : greatest = earlier ∨ others greatest

namespace Round.Greatest

variable {earlier middle greatest : Round} {others more all : Round → Prop}

theorem unique {other : Round} (first : Greatest earlier others greatest) (second : Greatest earlier others other) :
    greatest = other := by
  apply UInt64.le_antisymm
  · rcases first.attained with same | attained
    · exact same ▸ second.earlier_le
    · exact second.others_le _ attained
  · rcases second.attained with same | attained
    · exact same ▸ first.earlier_le
    · exact first.others_le _ attained

theorem congr (greatest : Greatest earlier others middle) (same : ∀ round, others round ↔ more round) :
    Greatest earlier more middle :=
  ⟨greatest.earlier_le, fun round more => greatest.others_le round ((same round).mpr more),
    greatest.attained.imp_right (same middle).mp⟩

theorem trans (begun : Greatest earlier others middle) (ended : Greatest middle more greatest)
    (joined : ∀ round, all round ↔ others round ∨ more round) : Greatest earlier all greatest where
  earlier_le := UInt64.le_trans begun.earlier_le ended.earlier_le
  others_le round present := by
    rcases (joined round).mp present with before | after
    · exact UInt64.le_trans (begun.others_le round before) ended.earlier_le
    · exact ended.others_le round after
  attained := by
    rcases ended.attained with same | after
    · rw [same]
      exact begun.attained.imp_right fun before => (joined middle).mpr (.inl before)
    · exact .inr ((joined greatest).mpr (.inr after))

theorem of_same (same : greatest = earlier) (none : ∀ round, ¬others round) : Greatest earlier others greatest :=
  ⟨same ▸ UInt64.le_refl _, fun round present => absurd present (none round), .inl same⟩

end Round.Greatest

def QuorumRounds (setting : Setting) (certs : List AnyCert) (round : Round) : Prop :=
  ∃ cert, .quorum cert ∈ certs ∧ (Engine.verifyQuorum setting cert).ending = .done () ∧ cert.round = round

def TimeoutRounds (setting : Setting) (certs : List AnyCert) (round : Round) : Prop :=
  ∃ cert, .timeout cert ∈ certs ∧ (Engine.verifyTimeoutCert setting cert).ending = .done () ∧ cert.round = round

/-- Each highest round of a later state is the greatest one of that of an earlier state and those of the
certificates that pass. -/
structure RoundState.Absorbs (setting : Setting) (certs : List AnyCert) (earlier later : RoundState) : Prop where
  quorumRound : Round.Greatest earlier.quorumRound (QuorumRounds setting certs) later.quorumRound
  timeoutRound : Round.Greatest earlier.timeoutRound (TimeoutRounds setting certs) later.timeoutRound

structure RoundState.SameRounds (left right : RoundState) : Prop where
  currentRound : left.currentRound = right.currentRound
  quorumRound : left.quorumRound = right.quorumRound
  timeoutRound : left.timeoutRound = right.timeoutRound

section Processing

variable {setting : Setting} {state : EngineState}

theorem Engine.Fate.greatest {cert : AnyCert} {outcome : Outcome Unit} (fate : Engine.Fate setting state cert outcome) :
    Round.Greatest (cert.highest state.round) (fun other => cert.Passes setting ∧ cert.round = other)
      (cert.highest outcome.state.round) := by
  cases fate with
  | stale old _ kept =>
    rw [kept]
    exact ⟨UInt64.le_refl _, fun _ ⟨_, same⟩ => same ▸ UInt64.not_lt.mp old, .inl rfl⟩
  | rejected _ fails _ kept =>
    rw [kept]
    exact .of_same rfl fun _ ⟨passes, _⟩ => fails passes
  | adopted newer passes _ _ moved | stuck newer passes _ _ moved =>
    rw [moved, EngineState.highest_adopt]
    exact ⟨UInt64.le_of_lt newer, fun _ ⟨_, same⟩ => same ▸ UInt64.le_refl _, .inr ⟨passes, rfl⟩⟩

namespace RoundState.Absorbs

theorem nil (state : RoundState) : Absorbs setting [] state state where
  quorumRound := .of_same rfl fun _ ⟨_, present, _⟩ => absurd present List.not_mem_nil
  timeoutRound := .of_same rfl fun _ ⟨_, present, _⟩ => absurd present List.not_mem_nil

theorem append {first middle last : RoundState} {certs more : List AnyCert} (begun : Absorbs setting certs first middle)
    (ended : Absorbs setting more middle last) : Absorbs setting (certs ++ more) first last where
  quorumRound := begun.quorumRound.trans ended.quorumRound fun round => by
    simp only [QuorumRounds, List.mem_append, or_and_right, exists_or]
  timeoutRound := begun.timeoutRound.trans ended.timeoutRound fun round => by
    simp only [TimeoutRounds, List.mem_append, or_and_right, exists_or]

theorem single (cert : AnyCert) :
    Absorbs setting [cert] state.round (cert.operation.action setting state).state.round := by
  have fate : Engine.Fate setting state cert _ := cert.fate
  have greatest := fate.greatest
  cases cert with
  | quorum cert =>
    constructor
    · apply greatest.congr
      intro round
      simp [QuorumRounds, AnyCert.Passes, Engine.verifyCert, AnyCert.round]
    · apply Round.Greatest.of_same
      · exact fate.spares (fun state => state.round.timeoutRound) (state.adopt_timeoutRound _)
      · simp [TimeoutRounds]
  | timeout cert =>
    constructor
    · apply Round.Greatest.of_same
      · exact fate.spares (fun state => state.round.quorumRound) (state.adopt_quorumRound _)
      · simp [QuorumRounds]
    · apply greatest.congr
      intro round
      simp [TimeoutRounds, AnyCert.Passes, Engine.verifyCert, AnyCert.round]

end RoundState.Absorbs

/-- Certificates are absorbed, in whichever order they come. -/
theorem EngineState.process_absorbs (setting : Setting) (state : EngineState) (certs : List AnyCert) :
    RoundState.Absorbs setting certs state.round (state.process setting certs).round := by
  induction certs generalizing state with
  | nil => exact .nil state.round
  | cons cert rest ih => exact (RoundState.Absorbs.single cert).append (ih _)

theorem RoundState.Absorbs.bounded {earlier later : RoundState} {certs : List AnyCert}
    (absorbs : Absorbs setting certs earlier later) (bounded : earlier.Bounded)
    (next : ∀ cert ∈ certs, cert.round.HasNext) : later.Bounded where
  quorumRound := by
    rcases absorbs.quorumRound.attained with same | ⟨cert, listed, -, same⟩
    · exact same ▸ bounded.quorumRound
    · exact same ▸ next (.quorum cert) listed
  timeoutRound := by
    rcases absorbs.timeoutRound.attained with same | ⟨cert, listed, -, same⟩
    · exact same ▸ bounded.timeoutRound
    · exact same ▸ next (.timeout cert) listed

theorem RoundState.Absorbs.idle {earlier : RoundState} {certs : List AnyCert}
    (absorbs : Absorbs setting certs earlier state.round) {cert : AnyCert} (listed : cert ∈ certs) :
    cert.Idle setting state := by
  apply AnyCert.idle_of_reached
  intro passed
  cases cert with
  | quorum cert => exact absorbs.quorumRound.others_le _ ⟨cert, listed, passed, rfl⟩
  | timeout cert => exact absorbs.timeoutRound.others_le _ ⟨cert, listed, passed, rfl⟩

theorem RoundState.Exact.sameRounds {left right : RoundState} (leftExact : left.Exact) (rightExact : right.Exact)
    (quorumRound : left.quorumRound = right.quorumRound) (timeoutRound : left.timeoutRound = right.timeoutRound) :
    left.SameRounds right where
  currentRound := by
    apply UInt64.toNat_inj.mp
    rw [leftExact, rightExact, quorumRound, timeoutRound]
  quorumRound := quorumRound
  timeoutRound := timeoutRound

variable {cert : QuorumCert} {start : EngineState} {run : List Step}

theorem process_exact (started : EngineState.start? cert = some start) (unbroken : Unbroken start run)
    {certs : List AnyCert} (next : ∀ cert ∈ certs, cert.round.HasNext) :
    ((start.after run).process setting certs).round.Exact := by
  have bounded := unbroken.bounded (EngineState.start_bounded started)
  have exactly := EngineState.after_exact started (run ++ certs.map fun cert => ⟨cert.operation, setting⟩)
  unfold EngineState.after at exactly
  rw [List.foldl_append] at exactly
  exact exactly (((start.after run).process_absorbs setting certs).bounded bounded next)

/-- Where certificates lead to does not depend on their order, nor on how often they come: each highest round
is the greatest one of that before and those of the certificates that pass, and the current round is the one
after both. Once processed, they have no effect any more. -/
theorem certificates_confluent (started : EngineState.start? cert = some start) (unbroken : Unbroken start run)
    (setting : Setting) (certs : List AnyCert) (next : ∀ cert ∈ certs, cert.round.HasNext) :
    RoundState.Absorbs setting certs (start.after run).round ((start.after run).process setting certs).round ∧
      ((start.after run).process setting certs).round.Exact ∧
      (∀ others : List AnyCert, (∀ cert, cert ∈ others ↔ cert ∈ certs) →
        ((start.after run).process setting others).round.SameRounds
          ((start.after run).process setting certs).round) ∧
      ∀ cert ∈ certs, cert.Idle setting ((start.after run).process setting certs) := by
  have absorbs := (start.after run).process_absorbs setting certs
  have exactly : ((start.after run).process setting certs).round.Exact := process_exact started unbroken next
  refine ⟨absorbs, exactly, fun others same => ?_, fun cert listed => absorbs.idle listed⟩
  have otherAbsorbs := (start.after run).process_absorbs setting others
  have otherNext : ∀ cert ∈ others, cert.round.HasNext := fun cert listed => next cert ((same cert).mp listed)
  apply RoundState.Exact.sameRounds (process_exact started unbroken otherNext) exactly
  · apply otherAbsorbs.quorumRound.unique
    apply absorbs.quorumRound.congr
    intro round
    simp only [QuorumRounds, same]
  · apply otherAbsorbs.timeoutRound.unique
    apply absorbs.timeoutRound.congr
    intro round
    simp only [TimeoutRounds, same]

end Processing

namespace Sample

open Engine

theorem process_fits {cert : AnyCert} {round : UInt8} (same : cert.round = round.toUInt64)
    (passes : cert.Passes setting) (state : EngineState) :
    (Step.outcome ⟨cert.operation, setting⟩ state).ending ≠ .overflowed := by
  have done := (@process_done setting state cert passes (same ▸ hasNext round)).1
  change (cert.operation.action setting state).ending ≠ _
  rw [cert.action_operation, done]
  exact nofun

theorem run_unbroken : Unbroken start run := by
  change Unbroken start (([] ++ [_]) ++ [_])
  rw [Unbroken.concat_iff, Unbroken.concat_iff]
  have quorum : (quorumCert 1 [1, 2, 3]).Certified setting :=
    quorumCert_certified (by decide) (by decide) (by decide) (by decide)
  have timeout : (timeoutCert 2 [1, 2, 3]).Certified setting :=
    timeoutCert_certified (by decide) (by decide) (by decide) (by decide)
  refine ⟨⟨.nil, ?_⟩, ?_⟩
  · exact @process_fits (.quorum _) 1 rfl (verifyQuorum_done_iff.mpr (.inr quorum)) _
  · exact @process_fits (.timeout _) 2 rfl (verifyTimeoutCert_done_iff.mpr timeout.endorsed) _

/-- A certificate without signatures, two that pass, one of them twice, and a stale one. -/
def offered : List AnyCert :=
  [.quorum (quorumCert 9 []), .timeout (timeoutCert 5 [1, 2, 3]), .quorum (quorumCert 4 [2, 3, 4]),
    .timeout (timeoutCert 5 [1, 2, 3]), .timeout (timeoutCert 2 [])]

end Sample

theorem certificates_confluent_after_run :
    Unbroken Sample.start Sample.run ∧ (∀ cert ∈ Sample.offered, cert.round.HasNext) ∧
      RoundState.Absorbs Sample.setting Sample.offered (Sample.start.after Sample.run).round
        ((Sample.start.after Sample.run).process Sample.setting Sample.offered).round ∧
      ((Sample.start.after Sample.run).process Sample.setting Sample.offered).round.Exact ∧
      (∀ others : List AnyCert, (∀ cert, cert ∈ others ↔ cert ∈ Sample.offered) →
        ((Sample.start.after Sample.run).process Sample.setting others).round.SameRounds
          ((Sample.start.after Sample.run).process Sample.setting Sample.offered).round) ∧
      ∀ cert ∈ Sample.offered, cert.Idle Sample.setting
        ((Sample.start.after Sample.run).process Sample.setting Sample.offered) := by
  have next : ∀ cert ∈ Sample.offered, cert.round.HasNext := by
    simp only [Sample.offered, List.forall_mem_cons]
    exact ⟨Sample.hasNext 9, Sample.hasNext 5, Sample.hasNext 4, Sample.hasNext 5, Sample.hasNext 2, nofun⟩
  exact ⟨Sample.run_unbroken, next,
    certificates_confluent Sample.started Sample.run_unbroken Sample.setting Sample.offered next⟩

end MasternodeBft
