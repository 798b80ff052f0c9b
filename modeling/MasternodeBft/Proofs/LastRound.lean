import MasternodeBft.Proofs.Deeds
import MasternodeBft.Proofs.Outcomes
import MasternodeBft.Proofs.Provenance
import MasternodeBft.Proofs.RoundOrder

/-!
Certificates of the last round. Such a certificate can become a highest one, but no round follows it, and the
step that adopts it ends there with an overflow. So a step that ends otherwise adopts certificates of earlier
rounds only, and where it leaves the current round can be told from the highest certificates.
-/

namespace MasternodeBft

theorem Round.le_of_not_hasNext {last : Round} (final : ¬last.HasNext) (round : Round) : round ≤ last := by
  have bound := round.toNat_lt
  unfold HasNext UInt64.size at final
  rw [UInt64.le_iff_toNat_le]
  omega

theorem Round.eq_of_between {first middle last : Round} (before : first ≤ middle) (after : middle ≤ last)
    (same : last = first) : middle = first := UInt64.le_antisymm (same ▸ after) before

/-! Checks of certificates add nothing up. -/

namespace Check

variable {α β : Type}

def Fits (check : Check α) : Prop := check.ending ≠ .overflowed

theorem fits_bind {first : Check α} {next : α → Check β} (begins : first.Fits)
    (continues : ∀ value, (next value).Fits) : (first >>= next).Fits := by
  unfold Fits
  rw [ending_bind]
  cases ended : first.ending with
  | done value => exact continues value
  | refused error => exact nofun
  | overflowed => exact absurd ended begins

theorem fits_refuse (error : ConsensusError) : (refuse error : Check α).Fits := nofun

theorem fits_note_bind {notice : Notice} {next : Unit → Check β} (continues : (next ()).Fits) :
    (note notice >>= next).Fits := continues

end Check

namespace Engine

open MasternodeBft.Check

variable {setting : Setting}

theorem snapshot_fits (gapNumber : UInt64) : (snapshot setting gapNumber).Fits := by
  unfold snapshot
  split
  · exact fits_note_bind (fits_refuse _)
  · split
    · exact fits_note_bind (fits_refuse _)
    · exact nofun

theorem verifyBlock_fits (block : BlockInfo) : (verifyBlock setting block).Fits := by
  unfold verifyBlock
  split
  · exact fits_note_bind (fits_refuse _)
  · split
    · exact fits_note_bind (fits_refuse _)
    · exact nofun

theorem verifyQuorum_fits (cert : QuorumCert) : (verifyQuorum setting cert).Fits := by
  unfold verifyQuorum
  split
  · exact nofun
  · split
    · exact fits_note_bind (fits_refuse _)
    · refine fits_bind (verifyBlock_fits _) fun _ => fits_bind (snapshot_fits _) fun _ => ?_
      refine fits_bind nofun fun verdict => ?_
      cases verdict with
      | ok => exact nofun
      | error cause => exact fits_note_bind (fits_refuse _)

theorem verifyTimeoutCert_fits (cert : TimeoutCert) : (verifyTimeoutCert setting cert).Fits := by
  unfold verifyTimeoutCert
  split
  · exact fits_note_bind (fits_refuse _)
  · refine fits_bind (snapshot_fits _) fun _ => fits_bind nofun fun verdict => ?_
    cases verdict with
    | ok => exact nofun
    | error cause => exact fits_note_bind (fits_refuse _)

theorem verifyCert_fits (cert : AnyCert) : (verifyCert setting cert).Fits := by
  cases cert with
  | quorum cert => exact verifyQuorum_fits cert
  | timeout cert => exact verifyTimeoutCert_fits cert

end Engine

/-! Certificates. -/

namespace Engine

open MasternodeBft.Action

variable {setting : Setting} {state : EngineState}

theorem leaveRound_overflowed {round : Round} (last : ¬round.HasNext) :
    (leaveRound setting round state).ending = .overflowed := by
  rw [leaveRound_eq, if_pos (Round.le_of_not_hasNext last _), if_neg last]

theorem adopt_overflowed {cert : AnyCert} (newer : cert.highest state.round < cert.round) (last : ¬cert.round.HasNext) :
    (adopt setting cert state).ending = .overflowed := by
  rw [adopt_eq newer]
  exact leaveRound_overflowed last

/-- What becomes of a certificate: it is not newer than the highest one of its kind, it is refused, or it is
adopted, and then a round follows its own, or the step is stuck. -/
inductive Fate (setting : Setting) (state : EngineState) (cert : AnyCert) (outcome : Outcome Unit) : Prop
  | stale (old : ¬cert.highest state.round < cert.round) (done : outcome.ending = .done ())
      (kept : outcome.state = state) (silent : outward outcome.effects = [])
  | rejected (newer : cert.highest state.round < cert.round) (fails : ¬cert.Passes setting)
      (refused : ∃ error, outcome.ending = .refused error) (kept : outcome.state = state)
      (silent : outward outcome.effects = [])
  | adopted (newer : cert.highest state.round < cert.round) (passes : cert.Passes setting)
      (next : cert.round.HasNext) (done : outcome.ending = .done ()) (moved : outcome.state = state.adopt cert)
  | stuck (newer : cert.highest state.round < cert.round) (passes : cert.Passes setting)
      (last : ¬cert.round.HasNext) (overflowed : outcome.ending = .overflowed)
      (moved : outcome.state = state.adopt cert)

section Cases

variable {cert : AnyCert} {outcome : Outcome Unit}

theorem Fate.spares {α : Type} (fate : Fate setting state cert outcome) (part : EngineState → α)
    (spared : part (state.adopt cert) = part state) : part outcome.state = part state := by
  cases fate with
  | stale _ _ kept | rejected _ _ _ kept => rw [kept]
  | adopted _ _ _ _ moved | stuck _ _ _ _ moved => rw [moved, spared]

theorem Fate.of_stale (fate : Fate setting state cert outcome) (old : ¬cert.highest state.round < cert.round) :
    outcome.Agrees ⟨.done (), state, []⟩ := by
  cases fate with
  | stale _ done kept silent => exact ⟨done, kept, silent⟩
  | rejected newer | adopted newer | stuck newer => exact absurd newer old

theorem Fate.of_rejected (fate : Fate setting state cert outcome) (newer : cert.highest state.round < cert.round)
    (fails : ¬cert.Passes setting) : ∃ error, outcome.Agrees ⟨.refused error, state, []⟩ := by
  cases fate with
  | stale old => exact absurd newer old
  | rejected _ _ refused kept silent =>
    obtain ⟨error, refused⟩ := refused
    exact ⟨error, refused, kept, silent⟩
  | adopted _ passes | stuck _ passes => exact absurd passes fails

theorem Fate.of_passed (fate : Fate setting state cert outcome) (newer : cert.highest state.round < cert.round)
    (passes : cert.Passes setting) :
    outcome.state = state.adopt cert ∧
      ((cert.round.HasNext ∧ outcome.ending = .done ()) ∨
        (¬cert.round.HasNext ∧ outcome.ending = .overflowed)) := by
  cases fate with
  | stale old => exact absurd newer old
  | rejected _ fails => exact absurd passes fails
  | adopted _ _ next done moved => exact ⟨moved, .inl ⟨next, done⟩⟩
  | stuck _ _ last overflowed moved => exact ⟨moved, .inr ⟨last, overflowed⟩⟩

theorem Fate.fits (fate : Fate setting state cert outcome) (next : cert.round.HasNext) :
    outcome.ending ≠ .overflowed := by
  intro overflowed
  cases fate with
  | stale _ done | adopted _ _ _ done => exact absurd (done.symm.trans overflowed) nofun
  | rejected _ _ refused =>
    obtain ⟨error, refused⟩ := refused
    exact absurd (refused.symm.trans overflowed) nofun
  | stuck _ _ last => exact last next

end Cases

theorem process_fate (cert : AnyCert) : Fate setting state cert (process setting cert state) := by
  by_cases newer : cert.highest state.round < cert.round
  · cases verdict : (verifyCert setting cert).ending with
    | done =>
      rw [process_of_newer verdict newer]
      by_cases next : cert.round.HasNext
      · exact .adopted newer verdict next (adopt_ending newer next) (adopt_state newer)
      · exact .stuck newer verdict next (adopt_overflowed newer next) (adopt_state newer)
    | refused error =>
      have refused : (ofCheck (verifyCert setting cert) state).ending = .refused error := verdict
      have fails : ¬cert.Passes setting := fun passes => nomatch verdict.symm.trans passes
      rw [process_eq, if_neg (UInt64.not_le.mpr newer), bind_of_refused refused]
      exact .rejected newer fails ⟨error, rfl⟩ rfl (outward_notices _)
    | overflowed => exact absurd verdict (verifyCert_fits cert)
  · rw [process_eq, if_pos (UInt64.not_lt.mp newer)]
    exact .stale newer rfl rfl rfl

end Engine

/-! Steps that adopt no certificate of the last round. -/

/-- A highest certificate of a later state is that of an earlier one, or not of the last round. -/
structure RoundState.StopsShort (earlier later : RoundState) : Prop where
  quorumRound : later.quorumRound = earlier.quorumRound ∨ later.quorumRound.HasNext
  timeoutRound : later.timeoutRound = earlier.timeoutRound ∨ later.timeoutRound.HasNext

namespace RoundState.StopsShort

variable {first middle last : RoundState}

theorem bounded (short : first.StopsShort last) (bounded : first.Bounded) : last.Bounded where
  quorumRound := short.quorumRound.elim (fun same => same ▸ bounded.quorumRound) id
  timeoutRound := short.timeoutRound.elim (fun same => same ▸ bounded.timeoutRound) id

theorem begun (short : first.StopsShort last) (before : first.Advances middle) (after : middle.Advances last) :
    first.StopsShort middle where
  quorumRound := short.quorumRound.imp (Round.eq_of_between before.quorumRound after.quorumRound)
    (Round.hasNext_of_le after.quorumRound)
  timeoutRound := short.timeoutRound.imp (Round.eq_of_between before.timeoutRound after.timeoutRound)
    (Round.hasNext_of_le after.timeoutRound)

theorem ended (short : first.StopsShort last) (before : first.Advances middle) (after : middle.Advances last) :
    middle.StopsShort last where
  quorumRound := short.quorumRound.imp_left fun same =>
    same.trans (Round.eq_of_between before.quorumRound after.quorumRound same).symm
  timeoutRound := short.timeoutRound.imp_left fun same =>
    same.trans (Round.eq_of_between before.timeoutRound after.timeoutRound same).symm

theorem highest (short : first.StopsShort last) (cert : AnyCert) :
    cert.highest last = cert.highest first ∨ (cert.highest last).HasNext := by
  cases cert with
  | quorum => exact short.quorumRound
  | timeout => exact short.timeoutRound

end RoundState.StopsShort

theorem Deed.keeps_stopsShort (first : RoundState) {setting : Setting} (deed : Deed) :
    (deed.action setting).Keeps (fun state => first.StopsShort state.round) True := by
  cases deed with
  | process cert =>
    intro state short
    change first.StopsShort (Engine.process setting cert state).state.round ∨ _
    cases Engine.process_fate cert with
    | stale _ _ kept | rejected _ _ _ kept =>
      rw [kept]
      exact .inl short
    | adopted _ _ next _ moved =>
      rw [moved]
      refine .inl ⟨?_, ?_⟩
      · rw [EngineState.adopt_quorumRound]
        cases cert with
        | quorum => exact .inr next
        | timeout => exact short.quorumRound
      · rw [EngineState.adopt_timeoutRound]
        cases cert with
        | quorum => exact short.timeoutRound
        | timeout => exact .inr next
    | stuck _ _ _ overflowed => exact .inr ⟨trivial, overflowed⟩
  | _ => exact .of_sure fun _ short => short

theorem Step.stopsShort {step : Step} {state : EngineState} (fits : (step.outcome state).ending ≠ .overflowed) :
    state.round.StopsShort (step.next state).round := by
  have made : MadeOf step.setting (step.operation.Allows step.setting state) _ := step.operation.made
  have kept := made.keeps fun deed _ => deed.keeps_stopsShort state.round
  exact (kept state ⟨.inl rfl, .inl rfl⟩).resolve_right fun stopped => fits stopped.2

def Unbroken (start : EngineState) (run : List Step) : Prop :=
  ¬Occurs (fun step state => (step.outcome state).ending = .overflowed) start run

namespace Unbroken

variable {start : EngineState} {run : List Step}

theorem nil : Unbroken start [] := by
  rintro ⟨before, step, after, split, -⟩
  exact absurd split (by simp)

theorem concat_iff {step : Step} :
    Unbroken start (run ++ [step]) ↔ Unbroken start run ∧ (step.outcome (start.after run)).ending ≠ .overflowed := by
  unfold Unbroken
  rw [Occurs.concat_iff, not_or]

theorem bounded (unbroken : Unbroken start run) (bounded : start.round.Bounded) : (start.after run).round.Bounded := by
  induction run using List.reverseRecOn with
  | nil => exact bounded
  | append_singleton run step ih =>
    obtain ⟨before, fits⟩ := concat_iff.mp unbroken
    rw [EngineState.after_concat]
    exact (Step.stopsShort fits).bounded (ih before)

end Unbroken

theorem EngineState.start_bounded {cert : QuorumCert} {start : EngineState} (started : start? cert = some start) :
    start.round.Bounded := by
  obtain ⟨next, round⟩ := start_round started
  rw [round]
  exact ⟨next, (by decide : Round.HasNext 0)⟩

/-! The current round. -/

/-- The number of the round that a new highest certificate opens, if there is a new one. -/
def Round.opened (earlier later : Round) : Nat := if later = earlier then 0 else later.toNat + 1

theorem Round.opened_self (round : Round) : opened round round = 0 := if_pos rfl

theorem Round.opened_of_lt {earlier later : Round} (newer : earlier < later) : opened earlier later = later.toNat + 1 :=
  if_neg fun same => UInt64.ne_of_lt newer same.symm

theorem Round.opened_trans {first middle last : Round} (before : first ≤ middle) (after : middle ≤ last) :
    opened first last = max (opened first middle) (opened middle last) := by
  rcases UInt64.lt_or_eq_of_le before with begun | rfl
  · rcases UInt64.lt_or_eq_of_le after with ended | rfl
    · rw [opened_of_lt (UInt64.lt_trans begun ended), opened_of_lt begun, opened_of_lt ended]
      rw [UInt64.lt_iff_toNat_lt] at ended
      omega
    · rw [opened_self, Nat.max_zero]
  · rw [opened_self, Nat.zero_max]

def RoundState.Opens (earlier later : RoundState) : Prop :=
  later.currentRound.toNat = max earlier.currentRound.toNat
    (max (Round.opened earlier.quorumRound later.quorumRound) (Round.opened earlier.timeoutRound later.timeoutRound))

theorem RoundState.Opens.refl (state : RoundState) : state.Opens state := by
  unfold Opens
  rw [Round.opened_self, Round.opened_self]
  exact (Nat.max_zero _).symm

theorem RoundState.Opens.trans {first middle last : RoundState} (begun : first.Opens middle) (ended : middle.Opens last)
    (before : first.Advances middle) (after : middle.Advances last) : first.Opens last := by
  unfold Opens at *
  rw [ended, begun, Round.opened_trans before.quorumRound after.quorumRound,
    Round.opened_trans before.timeoutRound after.timeoutRound]
  ac_rfl

namespace EngineState

variable {state : EngineState}

theorem leave_currentRound_of_hasNext (state : EngineState) {round : Round} (next : round.HasNext) :
    (state.leave round).round.currentRound.toNat = max state.round.currentRound.toNat (round.toNat + 1) := by
  rcases leave_currentRound_cases state round with ⟨reached, -, entered⟩ | ⟨stays, kept⟩
  · omega
  · have later : round.toNat < state.round.currentRound.toNat := stays.resolve_right (not_not.mpr next)
    rw [kept]
    omega

theorem adopt_opens {cert : AnyCert} (newer : cert.highest state.round < cert.round) (next : cert.round.HasNext) :
    state.round.Opens (state.adopt cert).round := by
  have opened := leave_currentRound_of_hasNext { state with round := state.round.install cert } next
  unfold RoundState.Opens
  rw [adopt_quorumRound, adopt_timeoutRound]
  cases cert with
  | quorum cert =>
    have raised : Round.opened state.round.quorumRound cert.round = _ := Round.opened_of_lt newer
    have kept := Round.opened_self state.round.timeoutRound
    change (state.adopt (.quorum cert)).round.currentRound.toNat = max state.round.currentRound.toNat
      (max (Round.opened state.round.quorumRound cert.round) (Round.opened _ state.round.timeoutRound))
    rw [raised, kept, Nat.max_zero]
    exact opened
  | timeout cert =>
    have raised : Round.opened state.round.timeoutRound cert.round = _ := Round.opened_of_lt newer
    have kept := Round.opened_self state.round.quorumRound
    change (state.adopt (.timeout cert)).round.currentRound.toNat = max state.round.currentRound.toNat
      (max (Round.opened _ state.round.quorumRound) (Round.opened state.round.timeoutRound cert.round))
    rw [raised, kept, Nat.zero_max]
    exact opened

end EngineState

theorem Change.opens {setting : Setting} {admitted : Message → Prop} {first last : EngineState} {sent : List Effect}
    (change : Change setting admitted first sent last) (short : first.round.StopsShort last.round) :
    first.round.Opens last.round := by
  cases change with
  | adopt _ cert newer =>
    have next := short.highest cert
    rw [EngineState.highest_adopt] at next
    exact EngineState.adopt_opens newer (next.resolve_left fun same => UInt64.ne_of_lt newer same.symm)
  | _ => exact .refl _

theorem Step.opens {step : Step} {state : EngineState} (fits : (step.outcome state).ending ≠ .overflowed) :
    state.round.Opens (step.next state).round := by
  obtain ⟨sent, course⟩ := step.course state
  have related := course.relates
    (fun first last => first.round.Advances last.round ∧
      (first.round.StopsShort last.round → first.round.Opens last.round))
    (fun state => ⟨.refl state.round, fun _ => .refl state.round⟩)
    (fun ⟨before, begun⟩ ⟨after, ended⟩ => ⟨before.trans after, fun short =>
      (begun (short.begun before after)).trans (ended (short.ended before after)) before after⟩)
    (fun change => ⟨change.advances, change.opens⟩)
  exact related.2 (Step.stopsShort fits)

end MasternodeBft
