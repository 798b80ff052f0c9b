import Mathlib.Data.List.Induction
import MasternodeBft.Proofs.Attestation
import MasternodeBft.Proofs.LastWrites
import MasternodeBft.Proofs.Run

/-!
Where pooled votes and timeouts come from. Each of them has been admitted at a step of the run; if all that
is handed over for collection has been checked before, then votes in pools are signed by masternodes, and so
are timeouts, but for those of the node itself.
-/

namespace MasternodeBft

theorem concat_eq_split_iff {run before after : List Step} {last step : Step} :
    run ++ [last] = before ++ step :: after ↔
      (run = before ∧ last = step ∧ [] = after) ∨ ∃ rest, run = before ++ step :: rest ∧ rest ++ [last] = after := by
  constructor
  · intro split
    rcases List.eq_nil_or_concat after with rfl | ⟨rest, final, rfl⟩
    · obtain ⟨same, ends⟩ := List.append_inj' split rfl
      exact .inl ⟨same, List.singleton_inj.mp ends, rfl⟩
    · rw [List.concat_eq_append, ← List.cons_append, ← List.append_assoc] at split
      obtain ⟨same, ends⟩ := List.append_inj' split rfl
      exact .inr ⟨rest, same, by rw [ends, List.concat_eq_append]⟩
  · rintro (⟨rfl, rfl, rfl⟩ | ⟨rest, rfl, rfl⟩)
    · rfl
    · rw [List.append_assoc]
      rfl

def Occurs (event : Step → EngineState → Prop) (start : EngineState) (run : List Step) : Prop :=
  ∃ before step after, run = before ++ step :: after ∧ event step (start.after before)

namespace Occurs

variable {event : Step → EngineState → Prop} {start : EngineState} {run : List Step}

theorem concat (occurs : Occurs event start run) (step : Step) : Occurs event start (run ++ [step]) := by
  obtain ⟨before, earlier, after, split, happened⟩ := occurs
  exact ⟨before, earlier, after ++ [step], by rw [split, List.append_assoc]; rfl, happened⟩

theorem last {step : Step} (happens : event step (start.after run)) : Occurs event start (run ++ [step]) :=
  ⟨run, step, [], rfl, happens⟩

theorem concat_iff {step : Step} :
    Occurs event start (run ++ [step]) ↔ Occurs event start run ∨ event step (start.after run) := by
  refine ⟨fun ⟨before, earlier, after, split, happened⟩ => ?_, fun either => either.elim (·.concat step) last⟩
  rcases concat_eq_split_iff.mp split with ⟨rfl, rfl, -⟩ | ⟨rest, rfl, -⟩
  · exact .inr happened
  · exact .inl ⟨before, earlier, rest, rfl, happened⟩

theorem mem (occurs : Occurs event start run) : ∃ step ∈ run, ∃ state, event step state := by
  obtain ⟨before, step, after, split, happened⟩ := occurs
  exact ⟨step, split ▸ List.mem_append_right before List.mem_cons_self, _, happened⟩

end Occurs

/-! Pools along runs. -/

theorem EngineState.leave_votes (state : EngineState) (round : Round) : (state.leave round).votes = state.votes := by
  unfold leave
  split <;> rfl

theorem EngineState.adopt_votes (state : EngineState) (cert : AnyCert) : (state.adopt cert).votes = state.votes :=
  leave_votes _ _

theorem EngineState.leave_timeouts (state : EngineState) (round : Round) :
    (state.leave round).timeouts =
      if state.round.currentRound ≤ round ∧ round.HasNext then .empty else state.timeouts := by
  unfold leave
  split <;> rfl

namespace Change

variable {setting : Setting} {admitted : Message → Prop} {first last : EngineState} {sent : List Effect}

theorem keeps_votes (invariant : VotePool → Prop) (change : Change setting admitted first sent last)
    (adds : ∀ pool vote, admitted (.vote vote) → invariant pool → invariant (pool.add vote))
    (sweeps : ∀ pool current window, invariant pool → invariant (pool.sweep current window))
    (holds : invariant first.votes) : invariant last.votes := by
  cases change with
  | adopt _ cert => rwa [EngineState.adopt_votes]
  | vote _ vote admission => exact adds _ vote admission holds
  | sweepVotes => exact sweeps _ _ _ holds
  | _ => exact holds

theorem keeps_timeouts (invariant : TimeoutPool → Prop) (change : Change setting admitted first sent last)
    (empties : invariant .empty)
    (adds : ∀ pool timeout, admitted (.timeout timeout) → invariant pool → invariant (pool.add timeout))
    (sweeps : ∀ pool current window, invariant pool → invariant (pool.sweep current window))
    (holds : invariant first.timeouts) : invariant last.timeouts := by
  cases change with
  | adopt _ cert =>
    unfold EngineState.adopt
    rw [EngineState.leave_timeouts]
    split
    · exact empties
    · exact holds
  | timeout _ timeout admission => exact adds _ timeout admission holds
  | sweepTimeouts => exact sweeps _ _ _ holds
  | _ => exact holds

end Change

namespace Step

variable {step : Step} {state : EngineState}

theorem keeps_votes (invariant : VotePool → Prop)
    (adds : ∀ pool vote, step.Admits state (.vote vote) → invariant pool → invariant (pool.add vote))
    (sweeps : ∀ pool current window, invariant pool → invariant (pool.sweep current window))
    (holds : invariant state.votes) : invariant (step.next state).votes := by
  obtain ⟨sent, course⟩ := step.course state
  exact course.keeps (fun state => invariant state.votes)
    (fun change => change.keeps_votes invariant adds sweeps) holds

theorem keeps_timeouts (invariant : TimeoutPool → Prop) (empties : invariant .empty)
    (adds : ∀ pool timeout, step.Admits state (.timeout timeout) → invariant pool → invariant (pool.add timeout))
    (sweeps : ∀ pool current window, invariant pool → invariant (pool.sweep current window))
    (holds : invariant state.timeouts) : invariant (step.next state).timeouts := by
  obtain ⟨sent, course⟩ := step.course state
  exact course.keeps (fun state => invariant state.timeouts)
    (fun change => change.keeps_timeouts invariant empties adds sweeps) holds

end Step

def AdmittedIn (start : EngineState) (run : List Step) (message : Message) : Prop :=
  Occurs (fun step state => step.Admits state message) start run

theorem pools_of_started {cert : QuorumCert} {start : EngineState} (started : EngineState.start? cert = some start) :
    start.votes = .empty ∧ start.timeouts = .empty ∧ start.bundles = .empty := by
  obtain ⟨round, -, rfl⟩ := Option.map_eq_some_iff.mp started
  exact ⟨rfl, rfl, rfl⟩

section Pools

variable {Object Key Signer : Type} [DecidableEq Key] [DecidableEq Signer] [PoolKey Key] [Poolable Object Key Signer]

/-- A pool among the parts of a state. It is empty at the start; steps add what they admit to it, and otherwise
sweep it or empty it. -/
structure IsPool (part : EngineState → Pool Object Key Signer) (message : Object → Message) : Prop where
  starts {cert : QuorumCert} {start : EngineState} (started : EngineState.start? cert = some start) :
    part start = .empty
  keeps (step : Step) (state : EngineState) (invariant : Pool Object Key Signer → Prop) (empties : invariant .empty)
    (adds : ∀ pool object, step.Admits state (message object) → invariant pool → invariant (pool.add object))
    (sweeps : ∀ pool current window, invariant pool → invariant (pool.sweep current window))
    (holds : invariant (part state)) : invariant (part (step.next state))

namespace IsPool

variable {part : EngineState → Pool Object Key Signer} {message : Object → Message} {cert : QuorumCert}
  {start : EngineState}

theorem tidy (pool : IsPool part message) (started : EngineState.start? cert = some start) (run : List Step) :
    (part (start.after run)).Tidy := by
  apply EngineState.after_keeps (fun state => (part state).Tidy)
  · rw [pool.starts started]
    exact .empty
  · intro step state tidy
    exact pool.keeps step state Pool.Tidy .empty (fun _ object _ tidy => tidy.add object)
      (fun _ current window tidy => tidy.sweep current window) tidy

theorem admitted (pool : IsPool part message) (started : EngineState.start? cert = some start) (run : List Step) :
    (part (start.after run)).Files fun object => AdmittedIn start run (message object) := by
  induction run using List.reverseRecOn with
  | nil =>
    change (part start).Files _
    rw [pool.starts started]
    exact .empty
  | append_singleton run step ih =>
    rw [EngineState.after_concat]
    exact pool.keeps step _ (Pool.Files _) .empty (fun _ object admission files => files.add (.last admission))
      (fun _ current window files => files.sweep current window) (ih.mono fun object admitted => admitted.concat step)

end IsPool

end Pools

theorem isPool_votes : IsPool EngineState.votes .vote where
  starts started := (pools_of_started started).1
  keeps _ _ invariant _ := Step.keeps_votes invariant

theorem isPool_timeouts : IsPool EngineState.timeouts .timeout where
  starts started := (pools_of_started started).2.1
  keeps _ _ := Step.keeps_timeouts

/-! What is checked before it is handed over. -/

inductive Step.Checks (step : Step) (state : EngineState) : Message → Prop
  | vote (vote : Vote) (claimed : Address) (asked : step.operation = .verifyVote { vote with signer := claimed })
      (passed : (Engine.verifyVote step.setting state.round.currentRound { vote with signer := claimed }).ending =
        .done (some vote.signer)) :
      Checks step state (.vote vote)
  | timeout (timeout : Timeout) (claimed : Address)
      (asked : step.operation = .verifyTimeout { timeout with signer := claimed })
      (passed : (Engine.verifyTimeout step.setting state.round.currentRound
        { timeout with signer := claimed }).ending = .done (some timeout.signer)) :
      Checks step state (.timeout timeout)

def CheckedIn (start : EngineState) (run : List Step) (message : Message) : Prop :=
  Occurs (fun step state => step.Checks state message) start run

/-- All objects of a kind that a run hands over for collection have been checked at earlier steps. -/
def HandsOverChecked {Object : Type} (handOver : Object → Operation) (message : Object → Message)
    (start : EngineState) (run : List Step) : Prop :=
  ∀ before step after object, run = before ++ step :: after → step.operation = handOver object →
    CheckedIn start before (message object)

namespace HandsOverChecked

variable {Object : Type} {handOver : Object → Operation} {message : Object → Message} {start : EngineState}
  {run : List Step} {step : Step}

theorem nil : HandsOverChecked handOver message start [] := by
  intro before step after object split
  exact absurd (congrArg List.length split) (by simp)

theorem concat_iff :
    HandsOverChecked handOver message start (run ++ [step]) ↔ HandsOverChecked handOver message start run ∧
      ∀ object, step.operation = handOver object → CheckedIn start run (message object) := by
  constructor
  · intro checked
    refine ⟨fun before earlier after object split asked => ?_, fun object => checked run step [] object rfl⟩
    exact checked before earlier (after ++ [step]) object (by rw [split, List.append_assoc]; rfl) asked
  · rintro ⟨checked, last⟩ before earlier after object split asked
    rcases concat_eq_split_iff.mp split with ⟨rfl, rfl, -⟩ | ⟨rest, rfl, -⟩
    · exact last object asked
    · exact checked before earlier rest object rfl asked

end HandsOverChecked

theorem continues_of_same {run : List Step} {setting : Setting} (same : ∀ step ∈ run, step.setting = setting) :
    ∀ step ∈ run, setting.Continues step.setting := by
  intro step listed
  rw [same step listed]
  exact .refl _

/-- An authority's own signatures are found to be its own. -/
def Authority.RecoversItself (authority : Authority) : Prop :=
  ∀ digest, authority.recover digest (authority.sign digest) = .ok authority.address

theorem Engine.Signs.genuine {setting : Setting} {state : EngineState} {timeout : Timeout}
    (signs : Engine.Signs setting state timeout) (recovers : setting.authority.RecoversItself) :
    timeout.attestation.Genuine setting := by
  rw [signs.own]
  exact recovers _

section Checked

variable {start : EngineState} {run : List Step} {setting : Setting}

theorem Step.Checks.holds {step : Step} {state : EngineState} {signed : Signed}
    (checks : step.Checks state signed.message) : signed.attestation.Holds step.setting := by
  cases signed with
  | vote vote =>
    cases checks with
    | vote _ claimed asked passed => exact (Engine.verifySigned_done_iff.mp passed).2
  | timeout timeout =>
    cases checks with
    | timeout _ claimed asked passed => exact (Engine.verifySigned_done_iff.mp passed).2

theorem holds_of_checked (signed : Signed) (continues : ∀ step ∈ run, setting.Continues step.setting)
    (checked : CheckedIn start run signed.message) : signed.attestation.Holds setting := by
  obtain ⟨step, listed, state, checks⟩ := checked.mem
  exact checks.holds.of_continues (continues step listed)

theorem vote_holds_of_admitted {vote : Vote} (continues : ∀ step ∈ run, setting.Continues step.setting)
    (checked : HandsOverChecked .collectVote .vote start run) (admitted : AdmittedIn start run (.vote vote)) :
    vote.attestation.Holds setting := by
  obtain ⟨before, step, after, split, admits⟩ := admitted
  have listed : step ∈ run := split ▸ List.mem_append_right before List.mem_cons_self
  have earlier : ∀ step ∈ before, setting.Continues step.setting := by
    intro step listed
    exact continues step (split ▸ List.mem_append_left _ listed)
  unfold Step.Admits at admits
  generalize asked : step.operation = operation at admits
  cases admits with
  | collectVote => exact holds_of_checked (.vote vote) earlier (checked before step after vote split asked)
  | handleVote _ signer passed =>
    exact (Engine.verifySigned_done_iff.mp passed).2.of_continues (continues step listed)

theorem timeout_holds_of_admitted {timeout : Timeout} (continues : ∀ step ∈ run, setting.Continues step.setting)
    (checked : HandsOverChecked .collectTimeout .timeout start run)
    (admitted : AdmittedIn start run (.timeout timeout)) :
    timeout.attestation.Holds setting ∨
      Occurs (fun step state => step.operation = .handleExpiry ∧ Engine.Signs step.setting state timeout)
        start run := by
  obtain ⟨before, step, after, split, admits⟩ := admitted
  have listed : step ∈ run := split ▸ List.mem_append_right before List.mem_cons_self
  have earlier : ∀ step ∈ before, setting.Continues step.setting := by
    intro step listed
    exact continues step (split ▸ List.mem_append_left _ listed)
  unfold Step.Admits at admits
  generalize asked : step.operation = operation at admits
  cases admits with
  | collectTimeout =>
    exact .inl (holds_of_checked (.timeout timeout) earlier (checked before step after timeout split asked))
  | handleTimeout _ signer passed =>
    exact .inl ((Engine.verifySigned_done_iff.mp passed).2.of_continues (continues step listed))
  | handleExpiry _ signs => exact .inr ⟨before, step, after, split, asked, signs⟩

theorem votes_hold {cert : QuorumCert} (started : EngineState.start? cert = some start)
    (checked : HandsOverChecked .collectVote .vote start run)
    (continues : ∀ step ∈ run, setting.Continues step.setting) :
    (start.after run).votes.Files fun vote => vote.attestation.Holds setting :=
  (isPool_votes.admitted started run).mono fun _ admitted => vote_holds_of_admitted continues checked admitted

end Checked

end MasternodeBft
