import Mathlib.Data.List.Induction
import MasternodeBft.Proofs.Conduct

/-!
Runs of an engine: operations in any order and with any arguments, each in a setting of its own. What
changes keep, operations keep, and so do runs.
-/

namespace MasternodeBft

/-- What can be asked of an engine. The parts of larger operations are operations too, so that those of
others may come between them, and a run may stop there. -/
inductive Operation where
  | start
  | look
  | handleMessage (message : Message)
  | verifyVote (vote : Vote)
  | collectVote (vote : Vote)
  | verifyTimeout (timeout : Timeout)
  | collectTimeout (timeout : Timeout)
  | verifySyncInfo (bundle : SyncInfo)
  | handleSyncInfo (bundle : SyncInfo)
  | bufferSyncInfo (bundle : SyncInfo)
  | takeUp (bundle : SyncInfo)
  | processQuorum (cert : QuorumCert)
  | processTimeoutCert (cert : TimeoutCert)
  | replay
  | handleExpiry
  | timeoutGapNumber (round : Round)
  | isEpochSwitch (round : Round) (parent : Header)
  | sweepVotes
  | sweepTimeouts
  | sweepBundles
  | sweepAll

namespace Operation

open MasternodeBft.Action

def action (setting : Setting) : Operation → Action Unit
  | start => Engine.start setting
  | look => do let _ ← read
  | handleMessage message => Engine.handleMessage setting message
  | verifyVote vote => do let _ ← Engine.verifyVote setting (← read).round.currentRound vote
  | collectVote vote => Engine.collectVote setting vote
  | verifyTimeout timeout => do let _ ← Engine.verifyTimeout setting (← read).round.currentRound timeout
  | collectTimeout timeout => Engine.collectTimeout setting timeout
  | verifySyncInfo bundle => do let _ ← Engine.verifySyncInfo setting (← read).round bundle
  | handleSyncInfo bundle => Engine.handleSyncInfo setting bundle
  | bufferSyncInfo bundle => Engine.bufferSyncInfo bundle
  | takeUp bundle => Engine.takeUp setting bundle
  | processQuorum cert => Engine.processQuorum setting cert
  | processTimeoutCert cert => Engine.processTimeoutCert setting cert
  | replay => Engine.replay setting
  | handleExpiry => Engine.handleExpiry setting
  | timeoutGapNumber round => do let _ ← Engine.timeoutGapNumber setting round
  | isEpochSwitch round parent => do let _ ← Engine.isEpochSwitch setting round parent
  | sweepVotes => do let _ ← Engine.sweepVotes
  | sweepTimeouts => do let _ ← Engine.sweepTimeouts
  | sweepBundles => do let _ ← Engine.sweepBundles
  | sweepAll => Engine.sweepAll

/-- The messages that an operation may put into pools: those that are handed over for it, votes and timeouts
with the signers that are found in their checks, and the timeouts that the node signs. -/
inductive Admits (setting : Setting) (state : EngineState) : Operation → Message → Prop
  | collectVote (vote : Vote) : Admits setting state (.collectVote vote) (.vote vote)
  | collectTimeout (timeout : Timeout) : Admits setting state (.collectTimeout timeout) (.timeout timeout)
  | handleSyncInfo (bundle : SyncInfo) : Admits setting state (.handleSyncInfo bundle) (.syncInfo bundle)
  | bufferSyncInfo (bundle : SyncInfo) : Admits setting state (.bufferSyncInfo bundle) (.syncInfo bundle)
  | handleVote (vote : Vote) (signer : Address)
      (passed : (Engine.verifyVote setting state.round.currentRound vote).ending = .done (some signer)) :
      Admits setting state (.handleMessage (.vote vote)) (.vote { vote with signer })
  | handleTimeout (timeout : Timeout) (signer : Address)
      (passed : (Engine.verifyTimeout setting state.round.currentRound timeout).ending = .done (some signer)) :
      Admits setting state (.handleMessage (.timeout timeout)) (.timeout { timeout with signer })
  | receiveSyncInfo (bundle : SyncInfo) :
      Admits setting state (.handleMessage (.syncInfo bundle)) (.syncInfo bundle)
  | handleExpiry (timeout : Timeout) (signs : Engine.Signs setting state timeout) :
      Admits setting state .handleExpiry (.timeout timeout)

variable {setting : Setting} {state : EngineState}

theorem handleMessage_follows (message : Message) : (Engine.handleMessage setting message).Follows
    (Change setting (Admits setting state (.handleMessage message))) state := by
  cases message with
  | vote vote => exact Engine.handleSigned_follows (.vote vote) (Admits.handleVote vote)
  | timeout timeout => exact Engine.handleSigned_follows (.timeout timeout) (Admits.handleTimeout timeout)
  | syncInfo bundle => exact Engine.receiveSyncInfo_follows bundle (.receiveSyncInfo bundle)

theorem follows (operation : Operation) (running : operation ≠ start) :
    (operation.action setting).Follows (Change setting (operation.Admits setting state)) state := by
  cases operation with
  | start => exact absurd rfl running
  | look => exact follows_read_bind (follows_pure ())
  | handleMessage message => exact handleMessage_follows message
  | verifyVote vote => exact follows_read_bind (follows_check_bind fun _ _ => follows_pure ())
  | collectVote vote => exact Engine.collectVote_follows vote (.collectVote vote)
  | verifyTimeout timeout => exact follows_read_bind (follows_check_bind fun _ _ => follows_pure ())
  | collectTimeout timeout => exact Engine.collectTimeout_follows timeout (.collectTimeout timeout)
  | verifySyncInfo bundle => exact follows_read_bind (follows_check_bind fun _ _ => follows_pure ())
  | handleSyncInfo bundle => exact Engine.handleSyncInfo_follows bundle (.handleSyncInfo bundle)
  | bufferSyncInfo bundle => exact Engine.bufferSyncInfo_follows bundle (.bufferSyncInfo bundle)
  | takeUp bundle => exact Engine.takeUp_follows bundle
  | processQuorum cert => exact Engine.process_follows (.quorum cert)
  | processTimeoutCert cert => exact Engine.process_follows (.timeout cert)
  | replay => exact Engine.replay_follows
  | handleExpiry => exact Engine.handleExpiry_follows .handleExpiry
  | timeoutGapNumber round => exact follows_check_bind fun _ _ => follows_pure ()
  | isEpochSwitch round parent => exact follows_check_bind fun _ _ => follows_pure ()
  | sweepVotes => exact follows_bind Engine.sweepVotes_follows fun _ _ => follows_pure ()
  | sweepTimeouts => exact follows_bind Engine.sweepTimeouts_follows fun _ _ => follows_pure ()
  | sweepBundles => exact follows_bind Engine.sweepBundles_follows fun _ _ => follows_pure ()
  | sweepAll => exact Engine.sweepAll_follows

theorem start_state : (start.action setting state).state = state := by
  change (Engine.resetCountdown setting state.round.currentRound state).state = state
  unfold Engine.resetCountdown
  cases setting.commandsTaken <;> rfl

end Operation

namespace AnyCert

def operation : AnyCert → Operation
  | quorum cert => .processQuorum cert
  | timeout cert => .processTimeoutCert cert

theorem action_operation (cert : AnyCert) (setting : Setting) :
    cert.operation.action setting = Engine.process setting cert := by
  cases cert <;> rfl

end AnyCert

structure Step where
  operation : Operation
  setting : Setting

namespace Step

def outcome (step : Step) (state : EngineState) : Outcome Unit := step.operation.action step.setting state

def next (step : Step) (state : EngineState) : EngineState := (step.outcome state).state

/-- The messages that a step may put into pools. -/
def Admits (step : Step) (state : EngineState) : Message → Prop :=
  step.operation.Admits step.setting state

/-- Each step takes its state along a course of changes. -/
theorem course (step : Step) (state : EngineState) :
    ∃ sent, Course (Change step.setting (step.Admits state)) state sent (step.next state) := by
  by_cases starts : step.operation = .start
  · refine ⟨[], ?_⟩
    unfold next outcome
    rw [starts, Operation.start_state]
    exact .stay state
  · exact ⟨_, step.operation.follows starts⟩

theorem next_process {setting : Setting} {state : EngineState} (cert : AnyCert) (passes : cert.Passes setting)
    (next : cert.round.HasNext) (newer : cert.highest state.round < cert.round) :
    Step.next ⟨cert.operation, setting⟩ state = state.adopt cert := by
  unfold Step.next outcome
  rw [cert.action_operation, (Engine.process_done passes next).2, if_pos newer]

end Step

namespace EngineState

def after (state : EngineState) (run : List Step) : EngineState :=
  run.foldl (fun state step => step.next state) state

theorem after_cons (state : EngineState) (step : Step) (rest : List Step) :
    state.after (step :: rest) = (step.next state).after rest := rfl

theorem after_concat (state : EngineState) (run : List Step) (step : Step) :
    state.after (run ++ [step]) = step.next (state.after run) := by
  unfold after
  rw [List.foldl_append]
  rfl

theorem after_keeps (invariant : EngineState → Prop) {state : EngineState} (holds : invariant state)
    (each : ∀ (step : Step) (state : EngineState), invariant state → invariant (step.next state))
    (run : List Step) : invariant (state.after run) := by
  induction run generalizing state with
  | nil => exact holds
  | cons step rest ih => exact ih (each step state holds)

end EngineState

section Installation

variable {α : Type}

/-- A part of the round state has a value after a step of a run that it did not have before that step. -/
def InstalledBy (part : RoundState → α) (start : EngineState) (run : List Step) (step : Step) (value : α) :
    Prop :=
  ∃ before after, run = before ++ step :: after ∧ part (start.after before).round ≠ value ∧
    part (step.next (start.after before)).round = value

theorem InstalledBy.mem {part : RoundState → α} {start : EngineState} {run : List Step} {step : Step} {value : α}
    (installed : InstalledBy part start run step value) : step ∈ run := by
  obtain ⟨before, after, split, -⟩ := installed
  rw [split]
  exact List.mem_append_right before List.mem_cons_self

theorem initial_or_installed (part : RoundState → α) (start : EngineState) (run : List Step) :
    part (start.after run).round = part start.round ∨
      ∃ step, InstalledBy part start run step (part (start.after run).round) := by
  induction run using List.reverseRecOn with
  | nil => exact .inl rfl
  | append_singleton run step ih =>
    rw [EngineState.after_concat]
    by_cases kept : part (step.next (start.after run)).round = part (start.after run).round
    · rw [kept]
      refine ih.imp_right fun ⟨installer, before, after, split, absent, present⟩ => ?_
      exact ⟨installer, before, after ++ [step], by rw [split, List.append_assoc]; rfl, absent, present⟩
    · exact .inr ⟨step, run, [], rfl, Ne.symm kept, rfl⟩

end Installation

/-! A node that adopts a quorum certificate of the first round and a timeout certificate of the second. -/

namespace Sample

def genesis : QuorumCert := QuorumCert.genesis (block 0)

def start : EngineState := ⟨⟨1, genesis, none⟩, .empty, .empty, .empty, 0⟩

theorem started : EngineState.start? genesis = some start := rfl

def run : List Step :=
  [⟨.processQuorum (quorumCert 1 [1, 2, 3]), setting⟩, ⟨.processTimeoutCert (timeoutCert 2 [1, 2, 3]), setting⟩]

theorem hasNext (round : UInt8) : Round.HasNext round.toUInt64 := by
  have bound := round.toNat_lt
  unfold Round.HasNext UInt64.size
  rw [UInt8.toNat_toUInt64]
  omega

theorem processQuorum_next {state : EngineState} {round : UInt8} {signers : List UInt8}
    (newer : state.round.quorumRound < round.toUInt64) (distinct : signers.Nodup) (members : signers ⊆ names)
    (enough : 3 ≤ signers.length) :
    Step.next ⟨.processQuorum (quorumCert round signers), setting⟩ state =
      state.adopt (.quorum (quorumCert round signers)) := by
  have positive : 0 < round.toUInt64 := UInt64.lt_of_le_of_lt UInt64.zero_le newer
  have certified := quorumCert_certified positive distinct members enough
  exact Step.next_process (.quorum (quorumCert round signers)) (Engine.verifyQuorum_done_iff.mpr (.inr certified))
    (hasNext round) newer

theorem processTimeoutCert_next {state : EngineState} {round : UInt8} {signers : List UInt8}
    (newer : state.round.timeoutRound < round.toUInt64) (distinct : signers.Nodup) (members : signers ⊆ names)
    (enough : 3 ≤ signers.length) :
    Step.next ⟨.processTimeoutCert (timeoutCert round signers), setting⟩ state =
      state.adopt (.timeout (timeoutCert round signers)) := by
  have positive : 0 < round.toUInt64 := UInt64.lt_of_le_of_lt UInt64.zero_le newer
  have certified := timeoutCert_certified positive distinct members enough
  exact Step.next_process (.timeout (timeoutCert round signers))
    (Engine.verifyTimeoutCert_done_iff.mpr certified.endorsed) (hasNext round) newer

theorem after_run : start.after run =
    (start.adopt (.quorum (quorumCert 1 [1, 2, 3]))).adopt (.timeout (timeoutCert 2 [1, 2, 3])) := by
  have first : Step.next ⟨.processQuorum (quorumCert 1 [1, 2, 3]), setting⟩ start = _ :=
    processQuorum_next (by decide) (by decide) (by decide) (by decide)
  have second : Step.next ⟨.processTimeoutCert (timeoutCert 2 [1, 2, 3]), setting⟩
      (start.adopt (.quorum (quorumCert 1 [1, 2, 3]))) = _ :=
    processTimeoutCert_next (by decide) (by decide) (by decide) (by decide)
  unfold run EngineState.after
  rw [List.foldl_cons, List.foldl_cons, List.foldl_nil, first, second]

theorem after_run_round :
    (start.after run).round = ⟨3, quorumCert 1 [1, 2, 3], some (timeoutCert 2 [1, 2, 3])⟩ := by
  rw [after_run]
  rfl

end Sample

end MasternodeBft
