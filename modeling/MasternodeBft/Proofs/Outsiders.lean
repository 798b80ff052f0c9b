import MasternodeBft.Proofs.CountdownResets
import MasternodeBft.Proofs.Reception
import MasternodeBft.Proofs.WireIdentity

/-!
Whoever is no masternode has no influence. A vote or a timeout that no selected masternode has signed, and a
bundle that fails its check for good, might as well not have been received; and nothing depends on whom a
vote or a timeout names as its signer when it comes.
-/

namespace MasternodeBft

/-- A message with nothing behind it: a vote or a timeout that is not signed by any masternode selected at its
gap number, or a bundle that is refused and will not look different once the chain has grown. -/
inductive Message.Baseless (setting : Setting) (round : RoundState) : Message → Prop
  | vote (vote : Vote) (unattested : ∀ signer, ¬Attestation.Holds (Vote.attestation { vote with signer }) setting) :
      Baseless setting round (.vote vote)
  | timeout (timeout : Timeout)
      (unattested : ∀ signer, ¬Attestation.Holds (Timeout.attestation { timeout with signer }) setting) :
      Baseless setting round (.timeout timeout)
  | syncInfo (bundle : SyncInfo) (error : ConsensusError)
      (refused : (Engine.verifySyncInfo setting round bundle).ending = .refused error)
      (final : error.isChainPending = false) : Baseless setting round (.syncInfo bundle)

namespace Engine

variable {setting : Setting} {state : EngineState}

theorem handleMessage_of_baseless {message : Message} (baseless : message.Baseless setting state.round) :
    (handleMessage setting message state).Idle state := by
  cases baseless with
  | vote vote unattested =>
    exact .of_agrees ⟨rfl, rfl⟩ <| handleSigned_of_unverified fun signer passed =>
      unattested signer (verifySigned_done_iff.mp passed).2
  | timeout timeout unattested =>
    exact .of_agrees ⟨rfl, rfl⟩ <| handleSigned_of_unverified fun signer passed =>
      unattested signer (verifySigned_done_iff.mp passed).2
  | syncInfo bundle error refused final => exact .of_agrees ⟨rfl, rfl⟩ (receiveSyncInfo_of_invalid refused final)

theorem handleMessage_annotated (message : Message) (signer : Address) :
    handleMessage setting (message.annotated signer) = handleMessage setting message := by
  cases message <;> rfl

end Engine

/-- The step with another annotation on the message that is handled in it, if it is one with an annotation. -/
def Step.annotated (signer : Address) (step : Step) : Step :=
  match step.operation with
  | .handleMessage message => { step with operation := .handleMessage (message.annotated signer) }
  | _ => step

theorem Step.outcome_annotated (step : Step) (signer : Address) (state : EngineState) :
    (step.annotated signer).outcome state = step.outcome state := by
  obtain ⟨operation, setting⟩ := step
  cases operation with
  | handleMessage message => exact congrFun (Engine.handleMessage_annotated message signer) state
  | _ => rfl

structure Call where
  state : EngineState
  step : Step

namespace Call

def outcome (call : Call) : Outcome Unit := call.step.outcome call.state

def Baseless (call : Call) : Prop :=
  ∃ message, call.step.operation = .handleMessage message ∧ message.Baseless call.step.setting call.state.round

theorem outcome_idle {call : Call} (baseless : call.Baseless) : call.outcome.Idle call.state := by
  obtain ⟨state, operation, setting⟩ := call
  obtain ⟨message, asked, baseless⟩ := baseless
  cases asked
  exact Engine.handleMessage_of_baseless baseless

end Call

namespace EngineState

def calls (state : EngineState) : List Step → List Call
  | [] => []
  | step :: rest => ⟨state, step⟩ :: calls (step.next state) rest

theorem calls_cons (state : EngineState) (step : Step) (rest : List Step) :
    state.calls (step :: rest) = ⟨state, step⟩ :: (step.next state).calls rest := rfl

theorem effects_cons (state : EngineState) (step : Step) (rest : List Step) :
    state.effects (step :: rest) = (step.outcome state).effects ++ (step.next state).effects rest := rfl

open Classical in
/-- The calls of a run but for those that receive a message with nothing behind it. -/
noncomputable def soundCalls (state : EngineState) (run : List Step) : List Call :=
  (state.calls run).filter fun call => ¬call.Baseless

/-- What is left of a run without the messages with nothing behind them, where the others come with annotations
of somebody's choice. -/
noncomputable def soundRun (state : EngineState) (run : List Step) (notes : ℕ → Address) : List Step :=
  (state.soundCalls run).mapIdx fun place call => call.step.annotated (notes place)

variable {state : EngineState} {step : Step} {rest : List Step}

theorem soundCalls_of_baseless (baseless : Call.Baseless ⟨state, step⟩) :
    state.soundCalls (step :: rest) = state.soundCalls rest := by
  have kept : step.next state = state := (Call.outcome_idle baseless).kept
  unfold soundCalls
  rw [calls_cons, List.filter_cons_of_neg (by simpa using baseless), kept]

theorem soundCalls_of_sound (sound : ¬Call.Baseless ⟨state, step⟩) :
    state.soundCalls (step :: rest) = ⟨state, step⟩ :: (step.next state).soundCalls rest := by
  unfold soundCalls
  rw [calls_cons, List.filter_cons_of_pos (by simpa using sound)]

theorem soundRun_of_baseless (baseless : Call.Baseless ⟨state, step⟩) (notes : ℕ → Address) :
    state.soundRun (step :: rest) notes = state.soundRun rest notes := by
  unfold soundRun
  rw [soundCalls_of_baseless baseless]

theorem soundRun_of_sound (sound : ¬Call.Baseless ⟨state, step⟩) (notes : ℕ → Address) :
    state.soundRun (step :: rest) notes =
      step.annotated (notes 0) :: (step.next state).soundRun rest fun place => notes (place + 1) := by
  unfold soundRun
  rw [soundCalls_of_sound sound, List.mapIdx_cons]

end EngineState

/-- A run without the messages that have nothing behind them, with any annotations on the others, goes as the
run with them: each remaining call has the same outcome, both end in the same state, and the same leaves the
node on the way. -/
theorem outsiders_have_no_influence (state : EngineState) (run : List Step) (notes : ℕ → Address) :
    (state.calls (state.soundRun run notes)).map Call.outcome = (state.soundCalls run).map Call.outcome ∧
      state.after (state.soundRun run notes) = state.after run ∧
      outward (state.effects (state.soundRun run notes)) = outward (state.effects run) := by
  induction run generalizing state notes with
  | nil => exact ⟨rfl, rfl, rfl⟩
  | cons step rest ih =>
    by_cases baseless : Call.Baseless ⟨state, step⟩
    · obtain ⟨outcomes, after, sent⟩ := ih state notes
      obtain ⟨kept, silent⟩ := Call.outcome_idle baseless
      change step.next state = state at kept
      change outward (step.outcome state).effects = [] at silent
      rw [EngineState.soundRun_of_baseless baseless, EngineState.soundCalls_of_baseless baseless]
      refine ⟨outcomes, ?_, ?_⟩
      · rw [after, EngineState.after_cons, kept]
      · rw [sent, EngineState.effects_cons, outward_append, silent, kept, List.nil_append]
    · obtain ⟨outcomes, after, sent⟩ := ih (step.next state) fun place => notes (place + 1)
      have same : (step.annotated (notes 0)).outcome state = step.outcome state := step.outcome_annotated _ _
      have next : (step.annotated (notes 0)).next state = step.next state := congrArg Outcome.state same
      rw [EngineState.soundRun_of_sound baseless, EngineState.soundCalls_of_sound baseless]
      refine ⟨?_, ?_, ?_⟩
      · rw [EngineState.calls_cons, next, List.map_cons, List.map_cons, outcomes]
        exact congrArg (· :: _) same
      · rw [EngineState.after_cons, EngineState.after_cons, next, after]
      · rw [EngineState.effects_cons, EngineState.effects_cons, outward_append, outward_append, same, next, sent]

end MasternodeBft
