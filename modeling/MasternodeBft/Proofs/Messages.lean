import MasternodeBft.Proofs.Deeds
import MasternodeBft.Proofs.Outcomes

/-!
The messages that a node sends. It sends them when its countdown expires, and at no other time: whatever else
it is made to do is done in silence.
-/

namespace MasternodeBft

open MasternodeBft.Action

def messagesIn (effects : List Effect) : List Message :=
  effects.filterMap fun
    | .broadcast message => some message
    | _ => none

theorem messagesIn_append (first rest : List Effect) :
    messagesIn (first ++ rest) = messagesIn first ++ messagesIn rest := List.filterMap_append

theorem messagesIn_outward (effects : List Effect) : messagesIn (outward effects) = messagesIn effects := by
  unfold messagesIn outward
  rw [List.filterMap_filter]
  congr 1
  funext effect
  cases effect <;> rfl

theorem messagesIn_of_silent {effects : List Effect} (silent : outward effects = []) : messagesIn effects = [] := by
  rw [← messagesIn_outward, silent]
  rfl

theorem Outcome.Agrees.messages {α : Type} {first second : Outcome α} (agrees : first.Agrees second) :
    messagesIn first.effects = messagesIn second.effects := by
  rw [← messagesIn_outward, agrees.sent, messagesIn_outward]

theorem messagesIn_departure (setting : Setting) (state : EngineState) (round : Round) :
    messagesIn (departure setting state round) = [] := by
  unfold departure
  split <;> rfl

/-- What becomes of messages: somebody takes them, or they are lost. -/
def Setting.delivered (setting : Setting) (messages : List Message) : List Message :=
  if setting.messagesTaken then messages else []

theorem Setting.delivered_append (setting : Setting) (first rest : List Message) :
    setting.delivered (first ++ rest) = setting.delivered first ++ setting.delivered rest := by
  unfold delivered
  split <;> rfl

def Quiet : Transition := fun _ effects _ => messagesIn effects = []

theorem Quiet.composes : Composes Quiet where
  noted _ notices := messagesIn_of_silent (outward_notices notices)
  trans begun ended := by
    unfold Quiet at begun ended ⊢
    rw [messagesIn_append, begun, ended]
    rfl

/-! What is done in silence. -/

namespace Engine

variable {setting : Setting} {state : EngineState}

theorem leaveRound_quiet (round : Round) : (leaveRound setting round).Obeys Quiet state := by
  unfold Obeys Quiet
  rw [← messagesIn_outward, leaveRound_sent]
  exact messagesIn_departure setting state round

theorem process_quiet (cert : AnyCert) : (process setting cert).Obeys Quiet state :=
  obeys_process Quiet.composes cert rfl fun _ => leaveRound_quiet cert.round

end Engine

theorem Deed.Silent.quiet {setting : Setting} {deed : Deed} (silent : deed.Silent) (state : EngineState) :
    (deed.action setting).Obeys Quiet state := by
  cases deed with
  | process cert => exact Engine.process_quiet cert
  | countTimeouts => exact silent.elim
  | emit effect =>
    cases effect with
    | broadcast => exact silent.elim
    | _ => exact rfl
  | _ => exact rfl

theorem Step.quiet_of_other {step : Step} (other : step.operation ≠ .handleExpiry) (state : EngineState) :
    messagesIn (step.outcome state).effects = [] := by
  have made : MadeOf step.setting (step.operation.Allows step.setting state) _ := step.operation.made
  exact made.obeys Quiet.composes (fun deed allowed => (Operation.silent_of_allows allowed other).quiet) state

end MasternodeBft
