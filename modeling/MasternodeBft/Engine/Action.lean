import MasternodeBft.Engine.Notice
import MasternodeBft.Epoch

/-!
The steps of a node: checks, which only look at things, and actions, which change its state. A step
that is refused or stopped keeps what it has done before.
-/

namespace MasternodeBft

/-- What a node does of its own accord, and how it finds the signers of others. -/
structure Authority where
  address : Address
  sign : Digest → Signature
  recover : Certificate.Recovery

namespace Authority

def ofKey (key : PrivateKey) : Authority := ⟨key.address, Signature.sign key, Signature.recover⟩

end Authority

structure VisitOrder (α : Type) where
  arrange : List α → List α
  perm (items : List α) : (arrange items).Perm items

namespace VisitOrder

def arrival (α : Type) : VisitOrder α := ⟨id, List.Perm.refl⟩

end VisitOrder

/-- What a step finds around it. Pools are visited in no order to rely on. -/
structure Setting where
  config : ConsensusConfig
  authority : Authority
  chain : ChainView
  /-- Whether somebody takes the messages that are sent. -/
  messagesTaken : Bool
  /-- Whether somebody takes the commands for the countdown. -/
  commandsTaken : Bool
  voteOrder : VisitOrder Vote
  timeoutOrder : VisitOrder Timeout
  keyOrder : VisitOrder SyncKey
  bundleOrder : VisitOrder SyncInfo

/-- How a step ends: with a value, refused, or where a number would leave its 64 bits. -/
inductive Ending (α : Type) where
  | done (value : α)
  | refused (error : ConsensusError)
  | overflowed

inductive Effect where
  | notice (notice : Notice)
  /-- The current round is given a value in place of a former one. This is recorded, and nobody is told. -/
  | entered (former round : Round)
  /-- The countdown is to start again, for a round and with a period in seconds. -/
  | reset (round : Round) (period : UInt64)
  | broadcast (message : Message)

/-- A look at things that changes nothing. -/
structure Check (α : Type) where
  ending : Ending α
  notices : List Notice

namespace Check

instance : Monad Check where
  pure value := ⟨.done value, []⟩
  bind first next :=
    match first.ending with
    | .done value =>
      let rest := next value
      ⟨rest.ending, first.notices ++ rest.notices⟩
    | .refused error => ⟨.refused error, first.notices⟩
    | .overflowed => ⟨.overflowed, first.notices⟩

instance : LawfulMonad Check := LawfulMonad.mk' Check
  (fun check => by
    rcases check with ⟨ending, notices⟩
    cases ending <;> simp [Functor.map, Function.comp])
  (fun value next => by simp [Bind.bind, Pure.pure])
  (fun check next last => by
    rcases check with ⟨ending, notices⟩
    cases ending with
    | done value =>
      rcases result : next value with ⟨ending, noticed⟩
      cases ending <;> simp [Bind.bind, result, List.append_assoc]
    | _ => rfl)

def note (notice : Notice) : Check Unit := ⟨.done (), [notice]⟩

def noteAll (notices : List Notice) : Check Unit := ⟨.done (), notices⟩

def refuse {α : Type} (error : ConsensusError) : Check α := ⟨.refused error, []⟩

/-- The sum of two words, if it is one. -/
def add (left right : UInt64) : Check UInt64 :=
  if left.toNat + right.toNat < UInt64.size then pure (left + right) else ⟨.overflowed, []⟩

end Check

structure Outcome (α : Type) where
  ending : Ending α
  state : EngineState
  effects : List Effect

def Action (α : Type) : Type := EngineState → Outcome α

namespace Action

instance : Monad Action where
  pure value := fun state => ⟨.done value, state, []⟩
  bind first next := fun state =>
    let outcome := first state
    match outcome.ending with
    | .done value =>
      let rest := next value outcome.state
      ⟨rest.ending, rest.state, outcome.effects ++ rest.effects⟩
    | .refused error => ⟨.refused error, outcome.state, outcome.effects⟩
    | .overflowed => ⟨.overflowed, outcome.state, outcome.effects⟩

instance : LawfulMonad Action := LawfulMonad.mk' Action
  (fun action => by
    funext state
    rcases result : action state with ⟨ending, after, effects⟩
    cases ending <;> simp [Functor.map, Function.comp, result])
  (fun value next => by funext state; simp [Bind.bind, Pure.pure])
  (fun action next last => by
    funext state
    rcases result : action state with ⟨ending, after, effects⟩
    cases ending with
    | done value =>
      rcases followed : next value after with ⟨ending, later, others⟩
      cases ending <;> simp [Bind.bind, result, followed, List.append_assoc]
    | _ => simp [Bind.bind, result])

def ofCheck {α : Type} (check : Check α) : Action α :=
  fun state => ⟨check.ending, state, check.notices.map .notice⟩

instance : MonadLift Check Action := ⟨ofCheck⟩

def read : Action EngineState := fun state => ⟨.done state, state, []⟩

def update (change : EngineState → EngineState) : Action Unit := fun state => ⟨.done (), change state, []⟩

def setRound (round : Round) : Action Unit := fun state =>
  ⟨.done (), { state with round := { state.round with currentRound := round } },
    [.entered state.round.currentRound round]⟩

def emit (effect : Effect) : Action Unit := fun state => ⟨.done (), state, [effect]⟩

def note (notice : Notice) : Action Unit := emit (.notice notice)

/-- Goes on where the step is refused, with the reason. -/
def attempt {α : Type} (action : Action α) : Action (Except ConsensusError α) := fun state =>
  let outcome := action state
  match outcome.ending with
  | .done value => ⟨.done (.ok value), outcome.state, outcome.effects⟩
  | .refused error => ⟨.done (.error error), outcome.state, outcome.effects⟩
  | .overflowed => ⟨.overflowed, outcome.state, outcome.effects⟩

def notingRefusal {α : Type} (notice : EngineState → ConsensusError → Notice) (action : Action α) :
    Action α := do
  match ← attempt action with
  | .ok value => pure value
  | .error error =>
    note (notice (← read) error)
    Check.refuse error

end Action

namespace Setting

def configAt (setting : Setting) (round : Round) : RoundConfig := setting.config.upgrade.config round

end Setting

end MasternodeBft
