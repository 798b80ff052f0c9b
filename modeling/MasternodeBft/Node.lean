import MasternodeBft.Chain.Memory
import MasternodeBft.Countdown
import MasternodeBft.Engine.Inbox

/-!
A node with a chain in memory. Its countdown, if there is one, takes the commands of its own steps,
and has it send timeouts as time passes.
-/

namespace MasternodeBft

structure Node where
  config : ConsensusConfig
  authority : Authority
  /-- Whether somebody takes the messages that are sent. -/
  messagesTaken : Bool
  /-- Whether somebody takes the commands for the countdown. -/
  commandsTaken : Bool
  chain : MemoryChain
  state : EngineState
  countdown : Option Countdown
  /-- The time in milliseconds. -/
  now : Nat

namespace Node

structure Expired where
  instant : Nat
  round : Round
  result : Except ConsensusError Unit

/-- Whether the node has a countdown that runs, or would run after a reset. -/
def countsDown (node : Node) : Bool := node.countdown.any fun countdown => !countdown.stopped

/-- Pools are visited in the order in which their entries came. Nobody takes the commands for a
countdown that has stopped. -/
def setting (node : Node) : Setting where
  config := node.config
  authority := node.authority
  chain := node.chain.view
  messagesTaken := node.messagesTaken
  commandsTaken := node.commandsTaken && (node.countdown.isNone || node.countsDown)
  voteOrder := .arrival Vote
  timeoutOrder := .arrival Timeout
  keyOrder := .arrival SyncKey
  bundleOrder := .arrival SyncInfo

def commands (effects : List Effect) : List Countdown.Command :=
  effects.filterMap fun
    | .reset round period => some (.reset round (period.toNat * 1000))
    | _ => none

def perform {α : Type} (node : Node) (action : Setting → Action α) : Ending α × Node × List Effect :=
  let outcome := action node.setting node.state
  let countdown := node.countdown.map fun countdown => (commands outcome.effects).foldl .send countdown
  (outcome.ending, { node with state := outcome.state, countdown }, outcome.effects)

def inspect {α : Type} (node : Node) (check : Setting → Check α) : Ending α × List Effect :=
  let check := check node.setting
  (check.ending, check.notices.map .notice)

structure Passage where
  state : EngineState
  effects : List Effect
  expired : List Expired

/-- The node's step at an expiry. Of a step that ends where a number would leave its 64 bits there is
no record. -/
def react (setting : Setting) : Countdown.Reaction Passage := fun alarm passage =>
  let outcome := Engine.handleExpiry setting passage.state
  let record (result : Except ConsensusError Unit) : Expired := ⟨alarm.deadline, alarm.round, result⟩
  let expired := match outcome.ending with
    | .done () => [record (.ok ())]
    | .refused error => [record (.error error)]
    | .overflowed => []
  (⟨outcome.state, passage.effects ++ outcome.effects, passage.expired ++ expired⟩,
    commands outcome.effects)

def sleep (node : Node) (duration : Nat) : Node × List Effect × List Expired :=
  let bound := node.now + duration
  match node.countdown with
  | none => ({ node with now := bound }, [], [])
  | some countdown =>
    let passage := countdown.run (react node.setting) node.now bound ⟨node.state, [], []⟩
    ({ node with state := passage.state.state, countdown := some passage.countdown, now := bound },
      passage.state.effects ++ passage.notices.map .notice, passage.state.expired)

/-- How many full periods end within a stretch of time, that is, before its end. -/
def ticks (period duration : Nat) : Nat := (duration - 1) / period

/-- Lets full periods pass, with a sweep at the end of each. -/
def sweepTimes (period : Nat) : Nat → Node → Node × List Effect × List Expired
  | 0, node => (node, [], [])
  | count + 1, node =>
    let (node, passed, expired) := node.sleep period
    let (_, node, swept) := node.perform fun _ => Engine.sweepAll
    let (node, rest, later) := sweepTimes period count node
    (node, passed ++ swept ++ rest, expired ++ later)

/-- Lets time pass, with a sweep each time a period is over. -/
def sleepSweeping (node : Node) (period duration : Nat) : Node × List Effect × List Expired :=
  let count := ticks period duration
  let (node, effects, expired) := sweepTimes period count node
  let (node, rest, later) := node.sleep (duration - count * period)
  (node, effects ++ rest, expired ++ later)

/-- Whether sweeps find a node gone that only its countdown still holds, if anything does: they do at
the first of `count` coming periods at whose end the countdown has stopped. -/
def findsGone (period : Nat) : Nat → Node → Bool
  | 0, _ => false
  | count + 1, node =>
    let (node, _, _) := node.sleep period
    if node.countsDown then
      let (_, node, _) := node.perform fun _ => Engine.sweepAll
      findsGone period count node
    else true

/-- Whether regular sweeps have ended after some time, and after as much time again in which nobody but
its countdown holds the node. Without a period they cannot go on at all. -/
def sweepsEnded (node : Node) (period duration : Nat) : Bool × Bool :=
  if period = 0 then (true, true)
  else
    let count := ticks period duration
    let (node, _, _) := sweepTimes period count node
    (false, findsGone period (ticks period (2 * duration) - count) node)

def create? (config : ConsensusConfig) (authority : Authority) (chain : MemoryChain)
    (cert : QuorumCert) : Option (Node × List Effect) :=
  (EngineState.start? cert).map fun state =>
    (⟨config, authority, true, true, chain, state, none, 0⟩,
      [.notice (.initialised authority.address state.round)])

end Node

end MasternodeBft
