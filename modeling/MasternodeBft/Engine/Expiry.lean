import MasternodeBft.Engine.Sync

/-!
What a node does when its countdown expires: it sends a timeout of its own for the round, and from
time to time its certificates too.
-/

namespace MasternodeBft.Engine

open MasternodeBft.Action

variable (setting : Setting)

/-- Whether a block at a round on top of a parent opens an epoch. Its index is reckoned first, and is
noted after the switch block. -/
def isEpochSwitch (round : Round) (parent : Header) : Check Bool := do
  let config := setting.config
  if config.epoch = 0 then pure false
  else
    let index ← Check.add config.upgrade.switchEpoch (round / config.epoch)
    if parent.number = config.upgrade.switchBlock then Check.note (.switchBlockParent index)
    pure (config.opensEpoch round parent)

/-- The gap number of a timeout of a round: that of the block that is expected where the round opens
an epoch, and that of the start of the head's epoch otherwise. -/
def timeoutGapNumber (round : Round) : Check UInt64 := do
  let head := setting.chain.head
  if ← isEpochSwitch setting round head then
    let number ← Check.add head.number 1
    let gapNumber := setting.config.gapOf number
    Check.note (.epochSwitchRound round number gapNumber)
    pure gapNumber
  else
    match setting.chain.epochSwitch head with
    | .error cause => Check.refuse (.chain cause)
    | .ok switch =>
      let gapNumber := setting.config.gapOf switch.block.number
      Check.note (.roundInEpoch round switch.block.number gapNumber)
      pure gapNumber

def mayTimeOut : Check Bool := do
  match setting.chain.epochSwitch setting.chain.head with
  | .error cause =>
    Check.note (.masternodesUnknown "timeout" cause)
    pure false
  | .ok switch =>
    if setting.authority.address ∈ switch.masternodes then pure true
    else
      Check.note (.notAMasternode setting.authority.address "timeout")
      pure false

def ownTimeout (round : Round) (gapNumber : UInt64) : Timeout :=
  let payload : TimeoutPayload := ⟨round, gapNumber⟩
  ⟨round, gapNumber, setting.authority.sign payload.digest, setting.authority.address⟩

/-- Signs a timeout of the current round, collects it, and sends it if that is accepted. -/
def sendTimeout : Action Unit := do
  let round := (← read).round.currentRound
  let gapNumber ← timeoutGapNumber setting round
  let timeout := ownTimeout setting round gapNumber
  note (.timeoutGenerated round gapNumber)
  collectTimeout setting timeout
  broadcast setting (.timeout timeout)

def countTimeout : Action Unit := do
  let count ← Check.add (← read).timeoutCount 1
  update fun state => { state with timeoutCount := count }

/-- Sends the node's certificates each time so many timeouts have been sent in the round. -/
def sendSyncInfo : Action Unit := do
  let state ← read
  let interval := (setting.configAt state.round.currentRound).timeoutSyncThreshold
  if 0 < interval ∧ state.timeoutCount % interval = 0 then
    let bundle := state.round.syncInfo
    note (.sendingBundle bundle)
    broadcast setting (.syncInfo bundle)

def handleExpiry : Action Unit := do
  if ← mayTimeOut setting then
    replay setting
    notingRefusal (fun state => .timeoutUnsent state.round.currentRound) (sendTimeout setting)
    countTimeout
    sendSyncInfo setting

end MasternodeBft.Engine
