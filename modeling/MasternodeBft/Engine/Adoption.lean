import MasternodeBft.Engine.Verification

/-!
Certificates and the round they lead to. The newest certificate of each kind is kept, and a
certificate of the current round or a later one opens the round after its own.
-/

namespace MasternodeBft.Engine

open MasternodeBft.Action

variable (setting : Setting)

def resetCountdown (round : Round) : Action Unit :=
  if setting.commandsTaken then emit (.reset round (setting.configAt round).timeoutPeriodSecs)
  else note (.resetDropped round)

def broadcast (message : Message) : Action Unit :=
  if setting.messagesTaken then emit (.broadcast message) else note .messageDropped

def start : Action Unit := do
  resetCountdown setting (← read).round.currentRound

/-- Enters a round. Timeouts of the former one are of no more use; votes for this one may be there. -/
def enterRound (round : Round) : Action Unit := do
  note (.enteringRound round (← read).round.currentRound)
  setRound round
  update fun state => { state with timeoutCount := 0 }
  resetCountdown setting round
  update fun state => { state with timeouts := .empty }

/-- Opens the round after that of a certificate, unless a later one is open. -/
def leaveRound (round : Round) : Action Unit := do
  if (← read).round.currentRound ≤ round then
    let next ← Check.add round 1
    enterRound setting next

def adopt (cert : AnyCert) : Action Unit := do
  if cert.highest (← read).round < cert.round then
    note (.newHighest cert)
    update fun state => { state with round := state.round.install cert }
  leaveRound setting cert.round

/-- Adopts a certificate that is newer than the highest one of its kind, once it is verified. -/
def process (cert : AnyCert) : Action Unit := do
  let highest := cert.highest (← read).round
  if cert.round ≤ highest then note (.staleCert cert highest)
  else
    verifyCert setting cert
    adopt setting cert

def processQuorum (cert : QuorumCert) : Action Unit := process setting (.quorum cert)

def processTimeoutCert (cert : TimeoutCert) : Action Unit := process setting (.timeout cert)

end MasternodeBft.Engine
