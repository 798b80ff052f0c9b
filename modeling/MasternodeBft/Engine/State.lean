import MasternodeBft.Pool.Key

/-! How far a node has come, and what it has collected. -/

namespace MasternodeBft

structure RoundState where
  currentRound : Round
  highestQuorumCert : QuorumCert
  highestTimeoutCert : Option TimeoutCert
deriving DecidableEq

namespace RoundState

/-- A fresh node stands in the round after that of its certificate, if there is one. -/
def start? (cert : QuorumCert) : Option RoundState :=
  if cert.round.toNat + 1 < UInt64.size then some ⟨cert.round + 1, cert, none⟩ else none

def quorumRound (state : RoundState) : Round := state.highestQuorumCert.round

def timeoutRound (state : RoundState) : Round := (state.highestTimeoutCert.map TimeoutCert.round).getD 0

/-- What the node tells others about itself. -/
def syncInfo (state : RoundState) : SyncInfo := ⟨state.highestQuorumCert, state.highestTimeoutCert⟩

/-- Whether a bundle holds nothing newer than the node's own certificates. -/
def dominates (state : RoundState) (bundle : SyncInfo) : Bool :=
  bundle.quorumCert.round ≤ state.quorumRound &&
    bundle.timeoutCert.all fun cert => cert.round ≤ state.timeoutRound

end RoundState

namespace AnyCert

def highest (state : RoundState) : AnyCert → Round
  | quorum _ => state.quorumRound
  | timeout _ => state.timeoutRound

end AnyCert

def RoundState.install (state : RoundState) : AnyCert → RoundState
  | .quorum cert => { state with highestQuorumCert := cert }
  | .timeout cert => { state with highestTimeoutCert := some cert }

structure EngineState where
  round : RoundState
  votes : VotePool
  timeouts : TimeoutPool
  bundles : SyncPool
  /-- The node's own timeouts since it entered the current round. -/
  timeoutCount : UInt64

namespace EngineState

def start? (cert : QuorumCert) : Option EngineState :=
  (RoundState.start? cert).map fun round => ⟨round, .empty, .empty, .empty, 0⟩

end EngineState

end MasternodeBft
