import MasternodeBft.Engine.Adoption

/-!
The collection of votes and timeouts. Once the bucket of an object reaches the threshold of its round,
the signatures in it are made a certificate.
-/

namespace MasternodeBft.Engine

open MasternodeBft.Action

/-- Adds an object to one of the pools, and tells what its bucket has come to. -/
def addTo {Object Key Signer : Type} [DecidableEq Key] [DecidableEq Signer] [Poolable Object Key Signer]
    (pool : EngineState → Pool Object Key Signer) (replace : EngineState → Pool Object Key Signer → EngineState)
    (object : Object) : Action (Nat × Bucket Object Signer) := do
  let collected := (pool (← read)).collect object
  update fun state => replace state collected.2
  pure collected.1

variable (setting : Setting)

def assembleQuorum (vote : Vote) (bucket : Bucket Vote Address) : QuorumCert :=
  ⟨vote.block, vote.gapNumber, (setting.voteOrder.arrange bucket.values).map Vote.signature⟩

def assembleTimeoutCert (timeout : Timeout) (bucket : Bucket Timeout Address) : TimeoutCert :=
  ⟨timeout.round, timeout.gapNumber, (setting.timeoutOrder.arrange bucket.values).map Timeout.signature⟩

def form (cert : AnyCert) : Action Unit := do
  notingRefusal (fun _ => .ownCertRefused cert) (process setting cert)
  note (.formed cert)

/-- Makes a bucket a certificate if it reaches the threshold, with a vote or a timeout that it holds. -/
def certify (signed : Signed) (count : Nat) (cert : AnyCert) : Action Unit := do
  let snapshot ← snapshot setting signed.gapNumber
  if thresholdReached count snapshot.masternodes.length (setting.configAt signed.round).certThreshold then
    note (.thresholdMet signed count)
    form setting cert

def collectVote (vote : Vote) : Action Unit := do
  let current := (← read).round.currentRound
  if vote.round < current then note (.staleVote vote.round current)
  else
    let next ← Check.add current 1
    if next < vote.round then Check.refuse (.roundTooFar vote.round current)
    else
      let (count, bucket) ← addTo EngineState.votes (fun state votes => { state with votes }) vote
      note (.collected (.vote vote) count)
      if (← read).round.quorumRound < vote.round then
        certify setting (.vote vote) count (.quorum (assembleQuorum setting vote bucket))

def collectTimeout (timeout : Timeout) : Action Unit := do
  let current := (← read).round.currentRound
  if timeout.round ≠ current then Check.refuse (.roundMismatch timeout.round current)
  else
    let (count, bucket) ← addTo EngineState.timeouts (fun state timeouts => { state with timeouts }) timeout
    note (.collected (.timeout timeout) count)
    certify setting (.timeout timeout) count (.timeout (assembleTimeoutCert setting timeout bucket))

def collect : Signed → Action Unit
  | .vote vote => collectVote setting vote
  | .timeout timeout => collectTimeout setting timeout

end MasternodeBft.Engine
