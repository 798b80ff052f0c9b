import MasternodeBft.Engine.Error
import MasternodeBft.Engine.State
import MasternodeBft.Notice

/-! What a node writes to its log. -/

namespace MasternodeBft

open Text.Decimal

namespace Signed

def kind : Signed → String
  | vote _ => "vote"
  | timeout _ => "timeout"

def title : Signed → String
  | vote _ => "Vote"
  | timeout _ => "Timeout"

end Signed

namespace AnyCert

def kind : AnyCert → String
  | quorum _ => "QC"
  | timeout _ => "TC"

def place : AnyCert → String
  | quorum cert => "round " ++ word cert.round ++ ", block " ++ word cert.block.number
  | timeout cert => "round " ++ word cert.round

end AnyCert

namespace Notice

def debug (line : String) : Notice := ⟨.debug, line⟩

def info (line : String) : Notice := ⟨.info, line⟩

def warn (line : String) : Notice := ⟨.warn, line⟩

def error (line : String) : Notice := ⟨.error, line⟩

def initialised (signer : Address) (state : RoundState) : Notice :=
  info ("Initialised BFT engine for " ++ signer.checksummed ++ ": round " ++ word state.currentRound ++
    ", highest QC round " ++ word state.quorumRound)

/-! Channels. -/

def messageDropped : Notice := warn "Consensus channel closed, message dropped"

def resetDropped (round : Round) : Notice :=
  debug ("Countdown timer not running, reset for round " ++ word round ++ " dropped")

/-! Snapshots and certificates. -/

def snapshotFailed (gapNumber : UInt64) (cause : ChainError) : Notice :=
  error ("Failed to get snapshot for gap number " ++ word gapNumber ++ ": " ++ cause.message)

def snapshotEmpty (gapNumber : UInt64) : Notice :=
  error ("Snapshot for gap number " ++ word gapNumber ++ " has no masternodes")

def repeatedSignature (signature : Signature) : Notice :=
  warn ("Duplicated signature in certificate: " ++ signature.text)

def tooFewSignatures (unique : Nat) (required : Float) : Notice :=
  warn ("Certificate has " ++ text unique ++ " unique signatures, threshold is " ++ Binary64.text required)

def signatureFailed? : CertificateError → Option Notice
  | .invalidSignature signature cause =>
    some (warn ("Signature " ++ signature.text ++ " failed verification: " ++ cause.message))
  | .notAMasternode signature signer =>
    some (warn ("Signature " ++ signature.text ++ " from non-masternode " ++ signer.checksummed))
  | _ => none

def ofFinding : Certificate.Finding → List Notice
  | .tooFew unique required => [tooFewSignatures unique required]
  | .examined _ failures => failures.filterMap signatureFailed?

def staleCert (cert : AnyCert) (highest : Round) : Notice :=
  debug ("Skipping stale " ++ cert.kind ++ ": round " ++ word cert.round ++ ", highest " ++ cert.kind ++
    " round " ++ word highest)

def unsignedCert (cert : AnyCert) : Notice :=
  warn (cert.kind ++ " for round " ++ word cert.round ++ " has no signatures")

def quorumBlockMissing (block : BlockInfo) : Notice :=
  debug ("QC block " ++ word block.number ++ " (" ++ Text.Hex.encode block.hash.bytes ++
    ") not found locally")

def quorumBlockDiffers (block : BlockInfo) (header : Header) : Notice :=
  warn ("QC block " ++ Text.Hex.encode block.hash.bytes ++ " mismatch: number " ++ word block.number ++
    " round " ++ word block.round ++ ", local number " ++ word header.number ++ " round " ++
    word header.round)

def certFailed (cert : AnyCert) (cause : CertificateError) : Notice :=
  warn (cert.kind ++ " verification failed: " ++ cert.place ++ ", gap " ++ word cert.gapNumber ++ ": " ++
    cause.message)

def newHighest (cert : AnyCert) : Notice := info ("New highest " ++ cert.kind ++ ": " ++ cert.place)

def enteringRound (round former : Round) : Notice :=
  info ("Entering round " ++ word round ++ " (was " ++ word former ++
    "), resetting countdown and timeout pool")

/-! Votes and timeouts. -/

def disqualified (signed : Signed) (current : Round) : Notice :=
  debug ("Disqualified " ++ signed.kind ++ " for round " ++ word signed.round ++ ", current round " ++
    word current)

def unverifiable (signed : Signed) (cause : SignatureError) : Notice :=
  warn ("Cannot verify " ++ signed.kind ++ " signature: " ++ cause.message)

def foreign (signed : Signed) (signer : Address) : Notice :=
  warn (signed.title ++ " from non-masternode " ++ signer.checksummed)

def staleVote (round current : Round) : Notice :=
  debug ("Stale vote for round " ++ word round ++ ", current round " ++ word current)

def collected (signed : Signed) (count : Nat) : Notice :=
  debug ("Collected " ++ signed.kind ++ " for round " ++ word signed.round ++ ": " ++ text count ++ " in pool")

def thresholdMet (signed : Signed) (count : Nat) : Notice :=
  info (signed.title ++ " pool threshold reached for round " ++ word signed.round ++ ": " ++ text count ++ " " ++
    signed.kind ++ "s")

def ownCertRefused (cert : AnyCert) (cause : ConsensusError) : Notice :=
  error (match cert with
    | .quorum cert =>
      "Failed to process QC formed from vote pool: round " ++ word cert.round ++ ": " ++ cause.message
    | .timeout cert =>
      "Failed to process TC formed from timeout pool: round " ++ word cert.round ++ ", " ++
        text cert.signatures.length ++ " signatures, gap " ++ word cert.gapNumber ++ ": " ++ cause.message)

def formed (cert : AnyCert) : Notice :=
  info ("Formed " ++ cert.kind ++ " for round " ++ word cert.round ++ " with " ++ text cert.signatures.length ++
    " signatures")

/-! Expiries of the countdown. -/

def notAMasternode (signer : Address) (kind : String) : Notice :=
  debug (signer.checksummed ++ " is not a masternode, not sending " ++ kind)

def masternodesUnknown (kind : String) (cause : ChainError) : Notice :=
  error ("Cannot resolve masternodes before sending " ++ kind ++ ": " ++ cause.message)

def switchBlockParent (index : UInt64) : Notice :=
  debug ("Parent is the v2 switch block, epoch " ++ word index ++ " starts")

def epochSwitchRound (round : Round) (number gapNumber : UInt64) : Notice :=
  debug ("Epoch switch round " ++ word round ++ ": number " ++ word number ++ ", gap number " ++
    word gapNumber)

def roundInEpoch (round : Round) (start gapNumber : UInt64) : Notice :=
  debug ("Round " ++ word round ++ " in epoch starting at " ++ word start ++ ": gap number " ++
    word gapNumber)

def timeoutGenerated (round : Round) (gapNumber : UInt64) : Notice :=
  warn ("Timeout generated for round " ++ word round ++ ", gap number " ++ word gapNumber ++ ", sending")

def timeoutUnsent (round : Round) (cause : ConsensusError) : Notice :=
  error ("Failed to send timeout for round " ++ word round ++ ": " ++ cause.message)

def sendingBundle (bundle : SyncInfo) : Notice :=
  info ("Timeout sync threshold reached, sending SyncInfo: QC round " ++ word bundle.quorumCert.round ++
    ", TC round " ++ word bundle.timeoutRound)

/-! Bundles of certificates. -/

def bundleCovered (bundle : SyncInfo) : Notice :=
  debug ("Local rounds cover SyncInfo: QC round " ++ word bundle.quorumCert.round ++ ", TC round " ++
    word bundle.timeoutRound)

def bundleSkipped (state : RoundState) (bundle : SyncInfo) : Notice :=
  debug ("Skipping SyncInfo: local QC round " ++ word state.quorumRound ++ ", TC round " ++
    word state.timeoutRound ++ ", incoming QC round " ++ word bundle.quorumCert.round ++ ", TC round " ++
    word bundle.timeoutRound)

def bundlePending (cause : ConsensusError) : Notice :=
  info ("Buffering SyncInfo until the chain catches up: " ++ cause.message)

def bundleBuffered (count : Nat) : Notice := debug ("Buffered SyncInfo: " ++ text count ++ " in bucket")

def replaying (key : SyncKey) : Notice := debug ("Replaying SyncInfo pool key " ++ key.text)

def replayFailed (key : SyncKey) (cause : ConsensusError) (current : Round) (head : UInt64) : Notice :=
  error ("Failed to replay SyncInfo " ++ key.text ++ ": " ++ cause.message ++ " (round " ++ word current ++
    ", head " ++ word head ++ ")")

/-! Sweeps. -/

def cleaned (key : String) (current bound : Round) : Notice :=
  debug ("Cleaned pool key " ++ key ++ " (current round " ++ word current ++ ", lower bound " ++
    word bound ++ ")")

def swept (votes timeouts bundles : Nat) : Notice :=
  debug ("Pool hygiene removed " ++ text votes ++ " vote, " ++ text timeouts ++ " timeout, " ++
    text bundles ++ " sync info buckets")

end Notice

end MasternodeBft
