import MasternodeBft.Certificate
import MasternodeBft.Chain.Basic

/-! Why the protocol refuses a message or a certificate. -/

namespace MasternodeBft

inductive ConsensusError where
  /-- A timeout of another round than the current one. -/
  | roundMismatch (incoming current : Round)
  /-- A vote beyond the next round. -/
  | roundTooFar (incoming current : Round)
  | invalidQuorum
  | blockNotSynced (number : UInt64) (hash : Digest)
  | invalidQuorumSignatures (cause : CertificateError)
  | invalidTimeoutCert
  | invalidTimeoutSignatures (cause : CertificateError)
  | emptyMasternodes (gapNumber : UInt64)
  | chain (cause : ChainError)
  | crypto (cause : SignatureError)

namespace ConsensusError

open Text.Decimal

def message : ConsensusError → String
  | roundMismatch incoming current =>
    "Incoming timeout round " ++ word incoming ++ " does not equal current round " ++ word current
  | roundTooFar incoming current =>
    "Incoming vote round " ++ word incoming ++ " is too far from current round " ++ word current
  | invalidQuorum => "Invalid QC"
  | blockNotSynced number hash =>
    "Block " ++ word number ++ " (" ++ Text.Hex.encode hash.bytes ++ ") is not in the local chain yet"
  | invalidQuorumSignatures cause => "Invalid QC signatures: " ++ cause.message
  | invalidTimeoutCert => "Invalid TC"
  | invalidTimeoutSignatures cause => "Invalid TC signatures: " ++ cause.message
  | emptyMasternodes gapNumber => "Empty masternode list for gap number " ++ word gapNumber
  | chain cause => "Chain lookup failed: " ++ cause.message
  | crypto cause => "Crypto error: " ++ cause.message

/-- Whether the matter may look different once the chain has grown. -/
def isChainPending : ConsensusError → Bool
  | blockNotSynced .. => true
  | chain _ => true
  | _ => false

end ConsensusError

end MasternodeBft
