import MasternodeBft.Engine.Action
import MasternodeBft.Message.Wire

/-!
Checks of certificates and messages against the chain. A certificate must be signed by masternodes
that were selected at its own gap number, and a certified block must be known.
-/

namespace MasternodeBft.Engine

open Check

variable (setting : Setting)

def snapshot (gapNumber : UInt64) : Check Snapshot := do
  match setting.chain.snapshot gapNumber with
  | .error cause =>
    note (.snapshotFailed gapNumber cause)
    refuse (.chain cause)
  | .ok snapshot =>
    if snapshot.masternodes.isEmpty then
      note (.snapshotEmpty gapNumber)
      refuse (.emptyMasternodes gapNumber)
    else pure snapshot

def verifySignatures (digest : Digest) (signatures : List Signature) (snapshot : Snapshot)
    (round : Round) : Check (Except CertificateError Unit) := do
  noteAll ((Certificate.repeated signatures).map .repeatedSignature)
  let finding := Certificate.examine setting.authority.recover digest signatures snapshot.masternodes
    (setting.configAt round).certThreshold
  noteAll (Notice.ofFinding finding)
  pure finding.verdict

/-- A certified block must be known, with the same number and round. -/
def verifyBlock (block : BlockInfo) : Check Unit := do
  match setting.chain.header? block.hash with
  | none =>
    note (.quorumBlockMissing block)
    refuse (.blockNotSynced block.number block.hash)
  | some header =>
    if header.number ≠ block.number ∨ header.round ≠ block.round then
      note (.quorumBlockDiffers block header)
      refuse .invalidQuorum

/-- A certificate of round zero is the one that nodes start from, and needs no signatures. -/
def verifyQuorum (cert : QuorumCert) : Check Unit := do
  if cert.round = 0 then pure ()
  else if cert.signatures.isEmpty then
    note (.unsignedCert (.quorum cert))
    refuse .invalidQuorum
  else
    verifyBlock setting cert.block
    let snapshot ← snapshot setting cert.gapNumber
    match ← verifySignatures setting cert.payload.digest cert.signatures snapshot cert.round with
    | .ok () => pure ()
    | .error cause =>
      note (.certFailed (.quorum cert) cause)
      refuse (.invalidQuorumSignatures cause)

def verifyTimeoutCert (cert : TimeoutCert) : Check Unit := do
  if cert.signatures.isEmpty then
    note (.unsignedCert (.timeout cert))
    refuse .invalidTimeoutCert
  else
    let snapshot ← snapshot setting cert.gapNumber
    match ← verifySignatures setting cert.payload.digest cert.signatures snapshot cert.round with
    | .ok () => pure ()
    | .error cause =>
      note (.certFailed (.timeout cert) cause)
      refuse (.invalidTimeoutSignatures cause)

def verifyCert : AnyCert → Check Unit
  | .quorum cert => verifyQuorum setting cert
  | .timeout cert => verifyTimeoutCert setting cert

/-- The signer of a vote or a timeout, if it is a masternode selected at the gap number. -/
def verifySigner (signed : Signed) : Check (Option Address) := do
  let snapshot ← snapshot setting signed.gapNumber
  match setting.authority.recover signed.payloadDigest signed.signature with
  | .error cause =>
    note (.unverifiable signed cause)
    refuse (.crypto cause)
  | .ok signer =>
    if signer ∈ snapshot.masternodes then pure (some signer)
    else
      note (.foreign signed signer)
      pure none

/-- The signer of a vote or a timeout that is worth collecting in the current round. -/
def verifySigned (current : Round) (signed : Signed) : Check (Option Address) := do
  if signed.round < current then
    note (.disqualified signed current)
    pure none
  else verifySigner setting signed

def verifyVote (current : Round) (vote : Vote) : Check (Option Address) :=
  verifySigned setting current (.vote vote)

def verifyTimeout (current : Round) (timeout : Timeout) : Check (Option Address) :=
  verifySigned setting current (.timeout timeout)

/-- Whether a bundle holds something newer than the node's own certificates; then both of its own must
be in order. -/
def verifySyncInfo (state : RoundState) (bundle : SyncInfo) : Check Bool := do
  if state.dominates bundle then
    note (.bundleCovered bundle)
    pure false
  else
    verifyQuorum setting bundle.quorumCert
    match bundle.timeoutCert with
    | none => pure ()
    | some cert => verifyTimeoutCert setting cert
    pure true

end MasternodeBft.Engine
