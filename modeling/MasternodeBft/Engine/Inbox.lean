import MasternodeBft.Engine.Expiry
import MasternodeBft.Engine.Hygiene

/-!
Messages from other nodes. Each is verified before it is handled; a bundle that cannot be verified
before the chain grows is kept for later.
-/

namespace MasternodeBft.Engine

open MasternodeBft.Action

variable (setting : Setting)

def handleSigned (signed : Signed) : Action Unit := do
  match ← verifySigned setting (← read).round.currentRound signed with
  | some signer => collect setting (signed.signedBy signer)
  | none => pure ()

def handleVote (vote : Vote) : Action Unit := handleSigned setting (.vote vote)

def handleTimeout (timeout : Timeout) : Action Unit := handleSigned setting (.timeout timeout)

def receiveSyncInfo (bundle : SyncInfo) : Action Unit := do
  let state := (← read).round
  match ← attempt (ofCheck (verifySyncInfo setting state bundle)) with
  | .ok true => handleSyncInfo setting bundle
  | .ok false => pure ()
  | .error cause =>
    if cause.isChainPending then
      note (.bundlePending cause)
      bufferSyncInfo bundle
    else Check.refuse cause

def handleMessage : Message → Action Unit
  | .vote vote => handleVote setting vote
  | .timeout timeout => handleTimeout setting timeout
  | .syncInfo bundle => receiveSyncInfo setting bundle

end MasternodeBft.Engine
