import MasternodeBft.Engine.Collection

/-!
Bundles of certificates from other nodes. A bundle is kept until it is swept away, so that it can be
taken up again once the chain has grown.
-/

namespace MasternodeBft.Engine

open MasternodeBft.Action

variable (setting : Setting)

def takeUp (bundle : SyncInfo) : Action Unit := do
  let state := (← read).round
  if state.dominates bundle then note (.bundleSkipped state bundle)
  else
    process setting (.quorum bundle.quorumCert)
    match bundle.timeoutCert with
    | none => pure ()
    | some cert => process setting (.timeout cert)

def keepBundle (bundle : SyncInfo) : Action (Nat × Bucket SyncInfo Digest) :=
  addTo EngineState.bundles (fun state bundles => { state with bundles }) bundle

def handleSyncInfo (bundle : SyncInfo) : Action Unit := do
  let _ ← keepBundle bundle
  takeUp setting bundle

def bufferSyncInfo (bundle : SyncInfo) : Action Unit := do
  let (count, _) ← keepBundle bundle
  note (.bundleBuffered count)

/-- Takes bundles up until one is accepted. -/
def replayBucket (key : SyncKey) : List SyncInfo → Action Unit
  | [] => pure ()
  | bundle :: rest => do
    match ← attempt (takeUp setting bundle) with
    | .ok () => pure ()
    | .error cause =>
      note (.replayFailed key cause (← read).round.currentRound setting.chain.head.number)
      replayBucket key rest

def replayKeys : List SyncKey → Action Unit
  | [] => pure ()
  | key :: rest => do
    note (.replaying key)
    let bucket := (← read).bundles.bucket key
    replayBucket setting key (setting.bundleOrder.arrange bucket.values)
    replayKeys rest

def replay : Action Unit := do
  replayKeys setting (setting.keyOrder.arrange (← read).bundles.keys)

end MasternodeBft.Engine
