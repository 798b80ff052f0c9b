import MasternodeBft.Engine.Action

/-! Sweeps of the pools, which take away what is long past. -/

namespace MasternodeBft.Engine

open MasternodeBft.Action

/-- How many rounds behind the current one a bucket may lie. -/
def hygieneWindow : UInt64 := 10

def noteStale {Object Key Signer : Type} [PoolKey Key] (current : Round)
    (pool : Pool Object Key Signer) : Action Nat := do
  let stale := pool.stale current hygieneWindow
  Check.noteAll (stale.map fun key => .cleaned (PoolKey.text key) current (current - hygieneWindow))
  pure stale.length

/-- Sweeps one of the pools, and tells how many buckets are gone. -/
def sweepPool {Object Key Signer : Type} [PoolKey Key] (pool : EngineState → Pool Object Key Signer)
    (replace : EngineState → Pool Object Key Signer → EngineState) : Action Nat := do
  let state ← read
  let current := state.round.currentRound
  update fun state => replace state ((pool state).sweep current hygieneWindow)
  noteStale current (pool state)

def sweepVotes : Action Nat := sweepPool EngineState.votes fun state votes => { state with votes }

def sweepTimeouts : Action Nat := sweepPool EngineState.timeouts fun state timeouts => { state with timeouts }

def sweepBundles : Action Nat := sweepPool EngineState.bundles fun state bundles => { state with bundles }

def sweepAll : Action Unit := do
  let votes ← sweepVotes
  let timeouts ← sweepTimeouts
  let bundles ← sweepBundles
  if 0 < votes + timeouts + bundles then note (.swept votes timeouts bundles)

end MasternodeBft.Engine
