import MasternodeBft.Entries
import MasternodeBft.Message.Basic

/-!
Pools, in which signed objects wait until there are enough of them. A pool keeps a bucket for each
key, and in it the last object of each signer.
-/

namespace MasternodeBft

class PoolKey (Key : Type) where
  /-- Whether all rounds of a key lie below a bound. -/
  isOlderThan : Key → Round → Bool
  text : Key → String

class Poolable (Object : Type) (Key Signer : outParam Type) where
  key : Object → Key
  signer : Object → Signer

abbrev Bucket (Object Signer : Type) := Entries Signer Object

structure Pool (Object Key Signer : Type) where
  buckets : Entries Key (Bucket Object Signer)

namespace Pool

variable {Object Key Signer : Type}

def empty : Pool Object Key Signer := ⟨[]⟩

def keys (pool : Pool Object Key Signer) : List Key := pool.buckets.keys

/-- The least round that a sweep leaves, if the rounds have come so far. -/
def sweepBound? (current : Round) (window : UInt64) : Option Round :=
  if window ≤ current then some (current - window) else none

section Sweep

variable [PoolKey Key]

/-- The keys that a sweep takes away: those all of whose rounds are more than `window` rounds behind. -/
def stale (pool : Pool Object Key Signer) (current : Round) (window : UInt64) : List Key :=
  match sweepBound? current window with
  | none => []
  | some bound => pool.keys.filter fun key => PoolKey.isOlderThan key bound

def sweep (pool : Pool Object Key Signer) (current : Round) (window : UInt64) :
    Pool Object Key Signer :=
  match sweepBound? current window with
  | none => pool
  | some bound => ⟨pool.buckets.filter fun entry => ¬PoolKey.isOlderThan entry.1 bound⟩

end Sweep

variable [DecidableEq Key]

def bucket? (pool : Pool Object Key Signer) (key : Key) : Option (Bucket Object Signer) :=
  pool.buckets.get? key

def bucket (pool : Pool Object Key Signer) (key : Key) : Bucket Object Signer :=
  (pool.bucket? key).getD []

def erase (pool : Pool Object Key Signer) (key : Key) : Pool Object Key Signer :=
  ⟨pool.buckets.erase key⟩

/-- Puts an object into the bucket of its key, in place of an earlier one of its signer. -/
def add [DecidableEq Signer] [Poolable Object Key Signer] (pool : Pool Object Key Signer)
    (object : Object) : Pool Object Key Signer :=
  let key := Poolable.key object
  ⟨pool.buckets.put key ((pool.bucket key).put (Poolable.signer object) object)⟩

/-- An addition with what it tells: how many objects there are now in the bucket of the object, and which. -/
def collect [DecidableEq Signer] [Poolable Object Key Signer] (pool : Pool Object Key Signer)
    (object : Object) : (Nat × Bucket Object Signer) × Pool Object Key Signer :=
  let added := pool.add object
  let bucket := added.bucket (Poolable.key object)
  ((bucket.length, bucket), added)

end Pool

end MasternodeBft
