import MasternodeBft.Message.Wire
import MasternodeBft.Pool.Basic

/-!
The keys under which timeouts, votes and bundles of certificates are pooled, and their texts. Objects
of one key are about the same thing, so their signatures are over the same digest.
-/

namespace MasternodeBft

namespace PoolKey

def joined (fields : List String) : String := ":".intercalate fields

/-- The text with the names of type and fields in it. -/
def spelledOut (type : String) (fields : List (String × String)) : String :=
  type ++ " \x7b " ++ ", ".intercalate (fields.map fun field => field.1 ++ ": " ++ field.2) ++ " \x7d"

end PoolKey

open PoolKey Text.Decimal

structure TimeoutKey where
  round : Round
  gapNumber : UInt64
deriving DecidableEq

namespace TimeoutKey

def text (key : TimeoutKey) : String := joined [word key.round, word key.gapNumber]

def debug (key : TimeoutKey) : String :=
  spelledOut "TimeoutPoolKey" [("round", word key.round), ("gap_number", word key.gapNumber)]

end TimeoutKey

structure VoteKey where
  round : Round
  gapNumber : UInt64
  blockNumber : UInt64
  blockHash : Digest
deriving DecidableEq

namespace VoteKey

def text (key : VoteKey) : String :=
  joined [word key.round, word key.gapNumber, word key.blockNumber, Text.Hex.encode key.blockHash.bytes]

def debug (key : VoteKey) : String :=
  spelledOut "VotePoolKey" [("round", word key.round), ("gap_number", word key.gapNumber),
    ("block_number", word key.blockNumber), ("block_hash", Text.Hex.encode key.blockHash.bytes)]

end VoteKey

structure SyncKey where
  quorumRound : Round
  quorumGapNumber : UInt64
  blockNumber : UInt64
  /-- Zero if there is no timeout certificate. -/
  timeoutRound : Round
  timeoutGapNumber : UInt64
  blockHash : Digest
deriving DecidableEq

namespace SyncKey

def text (key : SyncKey) : String :=
  joined [word key.quorumRound, word key.quorumGapNumber, word key.blockNumber, word key.timeoutRound,
    word key.timeoutGapNumber, Text.Hex.encode key.blockHash.bytes]

def debug (key : SyncKey) : String :=
  spelledOut "SyncInfoPoolKey" [("qc_round", word key.quorumRound),
    ("qc_gap_number", word key.quorumGapNumber), ("qc_block_number", word key.blockNumber),
    ("tc_round", word key.timeoutRound), ("tc_gap_number", word key.timeoutGapNumber),
    ("qc_block_hash", Text.Hex.encode key.blockHash.bytes)]

end SyncKey

instance : PoolKey TimeoutKey where
  isOlderThan key bound := key.round < bound
  text := TimeoutKey.text

instance : PoolKey VoteKey where
  isOlderThan key bound := key.round < bound
  text := VoteKey.text

/-- A bundle is as old as the newer one of its certificates. -/
instance : PoolKey SyncKey where
  isOlderThan key bound := key.quorumRound < bound ∧ (key.timeoutRound = 0 ∨ key.timeoutRound < bound)
  text := SyncKey.text

namespace Timeout

def key (timeout : Timeout) : TimeoutKey := ⟨timeout.round, timeout.gapNumber⟩

instance : Poolable Timeout TimeoutKey Address := ⟨key, signer⟩

end Timeout

namespace Vote

def key (vote : Vote) : VoteKey := ⟨vote.block.round, vote.gapNumber, vote.block.number, vote.block.hash⟩

instance : Poolable Vote VoteKey Address := ⟨key, signer⟩

end Vote

namespace SyncInfo

def key (bundle : SyncInfo) : SyncKey :=
  let quorumCert := bundle.quorumCert
  let timeoutGapNumber := (bundle.timeoutCert.map TimeoutCert.gapNumber).getD 0
  ⟨quorumCert.block.round, quorumCert.gapNumber, quorumCert.block.number, bundle.timeoutRound,
    timeoutGapNumber, quorumCert.block.hash⟩

/-- Nobody signs a bundle; equal ones are the same entry. -/
instance : Poolable SyncInfo SyncKey Digest := ⟨key, digest⟩

end SyncInfo

abbrev TimeoutPool := Pool Timeout TimeoutKey Address

abbrev VotePool := Pool Vote VoteKey Address

abbrev SyncPool := Pool SyncInfo SyncKey Digest

end MasternodeBft
