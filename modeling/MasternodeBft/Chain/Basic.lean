import MasternodeBft.Message.Basic

/-! What the protocol reads of a chain: its head, blocks by their hashes, and who the masternodes are. -/

namespace MasternodeBft

inductive ChainError where
  | headerNotFound (number : UInt64)
  | snapshotNotFound (gapNumber : UInt64)
deriving DecidableEq

namespace ChainError

def message : ChainError → String
  | headerNotFound number => "Header not found: number " ++ Text.Decimal.word number
  | snapshotNotFound gapNumber => "Snapshot not found for gap number " ++ Text.Decimal.word gapNumber

end ChainError

/-- The masternodes selected at a gap number. -/
structure Snapshot where
  number : UInt64
  masternodes : List Address
deriving DecidableEq

structure EpochSwitch where
  block : BlockInfo
  masternodes : List Address
deriving DecidableEq

structure ChainView where
  head : Header
  header? : Digest → Option Header
  snapshot : UInt64 → Except ChainError Snapshot
  /-- The start of the epoch of a header. -/
  epochSwitch : Header → Except ChainError EpochSwitch

end MasternodeBft
