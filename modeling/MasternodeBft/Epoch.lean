import MasternodeBft.Config.Basic

/-! Where epochs begin, and which numbers select the masternodes of a block or round. -/

namespace MasternodeBft

/-- The start of the epoch of a block number, less the gap, but not below zero. The masternodes that
sign for the block are those selected at this number. -/
def gapNumber (number epoch gap : UInt64) : UInt64 :=
  if epoch = 0 then 0
  else
    let start := number - number % epoch
    if gap ≤ start then start - gap else 0

namespace ConsensusConfig

def gapOf (config : ConsensusConfig) (number : UInt64) : UInt64 := gapNumber number config.epoch config.gap

/-- Whether a block at a round opens an epoch, given its parent: it is the first one after the switch
block, or its parent's round lies before the round at which the epoch of its own round starts. -/
def opensEpoch (config : ConsensusConfig) (round : Round) (parent : Header) : Bool :=
  if config.epoch = 0 then false
  else parent.number = config.upgrade.switchBlock ∨ parent.round < round - round % config.epoch

end ConsensusConfig

end MasternodeBft
