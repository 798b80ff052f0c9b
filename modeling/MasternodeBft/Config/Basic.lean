import MasternodeBft.Binary64.Shortest
import MasternodeBft.Message.Basic
import MasternodeBft.SortedMap

/-! The parameters of the protocol, some of which change at given rounds. -/

namespace MasternodeBft

structure RoundConfig where
  switchRound : Round
  /-- Fraction of the masternodes that a certificate needs. -/
  certThreshold : Float
  timeoutPeriodSecs : UInt64
  /-- How many own timeouts it takes to send a bundle of certificates too. -/
  timeoutSyncThreshold : UInt64

namespace RoundConfig

def standard : RoundConfig := ⟨0, 0.667, 30, 3⟩

end RoundConfig

/-- Where the protocol took effect, and its parameters by the round from which they hold. -/
structure UpgradeConfig where
  switchEpoch : UInt64
  switchBlock : UInt64
  configs : SortedMap RoundConfig

namespace UpgradeConfig

def standard : UpgradeConfig := ⟨0, 0, .ofList [(0, .standard)]⟩

/-- The parameters in force at a round: those with the greatest key up to the round; before the
first key, the first ones; and the standard ones if there are none. -/
def config (upgrade : UpgradeConfig) (round : Round) : RoundConfig :=
  (upgrade.configs.upTo? round <|> upgrade.configs.first?).getD .standard

end UpgradeConfig

structure ConsensusConfig where
  /-- Blocks in an epoch. -/
  epoch : UInt64
  /-- How far before an epoch its masternodes are selected. -/
  gap : UInt64
  upgrade : UpgradeConfig

namespace ConsensusConfig

def standard : ConsensusConfig := ⟨900, 450, .standard⟩

inductive Fault where
  | zeroEpoch
  | noConfigs
  | wrongKey (key declared : Round)
  | thresholdOutside (threshold : Float) (key : Round)
  | zeroSyncThreshold (key : Round)

namespace Fault

def message : Fault → String
  | zeroEpoch => "epoch must be positive"
  | noConfigs => "v2.configs must not be empty"
  | wrongKey key declared =>
    "config keyed at round " ++ Text.Decimal.text key.toNat ++ " declares switch_round " ++
      Text.Decimal.text declared.toNat
  | thresholdOutside threshold key =>
    "cert_threshold " ++ Binary64.text threshold ++ " at round " ++ Text.Decimal.text key.toNat ++
      " is outside (0, 1]"
  | zeroSyncThreshold key =>
    "timeout_sync_threshold at round " ++ Text.Decimal.text key.toNat ++ " must be positive"

end Fault

def entryFault? (key : Round) (config : RoundConfig) : Option Fault :=
  if key ≠ config.switchRound then some (.wrongKey key config.switchRound)
  else if ¬(config.certThreshold > 0 ∧ config.certThreshold ≤ 1) then
    some (.thresholdOutside config.certThreshold key)
  else if config.timeoutSyncThreshold = 0 then some (.zeroSyncThreshold key)
  else none

def fault? (config : ConsensusConfig) : Option Fault :=
  if config.epoch = 0 then some .zeroEpoch
  else if config.upgrade.configs.entries.isEmpty then some .noConfigs
  else config.upgrade.configs.entries.findSome? fun entry => entryFault? entry.1 entry.2

end ConsensusConfig

end MasternodeBft
