import MasternodeBft.Config.Basic
import MasternodeBft.FileFault
import MasternodeBft.Json.Float

/-! Configurations as JSON texts and files. -/

namespace MasternodeBft

namespace RoundConfig

def toJson (config : RoundConfig) : Json :=
  .record [("switch_round", .word config.switchRound), ("cert_threshold", .float config.certThreshold),
    ("timeout_period_secs", .word config.timeoutPeriodSecs),
    ("timeout_sync_threshold", .word config.timeoutSyncThreshold)]

def ofJson? (value : Json) : Option RoundConfig := do
  let names := ["switch_round", "cert_threshold", "timeout_period_secs", "timeout_sync_threshold"]
  match ← value.toRecord? names with
  | [some switchRound, some certThreshold, some timeoutPeriodSecs, some timeoutSyncThreshold] =>
    pure ⟨← switchRound.toWord?, ← certThreshold.toFloat?, ← timeoutPeriodSecs.toWord?,
      ← timeoutSyncThreshold.toWord?⟩
  | _ => none

end RoundConfig

namespace UpgradeConfig

/-- A key is a whole number in quotes, without escapes. -/
def key? (key : Json.Quoted) : Option UInt64 :=
  (Json.Number.ofBytes? key.raw).bind fun number => (number.toNat? UInt64.size).map UInt64.ofNat

/-- Of equal keys the last one counts. -/
def configs? : Json → Option (SortedMap RoundConfig)
  | .object fields => do
    let entries ← fields.mapM fun field => do pure (← key? field.1, ← RoundConfig.ofJson? field.2)
    pure (.ofList entries)
  | _ => none

def toJson (upgrade : UpgradeConfig) : Json :=
  .record [("switch_epoch", .word upgrade.switchEpoch), ("switch_block", .word upgrade.switchBlock),
    ("configs", .record (upgrade.configs.entries.map fun entry =>
      (Text.Decimal.text entry.1.toNat, entry.2.toJson)))]

def ofJson? (value : Json) : Option UpgradeConfig := do
  match ← value.toRecord? ["switch_epoch", "switch_block", "configs"] with
  | [some switchEpoch, some switchBlock, some configs] =>
    pure ⟨← switchEpoch.toWord?, ← switchBlock.toWord?, ← configs? configs⟩
  | _ => none

end UpgradeConfig

namespace ConsensusConfig

def toJson (config : ConsensusConfig) : Json :=
  .record [("epoch", .word config.epoch), ("gap", .word config.gap), ("v2", config.upgrade.toJson)]

def ofJson? (value : Json) : Option ConsensusConfig := do
  match ← value.toRecord? ["epoch", "gap", "v2"] with
  | [some epoch, some gap, some upgrade] =>
    pure ⟨← epoch.toWord?, ← gap.toWord?, ← UpgradeConfig.ofJson? upgrade⟩
  | _ => none

inductive LoadError where
  | unreadable (fault : FileFault)
  | notText
  | syntactic
  | invalid (fault : Fault)

namespace LoadError

def message? : LoadError → Option String
  | unreadable fault =>
    some ("Failed to read config: " ++ fault.message ++ " (os error " ++ Text.Decimal.text fault.code ++ ")")
  | notText => some "Failed to read config: stream did not contain valid UTF-8"
  | syntactic => none
  | invalid fault => some ("Invalid config: " ++ fault.message)

end LoadError

def parse (text : Bytes) : Except LoadError ConsensusConfig :=
  match (Json.parse? text).bind ofJson? with
  | none => .error .syntactic
  | some config =>
    match config.fault? with
    | some fault => .error (.invalid fault)
    | none => .ok config

def load : Except FileFault Bytes → Except LoadError ConsensusConfig
  | .error fault => .error (.unreadable fault)
  | .ok bytes => if (Text.Utf8.decode? bytes).isSome then parse bytes else .error .notText

def agree (first second : ConsensusConfig) : Bool := first.toJson.render = second.toJson.render

end ConsensusConfig

end MasternodeBft
