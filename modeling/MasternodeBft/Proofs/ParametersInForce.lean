import MasternodeBft.Config.Text
import MasternodeBft.Engine.Action

/-!
The parameters in force at a round. Of an accepted configuration they are those of the greatest switch round
that has been reached. Where none has been reached yet, the earliest parameters hold all the same; so parameters
hold before their switch round only if all others are still to come, too.
-/

namespace MasternodeBft

namespace UpgradeConfig

def alternatives (upgrade : UpgradeConfig) : List RoundConfig := upgrade.configs.entries.map Prod.snd

/-- The parameters for a round: the latest that have begun by then or, where none have, the earliest. -/
inductive Selects (upgrade : UpgradeConfig) (round : Round) (parameters : RoundConfig) : Prop
  | latest (listed : parameters ∈ upgrade.alternatives) (begun : parameters.switchRound ≤ round)
      (greatest : ∀ other ∈ upgrade.alternatives, other.switchRound ≤ round →
        other.switchRound ≤ parameters.switchRound)
  | earliest (listed : parameters ∈ upgrade.alternatives)
      (ahead : ∀ other ∈ upgrade.alternatives, round < other.switchRound)
      (least : ∀ other ∈ upgrade.alternatives, parameters.switchRound ≤ other.switchRound)

def Keyed (upgrade : UpgradeConfig) : Prop := ∀ entry ∈ upgrade.configs.entries, entry.2.switchRound = entry.1

variable {upgrade : UpgradeConfig} {round later : Round} {parameters other : RoundConfig}

theorem mem_alternatives_of_entry {key : Round} (present : (key, parameters) ∈ upgrade.configs.entries) :
    parameters ∈ upgrade.alternatives := List.mem_map_of_mem present

theorem Keyed.entry (keyed : upgrade.Keyed) (listed : parameters ∈ upgrade.alternatives) :
    (parameters.switchRound, parameters) ∈ upgrade.configs.entries := by
  obtain ⟨⟨key, parameters⟩, present, rfl⟩ := List.mem_map.mp listed
  have begins : parameters.switchRound = key := keyed _ present
  rw [begins]
  exact present

theorem Keyed.eq_of_switchRound (keyed : upgrade.Keyed) (listed : parameters ∈ upgrade.alternatives)
    (present : other ∈ upgrade.alternatives) (same : parameters.switchRound = other.switchRound) :
    parameters = other :=
  congrArg Prod.snd (SortedMap.eq_of_key upgrade.configs.increasing (keyed.entry listed) (keyed.entry present) same)

namespace Selects

theorem listed (selects : upgrade.Selects round parameters) : parameters ∈ upgrade.alternatives := by
  cases selects <;> assumption

theorem unique (keyed : upgrade.Keyed) (first : upgrade.Selects round parameters)
    (second : upgrade.Selects round other) : parameters = other := by
  apply keyed.eq_of_switchRound first.listed second.listed
  cases first with
  | latest listed begun greatest =>
    cases second with
    | latest present reached upper => exact UInt64.le_antisymm (upper _ listed begun) (greatest _ present reached)
    | earliest _ ahead => exact absurd begun (UInt64.not_le.mpr (ahead _ listed))
  | earliest listed ahead least =>
    cases second with
    | latest present reached => exact absurd reached (UInt64.not_le.mpr (ahead _ present))
    | earliest present _ lower => exact UInt64.le_antisymm (least _ present) (lower _ listed)

theorem begun_iff (selects : upgrade.Selects round parameters) :
    parameters.switchRound ≤ round ↔ ∃ other ∈ upgrade.alternatives, other.switchRound ≤ round := by
  refine ⟨fun begun => ⟨parameters, selects.listed, begun⟩, fun ⟨other, present, reached⟩ => ?_⟩
  cases selects with
  | latest _ begun => exact begun
  | earliest _ ahead => exact absurd reached (UInt64.not_le.mpr (ahead other present))

theorem monotone (sooner : upgrade.Selects round parameters) (order : round ≤ later)
    (afterwards : upgrade.Selects later other) : parameters.switchRound ≤ other.switchRound := by
  cases sooner with
  | latest listed begun =>
    cases afterwards with
    | latest _ _ greatest => exact greatest _ listed (UInt64.le_trans begun order)
    | earliest _ ahead => exact absurd (UInt64.le_trans begun order) (UInt64.not_le.mpr (ahead _ listed))
  | earliest _ _ least => exact least _ afterwards.listed

end Selects

theorem selects_config (keyed : upgrade.Keyed) (filled : upgrade.configs.entries ≠ []) (round : Round) :
    upgrade.Selects round (upgrade.config round) := by
  unfold config
  cases found : upgrade.configs.upTo? round with
  | some parameters =>
    obtain ⟨key, present, below, greatest⟩ := SortedMap.upTo?_eq_some_iff.mp found
    have begins : parameters.switchRound = key := keyed _ present
    refine .latest (mem_alternatives_of_entry present) (begins ▸ below) fun other listed reached => ?_
    change other.switchRound ≤ parameters.switchRound
    rw [begins]
    exact greatest _ (keyed.entry listed) reached
  | none =>
    have ahead := SortedMap.upTo?_eq_none_iff.mp found
    cases begins : upgrade.configs.first? with
    | none =>
      simp only [SortedMap.first?, Option.map_eq_none_iff, List.head?_eq_none_iff] at begins
      exact absurd begins filled
    | some parameters =>
      obtain ⟨key, present, least⟩ := SortedMap.first?_eq_some_iff.mp begins
      have begins : parameters.switchRound = key := keyed _ present
      refine .earliest (mem_alternatives_of_entry present) (fun other listed => ahead _ (keyed.entry listed))
        fun other listed => ?_
      change parameters.switchRound ≤ other.switchRound
      rw [begins]
      exact least _ (keyed.entry listed)

end UpgradeConfig

namespace ConsensusConfig

variable {config : ConsensusConfig}

def Accepted (config : ConsensusConfig) : Prop := config.fault? = none

theorem accepted_of_parse {text : Bytes} (parsed : parse text = .ok config) : config.Accepted := by
  unfold parse at parsed
  cases read : (Json.parse? text).bind ofJson? with
  | none => simp [read] at parsed
  | some found =>
    cases faulty : found.fault? with
    | some fault => simp [read, faulty] at parsed
    | none =>
      simp only [read, faulty, Except.ok.injEq] at parsed
      exact parsed ▸ faulty

theorem accepted_iff : config.Accepted ↔ config.epoch ≠ 0 ∧ config.upgrade.configs.entries ≠ [] ∧
    ∀ entry ∈ config.upgrade.configs.entries, entryFault? entry.1 entry.2 = none := by
  unfold Accepted fault?
  split
  · simp [*]
  · split
    · simp_all
    · simp_all

theorem entryFault?_eq_none_iff {key : Round} {parameters : RoundConfig} :
    entryFault? key parameters = none ↔ parameters.switchRound = key ∧
      (parameters.certThreshold > 0 ∧ parameters.certThreshold ≤ 1) ∧ parameters.timeoutSyncThreshold ≠ 0 := by
  unfold entryFault?
  split
  · simp_all [eq_comm]
  · split
    · simp_all
    · split <;> simp_all

theorem Accepted.keyed (accepted : config.Accepted) : config.upgrade.Keyed :=
  fun entry present => (entryFault?_eq_none_iff.mp ((accepted_iff.mp accepted).2.2 entry present)).1

theorem Accepted.selects (accepted : config.Accepted) (round : Round) :
    config.upgrade.Selects round (config.upgrade.config round) :=
  UpgradeConfig.selects_config accepted.keyed (accepted_iff.mp accepted).2.1 round

end ConsensusConfig

/-! Parameters that begin in the fifth and the eighth round. -/

namespace Sample

def postponed : ConsensusConfig :=
  ⟨900, 450, ⟨0, 0, .ofList [(5, ⟨5, 0.75, 10, 2⟩), (8, ⟨8, 0.75, 20, 2⟩)]⟩⟩

theorem postponed_accepted : postponed.Accepted := rfl

theorem postponed_parsed : ((ConsensusConfig.parse postponed.toJson.render).toOption.map fun config =>
    config.upgrade.alternatives.map RoundConfig.switchRound) = some [5, 8] := by decide +kernel

end Sample

section InForce

variable {config : ConsensusConfig}

/-- Of a configuration that is accepted, as each one that has been read is, the parameters for a round are those
that begin last among those that have begun by then, and the earliest ones if none have. So they are the same or
later ones for later rounds; and a node goes by parameters that have not begun only where no others have either,
and then by the earliest. -/
theorem latest_parameters_in_force (accepted : config.Accepted) (round : Round) :
    (∀ text parsed, ConsensusConfig.parse text = .ok parsed → parsed.Accepted) ∧
      (∀ parameters, config.upgrade.Selects round parameters ↔ config.upgrade.config round = parameters) ∧
      ((config.upgrade.config round).switchRound ≤ round ↔
        ∃ other ∈ config.upgrade.alternatives, other.switchRound ≤ round) ∧
      (∀ later, round ≤ later →
        (config.upgrade.config round).switchRound ≤ (config.upgrade.config later).switchRound) ∧
      ∀ setting : Setting, setting.config = config → round < (setting.configAt round).switchRound →
        ∀ other ∈ config.upgrade.alternatives,
          round < other.switchRound ∧ (setting.configAt round).switchRound ≤ other.switchRound := by
  have selected := accepted.selects
  refine ⟨fun _ _ => ConsensusConfig.accepted_of_parse, fun parameters => ?_, (selected round).begun_iff,
    fun later order => (selected round).monotone order (selected later), fun setting same ahead => ?_⟩
  · constructor
    · exact (selected round).unique accepted.keyed
    · rintro rfl
      exact selected round
  · have used : setting.configAt round = config.upgrade.config round := congrArg (·.upgrade.config round) same
    rw [used] at ahead ⊢
    cases selected round with
    | latest _ begun => exact absurd begun (UInt64.not_le.mpr ahead)
    | earliest _ later least => exact fun other listed => ⟨later other listed, least other listed⟩

theorem parameters_change_in_eighth_round :
    Sample.postponed.Accepted ∧
      (Sample.postponed.upgrade.config 7).timeoutPeriodSecs = 10 ∧
      (Sample.postponed.upgrade.config 8).timeoutPeriodSecs = 20 ∧
      ∃ parsed, ConsensusConfig.parse Sample.postponed.toJson.render = .ok parsed ∧ parsed.Accepted := by
  have listed : Sample.postponed.upgrade.alternatives = [⟨5, 0.75, 10, 2⟩, ⟨8, 0.75, 20, 2⟩] := rfl
  obtain ⟨read, seventh, -⟩ := latest_parameters_in_force Sample.postponed_accepted 7
  obtain ⟨-, eighth, -⟩ := latest_parameters_in_force Sample.postponed_accepted 8
  have before : Sample.postponed.upgrade.Selects 7 ⟨5, 0.75, 10, 2⟩ := by
    apply UpgradeConfig.Selects.latest
    · simp [listed]
    · decide
    · simp [listed]
  have after : Sample.postponed.upgrade.Selects 8 ⟨8, 0.75, 20, 2⟩ := by
    apply UpgradeConfig.Selects.latest
    · simp [listed]
    · decide
    · simp [listed]
  refine ⟨Sample.postponed_accepted, ?_, ?_, ?_⟩
  · rw [(seventh _).mp before]
  · rw [(eighth _).mp after]
  · cases parsed : ConsensusConfig.parse Sample.postponed.toJson.render with
    | ok config => exact ⟨config, rfl, read _ config parsed⟩
    | error cause =>
      have keys := Sample.postponed_parsed
      rw [parsed] at keys
      cases keys

/-- Parameters may be in force before their round. -/
theorem parameters_in_force_before_their_round :
    Sample.postponed.Accepted ∧ 0 < (Sample.postponed.upgrade.config 0).switchRound ∧
      ¬∃ parameters ∈ Sample.postponed.upgrade.alternatives, parameters.switchRound ≤ 0 := by
  have listed : Sample.postponed.upgrade.alternatives = [⟨5, 0.75, 10, 2⟩, ⟨8, 0.75, 20, 2⟩] := rfl
  refine ⟨Sample.postponed_accepted, by decide, ?_⟩
  simp [listed]

end InForce

end MasternodeBft
