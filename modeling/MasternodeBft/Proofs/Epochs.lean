import MasternodeBft.Engine.Expiry
import MasternodeBft.Proofs.Change
import MasternodeBft.Proofs.ParametersInForce

/-!
Epochs in numbers. An epoch starts at a multiple of its length, so that blocks and rounds are in the same epoch
exactly if the quotients are the same. The gap number of a timeout is found without leaving 64 bits, but for the
index of the epoch: that is a sum with a configured number, which nothing bounds.
-/

namespace MasternodeBft

/-! Operations on words that have no result where it would not be a word. -/

namespace Word

def sum? (left right : UInt64) : Option UInt64 :=
  if left.toNat + right.toNat < UInt64.size then some (left + right) else none

def difference? (left right : UInt64) : Option UInt64 := if right ≤ left then some (left - right) else none

def quotient? (left right : UInt64) : Option UInt64 := if right = 0 then none else some (left / right)

def remainder? (left right : UInt64) : Option UInt64 := if right = 0 then none else some (left % right)

theorem remainder_le (number divisor : UInt64) : number % divisor ≤ number := by
  rw [UInt64.le_iff_toNat_le, UInt64.toNat_mod]
  exact Nat.mod_le _ _

theorem toNat_sub_remainder (number divisor : UInt64) :
    (number - number % divisor).toNat = number.toNat / divisor.toNat * divisor.toNat := by
  rw [UInt64.toNat_sub_of_le _ _ (remainder_le number divisor), UInt64.toNat_mod]
  have whole := Nat.div_add_mod' number.toNat divisor.toNat
  omega

end Word

open Word

/-! The start of an epoch, and gap numbers. -/

def epochStart? (number epoch : UInt64) : Option UInt64 := do difference? number (← remainder? number epoch)

def gapNumber? (number epoch gap : UInt64) : Option UInt64 :=
  if epoch = 0 then some 0
  else do
    let start ← epochStart? number epoch
    if gap ≤ start then difference? start gap else some 0

theorem epochStart?_eq {number epoch : UInt64} (positive : epoch ≠ 0) :
    epochStart? number epoch = some (number - number % epoch) := by
  simp [epochStart?, remainder?, difference?, positive, remainder_le]

theorem gapNumber?_eq (number epoch gap : UInt64) :
    gapNumber? number epoch gap = some (gapNumber number epoch gap) := by
  unfold gapNumber? gapNumber
  by_cases zero : epoch = 0
  · simp [zero]
  · rw [if_neg zero, if_neg zero, epochStart?_eq zero]
    by_cases reached : gap ≤ number - number % epoch <;> simp [difference?, reached]

theorem gapNumber_toNat (number epoch gap : UInt64) :
    (gapNumber number epoch gap).toNat = number.toNat / epoch.toNat * epoch.toNat - gap.toNat := by
  have start := toNat_sub_remainder number epoch
  unfold gapNumber
  by_cases zero : epoch = 0
  · simp [zero]
  · rw [if_neg zero]
    dsimp only
    split
    · rename_i reached
      rw [UInt64.toNat_sub_of_le _ _ reached, start]
    · rename_i short
      rw [UInt64.not_le, UInt64.lt_iff_toNat_lt, start] at short
      rw [Nat.sub_eq_zero_of_le (Nat.le_of_lt short)]
      rfl

theorem gapNumber_mono {number later : UInt64} (order : number ≤ later) (epoch gap : UInt64) :
    gapNumber number epoch gap ≤ gapNumber later epoch gap := by
  rw [UInt64.le_iff_toNat_le, gapNumber_toNat, gapNumber_toNat]
  apply Nat.sub_le_sub_right
  apply Nat.mul_le_mul_right
  exact Nat.div_le_div_right (UInt64.le_iff_toNat_le.mp order)

theorem gapNumber_start (number epoch gap : UInt64) :
    gapNumber (number - number % epoch) epoch gap = gapNumber number epoch gap := by
  apply UInt64.toNat_inj.mp
  rw [gapNumber_toNat, gapNumber_toNat, toNat_sub_remainder]
  by_cases zero : epoch.toNat = 0
  · simp [zero]
  · rw [Nat.mul_div_cancel _ (Nat.pos_of_ne_zero zero)]

namespace ConsensusConfig

variable {config : ConsensusConfig} {round later : Round} {parent : Header}

/-- The epoch of a round, counted from the first round of all. -/
def epochOf (config : ConsensusConfig) (round : Round) : Nat := round.toNat / config.epoch.toNat

theorem epochOf_mono (config : ConsensusConfig) (order : round ≤ later) :
    config.epochOf round ≤ config.epochOf later :=
  Nat.div_le_div_right (UInt64.le_iff_toNat_le.mp order)

def Indexes (config : ConsensusConfig) (round : Round) : Prop :=
  config.upgrade.switchEpoch.toNat + config.epochOf round < UInt64.size

instance : Decidable (config.Indexes round) := inferInstanceAs (Decidable (_ < _))

theorem opensEpoch_iff (positive : config.epoch ≠ 0) : config.opensEpoch round parent = true ↔
    parent.number = config.upgrade.switchBlock ∨ config.epochOf parent.round < config.epochOf round := by
  have length : 0 < config.epoch.toNat := by
    rw [Nat.pos_iff_ne_zero, ne_eq, ← UInt64.toNat_zero, UInt64.toNat_inj]
    exact positive
  unfold opensEpoch epochOf
  rw [if_neg positive, decide_eq_true_iff, UInt64.lt_iff_toNat_lt, toNat_sub_remainder, Nat.div_lt_iff_lt_mul length]

theorem opensEpoch_mono (order : round ≤ later) (opens : config.opensEpoch round parent = true) :
    config.opensEpoch later parent = true := by
  by_cases zero : config.epoch = 0
  · simp [opensEpoch, zero] at opens
  · rw [opensEpoch_iff zero] at opens ⊢
    apply opens.imp_right
    intro before
    exact Nat.lt_of_lt_of_le before (config.epochOf_mono order)

def opensEpoch? (config : ConsensusConfig) (round : Round) (parent : Header) : Option Bool :=
  if config.epoch = 0 then some false
  else do
    let _ ← sum? config.upgrade.switchEpoch (← quotient? round config.epoch)
    if parent.number = config.upgrade.switchBlock then some true
    else some (parent.round < (← epochStart? round config.epoch))

theorem indexes_iff : config.Indexes round ↔
    config.upgrade.switchEpoch.toNat + (round / config.epoch).toNat < UInt64.size := by
  rw [UInt64.toNat_div]
  rfl

theorem indexes_of_zero (zero : config.epoch = 0) : config.Indexes round := by
  have bound := config.upgrade.switchEpoch.toNat_lt_size
  rw [indexes_iff, zero]
  simpa using bound

theorem opensEpoch?_eq (config : ConsensusConfig) (round : Round) (parent : Header) :
    config.opensEpoch? round parent =
      if config.Indexes round then some (config.opensEpoch round parent) else none := by
  unfold opensEpoch? opensEpoch
  by_cases zero : config.epoch = 0
  · simp [zero, indexes_of_zero]
  · rw [if_neg zero, if_neg zero, epochStart?_eq zero, quotient?, if_neg zero, Option.bind_eq_bind, Option.bind_some,
      sum?]
    by_cases indexed : config.Indexes round
    · rw [if_pos indexed, if_pos (indexes_iff.mp indexed)]
      by_cases first : parent.number = config.upgrade.switchBlock <;> simp [first]
    · rw [if_neg indexed, if_neg (indexes_iff.not.mp indexed)]
      rfl

end ConsensusConfig

namespace Engine

variable {setting : Setting} {round : Round}

theorem isEpochSwitch_ending (setting : Setting) (round : Round) (parent : Header) :
    (isEpochSwitch setting round parent).ending =
      if setting.config.Indexes round then .done (setting.config.opensEpoch round parent) else .overflowed := by
  unfold isEpochSwitch
  by_cases zero : setting.config.epoch = 0
  · simp [zero, ConsensusConfig.indexes_of_zero, ConsensusConfig.opensEpoch]
  · dsimp only
    rw [if_neg zero, Check.ending_bind]
    unfold Check.add
    by_cases indexed : setting.config.Indexes round
    · rw [if_pos indexed, if_pos (ConsensusConfig.indexes_iff.mp indexed)]
      dsimp only [Check.ending_pure]
      split <;> rfl
    · rw [if_neg indexed, if_neg (ConsensusConfig.indexes_iff.not.mp indexed)]

theorem isEpochSwitch_of_indexes (indexed : setting.config.Indexes round) (parent : Header) :
    (isEpochSwitch setting round parent).ending = .done (setting.config.opensEpoch round parent) := by
  rw [isEpochSwitch_ending, if_pos indexed]

def timeoutGapNumber? (setting : Setting) (round : Round) : Option (Except ChainError UInt64) := do
  let config := setting.config
  let head := setting.chain.head
  if ← config.opensEpoch? round head then
    let number ← sum? head.number 1
    return .ok (← gapNumber? number config.epoch config.gap)
  else
    match setting.chain.epochSwitch head with
    | .error cause => return .error cause
    | .ok switch => return .ok (← gapNumber? switch.block.number config.epoch config.gap)

def conclude : Option (Except ChainError UInt64) → Ending UInt64
  | none => .overflowed
  | some (.error cause) => .refused (.chain cause)
  | some (.ok number) => .done number

/-- Where the step does not say that it has overflowed, none of its operations has. -/
theorem timeoutGapNumber_ending (setting : Setting) (round : Round) :
    (timeoutGapNumber setting round).ending = conclude (timeoutGapNumber? setting round) := by
  unfold timeoutGapNumber timeoutGapNumber?
  dsimp only
  rw [Check.ending_bind, isEpochSwitch_ending, ConsensusConfig.opensEpoch?_eq]
  by_cases indexed : setting.config.Indexes round
  · rw [if_pos indexed, if_pos indexed]
    cases setting.config.opensEpoch round setting.chain.head with
    | true =>
      by_cases next : Round.HasNext setting.chain.head.number
      · have sum : sum? setting.chain.head.number 1 = some (setting.chain.head.number + 1) := if_pos next
        simp only [Check.add_one_of_hasNext next, sum, gapNumber?_eq]
        rfl
      · have sum : sum? setting.chain.head.number 1 = none := if_neg next
        simp only [Check.add_one_of_not_hasNext next, sum]
        rfl
    | false =>
      cases setting.chain.epochSwitch setting.chain.head with
      | error cause => rfl
      | ok switch =>
        simp only [gapNumber?_eq]
        rfl
  · rw [if_neg indexed, if_neg indexed]
    rfl

theorem timeoutGapNumber_of_unindexed (beyond : ¬setting.config.Indexes round) :
    (timeoutGapNumber setting round).ending = .overflowed := by
  unfold timeoutGapNumber
  dsimp only
  rw [Check.ending_bind, isEpochSwitch_ending, if_neg beyond]

theorem timeoutGapNumber?_of_indexes (indexed : setting.config.Indexes round)
    (next : Round.HasNext setting.chain.head.number) {switch : EpochSwitch}
    (resolves : setting.chain.epochSwitch setting.chain.head = .ok switch) :
    timeoutGapNumber? setting round = some (.ok (setting.config.gapOf
      (if setting.config.opensEpoch round setting.chain.head then setting.chain.head.number + 1
        else switch.block.number))) := by
  have sum : sum? setting.chain.head.number 1 = some (setting.chain.head.number + 1) := if_pos next
  unfold timeoutGapNumber?
  dsimp only
  rw [ConsensusConfig.opensEpoch?_eq, if_pos indexed]
  cases setting.config.opensEpoch round setting.chain.head with
  | true =>
    simp only [sum, gapNumber?_eq]
    rfl
  | false =>
    simp only [resolves, gapNumber?_eq]
    rfl

theorem timeoutGapNumber_done {gapNumber : UInt64}
    (found : (timeoutGapNumber setting round).ending = .done gapNumber) : setting.config.Indexes round ∧
      ((setting.config.opensEpoch round setting.chain.head = true ∧ Round.HasNext setting.chain.head.number ∧
          gapNumber = setting.config.gapOf (setting.chain.head.number + 1)) ∨
        (setting.config.opensEpoch round setting.chain.head = false ∧
          ∃ switch, setting.chain.epochSwitch setting.chain.head = .ok switch ∧
            gapNumber = setting.config.gapOf switch.block.number)) := by
  have indexed : setting.config.Indexes round := by
    by_contra beyond
    exact nomatch (timeoutGapNumber_of_unindexed beyond).symm.trans found
  refine ⟨indexed, ?_⟩
  unfold timeoutGapNumber at found
  obtain ⟨opens, tested, selected⟩ := Check.bind_done_iff.mp found
  cases (isEpochSwitch_of_indexes indexed _).symm.trans tested
  cases opens : setting.config.opensEpoch round setting.chain.head with
  | true =>
    rw [opens] at selected
    obtain ⟨number, added, noted⟩ := Check.bind_done_iff.mp selected
    obtain ⟨next, rfl⟩ := Check.add_one_done added
    cases noted
    exact .inl ⟨rfl, next, rfl⟩
  | false =>
    cases resolves : setting.chain.epochSwitch setting.chain.head with
    | error cause =>
      simp only [opens, resolves] at selected
      cases selected
    | ok switch =>
      simp only [opens, resolves] at selected
      cases selected
      exact .inr ⟨rfl, switch, rfl, rfl⟩

end Engine

/-! A node at the end of an epoch, and one whose epochs begin with the last index there is. -/

namespace Sample

def endOfEpoch : Setting :=
  { setting with chain := { chain with head := { Header.zero with number := 1799, round := 1750 } } }

def exhaustedConfig : ConsensusConfig :=
  { ConsensusConfig.standard with upgrade.switchEpoch := 18446744073709551615 }

def exhausted : Setting := { setting with config := exhaustedConfig }

theorem standard_accepted : ConsensusConfig.standard.Accepted := rfl

theorem exhausted_accepted : exhaustedConfig.Accepted := rfl

end Sample

section Bounds

variable {setting : Setting}

/-- With an accepted configuration, a block after the head and a known start of the head's epoch, one operation
can leave 64 bits on the way to the gap number of a timeout: the sum that is the index of the round's epoch.
Where it does not, the gap number is found, and it is what it would be without a bound on numbers: that of the
expected block, if the round opens an epoch, and that of the start of the head's epoch otherwise. -/
theorem gap_number_overflows_with_epoch_index_only (accepted : setting.config.Accepted)
    (next : Round.HasNext setting.chain.head.number) {switch : EpochSwitch}
    (resolves : setting.chain.epochSwitch setting.chain.head = .ok switch) (round : Round) :
    let config := setting.config
    let head := setting.chain.head
    let length := config.epoch.toNat
    let indexed := config.upgrade.switchEpoch.toNat + config.epochOf round < UInt64.size
    ((Engine.timeoutGapNumber setting round).ending = .overflowed ↔ ¬indexed) ∧
      (Engine.timeoutGapNumber? setting round = none ↔ ¬indexed) ∧
      (indexed → ∃ opens gapNumber, (Engine.isEpochSwitch setting round head).ending = .done opens ∧
        (Engine.timeoutGapNumber setting round).ending = .done gapNumber ∧
        (opens = true ↔ head.number = config.upgrade.switchBlock ∨ config.epochOf head.round < config.epochOf round) ∧
        gapNumber.toNat =
          (if opens then head.number.toNat + 1 else switch.block.number.toNat) / length * length -
            config.gap.toNat) := by
  intro config head length indexed
  have positive := (ConsensusConfig.accepted_iff.mp accepted).1
  have found (fits : indexed) := Engine.timeoutGapNumber?_of_indexes fits next resolves
  have ends := Engine.timeoutGapNumber_ending setting round
  have checked : Engine.timeoutGapNumber? setting round = none ↔ ¬indexed := by
    constructor
    · intro lost fits
      rw [found fits] at lost
      cases lost
    · intro beyond
      rw [Engine.timeoutGapNumber_of_unindexed beyond] at ends
      revert ends
      rcases Engine.timeoutGapNumber? setting round with _ | (_ | _) <;> simp [Engine.conclude]
  refine ⟨?_, checked, fun fits => ⟨config.opensEpoch round head, _, Engine.isEpochSwitch_of_indexes fits head,
    ends.trans (congrArg Engine.conclude (found fits)), ConsensusConfig.opensEpoch_iff positive, ?_⟩⟩
  · rw [← checked, ends]
    rcases Engine.timeoutGapNumber? setting round with _ | (_ | _) <;> simp [Engine.conclude]
  · have successor : (head.number + 1).toNat = head.number.toNat + 1 := Round.toNat_add_one next
    unfold ConsensusConfig.gapOf
    rw [gapNumber_toNat]
    split
    · rw [successor]
    · rfl

theorem gap_number_of_next_epoch :
    Sample.endOfEpoch.config.Accepted ∧ Round.HasNext Sample.endOfEpoch.chain.head.number ∧
      (Engine.timeoutGapNumber Sample.endOfEpoch 1800).ending = .done 1350 := by
  have next : Round.HasNext Sample.endOfEpoch.chain.head.number := by decide
  have indexed : Sample.endOfEpoch.config.Indexes 1800 := by decide
  obtain ⟨-, -, found⟩ := gap_number_overflows_with_epoch_index_only Sample.standard_accepted next rfl 1800
  obtain ⟨opens, gapNumber, -, ending, crossed, value⟩ := found indexed
  refine ⟨Sample.standard_accepted, next, ending.trans ?_⟩
  rw [if_pos (crossed.mpr (by decide))] at value
  exact congrArg Ending.done (UInt64.toNat_inj.mp value)

/-- A configuration that is accepted, and leaves no index for the second epoch. -/
theorem gap_number_overflows_after_last_epoch_index :
    Sample.exhausted.config.Accepted ∧ Round.HasNext Sample.exhausted.chain.head.number ∧
      (∃ switch, Sample.exhausted.chain.epochSwitch Sample.exhausted.chain.head = .ok switch) ∧
      (Engine.timeoutGapNumber Sample.exhausted 900).ending = .overflowed :=
  ⟨Sample.exhausted_accepted, by decide, ⟨_, rfl⟩, Engine.timeoutGapNumber_of_unindexed (by decide)⟩

end Bounds

end MasternodeBft
