import MasternodeBft.Proofs.ChainGrowth
import MasternodeBft.Proofs.Epochs
import MasternodeBft.Proofs.TimeoutCount

/-!
The gap numbers of the timeouts that a node sends on a chain that grows. A timeout is for the next block, if its
round opens an epoch, and for the head otherwise. Heads and rounds do not go back; and on top of the same head, a
round opens an epoch if an earlier one does. So the masternodes that timeouts are for are never older than before.
-/

namespace MasternodeBft

namespace ConsensusConfig

variable {config : ConsensusConfig} {round later : Round} {head newer : Header}

def targetNumber (config : ConsensusConfig) (round : Round) (head : Header) : UInt64 :=
  if config.opensEpoch round head then head.number + 1 else head.number

/-- A timeout for a next block is for one that there can be. -/
def HasTarget (config : ConsensusConfig) (round : Round) (head : Header) : Prop :=
  config.opensEpoch round head = true → Round.HasNext head.number

theorem targetNumber_toNat (target : config.HasTarget round head) :
    (config.targetNumber round head).toNat =
      head.number.toNat + if config.opensEpoch round head then 1 else 0 := by
  unfold targetNumber
  by_cases opens : config.opensEpoch round head = true
  · rw [if_pos opens, if_pos opens]
    exact Round.toNat_add_one (target opens)
  · rw [if_neg opens, if_neg opens]
    rfl

theorem targetNumber_mono (order : round ≤ later) (target : config.HasTarget later head) :
    config.targetNumber round head ≤ config.targetNumber later head := by
  have begun : config.HasTarget round head := fun opens => target (opensEpoch_mono order opens)
  rw [UInt64.le_iff_toNat_le, targetNumber_toNat begun, targetNumber_toNat target]
  apply Nat.add_le_add_left
  by_cases opens : config.opensEpoch round head = true
  · rw [if_pos opens, if_pos (opensEpoch_mono order opens)]
  · rw [if_neg opens]
    exact Nat.zero_le _

theorem targetNumber_le_of_lt (above : head.number < newer.number) (target : config.HasTarget later newer) :
    config.targetNumber round head ≤ config.targetNumber later newer := by
  have begun : config.HasTarget round head := fun _ => Round.hasNext_of_lt above
  rw [UInt64.lt_iff_toNat_lt] at above
  rw [UInt64.le_iff_toNat_le, targetNumber_toNat begun, targetNumber_toNat target]
  split <;> omega

end ConsensusConfig

/-- A sound chain with epochs of the configured length. -/
structure MemoryChain.Suits (chain : MemoryChain) (config : ConsensusConfig) : Prop where
  sound : chain.Sound
  epoch : chain.epoch = config.epoch

namespace MemoryChain.Suits

variable {chain later : MemoryChain} {config : ConsensusConfig}

theorem grow (suits : chain.Suits config) (grows : chain.Grows later) : later.Suits config := by
  have succeeds := grows.succeeds suits.sound
  exact ⟨succeeds.sound, succeeds.epoch.trans suits.epoch⟩

theorem gapOf_epochSwitch (suits : chain.Suits config) {header : Header} {switch : EpochSwitch}
    (resolves : chain.epochSwitch header = .ok switch) :
    config.gapOf switch.block.number = config.gapOf header.number := by
  rw [suits.sound.epochSwitch_number resolves]
  unfold ConsensusConfig.gapOf boundary
  rw [suits.epoch]
  split
  · rfl
  · exact gapNumber_start _ _ _

end MemoryChain.Suits

structure Dispatch where
  setting : Setting
  timeout : Timeout

namespace Dispatch

def head (dispatch : Dispatch) : Header := dispatch.setting.chain.head

structure Aims (config : ConsensusConfig) (dispatch : Dispatch) : Prop where
  configured : dispatch.setting.config = config
  indexed : config.Indexes dispatch.timeout.round
  target : config.HasTarget dispatch.timeout.round dispatch.head
  gapNumber : dispatch.timeout.gapNumber = config.gapOf (config.targetNumber dispatch.timeout.round dispatch.head)

structure Since (round : Round) (head : Header) (dispatch : Dispatch) : Prop where
  round : round ≤ dispatch.timeout.round
  head : dispatch.head.Reaches head

variable {config : ConsensusConfig} {first dispatch : Dispatch} {round earlier : Round} {head former : Header}

theorem Since.of_earlier (since : dispatch.Since round head) (order : earlier ≤ round) (grown : head.Reaches former) :
    dispatch.Since earlier former := ⟨UInt64.le_trans order since.round, since.head.trans grown⟩

theorem Since.targetNumber_le (since : dispatch.Since round head)
    (target : config.HasTarget dispatch.timeout.round dispatch.head) :
    config.targetNumber round head ≤ config.targetNumber dispatch.timeout.round dispatch.head := by
  rcases since.head with same | above
  · rw [same] at target ⊢
    exact ConsensusConfig.targetNumber_mono since.round target
  · exact ConsensusConfig.targetNumber_le_of_lt above target

theorem Since.gapNumber_le (since : dispatch.Since first.timeout.round first.head) (aims : dispatch.Aims config)
    (begun : first.Aims config) : first.timeout.gapNumber ≤ dispatch.timeout.gapNumber := by
  have order := since.targetNumber_le aims.target
  calc
    first.timeout.gapNumber
    _ = config.gapOf (config.targetNumber first.timeout.round first.head) := begun.gapNumber
    _ ≤ config.gapOf (config.targetNumber dispatch.timeout.round dispatch.head) := gapNumber_mono order _ _
    _ = dispatch.timeout.gapNumber := aims.gapNumber.symm

end Dispatch

/-! The timeouts that are sent in a step, and in a run. -/

def Step.dispatches (step : Step) (state : EngineState) : List Dispatch :=
  (timeoutsIn (step.messages state)).map fun timeout => ⟨step.setting, timeout⟩

def EngineState.dispatches (state : EngineState) : List Step → List Dispatch
  | [] => []
  | step :: rest => step.dispatches state ++ (step.next state).dispatches rest

structure Step.Sends (step : Step) (state : EngineState) (timeout : Timeout) : Prop where
  reached : state.round.currentRound ≤ timeout.round
  passed : timeout.round ≤ (step.next state).round.currentRound
  gapNumber : (Engine.timeoutGapNumber step.setting timeout.round).ending = .done timeout.gapNumber

namespace Engine

variable {setting : Setting} {state : EngineState} {timeout : Timeout}

theorem sends_of_prepared (eligible : setting.Eligible)
    (prepared : (prepareTimeout setting state).ending = .done timeout)
    (after : (handleExpiry setting state).state.round = (prepareTimeout setting state).state.round) :
    Step.Sends ⟨.handleExpiry, setting⟩ state timeout := by
  obtain ⟨reached, near⟩ := prepareTimeout_near eligible prepared
  obtain ⟨signs, -⟩ := prepareTimeout_done eligible prepared
  have current : timeout.round = (replay setting state).state.round.currentRound := congrArg Timeout.round signs.own
  refine ⟨reached, ?_, ?_⟩
  · rw [next_handleExpiry, after]
    rcases near with same | ⟨next, entered⟩
    · exact UInt64.le_of_eq same.symm
    · rw [entered, UInt64.le_iff_toNat_le, show (timeout.round + 1).toNat = _ from Round.toNat_add_one next]
      omega
  · rw [current]
    exact signs.gapNumber

end Engine

theorem Step.dispatches_cases (step : Step) (state : EngineState) :
    step.dispatches state = [] ∨
      ∃ timeout, step.dispatches state = [⟨step.setting, timeout⟩] ∧ step.Sends state timeout := by
  by_cases expiry : step.operation = .handleExpiry
  · obtain ⟨operation, setting⟩ := step
    cases expiry
    have expires := Engine.handleExpiry_expires setting state
    unfold Step.dispatches
    generalize Step.messages ⟨.handleExpiry, setting⟩ state = messages at expires
    cases expires with
    | silent => exact .inl rfl
    | counted timeout eligible prepared _ _ after =>
      have round := congrArg EngineState.round after
      rw [timeoutsIn_due]
      exact .inr ⟨timeout, rfl, Engine.sends_of_prepared eligible prepared round⟩
    | uncounted timeout eligible prepared _ _ after =>
      have round := congrArg EngineState.round after
      exact .inr ⟨timeout, rfl, Engine.sends_of_prepared eligible prepared round⟩
  · unfold Step.dispatches
    rw [Step.messages_of_other expiry]
    exact .inl rfl

inductive RunsOn (config : ConsensusConfig) : MemoryChain → List Step → Prop
  | stop (chain : MemoryChain) : RunsOn config chain []
  | step {chain later : MemoryChain} {step : Step} {rest : List Step} (grows : chain.Grows later)
      (view : step.setting.chain = later.view) (configured : step.setting.config = config)
      (onward : RunsOn config later rest) : RunsOn config chain (step :: rest)

section Order

variable {config : ConsensusConfig} {chain : MemoryChain} {run : List Step}

theorem Step.Sends.aims {step : Step} {state : EngineState} {timeout : Timeout} (sends : step.Sends state timeout)
    (suits : chain.Suits config) (view : step.setting.chain = chain.view)
    (configured : step.setting.config = config) : Dispatch.Aims config ⟨step.setting, timeout⟩ := by
  obtain ⟨indexed, found⟩ := Engine.timeoutGapNumber_done sends.gapNumber
  rw [configured] at indexed found
  refine ⟨configured, indexed, fun opens => ?_, ?_⟩
  · rcases found with ⟨-, next, -⟩ | ⟨stays, -⟩
    · exact next
    · exact nomatch stays.symm.trans opens
  · unfold Dispatch.head ConsensusConfig.targetNumber
    rcases found with ⟨opens, -, value⟩ | ⟨stays, switch, resolves, value⟩
    · rw [if_pos opens]
      exact value
    · rw [stays, if_neg Bool.false_ne_true]
      rw [view] at resolves ⊢
      exact value.trans (suits.gapOf_epochSwitch resolves)

theorem RunsOn.dispatched (runs : RunsOn config chain run) (suits : chain.Suits config) (state : EngineState) :
    ∀ dispatch ∈ state.dispatches run,
      dispatch.Aims config ∧ dispatch.Since state.round.currentRound chain.head := by
  induction runs generalizing state with
  | stop => exact List.forall_mem_nil _
  | @step chain later step rest grows view configured onward ih =>
    have grown := (grows.succeeds suits.sound).head
    intro dispatch sent
    rcases List.mem_append.mp sent with now | after
    · rcases step.dispatches_cases state with silent | ⟨timeout, only, sends⟩
      · rw [silent] at now
        cases now
      · rw [only, List.mem_singleton] at now
        subst now
        refine ⟨sends.aims (suits.grow grows) view configured, sends.reached, ?_⟩
        rw [Dispatch.head, view]
        exact grown
    · obtain ⟨aims, since⟩ := ih (suits.grow grows) (step.next state) dispatch after
      exact ⟨aims, since.of_earlier (step.advances state).currentRound grown⟩

theorem RunsOn.ordered (runs : RunsOn config chain run) (suits : chain.Suits config) (state : EngineState) :
    (state.dispatches run).Pairwise fun first second => first.timeout.gapNumber ≤ second.timeout.gapNumber := by
  induction runs generalizing state with
  | stop => exact .nil
  | @step chain later step rest grows view configured onward ih =>
    have onwards := ih (suits.grow grows) (step.next state)
    unfold EngineState.dispatches
    rcases step.dispatches_cases state with silent | ⟨timeout, only, sends⟩
    · rw [silent]
      exact onwards
    · have begun := sends.aims (suits.grow grows) view configured
      have same : later.head = Dispatch.head ⟨step.setting, timeout⟩ := by
        rw [Dispatch.head, view]
        rfl
      rw [only, List.singleton_append, List.pairwise_cons]
      refine ⟨fun dispatch after => ?_, onwards⟩
      -- The rest of the run begins in a round that the timeout has come to, and on a chain with its head.
      obtain ⟨aims, since⟩ := onward.dispatched (suits.grow grows) (step.next state) dispatch after
      exact (since.of_earlier sends.passed (.inl same)).gapNumber_le aims begun

end Order

/-! A node whose epochs have one block each, and that waits in the first round while two blocks come. -/

namespace Sample

open MasternodeBft.MemoryChain

def shortEpochs : ConsensusConfig := { ConsensusConfig.standard with epoch := 1, gap := 0 }

/-- The masternodes of the first two blocks have been selected already. -/
def firstChain : MemoryChain :=
  ((create (names.map address) 1).insertSnapshot 1 (names.map address)).insertSnapshot 2 (names.map address)

def firstBlock : Header := child MemoryChain.genesis 1

def secondBlock : Header := child firstBlock 2

def grownChain : MemoryChain := (firstChain.insert firstBlock).insert secondBlock

def onChain (chain : MemoryChain) : Setting := { setting with config := shortEpochs, chain := chain.view }

theorem firstChain_grows : (create (names.map address) 1).Grows firstChain :=
  .tail (.single (.insertSnapshot 1 _)) (.insertSnapshot 2 _)

theorem firstChain_sound : firstChain.Sound := (firstChain_grows.succeeds (create_sound _ _)).sound

theorem extendedChain_head : (firstChain.insert firstBlock).head = firstBlock :=
  firstChain_sound.head_insert (by decide)

theorem grownChain_head : grownChain.head = secondBlock := by
  apply (firstChain_sound.insert firstBlock).head_insert
  rw [extendedChain_head]
  decide

theorem grownChain_sound : grownChain.Sound := (firstChain_sound.insert firstBlock).insert secondBlock

theorem grownChain_grows : firstChain.Grows grownChain := by
  have first : firstChain.extend? 1 = some (firstBlock, firstChain.insert firstBlock) :=
    extend?_of_hasNext (by decide) 1
  have next : Round.HasNext (firstChain.insert firstBlock).head.number := by
    rw [extendedChain_head]
    decide
  have second := extend?_of_hasNext next 2
  rw [extendedChain_head] at second
  exact .tail (.single (.extend first)) (.extend second)

theorem firstChain_switch : (onChain firstChain).chain.epochSwitch (onChain firstChain).chain.head =
    .ok ⟨MemoryChain.genesis.blockInfo, names.map address⟩ := rfl

theorem grownChain_switch : (onChain grownChain).chain.epochSwitch (onChain grownChain).chain.head =
    .ok ⟨secondBlock.blockInfo, names.map address⟩ := by
  have starts : grownChain.boundary grownChain.head.number = grownChain.head.number := by
    rw [grownChain_head]
    rfl
  have found := grownChain_sound.epochSwitch_head starts
  rw [grownChain_head] at found
  exact found

theorem firstChain_gapNumber : (Engine.timeoutGapNumber (onChain firstChain) 1).ending = .done 1 := by
  have next : Round.HasNext (onChain firstChain).chain.head.number := by decide
  rw [Engine.timeoutGapNumber_ending, Engine.timeoutGapNumber?_of_indexes (by decide) next firstChain_switch]
  rfl

theorem grownChain_gapNumber : (Engine.timeoutGapNumber (onChain grownChain) 1).ending = .done 2 := by
  have head : (onChain grownChain).chain.head = secondBlock := grownChain_head
  have next : Round.HasNext (onChain grownChain).chain.head.number := by
    rw [head]
    decide
  rw [Engine.timeoutGapNumber_ending, Engine.timeoutGapNumber?_of_indexes (by decide) next grownChain_switch, head]
  rfl

/-- The node has sent some timeouts, and is still in the first round. -/
def lingering (timeouts : TimeoutPool) (count : UInt64) : EngineState :=
  ⟨⟨1, genesis, none⟩, .empty, timeouts, .empty, count⟩

def timeoutFor (gapNumber : UInt64) : Timeout := Engine.ownTimeout setting 1 gapNumber

theorem lingering_collects {chain : MemoryChain} {timeouts : TimeoutPool} {gapNumber : UInt64} (count : UInt64)
    (selected : (Engine.snapshot (onChain chain) gapNumber).ending = .done ⟨gapNumber, names.map address⟩)
    (alone : ((timeouts.add (timeoutFor gapNumber)).bucket (timeoutFor gapNumber).key).length = 1) :
    (Engine.collectTimeout (onChain chain) (timeoutFor gapNumber) (lingering timeouts count)).Agrees
      ⟨.done (), lingering (timeouts.add (timeoutFor gapNumber)) count, []⟩ := by
  have current : (timeoutFor gapNumber).round = (lingering timeouts count).round.currentRound := rfl
  have threshold : ((onChain chain).configAt 1).certThreshold = 0.667 := certThreshold 1
  refine Engine.collectTimeout_of_short current selected ?_
  rw [show (timeoutFor gapNumber).round = 1 from rfl, threshold]
  change thresholdReached ((timeouts.add (timeoutFor gapNumber)).bucket (timeoutFor gapNumber).key).length 4 0.667 = _
  rw [alone]
  decide

theorem lingering_expires {chain : MemoryChain} (timeouts : TimeoutPool) {count gapNumber : UInt64}
    (eligible : (onChain chain).Eligible)
    (found : (Engine.timeoutGapNumber (onChain chain) 1).ending = .done gapNumber)
    (selected : (Engine.snapshot (onChain chain) gapNumber).ending = .done ⟨gapNumber, names.map address⟩)
    (alone : ((timeouts.add (timeoutFor gapNumber)).bucket (timeoutFor gapNumber).key).length = 1)
    (counts : Round.HasNext count) :
    Step.dispatches ⟨.handleExpiry, onChain chain⟩ (lingering timeouts count) =
        [⟨onChain chain, timeoutFor gapNumber⟩] ∧
      Step.next ⟨.handleExpiry, onChain chain⟩ (lingering timeouts count) =
        lingering (timeouts.add (timeoutFor gapNumber)) (count + 1) := by
  have signs : Engine.Signs (onChain chain) (lingering timeouts count) (timeoutFor gapNumber) :=
    ⟨Engine.mayTimeOut_of_eligible eligible, rfl, found, rfl⟩
  have collected := lingering_collects count selected alone
  have prepared := Engine.prepareTimeout_of_signs signs collected.ending
  obtain ⟨-, -, moved⟩ := Engine.prepareTimeout_done eligible prepared
  have after := moved.trans collected.state
  have still : Round.HasNext (Engine.prepareTimeout (onChain chain) (lingering timeouts count)).state.timeoutCount := by
    rw [after]
    exact counts
  obtain ⟨-, next, messages⟩ := Engine.handleExpiry_of_counted eligible prepared still
  rw [after] at next messages
  have listening : (onChain chain).listening = onChain chain := rfl
  refine ⟨?_, next⟩
  unfold Step.dispatches
  rw [Engine.messages_handleExpiry, listening, messages]
  change (timeoutsIn (.timeout (timeoutFor gapNumber) :: Setting.due _ _)).map _ = _
  rw [timeoutsIn_due]
  rfl

def expiries : List Step := [⟨.handleExpiry, onChain firstChain⟩, ⟨.handleExpiry, onChain grownChain⟩]

theorem expiries_run : RunsOn shortEpochs (create (names.map address) shortEpochs.epoch) expiries :=
  .step firstChain_grows rfl rfl (.step grownChain_grows rfl rfl (.stop grownChain))

theorem expiries_dispatches : start.dispatches expiries =
    [⟨onChain firstChain, timeoutFor 1⟩, ⟨onChain grownChain, timeoutFor 2⟩] := by
  have eligible : (onChain firstChain).Eligible := ⟨_, firstChain_switch, by decide⟩
  have remains : (onChain grownChain).Eligible := ⟨_, grownChain_switch, by decide⟩
  have chosen : (Engine.snapshot (onChain grownChain) 2).ending = .done ⟨2, names.map address⟩ := rfl
  have counts : Round.HasNext 0 := by decide
  have further : Round.HasNext (0 + 1) := by decide
  obtain ⟨first, next⟩ := lingering_expires .empty eligible firstChain_gapNumber rfl rfl counts
  obtain ⟨second, -⟩ :=
    lingering_expires (Pool.add .empty (timeoutFor 1)) remains grownChain_gapNumber chosen rfl further
  have begun : start = lingering .empty 0 := rfl
  rw [begun]
  simp only [expiries, EngineState.dispatches, first, next, second]
  rfl

end Sample

section Masternodes

variable {config : ConsensusConfig} {run : List Step}

/-- On a chain in memory with epochs of the configured length, that only grows between the steps of a run, the
gap numbers of the timeouts that a node sends in the run never decrease; and each is that of the block after the
head, if the round of the timeout opens an epoch, and that of the head otherwise. -/
theorem timeouts_never_go_back_to_older_masternodes {masternodes : List Address}
    (runs : RunsOn config (MemoryChain.create masternodes config.epoch) run) (state : EngineState) :
    ((state.dispatches run).map fun dispatch => dispatch.timeout.gapNumber).Pairwise (· ≤ ·) ∧
      ∀ dispatch ∈ state.dispatches run, ∃ opens,
        (Engine.isEpochSwitch dispatch.setting dispatch.timeout.round dispatch.head).ending = .done opens ∧
          (opens = true → Round.HasNext dispatch.head.number) ∧
          dispatch.timeout.gapNumber =
            gapNumber (if opens then dispatch.head.number + 1 else dispatch.head.number) config.epoch config.gap := by
  have suits : (MemoryChain.create masternodes config.epoch).Suits config :=
    ⟨MemoryChain.create_sound masternodes config.epoch, rfl⟩
  constructor
  · rw [List.pairwise_map]
    exact runs.ordered suits state
  · intro dispatch sent
    obtain ⟨aims, -⟩ := runs.dispatched suits state dispatch sent
    have indexed := aims.indexed
    rw [← aims.configured] at indexed
    refine ⟨config.opensEpoch dispatch.timeout.round dispatch.head, ?_, aims.target, aims.gapNumber⟩
    rw [Engine.isEpochSwitch_of_indexes indexed, aims.configured]

end Masternodes

/-- The first timeout is for the first block, which opens an epoch, and the second one for the second block, which
is the head by then. -/
theorem later_timeout_for_later_masternodes :
    RunsOn Sample.shortEpochs (MemoryChain.create (Sample.names.map Sample.address) Sample.shortEpochs.epoch)
        Sample.expiries ∧
      (Sample.start.dispatches Sample.expiries).map (fun dispatch => dispatch.timeout.gapNumber) = [1, 2] ∧
      ((Sample.start.dispatches Sample.expiries).map fun dispatch => dispatch.timeout.gapNumber).Pairwise
        (· ≤ ·) := by
  obtain ⟨ordered, -⟩ := timeouts_never_go_back_to_older_masternodes Sample.expiries_run Sample.start
  refine ⟨Sample.expiries_run, ?_, ordered⟩
  rw [Sample.expiries_dispatches]
  rfl

end MasternodeBft
