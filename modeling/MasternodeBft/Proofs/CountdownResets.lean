import MasternodeBft.Proofs.Deeds

/-!
When the countdown is reset. The values that the current round is given are recorded one by one, each with the
one that it takes the place of, and the countdown starts again with each of them. The records are complete:
every value is what the next one takes the place of, and the last of them is the current round.
-/

namespace MasternodeBft

open MasternodeBft.Action

def countdownCommands (effects : List Effect) : List Effect :=
  effects.filter fun
    | .reset _ _ => true
    | _ => false

theorem countdownCommands_append (first rest : List Effect) :
    countdownCommands (first ++ rest) = countdownCommands first ++ countdownCommands rest :=
  List.filter_append first rest

theorem countdownCommands_notices (notices : List Notice) : countdownCommands (notices.map .notice) = [] := by
  induction notices with
  | nil => rfl
  | cons notice rest ih => exact ih

/-- A value that the current round is given in place of a former one, and what is around the node then. -/
structure Entry where
  former : Round
  round : Round
  setting : Setting

/-- The countdown starts again, with the period of the round, if somebody takes the command. -/
def Entry.commands (entry : Entry) : List Effect :=
  if entry.setting.commandsTaken then
    [.reset entry.round (entry.setting.configAt entry.round).timeoutPeriodSecs]
  else []

def entriesIn (setting : Setting) (effects : List Effect) : List Entry :=
  effects.filterMap fun
    | .entered former round => some ⟨former, round, setting⟩
    | _ => none

theorem entriesIn_append (setting : Setting) (first rest : List Effect) :
    entriesIn setting (first ++ rest) = entriesIn setting first ++ entriesIn setting rest :=
  List.filterMap_append

theorem entriesIn_notices (setting : Setting) (notices : List Notice) :
    entriesIn setting (notices.map .notice) = [] := by
  induction notices with
  | nil => rfl
  | cons notice rest ih => exact ih

/-- What the values that the current round is given on the way from one round to another look like. -/
structure Ascends (first : Round) (entries : List Entry) (last : Round) : Prop where
  increasing : (first :: entries.map Entry.round).Pairwise (· < ·)
  linked : entries.map Entry.former = (first :: entries.map Entry.round).dropLast
  arrives : last = (entries.map Entry.round).getLastD first

namespace Ascends

variable {first middle last : Round} {entry : Entry} {entries rest : List Entry}

theorem nil (round : Round) : Ascends round [] round := ⟨List.pairwise_singleton _ _, rfl, rfl⟩

theorem cons (leaves : entry.former = first) (later : first < entry.round)
    (ascends : Ascends entry.round entries last) : Ascends first (entry :: entries) last where
  increasing := by
    have above := List.pairwise_cons.mp ascends.increasing
    refine List.pairwise_cons.mpr ⟨fun round listed => ?_, ascends.increasing⟩
    rcases List.mem_cons.mp listed with rfl | listed
    · exact later
    · exact UInt64.lt_trans later (above.1 round listed)
  linked := by
    rw [List.map_cons, List.map_cons, List.dropLast_cons_cons, leaves, ascends.linked]
  arrives := by
    rw [ascends.arrives, List.map_cons, List.getLastD_cons]

theorem uncons (ascends : Ascends first (entry :: entries) last) :
    entry.former = first ∧ first < entry.round ∧ Ascends entry.round entries last := by
  have above := List.pairwise_cons.mp ascends.increasing
  have linked := ascends.linked
  rw [List.map_cons, List.map_cons, List.dropLast_cons_cons] at linked
  obtain ⟨leaves, onward⟩ := List.cons.inj linked
  have arrives := ascends.arrives
  rw [List.map_cons, List.getLastD_cons] at arrives
  exact ⟨leaves, above.1 entry.round List.mem_cons_self, above.2, onward, arrives⟩

theorem append (begun : Ascends first entries middle) (ended : Ascends middle rest last) :
    Ascends first (entries ++ rest) last := by
  induction entries generalizing first with
  | nil =>
    cases begun.arrives
    exact ended
  | cons entry others ih =>
    obtain ⟨leaves, later, onward⟩ := begun.uncons
    exact .cons leaves later (ih onward)

theorem eq_nil (ascends : Ascends first entries first) : entries = [] := by
  cases entries with
  | nil => rfl
  | cons entry rest =>
    have above := (List.pairwise_cons.mp ascends.increasing).1
    have last : (rest.map Entry.round).getLastD entry.round ∈ entry.round :: rest.map Entry.round :=
      List.getLastD_mem_cons
    rw [← List.getLastD_cons, ← List.map_cons, ← ascends.arrives] at last
    exact absurd (above first last) (UInt64.lt_irrefl first)

end Ascends

/-- The countdown starts again with each value that the current round is given, and these ascend. -/
structure Timed (setting : Setting) (first : EngineState) (effects : List Effect) (last : EngineState) : Prop where
  ascends : Ascends first.round.currentRound (entriesIn setting effects) last.round.currentRound
  commands : countdownCommands effects = (entriesIn setting effects).flatMap Entry.commands

namespace Timed

variable {setting : Setting} {state : EngineState}

theorem composes : Composes (Timed setting) where
  noted state notices := by
    constructor
    · rw [entriesIn_notices]
      exact .nil _
    · rw [entriesIn_notices, countdownCommands_notices]
      rfl
  trans begun ended := by
    constructor
    · rw [entriesIn_append]
      exact begun.ascends.append ended.ascends
    · rw [entriesIn_append, countdownCommands_append, begun.commands, ended.commands, List.flatMap_append]

theorem of_same {first last : EngineState} (same : last.round.currentRound = first.round.currentRound) :
    Timed setting first [] last := ⟨same ▸ .nil _, rfl⟩

end Timed

/-! The parts of a step. -/

namespace Engine

variable {setting : Setting} {state : EngineState}

theorem enterRound_timed {round : Round} (later : state.round.currentRound < round) :
    (enterRound setting round).Obeys (Timed setting) state := by
  have effects : entriesIn setting (enterRound setting round state).effects =
      [⟨state.round.currentRound, round, setting⟩] := by
    unfold enterRound resetCountdown
    cases setting.commandsTaken <;> rfl
  have commands : countdownCommands (enterRound setting round state).effects =
      Entry.commands ⟨state.round.currentRound, round, setting⟩ := by
    unfold enterRound resetCountdown Entry.commands
    cases setting.commandsTaken <;> rfl
  constructor
  · rw [effects, enterRound_state]
    exact .cons rfl later (.nil round)
  · rw [effects, commands, List.flatMap_singleton]

theorem leaveRound_timed (round : Round) : (leaveRound setting round).Obeys (Timed setting) state := by
  unfold Obeys
  rw [leaveRound_eq]
  split
  · rename_i reached
    split
    · rename_i next
      have later : state.round.currentRound < round + 1 := by
        rw [UInt64.le_iff_toNat_le] at reached
        rw [UInt64.lt_iff_toNat_lt, Round.toNat_add_one next]
        omega
      exact enterRound_timed later
    · exact .of_same rfl
  · exact .of_same rfl

theorem process_timed (cert : AnyCert) : (process setting cert).Obeys (Timed setting) state :=
  obeys_process Timed.composes cert (.of_same (by cases cert <;> rfl)) fun _ => leaveRound_timed cert.round

end Engine

variable {setting : Setting}

theorem Deed.SparesCountdown.timed {deed : Deed} (spares : deed.SparesCountdown) (state : EngineState) :
    (deed.action setting).Obeys (Timed setting) state := by
  cases deed with
  | process cert => exact Engine.process_timed cert
  | emit effect =>
    cases effect with
    | notice | broadcast => exact ⟨.nil _, rfl⟩
    | reset | entered => exact spares.elim
  | _ => exact .of_same rfl

/-! Steps and runs. -/

def Step.entries (step : Step) (state : EngineState) : List Entry :=
  entriesIn step.setting (step.outcome state).effects

theorem Step.timed {step : Step} (running : step.operation ≠ .start) (state : EngineState) :
    Timed step.setting state (step.outcome state).effects (step.next state) := by
  have made : MadeOf step.setting (step.operation.Allows step.setting state) _ := step.operation.made
  exact made.obeys Timed.composes
    (fun deed allowed => (Operation.sparesCountdown_of_allows allowed running).timed) state

namespace EngineState

def effects (state : EngineState) : List Step → List Effect
  | [] => []
  | step :: rest => (step.outcome state).effects ++ effects (step.next state) rest

/-- The values that a run gives the current round, each with the setting of the step in which it does. -/
def entries (state : EngineState) : List Step → List Entry
  | [] => []
  | step :: rest => step.entries state ++ entries (step.next state) rest

theorem entries_ascend (state : EngineState) {run : List Step} (running : ∀ step ∈ run, step.operation ≠ .start) :
    Ascends state.round.currentRound (state.entries run) (state.after run).round.currentRound := by
  induction run generalizing state with
  | nil => exact .nil _
  | cons step rest ih =>
    obtain ⟨first, others⟩ := List.forall_mem_cons.mp running
    exact (Step.timed first state).ascends.append (ih (step.next state) others)

theorem commands_of_entries (state : EngineState) {run : List Step}
    (running : ∀ step ∈ run, step.operation ≠ .start) :
    countdownCommands (state.effects run) = (state.entries run).flatMap Entry.commands := by
  induction run generalizing state with
  | nil => rfl
  | cons step rest ih =>
    obtain ⟨first, others⟩ := List.forall_mem_cons.mp running
    unfold effects entries
    rw [countdownCommands_append, List.flatMap_append, (Step.timed first state).commands,
      ih (step.next state) others]
    rfl

end EngineState

theorem Step.idle_of_same {step : Step} (running : step.operation ≠ .start) {state : EngineState}
    (same : (step.next state).round.currentRound = state.round.currentRound) :
    step.entries state = [] ∧ countdownCommands (step.outcome state).effects = [] := by
  have timed := Step.timed running state
  have none : step.entries state = [] := Ascends.eq_nil (same ▸ timed.ascends)
  refine ⟨none, timed.commands.trans ?_⟩
  change (step.entries state).flatMap Entry.commands = []
  rw [none]
  rfl

/-- The commands for the countdown are one for each value that the current round is given, in that order, with
the period of that round; these values increase, from the initial round to the current one, so none is given
twice; and a step that leaves the current round as it is leaves the countdown alone. -/
theorem countdown_reset_once_per_round (state : EngineState) (run : List Step)
    (running : ∀ step ∈ run, step.operation ≠ .start) :
    countdownCommands (state.effects run) = (state.entries run).flatMap Entry.commands ∧
      Ascends state.round.currentRound (state.entries run) (state.after run).round.currentRound ∧
      ∀ before step after, run = before ++ step :: after →
        (step.next (state.after before)).round.currentRound = (state.after before).round.currentRound →
        step.entries (state.after before) = [] ∧
          countdownCommands (step.outcome (state.after before)).effects = [] := by
  refine ⟨state.commands_of_entries running, state.entries_ascend running, ?_⟩
  intro before step after split same
  have listed : step ∈ run := split ▸ List.mem_append_right before List.mem_cons_self
  exact Step.idle_of_same (running step listed) same

theorem countdown_reset_on_way_to_third_round :
    (∀ step ∈ Sample.run, step.operation ≠ .start) ∧
      countdownCommands (Sample.start.effects Sample.run) =
        (Sample.start.entries Sample.run).flatMap Entry.commands ∧
      Ascends 1 (Sample.start.entries Sample.run) 3 ∧
      ∀ before step after, Sample.run = before ++ step :: after →
        (step.next (Sample.start.after before)).round.currentRound = (Sample.start.after before).round.currentRound →
        step.entries (Sample.start.after before) = [] ∧
          countdownCommands (step.outcome (Sample.start.after before)).effects = [] := by
  have quorum (cert : QuorumCert) : Operation.processQuorum cert ≠ .start := nofun
  have timeout (cert : TimeoutCert) : Operation.processTimeoutCert cert ≠ .start := nofun
  have running : ∀ step ∈ Sample.run, step.operation ≠ .start := by
    unfold Sample.run
    rw [List.forall_mem_cons, List.forall_mem_singleton]
    exact ⟨quorum _, timeout _⟩
  obtain ⟨commands, ascends, idle⟩ := countdown_reset_once_per_round Sample.start Sample.run running
  rw [Sample.after_run_round] at ascends
  exact ⟨running, commands, ascends, idle⟩

end MasternodeBft
