import MasternodeBft.Proofs.ExpiryMessages

/-!
The count of a node's own timeouts. It counts those that have been sent since the current round began: a
timeout is sent after it has been collected, so that one which has completed the certificate that ends its round
counts for the round after.
-/

namespace MasternodeBft

open MasternodeBft.Action

/-! What a node sends, whether or not somebody takes it. -/

def Setting.listening (setting : Setting) : Setting := { setting with messagesTaken := true }

namespace Engine

variable {setting : Setting}

theorem replayBucket_listening (key : SyncKey) (bundles : List SyncInfo) :
    replayBucket setting.listening key bundles = replayBucket setting key bundles := by
  induction bundles with
  | nil => rfl
  | cons bundle rest ih =>
    have first : takeUp setting.listening bundle = takeUp setting bundle := rfl
    unfold replayBucket
    rw [ih, first]
    rfl

theorem replayKeys_listening (keys : List SyncKey) :
    replayKeys setting.listening keys = replayKeys setting keys := by
  induction keys with
  | nil => rfl
  | cons key rest ih =>
    unfold replayKeys
    rw [ih]
    simp only [replayBucket_listening]
    rfl

theorem signTimeout_listening : signTimeout setting.listening = signTimeout setting := by
  have collects : collectTimeout setting.listening = collectTimeout setting := rfl
  have gapNumber : timeoutGapNumber setting.listening = timeoutGapNumber setting := rfl
  have own : ownTimeout setting.listening = ownTimeout setting := rfl
  unfold signTimeout
  rw [collects, gapNumber, own]

theorem prepareTimeout_listening : prepareTimeout setting.listening = prepareTimeout setting := by
  have replayed : replay setting.listening = replay setting := by
    unfold replay
    simp only [replayKeys_listening]
    rfl
  unfold prepareTimeout
  rw [replayed, signTimeout_listening]

end Engine

def Step.messages (step : Step) (state : EngineState) : List Message :=
  messagesIn (Step.outcome ⟨step.operation, step.setting.listening⟩ state).effects

def timeoutsIn (messages : List Message) : List Timeout :=
  messages.filterMap fun
    | .timeout timeout => some timeout
    | _ => none

/-- A timeout that a node has sent, and the round that the node was in when it sent it. -/
structure SentTimeout where
  timeout : Timeout
  during : Round

/-- The timeouts among the effects of what begins in a round, each with the round that is entered last before it
is sent. -/
def sentFrom (current : Round) : List Effect → List SentTimeout
  | [] => []
  | .entered _ round :: rest => sentFrom round rest
  | .broadcast (.timeout timeout) :: rest => ⟨timeout, current⟩ :: sentFrom current rest
  | _ :: rest => sentFrom current rest

theorem map_timeout_sentFrom (current : Round) (effects : List Effect) :
    (sentFrom current effects).map SentTimeout.timeout = timeoutsIn (messagesIn effects) := by
  induction effects generalizing current with
  | nil => rfl
  | cons effect rest ih =>
    cases effect with
    | entered _ round => exact ih round
    | broadcast message =>
      cases message with
      | timeout timeout => exact congrArg (timeout :: ·) (ih current)
      | _ => exact ih current
    | _ => exact ih current

def Step.sentTimeouts (step : Step) (state : EngineState) : List SentTimeout :=
  sentFrom state.round.currentRound (Step.outcome ⟨step.operation, step.setting.listening⟩ state).effects

namespace EngineState

def sentTimeouts (state : EngineState) : List Step → List SentTimeout
  | [] => []
  | step :: rest => step.sentTimeouts state ++ (step.next state).sentTimeouts rest

theorem sentTimeouts_concat (state : EngineState) (run : List Step) (step : Step) :
    state.sentTimeouts (run ++ [step]) = state.sentTimeouts run ++ step.sentTimeouts (state.after run) := by
  induction run generalizing state with
  | nil => exact List.append_nil _
  | cons first rest ih =>
    change first.sentTimeouts state ++ (first.next state).sentTimeouts (rest ++ [step]) = _
    rw [ih, ← List.append_assoc]
    rfl

/-- The count stays as it is as long as the round does, and begins anew with a later one. -/
def CountsOn (earlier later : EngineState) : Prop :=
  (later.round.currentRound = earlier.round.currentRound ∧ later.timeoutCount = earlier.timeoutCount) ∨
    (earlier.round.currentRound < later.round.currentRound ∧ later.timeoutCount = 0)

namespace CountsOn

variable {first middle last : EngineState}

theorem refl (state : EngineState) : state.CountsOn state := .inl ⟨rfl, rfl⟩

theorem trans (begun : first.CountsOn middle) (ended : middle.CountsOn last) : first.CountsOn last := by
  rcases begun with ⟨sameRound, sameCount⟩ | ⟨later, anew⟩
  · rcases ended with ⟨stays, kept⟩ | ⟨later, anew⟩
    · exact .inl ⟨stays.trans sameRound, kept.trans sameCount⟩
    · exact .inr ⟨sameRound ▸ later, anew⟩
  · rcases ended with ⟨stays, kept⟩ | ⟨evenLater, anew⟩
    · exact .inr ⟨stays ▸ later, kept.trans anew⟩
    · exact .inr ⟨UInt64.lt_trans later evenLater, anew⟩

theorem le (goes : first.CountsOn last) : first.round.currentRound ≤ last.round.currentRound := by
  rcases goes with ⟨same, -⟩ | ⟨later, -⟩
  · exact UInt64.le_of_eq same.symm
  · exact UInt64.le_of_lt later

theorem leave (state : EngineState) (round : Round) : state.CountsOn (state.leave round) := by
  unfold EngineState.leave
  split
  · rename_i leaves
    obtain ⟨reached, next⟩ := leaves
    refine .inr ⟨?_, rfl⟩
    change state.round.currentRound < round + 1
    rw [UInt64.lt_iff_toNat_lt, Round.toNat_add_one next]
    rw [UInt64.le_iff_toNat_le] at reached
    omega
  · exact .refl state

end CountsOn

end EngineState

theorem Engine.Fate.countsOn {setting : Setting} {state : EngineState} {cert : AnyCert} {outcome : Outcome Unit}
    (fate : Engine.Fate setting state cert outcome) : state.CountsOn outcome.state := by
  cases fate with
  | stale _ _ kept | rejected _ _ _ kept =>
    rw [kept]
    exact .refl state
  | adopted _ _ _ _ moved | stuck _ _ _ _ moved =>
    rw [moved]
    cases cert <;> exact .leave { state with round := state.round.install _ } _

theorem Deed.Silent.countsOn {setting : Setting} {deed : Deed} (silent : deed.Silent) (state : EngineState) :
    state.CountsOn (deed.action setting state).state := by
  cases deed with
  | process cert => exact (Engine.process_fate cert).countsOn
  | countTimeouts => exact silent.elim
  | _ => exact .refl state

theorem MadeOf.countsOn {setting : Setting} {α : Type} {allowed : Deed → Prop} {action : Action α}
    (made : MadeOf setting allowed action) (silent : ∀ deed, allowed deed → deed.Silent) (state : EngineState) :
    state.CountsOn (action state).state := by
  have kept : action.Keeps state.CountsOn False := made.keeps fun deed fits =>
    .of_sure fun middle begun => begun.trans ((silent deed fits).countsOn middle)
  exact (kept state (.refl state)).resolve_right fun stopped => stopped.1

/-! In which round a timeout is sent. Rounds are entered before it is, and not after. -/

def Leads : Transition := fun first effects last =>
  ∀ rest, sentFrom first.round.currentRound (effects ++ rest) = sentFrom last.round.currentRound rest

theorem Leads.composes : Composes Leads where
  noted state notices rest := by
    induction notices with
    | nil => rfl
    | cons notice others ih => exact ih
  trans begun ended rest := by
    rw [List.append_assoc, begun, ended]

structure Stays (first : EngineState) (effects : List Effect) (last : EngineState) : Prop where
  round : last.round.currentRound = first.round.currentRound
  entered : ∀ former round, .entered former round ∉ effects

namespace Stays

theorem composes : Composes Stays where
  noted _ notices := by
    refine ⟨rfl, fun former round among => ?_⟩
    obtain ⟨_, -, same⟩ := List.mem_map.mp among
    cases same
  trans begun ended := by
    refine ⟨ended.round.trans begun.round, fun former round among => ?_⟩
    exact (List.mem_append.mp among).elim (begun.entered former round) (ended.entered former round)

theorem emit {state : EngineState} {effect : Effect} (other : ∀ former round, effect ≠ .entered former round) :
    (Action.emit effect).Obeys Stays state :=
  ⟨rfl, fun former round among => other former round (List.mem_singleton.mp among).symm⟩

theorem sentFrom_eq {first last : EngineState} {effects : List Effect} (stays : Stays first effects last)
    (round : Round) :
    sentFrom round effects = (timeoutsIn (messagesIn effects)).map fun timeout => ⟨timeout, round⟩ := by
  obtain ⟨-, none⟩ := stays
  induction effects with
  | nil => rfl
  | cons effect rest ih =>
    have others := ih fun former entered among => none former entered (List.mem_cons_of_mem _ among)
    cases effect with
    | entered former entered => exact absurd List.mem_cons_self (none former entered)
    | broadcast message =>
      cases message with
      | timeout timeout => exact congrArg (⟨timeout, round⟩ :: ·) others
      | _ => exact others
    | _ => exact others

end Stays

/-- A timeout that is sent after the last round has been entered is sent in the round in which the step ends. -/
theorem sentFrom_of_inTurn {first last : EngineState} {effects : List Effect}
    (inTurn : InTurn Leads Stays first effects last) :
    sentFrom first.round.currentRound effects =
      (timeoutsIn (messagesIn effects)).map fun timeout => ⟨timeout, last.round.currentRound⟩ := by
  obtain ⟨middle, before, after, leads, stays, rfl⟩ := inTurn
  have nothing : timeoutsIn (messagesIn before) = [] := by
    have unsent := leads []
    rw [List.append_nil] at unsent
    rw [← map_timeout_sentFrom, unsent]
    rfl
  have split : timeoutsIn (messagesIn (before ++ after)) = timeoutsIn (messagesIn after) := by
    unfold timeoutsIn at nothing ⊢
    rw [messagesIn_append, List.filterMap_append, nothing, List.nil_append]
  rw [leads, split, stays.round]
  exact stays.sentFrom_eq _

namespace Engine

variable {setting : Setting} {state : EngineState}

theorem leaveRound_leads (round : Round) : (leaveRound setting round).Obeys Leads state := by
  intro rest
  rw [leaveRound_eq]
  split
  · split
    · rw [enterRound_state]
      unfold enterRound resetCountdown
      cases setting.commandsTaken <;> rfl
    · rfl
  · rfl

theorem process_leads (cert : AnyCert) : (process setting cert).Obeys Leads state :=
  obeys_process Leads.composes cert (fun _ => by cases cert <;> rfl) fun _ => leaveRound_leads cert.round

end Engine

theorem Deed.Common.leads {setting : Setting} {deed : Deed} (common : deed.Common) (state : EngineState) :
    (deed.action setting).Obeys Leads state := by
  cases deed with
  | process cert => exact Engine.process_leads cert
  | emit effect =>
    cases effect with
    | notice => exact fun _ => rfl
    | broadcast => exact common.silent.elim
    | reset | entered => exact common.countdown.elim
  | _ => exact fun _ => rfl

namespace Engine

variable {setting : Setting} {state : EngineState}

theorem broadcast_stays (message : Message) : (broadcast setting message).Obeys Stays state :=
  obeys_ite (fun _ => .emit nofun) fun _ => .emit nofun

theorem countTimeout_stays : countTimeout.Obeys Stays state := by
  refine obeys_bind Stays.composes (Stays.composes.noted state []) fun _ _ => ?_
  refine obeys_bind Stays.composes (obeys_ofCheck Stays.composes _) fun _ _ => ?_
  exact ⟨rfl, fun _ _ => List.not_mem_nil⟩

theorem sendSyncInfo_stays : (sendSyncInfo setting).Obeys Stays state := by
  refine obeys_bind Stays.composes (Stays.composes.noted state []) fun _ _ => ?_
  refine obeys_ite (fun _ => ?_) fun _ => obeys_pure Stays.composes ()
  exact obeys_bind Stays.composes (obeys_note Stays.composes _) fun _ _ => broadcast_stays _

theorem sendTimeout_inTurn : (sendTimeout setting).Obeys (InTurn Leads Stays) state := by
  refine obeys_early_bind Leads.composes Stays.composes (Leads.composes.noted state []) fun _ _ => ?_
  refine obeys_early_bind Leads.composes Stays.composes (obeys_ofCheck Leads.composes _) fun _ _ => ?_
  refine obeys_early_bind Leads.composes Stays.composes (obeys_note Leads.composes _) fun _ _ => ?_
  refine obeys_early_bind Leads.composes Stays.composes ?_ fun _ _ => ?_
  · exact (collectTimeout_made (fun _ common => common) _).obeys Leads.composes (fun _ => Deed.Common.leads) _
  · exact ⟨_, [], _, Leads.composes.noted _ [], broadcast_stays _, rfl⟩

theorem handleExpiry_inTurn (setting : Setting) (state : EngineState) :
    (handleExpiry setting).Obeys (InTurn Leads Stays) state := by
  refine obeys_early_bind Leads.composes Stays.composes (obeys_ofCheck Leads.composes _) fun _ _ => ?_
  refine obeys_ite (fun _ => ?_) fun _ => obeys_inTurn_of_early Stays.composes (obeys_pure Leads.composes ())
  refine obeys_early_bind Leads.composes Stays.composes ?_ fun _ _ => ?_
  · exact (replay_made fun _ common => common).obeys Leads.composes (fun _ => Deed.Common.leads) state
  refine obeys_bind_late Stays.composes ?_ fun _ _ => ?_
  · refine obeys_bind_late Stays.composes (obeys_attempt sendTimeout_inTurn) fun result _ => ?_
    cases result with
    | ok value => exact obeys_pure Stays.composes value
    | error cause =>
      refine obeys_bind Stays.composes (Stays.composes.noted _ []) fun _ _ => ?_
      exact obeys_bind Stays.composes (obeys_note Stays.composes _) fun _ _ => obeys_ofCheck Stays.composes _
  · exact obeys_bind Stays.composes countTimeout_stays fun _ _ => sendSyncInfo_stays

end Engine

/-! What an expiry of the countdown counts. -/

theorem timeoutsIn_due (setting : Setting) (timeout : Timeout) (state : EngineState) :
    timeoutsIn (.timeout timeout :: setting.due state) = [timeout] := by
  rcases Engine.due_cases setting state with early | due
  · rw [early]
    rfl
  · rw [due]
    rfl

namespace Engine

variable {setting : Setting} {state : EngineState} {timeout : Timeout}

theorem prepareTimeout_countsOn : state.CountsOn (prepareTimeout setting state).state :=
  (prepareTimeout_made fun _ common => common.silent).countsOn (fun _ => id) state

theorem replay_countsOn : state.CountsOn (replay setting state).state :=
  (replay_made fun _ common => common.silent).countsOn (fun _ => id) state

theorem prepareTimeout_near (eligible : setting.Eligible)
    (done : (prepareTimeout setting state).ending = .done timeout) :
    state.round.currentRound ≤ timeout.round ∧
      ((prepareTimeout setting state).state.round.currentRound = timeout.round ∨
        (timeout.round.HasNext ∧
          (prepareTimeout setting state).state.round.currentRound = timeout.round + 1)) := by
  obtain ⟨signs, collected, after⟩ := prepareTimeout_done eligible done
  have current : timeout.round = (replay setting state).state.round.currentRound := congrArg Timeout.round signs.own
  refine ⟨current ▸ replay_countsOn.le, ?_⟩
  rw [after]
  exact (collectTimeout_collected current collected).currentRound current

inductive Expires (setting : Setting) (state : EngineState) (outcome : Outcome Unit) : List Message → Prop
  | silent (goes : state.CountsOn outcome.state) : Expires setting state outcome []
  | counted (timeout : Timeout) (eligible : setting.Eligible)
      (prepared : (prepareTimeout setting state).ending = .done timeout)
      (counts : Round.HasNext (prepareTimeout setting state).state.timeoutCount) (done : outcome.ending = .done ())
      (after : outcome.state = (prepareTimeout setting state).state.counted) :
      Expires setting state outcome (.timeout timeout :: setting.due (prepareTimeout setting state).state.counted)
  | uncounted (timeout : Timeout) (eligible : setting.Eligible)
      (prepared : (prepareTimeout setting state).ending = .done timeout)
      (full : ¬Round.HasNext (prepareTimeout setting state).state.timeoutCount)
      (overflowed : outcome.ending = .overflowed) (after : outcome.state = (prepareTimeout setting state).state) :
      Expires setting state outcome [.timeout timeout]

theorem next_handleExpiry (setting : Setting) (state : EngineState) :
    Step.next ⟨.handleExpiry, setting⟩ state = (handleExpiry setting state).state := rfl

theorem messages_handleExpiry (setting : Setting) (state : EngineState) :
    Step.messages ⟨.handleExpiry, setting⟩ state = messagesIn (handleExpiry setting.listening state).effects := rfl

theorem handleExpiry_expires (setting : Setting) (state : EngineState) :
    Expires setting state (handleExpiry setting state) (Step.messages ⟨.handleExpiry, setting⟩ state) := by
  rw [messages_handleExpiry]
  by_cases eligible : setting.Eligible
  · have listening : setting.listening.Eligible := eligible
    have alike : prepareTimeout setting.listening state = prepareTimeout setting state :=
      congrFun prepareTimeout_listening state
    by_cases ready : ∃ timeout, (prepareTimeout setting state).ending = .done timeout
    · obtain ⟨timeout, prepared⟩ := ready
      have heard : (prepareTimeout setting.listening state).ending = .done timeout := alike ▸ prepared
      by_cases counts : Round.HasNext (prepareTimeout setting state).state.timeoutCount
      · obtain ⟨done, after, -⟩ := handleExpiry_of_counted eligible prepared counts
        obtain ⟨-, -, messages⟩ := handleExpiry_of_counted listening heard (alike ▸ counts)
        rw [messages, alike]
        exact .counted timeout eligible prepared counts done after
      · obtain ⟨overflowed, after, -⟩ := handleExpiry_of_uncounted eligible prepared counts
        obtain ⟨-, -, messages⟩ := handleExpiry_of_uncounted listening heard (alike ▸ counts)
        rw [messages]
        exact .uncounted timeout eligible prepared counts overflowed after
    · have unprepared : ∀ timeout, (prepareTimeout setting state).ending ≠ .done timeout :=
        fun timeout prepared => ready ⟨timeout, prepared⟩
      obtain ⟨after, -⟩ := handleExpiry_of_unprepared eligible unprepared
      obtain ⟨-, silent⟩ := handleExpiry_of_unprepared listening (alike ▸ unprepared)
      rw [silent]
      exact .silent (after ▸ prepareTimeout_countsOn)
  · have barred : ¬setting.listening.Eligible := eligible
    rw [(handleExpiry_of_barred barred state).messages]
    exact .silent ((handleExpiry_of_barred eligible state).state ▸ .refl state)

end Engine

namespace Engine

variable {setting : Setting} {state : EngineState} {timeout : Timeout}

theorem announce_listening :
    (announce setting.listening timeout state).state = (announce setting timeout state).state := by
  by_cases counts : Round.HasNext state.timeoutCount
  · rw [(announce_of_counted counts).2.1, (announce_of_counted counts).2.1]
  · rw [(announce_of_uncounted counts).2.1, (announce_of_uncounted counts).2.1]

theorem handleExpiry_listening (setting : Setting) (state : EngineState) :
    (handleExpiry setting.listening state).state = (handleExpiry setting state).state := by
  by_cases eligible : setting.Eligible
  · have listening : setting.listening.Eligible := eligible
    rw [(handleExpiry_agrees listening state).state, (handleExpiry_agrees eligible state).state,
      prepareTimeout_listening]
    cases ended : (prepareTimeout setting state).ending with
    | done timeout =>
      rw [bind_of_done ended, bind_of_done ended]
      exact announce_listening
    | refused error => rw [bind_of_refused ended, bind_of_refused ended]
    | overflowed => rw [bind_of_overflowed ended, bind_of_overflowed ended]
  · have barred : ¬setting.listening.Eligible := eligible
    rw [(handleExpiry_of_barred barred state).state, (handleExpiry_of_barred eligible state).state]

theorem sentTimeouts_handleExpiry (setting : Setting) (state : EngineState) :
    Step.sentTimeouts ⟨.handleExpiry, setting⟩ state =
      (timeoutsIn (Step.messages ⟨.handleExpiry, setting⟩ state)).map fun timeout =>
        ⟨timeout, (handleExpiry setting state).state.round.currentRound⟩ := by
  rw [← handleExpiry_listening]
  exact sentFrom_of_inTurn (handleExpiry_inTurn setting.listening state)

end Engine

/-- How a step counts the timeouts that it sends. At most one is sent, and it is counted in the round that
the collection of it has led to, as far as numbers go. -/
inductive CountStep (earlier later : EngineState) : List SentTimeout → Prop
  | silent (goes : earlier.CountsOn later) : CountStep earlier later []
  | sent {prepared : EngineState} (timeout : Timeout) (goes : earlier.CountsOn prepared)
      (reached : earlier.round.currentRound ≤ timeout.round)
      (near : later.round.currentRound = timeout.round ∨
        (timeout.round.HasNext ∧ later.round.currentRound = timeout.round + 1))
      (same : later.round.currentRound = prepared.round.currentRound)
      (count : later.timeoutCount.toNat = min (prepared.timeoutCount.toNat + 1) (UInt64.size - 1)) :
      CountStep earlier later [⟨timeout, later.round.currentRound⟩]

theorem Engine.Expires.counts {setting : Setting} {state : EngineState} {outcome : Outcome Unit}
    {messages : List Message} (expires : Engine.Expires setting state outcome messages) :
    CountStep state outcome.state
      ((timeoutsIn messages).map fun timeout => ⟨timeout, outcome.state.round.currentRound⟩) := by
  cases expires with
  | silent goes => exact .silent goes
  | counted timeout eligible prepared counts done after =>
    obtain ⟨reached, near⟩ := Engine.prepareTimeout_near eligible prepared
    rw [timeoutsIn_due, after]
    refine .sent timeout Engine.prepareTimeout_countsOn reached near rfl ?_
    have counted : (Engine.prepareTimeout setting state).state.counted.timeoutCount.toNat = _ :=
      Round.toNat_add_one counts
    unfold Round.HasNext at counts
    omega
  | uncounted timeout eligible prepared full overflowed after =>
    obtain ⟨reached, near⟩ := Engine.prepareTimeout_near eligible prepared
    rw [after]
    refine .sent timeout Engine.prepareTimeout_countsOn reached near rfl ?_
    have below := (Engine.prepareTimeout setting state).state.timeoutCount.toNat_lt_size
    unfold Round.HasNext at full
    omega

theorem Step.messages_of_other {step : Step} (other : step.operation ≠ .handleExpiry) (state : EngineState) :
    step.messages state = [] := @Step.quiet_of_other ⟨step.operation, step.setting.listening⟩ other state

theorem Step.sentTimeouts_of_other {step : Step} (other : step.operation ≠ .handleExpiry) (state : EngineState) :
    step.sentTimeouts state = [] := by
  apply List.map_eq_nil_iff.mp
  rw [Step.sentTimeouts, map_timeout_sentFrom]
  exact congrArg timeoutsIn (Step.messages_of_other other state)

theorem Step.counts (step : Step) (state : EngineState) :
    CountStep state (step.next state) (step.sentTimeouts state) := by
  by_cases expiry : step.operation = .handleExpiry
  · obtain ⟨operation, setting⟩ := step
    cases expiry
    rw [Engine.sentTimeouts_handleExpiry]
    exact (Engine.handleExpiry_expires setting state).counts
  · rw [Step.sentTimeouts_of_other expiry]
    have made : MadeOf step.setting (step.operation.Allows step.setting state) _ := step.operation.made
    exact .silent (made.countsOn (fun deed allowed => Operation.silent_of_allows allowed expiry) state)

/-! What the count is, after a run. -/

def sentOf (sent : List SentTimeout) (round : Round) : Nat := sent.countP fun each => each.timeout.round = round

/-- How many timeouts of other rounds have been sent during a round. -/
def carriedInto (sent : List SentTimeout) (round : Round) : Nat :=
  sent.countP fun each => each.during = round ∧ each.timeout.round ≠ round

def sentDuring (sent : List SentTimeout) (round : Round) : Nat := sent.countP fun each => each.during = round

/-- What the count of a node has to do with the timeouts that it has sent. -/
structure AccountsFor (sent : List SentTimeout) (state : EngineState) : Prop where
  count : state.timeoutCount.toNat = min (sentDuring sent state.round.currentRound) (UInt64.size - 1)
  past : ∀ each ∈ sent, each.during ≤ state.round.currentRound
  near : ∀ each ∈ sent, each.during = each.timeout.round ∨
    (each.timeout.round.HasNext ∧ each.during = each.timeout.round + 1)
  once : carriedInto sent state.round.currentRound ≤ 1

theorem sentDuring_concat (sent : List SentTimeout) (timeout : Timeout) (round : Round) :
    sentDuring (sent ++ [⟨timeout, round⟩]) round = sentDuring sent round + 1 := by
  unfold sentDuring
  rw [List.countP_append, List.countP_singleton, if_pos (decide_eq_true rfl)]

theorem carriedInto_concat (sent : List SentTimeout) (timeout : Timeout) (round : Round) :
    carriedInto (sent ++ [⟨timeout, round⟩]) round =
      carriedInto sent round + if timeout.round = round then 0 else 1 := by
  unfold carriedInto
  rw [List.countP_append, List.countP_singleton]
  by_cases own : timeout.round = round <;> simp [own]

namespace AccountsFor

variable {sent : List SentTimeout} {state earlier later : EngineState} {round : Round}

/-! Nothing has been sent during a round that has not begun. -/

theorem sentDuring_of_lt (accounts : AccountsFor sent state) (before : state.round.currentRound < round) :
    sentDuring sent round = 0 :=
  List.countP_eq_zero.mpr fun each among => by
    simp [UInt64.ne_of_lt (UInt64.lt_of_le_of_lt (accounts.past each among) before)]

theorem carriedInto_of_lt (accounts : AccountsFor sent state) (before : state.round.currentRound < round) :
    carriedInto sent round = 0 :=
  List.countP_eq_zero.mpr fun each among => by
    simp [UInt64.ne_of_lt (UInt64.lt_of_le_of_lt (accounts.past each among) before)]

theorem countsOn (accounts : AccountsFor sent earlier) (goes : earlier.CountsOn later) : AccountsFor sent later := by
  rcases goes with ⟨sameRound, sameCount⟩ | ⟨advanced, anew⟩
  · refine ⟨?_, ?_, accounts.near, ?_⟩
    · rw [sameRound, sameCount]
      exact accounts.count
    · rw [sameRound]
      exact accounts.past
    · rw [sameRound]
      exact accounts.once
  · refine ⟨?_, fun each among => ?_, accounts.near, ?_⟩
    · rw [accounts.sentDuring_of_lt advanced, anew]
      rfl
    · exact UInt64.le_trans (accounts.past each among) (UInt64.le_of_lt advanced)
    · rw [accounts.carriedInto_of_lt advanced]
      exact Nat.zero_le 1

theorem step {new : List SentTimeout} (accounts : AccountsFor sent earlier) (counts : CountStep earlier later new) :
    AccountsFor (sent ++ new) later := by
  cases counts with
  | silent goes =>
    rw [List.append_nil]
    exact accounts.countsOn goes
  | sent timeout goes reached near same count =>
    rename_i prepared
    have begun := accounts.countsOn goes
    refine ⟨?_, ?_, ?_, ?_⟩
    · rw [count, begun.count, sentDuring_concat, same]
      omega
    · rw [List.forall_mem_append, List.forall_mem_singleton]
      exact ⟨fun each among => same ▸ begun.past each among, UInt64.le_refl _⟩
    · rw [List.forall_mem_append, List.forall_mem_singleton]
      exact ⟨accounts.near, near⟩
    · rw [carriedInto_concat]
      by_cases own : timeout.round = later.round.currentRound
      · rw [if_pos own, same]
        exact begun.once
      · -- The round has changed in this step, so that no other timeout has been sent during the new one.
        have passed : earlier.round.currentRound < later.round.currentRound := by
          obtain ⟨next, entered⟩ := near.resolve_left fun current => own current.symm
          have successor := Round.toNat_add_one next
          rw [entered, UInt64.lt_iff_toNat_lt, successor]
          exact Nat.lt_succ_of_le (UInt64.le_iff_toNat_le.mp reached)
        rw [if_neg own, accounts.carriedInto_of_lt passed]

theorem during_of_own (accounts : AccountsFor sent state) {each : SentTimeout} (among : each ∈ sent)
    (own : each.timeout.round = state.round.currentRound) : each.during = state.round.currentRound := by
  rcases accounts.near each among with current | ⟨next, entered⟩
  · exact current.trans own
  · have past := accounts.past each among
    have successor := Round.toNat_add_one next
    rw [entered, UInt64.le_iff_toNat_le, successor, own] at past
    omega

theorem sentDuring_eq (accounts : AccountsFor sent state) :
    sentDuring sent state.round.currentRound =
      sentOf sent state.round.currentRound + carriedInto sent state.round.currentRound := by
  unfold sentDuring
  rw [List.countP_eq_countP_filter_add sent _ fun each => each.timeout.round = state.round.currentRound,
    List.countP_filter, List.countP_filter]
  congr 1
  · refine List.countP_congr fun each among => ?_
    simp only [Bool.and_eq_true, decide_eq_true_eq, and_iff_right_iff_imp]
    exact accounts.during_of_own among
  · refine List.countP_congr fun each among => ?_
    simp

theorem sentDuring_of_hasNext (accounts : AccountsFor sent state) (counts : Round.HasNext state.timeoutCount) :
    sentDuring sent state.round.currentRound = state.timeoutCount.toNat := by
  have count := accounts.count
  unfold Round.HasNext at counts
  omega

end AccountsFor

theorem EngineState.start_timeoutCount {cert : QuorumCert} {start : EngineState} (started : start? cert = some start) :
    start.timeoutCount = 0 := by
  obtain ⟨round, -, rfl⟩ := Option.map_eq_some_iff.mp started
  rfl

theorem accountsFor_run {start : EngineState} (fresh : start.timeoutCount = 0) (run : List Step) :
    AccountsFor (start.sentTimeouts run) (start.after run) := by
  induction run using List.reverseRecOn with
  | nil =>
    refine ⟨?_, ?_, ?_, Nat.zero_le 1⟩
    · exact congrArg UInt64.toNat fresh
    · exact fun _ among => nomatch among
    · exact fun _ among => nomatch among
  | append_singleton run step ih =>
    rw [EngineState.sentTimeouts_concat, EngineState.after_concat]
    exact ih.step (step.counts _)

namespace Engine.Expires

variable {setting : Setting} {state : EngineState} {outcome : Outcome Unit} {messages : List Message}

theorem bundle_iff (expires : Expires setting state outcome messages) :
    (∃ bundle, .syncInfo bundle ∈ messages) ↔
      timeoutsIn messages ≠ [] ∧ outcome.ending = .done () ∧
        0 < (setting.configAt outcome.state.round.currentRound).timeoutSyncThreshold ∧
        outcome.state.timeoutCount % (setting.configAt outcome.state.round.currentRound).timeoutSyncThreshold = 0 := by
  cases expires with
  | silent goes => exact ⟨fun ⟨_, among⟩ => (nomatch among), fun ⟨sends, _⟩ => absurd rfl sends⟩
  | counted timeout eligible prepared counts done after =>
    rw [after]
    unfold Setting.due
    dsimp only
    split
    · rename_i due
      have among {bundle : SyncInfo} : Message.syncInfo bundle ∈ [.timeout timeout, .syncInfo bundle] :=
        List.mem_cons_of_mem _ List.mem_cons_self
      exact ⟨fun _ => ⟨List.cons_ne_nil _ _, done, due⟩, fun _ => ⟨_, among⟩⟩
    · rename_i early
      refine ⟨fun ⟨bundle, among⟩ => ?_, fun ⟨_, _, due⟩ => absurd due early⟩
      cases among with
      | tail _ among => nomatch among
  | uncounted timeout eligible prepared full overflowed after =>
    refine ⟨fun ⟨bundle, among⟩ => ?_, fun ⟨_, done, _⟩ => nomatch overflowed.symm.trans done⟩
    cases among with
    | tail _ among => nomatch among

theorem sentDuring_eq {sent : List SentTimeout} (expires : Expires setting state outcome messages)
    (accounts : AccountsFor sent state) (sends : timeoutsIn messages ≠ []) (done : outcome.ending = .done ()) :
    sentDuring (sent ++ (timeoutsIn messages).map fun timeout => ⟨timeout, outcome.state.round.currentRound⟩)
      outcome.state.round.currentRound = outcome.state.timeoutCount.toNat := by
  cases expires with
  | silent => exact absurd rfl sends
  | counted timeout eligible prepared counts done after =>
    rw [timeoutsIn_due, after]
    have before := (accounts.countsOn prepareTimeout_countsOn).sentDuring_of_hasNext counts
    have counted : (prepareTimeout setting state).state.counted.timeoutCount.toNat = _ := Round.toNat_add_one counts
    rw [counted, ← before]
    exact sentDuring_concat _ _ _
  | uncounted timeout eligible prepared full overflowed => exact nomatch overflowed.symm.trans done

end Engine.Expires

/-! A node that enters the second round with its timeout of the first one. -/

namespace Sample

def expired : List Step := others ++ [⟨.handleExpiry, setting⟩]

theorem after_expired : start.after expired = completed.counted := by
  unfold expired
  rw [EngineState.after_concat, after_others, Engine.next_handleExpiry]
  exact handleExpiry_almost.2.1

theorem sent_expired : start.sentTimeouts expired = [⟨timeout 1 1, 2⟩] := by
  have silent : start.sentTimeouts others = [] := by
    unfold others EngineState.sentTimeouts
    rw [Step.sentTimeouts_of_other (by nofun), List.nil_append]
    unfold EngineState.sentTimeouts
    rw [Step.sentTimeouts_of_other (by nofun)]
    rfl
  have listening : setting.listening = setting := rfl
  unfold expired
  rw [EngineState.sentTimeouts_concat, silent, after_others]
  rw [Engine.sentTimeouts_handleExpiry, Engine.messages_handleExpiry, listening, handleExpiry_almost.2.2,
    handleExpiry_almost.2.1]
  rfl

end Sample

section Count

variable {cert : QuorumCert} {start : EngineState}

/-- A node counts the timeouts that it has sent since the current round began, as far as numbers go: those of
the current round, and one of the round before, if it has completed the certificate that the current round
began with. So it sends its certificates along with a timeout exactly if the number of these is a multiple of
the interval. -/
theorem timeouts_counted_since_round_began (started : EngineState.start? cert = some start) (run : List Step) :
    (start.after run).timeoutCount.toNat =
        min (sentOf (start.sentTimeouts run) (start.after run).round.currentRound +
          carriedInto (start.sentTimeouts run) (start.after run).round.currentRound) (UInt64.size - 1) ∧
      carriedInto (start.sentTimeouts run) (start.after run).round.currentRound ≤ 1 ∧
      (∀ each ∈ start.sentTimeouts run, each.during = each.timeout.round ∨
        (each.timeout.round.HasNext ∧ each.during = each.timeout.round + 1)) ∧
      ∀ setting : Setting,
        let expiry : Step := ⟨.handleExpiry, setting⟩
        let later := start.after (run ++ [expiry])
        let sent := start.sentTimeouts (run ++ [expiry])
        let interval := (setting.configAt later.round.currentRound).timeoutSyncThreshold
        (∃ bundle, .syncInfo bundle ∈ expiry.messages (start.after run)) ↔
          expiry.sentTimeouts (start.after run) ≠ [] ∧ (expiry.outcome (start.after run)).ending = .done () ∧
            0 < interval ∧
            interval.toNat ∣ sentOf sent later.round.currentRound + carriedInto sent later.round.currentRound := by
  have accounts (run : List Step) : AccountsFor (start.sentTimeouts run) (start.after run) :=
    accountsFor_run (EngineState.start_timeoutCount started) run
  refine ⟨?_, (accounts run).once, (accounts run).near, fun setting => ?_⟩
  · rw [← (accounts run).sentDuring_eq]
    exact (accounts run).count
  dsimp only
  rw [← (accounts (run ++ [_])).sentDuring_eq, EngineState.sentTimeouts_concat, EngineState.after_concat]
  have expires := Engine.handleExpiry_expires setting (start.after run)
  rw [expires.bundle_iff, Engine.sentTimeouts_handleExpiry, ne_eq, ne_eq, List.map_eq_nil_iff]
  refine and_congr_right fun sends => and_congr_right fun done => and_congr_right fun _ => ?_
  have total := expires.sentDuring_eq (accounts run) sends done
  rw [Engine.next_handleExpiry, total, Nat.dvd_iff_mod_eq_zero, ← UInt64.toNat_mod, ← UInt64.toNat_inj]
  rfl

theorem timeout_counted_in_next_round :
    EngineState.start? Sample.genesis = some Sample.start ∧
      carriedInto (Sample.start.sentTimeouts Sample.expired) 2 = 1 ∧
      (Sample.start.after Sample.expired).round.currentRound = 2 ∧
      (Sample.start.after Sample.expired).timeoutCount.toNat = 1 := by
  have entered : (Sample.start.after Sample.expired).round.currentRound = 2 := by
    rw [Sample.after_expired]
    rfl
  have carried : carriedInto (Sample.start.sentTimeouts Sample.expired) 2 = 1 := by
    rw [Sample.sent_expired]
    rfl
  have own : sentOf (Sample.start.sentTimeouts Sample.expired) 2 = 0 := by
    rw [Sample.sent_expired]
    rfl
  obtain ⟨count, -⟩ := timeouts_counted_since_round_began Sample.started Sample.expired
  rw [entered, own, carried] at count
  exact ⟨Sample.started, carried, entered, count⟩

/-- The count is not the number of the timeouts of the current round that have been sent. -/
theorem count_differs_from_timeouts_of_round :
    (Sample.start.after Sample.expired).timeoutCount.toNat ≠
      sentOf (Sample.start.sentTimeouts Sample.expired) (Sample.start.after Sample.expired).round.currentRound := by
  rw [Sample.after_expired, Sample.sent_expired]
  decide

end Count

end MasternodeBft
