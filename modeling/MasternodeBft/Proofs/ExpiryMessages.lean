import MasternodeBft.Proofs.LastRound
import MasternodeBft.Proofs.Messages
import MasternodeBft.Proofs.TimeoutQuorum

/-!
What a node sends when its countdown expires. It prepares a timeout of its own in silence: bundles are taken up
again, and the timeout is collected. Then it sends the timeout, and after some timeouts its certificates too.
Where the preparation fails, nothing is sent.
-/

namespace MasternodeBft

def Setting.Eligible (setting : Setting) : Prop :=
  ∃ switch, setting.chain.epochSwitch setting.chain.head = .ok switch ∧
    setting.authority.address ∈ switch.masternodes

def Setting.due (setting : Setting) (state : EngineState) : List Message :=
  let interval := (setting.configAt state.round.currentRound).timeoutSyncThreshold
  if 0 < interval ∧ state.timeoutCount % interval = 0 then [.syncInfo state.round.syncInfo] else []

def EngineState.counted (state : EngineState) : EngineState :=
  { state with timeoutCount := state.timeoutCount + 1 }

theorem Action.done_of_bind {α β : Type} {state : EngineState} {first : Action α} {next : α → Action β}
    {result : β} (done : ((first >>= next) state).ending = .done result) :
    ∃ value, (first state).ending = .done value ∧ (next value (first state).state).ending = .done result ∧
      ((first >>= next) state).state = (next value (first state).state).state := by
  cases ended : (first state).ending with
  | done value =>
    rw [bind_of_done ended] at done ⊢
    exact ⟨value, rfl, done, rfl⟩
  | refused error =>
    rw [bind_of_refused ended] at done
    cases done
  | overflowed =>
    rw [bind_of_overflowed ended] at done
    cases done

namespace Engine

open MasternodeBft.Action

variable {setting : Setting} {state : EngineState} {timeout : Timeout}

/-! Who may send a timeout. -/

theorem mayTimeOut_of_eligible (eligible : setting.Eligible) : (mayTimeOut setting).ending = .done true := by
  obtain ⟨switch, found, member⟩ := eligible
  unfold mayTimeOut
  simp only [found, if_pos member]
  rfl

theorem mayTimeOut_of_barred (barred : ¬setting.Eligible) : (mayTimeOut setting).ending = .done false := by
  unfold mayTimeOut
  cases found : setting.chain.epochSwitch setting.chain.head with
  | error cause => rfl
  | ok switch =>
    have outsider : setting.authority.address ∉ switch.masternodes :=
      fun member => barred ⟨switch, found, member⟩
    simp only [if_neg outsider]
    rfl

/-! The preparation of a timeout. -/

def signTimeout (setting : Setting) : Action Timeout := do
  let round := (← read).round.currentRound
  let gapNumber ← timeoutGapNumber setting round
  collectTimeout setting (ownTimeout setting round gapNumber)
  pure (ownTimeout setting round gapNumber)

def prepareTimeout (setting : Setting) : Action Timeout := do
  replay setting
  signTimeout setting

def announce (setting : Setting) (timeout : Timeout) : Action Unit := do
  broadcast setting (.timeout timeout)
  countTimeout
  sendSyncInfo setting

theorem sendTimeout_agrees (state : EngineState) : (sendTimeout setting state).Agrees
    ((signTimeout setting >>= fun timeout => broadcast setting (.timeout timeout)) state) := by
  unfold signTimeout
  simp only [bind_assoc, pure_bind]
  exact agrees_bind_right fun _ _ => agrees_bind_right fun _ _ => ⟨rfl, rfl, rfl⟩

theorem handleExpiry_agrees (eligible : setting.Eligible) (state : EngineState) :
    (handleExpiry setting state).Agrees ((prepareTimeout setting >>= announce setting) state) := by
  have noted : (handleExpiry setting state).Agrees ((replay setting >>= fun _ =>
      notingRefusal (fun state => .timeoutUnsent state.round.currentRound) (sendTimeout setting) >>= fun _ =>
        countTimeout >>= fun _ => sendSyncInfo setting) state) :=
    agrees_of_done (mayTimeOut_of_eligible eligible)
  refine noted.trans ?_
  unfold prepareTimeout
  rw [bind_assoc]
  apply agrees_bind_right
  intro _ _
  refine (agrees_bind_left ((notingRefusal_agrees _ _ _).trans (sendTimeout_agrees _))).trans ?_
  rw [bind_assoc]
  exact ⟨rfl, rfl, rfl⟩

theorem handleExpiry_of_barred (barred : ¬setting.Eligible) (state : EngineState) :
    (handleExpiry setting state).Agrees ⟨.done (), state, []⟩ := agrees_of_done (mayTimeOut_of_barred barred)

theorem prepareTimeout_made {allowed : Deed → Prop}
    (common : ∀ deed : Deed, deed.Common → allowed deed) :
    MadeOf setting allowed (prepareTimeout setting) := by
  refine .bind (replay_made common) fun _ => .read_bind fun _ => .check_bind fun _ => ?_
  exact .bind (collectTimeout_made common _) fun _ => .pure _

theorem prepareTimeout_quiet (state : EngineState) : (prepareTimeout setting).Obeys Quiet state :=
  (prepareTimeout_made fun _ common => common.silent).obeys Quiet.composes (fun _ silent => silent.quiet) state

theorem signTimeout_eq (state : EngineState) : signTimeout setting state =
    (ofCheck (timeoutGapNumber setting state.round.currentRound) >>= fun gapNumber =>
      collectTimeout setting (ownTimeout setting state.round.currentRound gapNumber) >>= fun _ =>
        pure (ownTimeout setting state.round.currentRound gapNumber) : Action Timeout) state := rfl

theorem signTimeout_done (done : (signTimeout setting state).ending = .done timeout) :
    (timeoutGapNumber setting state.round.currentRound).ending = .done timeout.gapNumber ∧
      timeout = ownTimeout setting state.round.currentRound timeout.gapNumber ∧
      (collectTimeout setting timeout state).ending = .done () ∧
      (signTimeout setting state).state = (collectTimeout setting timeout state).state := by
  rw [signTimeout_eq] at done ⊢
  obtain ⟨gapNumber, found, collected, after⟩ := done_of_bind done
  obtain ⟨_, pooled, same, afterwards⟩ := done_of_bind collected
  cases same
  exact ⟨found, rfl, pooled, after.trans afterwards⟩

theorem TimeoutRefusal.round {error : ConsensusError} {after : EngineState}
    (refusal : TimeoutRefusal setting state timeout error after) : after.round = state.round := by
  cases refusal <;> rfl

theorem signTimeout_refused {error : ConsensusError} (refused : (signTimeout setting state).ending = .refused error) :
    (signTimeout setting state).state.round = state.round := by
  rw [signTimeout_eq] at refused ⊢
  rcases refused_of_bind refused with unknown | ⟨gapNumber, found, late⟩
  · rw [bind_of_refused unknown]
    rfl
  · rcases refused_of_bind late with rejected | ⟨_, -, signed⟩
    · rw [bind_of_done found, bind_of_refused rejected]
      exact (collectTimeout_leavesBehind _ error rejected).1.round
    · cases signed

theorem prepareTimeout_done (eligible : setting.Eligible)
    (done : (prepareTimeout setting state).ending = .done timeout) :
    Signs setting state timeout ∧
      (collectTimeout setting timeout (replay setting state).state).ending = .done () ∧
      (prepareTimeout setting state).state =
        (collectTimeout setting timeout (replay setting state).state).state := by
  obtain ⟨_, replayed, signed, after⟩ := done_of_bind done
  obtain ⟨gapNumber, own, collected, afterwards⟩ := signTimeout_done signed
  exact ⟨⟨mayTimeOut_of_eligible eligible, replayed, gapNumber, own⟩, collected, after.trans afterwards⟩

theorem prepareTimeout_of_signs (signs : Signs setting state timeout)
    (collected : (collectTimeout setting timeout (replay setting state).state).ending = .done ()) :
    (prepareTimeout setting state).ending = .done timeout := by
  have found : (ofCheck (timeoutGapNumber setting (replay setting state).state.round.currentRound)
      (replay setting state).state).ending = .done timeout.gapNumber := signs.gapNumber
  unfold prepareTimeout
  rw [bind_of_done signs.replayed, signTimeout_eq, bind_of_done found]
  change ((collectTimeout setting (ownTimeout setting _ timeout.gapNumber) >>= fun _ =>
    pure (ownTimeout setting _ timeout.gapNumber) : Action Timeout) (replay setting state).state).ending = _
  rw [← signs.own, bind_of_done collected]
  rfl

theorem prepareTimeout_refused {error : ConsensusError}
    (refused : (prepareTimeout setting state).ending = .refused error) :
    (prepareTimeout setting state).state.round = (replay setting state).state.round := by
  unfold prepareTimeout at refused ⊢
  rcases refused_of_bind refused with early | ⟨_, replayed, late⟩
  · exact absurd early (replay_unrefused error)
  · rw [bind_of_done replayed]
    exact signTimeout_refused late

/-! What is sent. -/

theorem broadcast_ending (message : Message) : (broadcast setting message state).ending = .done () := by
  unfold broadcast
  split <;> rfl

theorem broadcast_messages (message : Message) :
    messagesIn (broadcast setting message state).effects = setting.delivered [message] := by
  unfold broadcast Setting.delivered
  split <;> rfl

theorem sendSyncInfo_ending : (sendSyncInfo setting state).ending = .done () := by
  change ((if _ then note _ >>= fun _ => broadcast setting _ else pure () : Action Unit) state).ending = _
  split
  · exact broadcast_ending _
  · rfl

theorem sendSyncInfo_messages :
    messagesIn (sendSyncInfo setting state).effects = setting.delivered (setting.due state) := by
  unfold Setting.due
  change messagesIn ((if _ then note _ >>= fun _ => broadcast setting _ else pure () : Action Unit) state).effects = _
  split
  · rename_i due
    rw [if_pos due]
    exact broadcast_messages _
  · rename_i early
    rw [if_neg early]
    unfold Setting.delivered
    split <;> rfl

theorem countTimeout_eq : countTimeout state =
    if Round.HasNext state.timeoutCount then ⟨.done (), state.counted, []⟩ else ⟨.overflowed, state, []⟩ := by
  change (ofCheck (Check.add state.timeoutCount 1) >>= _) state = _
  by_cases counts : Round.HasNext state.timeoutCount
  · rw [if_pos counts, Check.add_one_of_hasNext counts]
    rfl
  · rw [if_neg counts, Check.add_one_of_not_hasNext counts]
    rfl

theorem announce_of_counted (counts : Round.HasNext state.timeoutCount) :
    (announce setting timeout state).ending = .done () ∧ (announce setting timeout state).state = state.counted ∧
      messagesIn (announce setting timeout state).effects =
        setting.delivered (.timeout timeout :: setting.due state.counted) := by
  have counting : countTimeout state = ⟨.done (), state.counted, []⟩ := countTimeout_eq.trans (if_pos counts)
  have rest : (countTimeout >>= fun _ => sendSyncInfo setting : Action Unit) state =
      ⟨(sendSyncInfo setting state.counted).ending, (sendSyncInfo setting state.counted).state,
        (sendSyncInfo setting state.counted).effects⟩ := by
    rw [bind_of_done (congrArg Outcome.ending counting), counting]
    rfl
  unfold announce
  rw [bind_of_done (broadcast_ending _), broadcast_state, rest]
  refine ⟨sendSyncInfo_ending, sendSyncInfo_state, ?_⟩
  rw [messagesIn_append, broadcast_messages, sendSyncInfo_messages, ← Setting.delivered_append]
  rfl

theorem announce_of_uncounted (full : ¬Round.HasNext state.timeoutCount) :
    (announce setting timeout state).ending = .overflowed ∧ (announce setting timeout state).state = state ∧
      messagesIn (announce setting timeout state).effects = setting.delivered [.timeout timeout] := by
  have counting : countTimeout state = ⟨.overflowed, state, []⟩ := countTimeout_eq.trans (if_neg full)
  unfold announce
  rw [bind_of_done (broadcast_ending _), broadcast_state,
    bind_of_overflowed (congrArg Outcome.ending counting), counting]
  refine ⟨rfl, rfl, ?_⟩
  rw [messagesIn_append, broadcast_messages]
  exact List.append_nil _

theorem handleExpiry_of_prepared (eligible : setting.Eligible)
    (done : (prepareTimeout setting state).ending = .done timeout) :
    let announced := announce setting timeout (prepareTimeout setting state).state
    (handleExpiry setting state).ending = announced.ending ∧ (handleExpiry setting state).state = announced.state ∧
      messagesIn (handleExpiry setting state).effects = messagesIn announced.effects := by
  intro announced
  have agrees := handleExpiry_agrees eligible state
  rw [bind_of_done done] at agrees
  refine ⟨agrees.ending, agrees.state, ?_⟩
  have quiet : messagesIn (prepareTimeout setting state).effects = [] := prepareTimeout_quiet state
  rw [agrees.messages, messagesIn_append, quiet, List.nil_append]

theorem handleExpiry_of_counted (eligible : setting.Eligible)
    (done : (prepareTimeout setting state).ending = .done timeout)
    (counts : Round.HasNext (prepareTimeout setting state).state.timeoutCount) :
    (handleExpiry setting state).ending = .done () ∧
      (handleExpiry setting state).state = (prepareTimeout setting state).state.counted ∧
      messagesIn (handleExpiry setting state).effects =
        setting.delivered (.timeout timeout :: setting.due (prepareTimeout setting state).state.counted) := by
  obtain ⟨ending, after, messages⟩ := handleExpiry_of_prepared eligible done
  rw [ending, after, messages]
  exact announce_of_counted counts

theorem handleExpiry_of_uncounted (eligible : setting.Eligible)
    (done : (prepareTimeout setting state).ending = .done timeout)
    (full : ¬Round.HasNext (prepareTimeout setting state).state.timeoutCount) :
    (handleExpiry setting state).ending = .overflowed ∧
      (handleExpiry setting state).state = (prepareTimeout setting state).state ∧
      messagesIn (handleExpiry setting state).effects = setting.delivered [.timeout timeout] := by
  obtain ⟨ending, after, messages⟩ := handleExpiry_of_prepared eligible done
  rw [ending, after, messages]
  exact announce_of_uncounted full

theorem handleExpiry_of_unprepared (eligible : setting.Eligible)
    (unprepared : ∀ timeout, (prepareTimeout setting state).ending ≠ .done timeout) :
    (handleExpiry setting state).state = (prepareTimeout setting state).state ∧
      messagesIn (handleExpiry setting state).effects = [] := by
  have agrees := handleExpiry_agrees eligible state
  cases ended : (prepareTimeout setting state).ending with
  | done timeout => exact absurd ended (unprepared timeout)
  | refused error =>
    rw [bind_of_refused ended] at agrees
    exact ⟨agrees.state, agrees.messages.trans (prepareTimeout_quiet state)⟩
  | overflowed =>
    rw [bind_of_overflowed ended] at agrees
    exact ⟨agrees.state, agrees.messages.trans (prepareTimeout_quiet state)⟩

/-! Where the round is after that. -/

/-- What the collection of a timeout that is not refused leads to. -/
inductive Collected (setting : Setting) (state : EngineState) (timeout : Timeout) (after : EngineState) : Prop
  | short (few : ¬setting.Suffices timeout.key ((state.timeouts.add timeout).bucket timeout.key).length)
      (kept : after = { state with timeouts := state.timeouts.add timeout })
  | stale (old : timeout.round ≤ state.round.timeoutRound)
      (kept : after = { state with timeouts := state.timeouts.add timeout })
  | certified (enough : setting.Suffices timeout.key ((state.timeouts.add timeout).bucket timeout.key).length)
      (next : timeout.round.HasNext)
      (moved : after = EngineState.adopt { state with timeouts := state.timeouts.add timeout }
        (.timeout (assembleTimeoutCert setting timeout ((state.timeouts.add timeout).bucket timeout.key))))

theorem collectTimeout_collected (current : timeout.round = state.round.currentRound)
    (collected : (collectTimeout setting timeout state).ending = .done ()) :
    Collected setting state timeout (collectTimeout setting timeout state).state := by
  let pooled : EngineState := { state with timeouts := state.timeouts.add timeout }
  let bucket := pooled.timeouts.bucket timeout.key
  let cert : AnyCert := .timeout (assembleTimeoutCert setting timeout bucket)
  obtain ⟨found, selected, -⟩ := done_of_bind ((collectTimeout_of_current current).ending.symm.trans collected)
  have chosen := (snapshot_done_iff.mp selected).1
  cases count : thresholdReached bucket.length found.masternodes.length
      (setting.configAt timeout.round).certThreshold with
  | false =>
    refine .short ?_ (collectTimeout_of_short current selected count).state
    rintro ⟨other, sameChosen, reached⟩
    cases chosen.symm.trans sameChosen
    exact Bool.false_ne_true (count.symm.trans reached)
  | true =>
    have agrees : (collectTimeout setting timeout state).Agrees (process setting cert pooled) :=
      collectTimeout_of_reached current selected count
    rw [agrees.ending] at collected
    rw [agrees.state]
    have fate : Fate setting pooled cert (process setting cert pooled) := process_fate cert
    cases fate with
    | stale old _ kept => exact .stale (UInt64.not_lt.mp old) kept
    | rejected _ _ refused =>
      obtain ⟨error, refused⟩ := refused
      exact nomatch refused.symm.trans collected
    | adopted _ _ next _ moved => exact .certified ⟨found, chosen, count⟩ next moved
    | stuck _ _ _ overflowed => exact nomatch overflowed.symm.trans collected

namespace Collected

variable {after : EngineState}

theorem currentRound (collected : Collected setting state timeout after)
    (current : timeout.round = state.round.currentRound) :
    after.round.currentRound = timeout.round ∨
      (timeout.round.HasNext ∧ after.round.currentRound = timeout.round + 1) := by
  cases collected with
  | short _ kept | stale _ kept =>
    rw [kept]
    exact .inl current.symm
  | certified _ next moved =>
    rw [moved, (EngineState.adopt_timeout_of_current current next).1]
    exact .inr ⟨next, rfl⟩

theorem currentRound_iff (collected : Collected setting state timeout after)
    (current : timeout.round = state.round.currentRound)
    (ahead : state.round.timeoutRound < state.round.currentRound) :
    (setting.Suffices timeout.key ((state.timeouts.add timeout).bucket timeout.key).length →
        after.round.currentRound.toNat = timeout.round.toNat + 1) ∧
      (¬setting.Suffices timeout.key ((state.timeouts.add timeout).bucket timeout.key).length →
        after.round.currentRound = timeout.round) := by
  cases collected with
  | short few kept =>
    refine ⟨fun enough => absurd enough few, fun _ => ?_⟩
    rw [kept]
    exact current.symm
  | stale old =>
    rw [current] at old
    exact absurd ahead (UInt64.not_lt.mpr old)
  | certified enough next moved =>
    refine ⟨fun _ => ?_, fun few => absurd enough few⟩
    rw [moved, (EngineState.adopt_timeout_of_current current next).1]
    exact Round.toNat_add_one next

end Collected

/-! The outcome as a whole. -/

/-- The node is no masternode of the head's epoch, as far as is known, and nothing happens. -/
structure Barred (setting : Setting) (state : EngineState) (outcome : Outcome Unit) : Prop where
  ineligible : ¬setting.Eligible
  done : outcome.ending = .done ()
  idle : outcome.Idle state

/-- The timeout is not sent, and the node is in the round that its bundles have led to. -/
structure Withholds (setting : Setting) (state : EngineState) (outcome : Outcome Unit) : Prop where
  eligible : setting.Eligible
  refused : ∃ error, outcome.ending = .refused error
  quiet : messagesIn outcome.effects = []
  round : outcome.state.round = (replay setting state).state.round

/-- The timeout is sent, perhaps with the bundle of the node's certificates after it. The round is over if it
has completed a certificate. -/
structure Sends (setting : Setting) (state : EngineState) (timeout : Timeout) (outcome : Outcome Unit) : Prop where
  eligible : setting.Eligible
  done : outcome.ending = .done ()
  signs : Signs setting state timeout
  messages : ∃ bundles, (bundles = [] ∨ bundles = [.syncInfo outcome.state.round.syncInfo]) ∧
    messagesIn outcome.effects = setting.delivered (.timeout timeout :: bundles)
  ended : setting.Suffices timeout.key
      (((replay setting state).state.timeouts.add timeout).bucket timeout.key).length →
    outcome.state.round.currentRound.toNat = timeout.round.toNat + 1
  stayed : ¬setting.Suffices timeout.key
      (((replay setting state).state.timeouts.add timeout).bucket timeout.key).length →
    outcome.state.round.currentRound = timeout.round

theorem due_cases (setting : Setting) (state : EngineState) :
    setting.due state = [] ∨ setting.due state = [.syncInfo state.round.syncInfo] := by
  unfold Setting.due
  dsimp only
  split
  · exact .inr rfl
  · exact .inl rfl

theorem handleExpiry_withholds (eligible : setting.Eligible) {error : ConsensusError}
    (refused : (prepareTimeout setting state).ending = .refused error) :
    Withholds setting state (handleExpiry setting state) := by
  have agrees := handleExpiry_agrees eligible state
  rw [bind_of_refused refused] at agrees
  refine ⟨eligible, ⟨error, agrees.ending⟩, agrees.messages.trans (prepareTimeout_quiet state), ?_⟩
  rw [agrees.state]
  exact prepareTimeout_refused refused

theorem handleExpiry_sends (eligible : setting.Eligible) (done : (prepareTimeout setting state).ending = .done timeout)
    (ahead : (replay setting state).state.round.Ahead)
    (fits : (handleExpiry setting state).ending ≠ .overflowed) :
    Sends setting state timeout (handleExpiry setting state) := by
  have counts : Round.HasNext (prepareTimeout setting state).state.timeoutCount := by
    by_contra full
    exact fits (handleExpiry_of_uncounted eligible done full).1
  obtain ⟨signs, collected, moved⟩ := prepareTimeout_done eligible done
  obtain ⟨ending, after, messages⟩ := handleExpiry_of_counted eligible done counts
  have current : timeout.round = (replay setting state).state.round.currentRound := congrArg Timeout.round signs.own
  obtain ⟨ended, stayed⟩ :=
    (collectTimeout_collected current collected).currentRound_iff current ahead.timeoutRound
  rw [← moved] at ended stayed
  have round : (handleExpiry setting state).state.round = (prepareTimeout setting state).state.round := by
    rw [after]
    rfl
  refine ⟨eligible, ending, signs,
    ⟨setting.due (prepareTimeout setting state).state.counted, ?_, messages⟩, ?_, ?_⟩
  · rw [round]
    exact due_cases setting _
  · rw [round]
    exact ended
  · rw [round]
    exact stayed

end Engine

/-! A node that has collected the timeouts of two others, and completes a certificate with its own. -/

namespace Sample

theorem pools {state : EngineState} {signer : UInt8} (current : state.round.currentRound = 1)
    (few : thresholdReached ((state.timeouts.add (timeout 1 signer)).bucket ⟨1, 0⟩).length 4 0.667 = false) :
    (Engine.collectTimeout setting (timeout 1 signer) state).Agrees
      ⟨.done (), { state with timeouts := state.timeouts.add (timeout 1 signer) }, []⟩ := by
  refine Engine.collectTimeout_of_short current.symm selected ?_
  rw [certThreshold]
  exact few

def others : List Step :=
  [⟨.collectTimeout (timeout 1 2), setting⟩, ⟨.collectTimeout (timeout 1 3), setting⟩]

def almost : EngineState := { once with timeouts := once.timeouts.add (timeout 1 3) }

theorem pools_first : (Engine.collectTimeout setting (timeout 1 2) start).Agrees ⟨.done (), once, []⟩ :=
  pools rfl (by decide)

theorem pools_second : (Engine.collectTimeout setting (timeout 1 3) once).Agrees ⟨.done (), almost, []⟩ :=
  pools rfl (by decide)

theorem after_first : Step.next ⟨.collectTimeout (timeout 1 2), setting⟩ start = once := pools_first.state

theorem after_others : start.after others = almost := by
  have second : Step.next ⟨.collectTimeout (timeout 1 3), setting⟩ once = almost := pools_second.state
  unfold others EngineState.after
  rw [List.foldl_cons, List.foldl_cons, List.foldl_nil, after_first, second]

theorem others_unbroken : Unbroken start others := by
  change Unbroken start (([] ++ [_]) ++ [_])
  rw [Unbroken.concat_iff, Unbroken.concat_iff]
  refine ⟨⟨.nil, fun overflowed => ?_⟩, fun overflowed => ?_⟩
  · exact nomatch pools_first.ending.symm.trans overflowed
  · change (Engine.collectTimeout setting (timeout 1 3)
      (Step.next ⟨.collectTimeout (timeout 1 2), setting⟩ start)).ending = _ at overflowed
    rw [after_first] at overflowed
    exact nomatch pools_second.ending.symm.trans overflowed

def completed : EngineState :=
  EngineState.adopt { almost with timeouts := almost.timeouts.add (timeout 1 1) } (.timeout (timeoutCert 1 [2, 3, 1]))

theorem completes : (Engine.collectTimeout setting (timeout 1 1) almost).ending = .done () ∧
    (Engine.collectTimeout setting (timeout 1 1) almost).state = completed := by
  have current : (timeout 1 1).round = almost.round.currentRound := rfl
  have reached : thresholdReached 3 4 (setting.configAt (timeout 1 1).round).certThreshold = true := by
    rw [certThreshold]
    decide
  have certified : (timeoutCert 1 [2, 3, 1]).Certified setting :=
    timeoutCert_certified (by decide) (by decide) (by decide) (by decide)
  obtain ⟨ending, after, -⟩ := Engine.collectTimeout_of_reached current selected reached
  have passes : (AnyCert.timeout (timeoutCert 1 [2, 3, 1])).Passes setting :=
    Engine.verifyTimeoutCert_done_iff.mpr certified.endorsed
  obtain ⟨done, adopted⟩ := Engine.process_done passes (hasNext 1)
  exact ⟨ending.trans done, after.trans (adopted.trans (if_pos (by decide)))⟩

theorem eligible : setting.Eligible := ⟨_, rfl, by decide⟩

theorem almost_signs : Engine.Signs setting almost (timeout 1 1) := ⟨rfl, rfl, rfl, rfl⟩

theorem prepares : (Engine.prepareTimeout setting almost).ending = .done (timeout 1 1) ∧
    (Engine.prepareTimeout setting almost).state = completed := by
  have collected : (Engine.collectTimeout setting (timeout 1 1) (Engine.replay setting almost).state).ending =
      .done () := completes.1
  have done := Engine.prepareTimeout_of_signs almost_signs collected
  exact ⟨done, (Engine.prepareTimeout_done eligible done).2.2.trans completes.2⟩

theorem handleExpiry_almost :
    (Engine.handleExpiry setting almost).ending = .done () ∧
      (Engine.handleExpiry setting almost).state = completed.counted ∧
      messagesIn (Engine.handleExpiry setting almost).effects = [.timeout (timeout 1 1)] := by
  obtain ⟨done, prepared⟩ := prepares
  have counts : Round.HasNext (Engine.prepareTimeout setting almost).state.timeoutCount := by
    rw [prepared]
    decide
  obtain ⟨ending, after, messages⟩ := Engine.handleExpiry_of_counted eligible done counts
  rw [prepared] at after messages
  exact ⟨ending, after, messages⟩

end Sample

section Outcome

variable {cert : QuorumCert} {start : EngineState} {run : List Step}

theorem replay_ahead (started : EngineState.start? cert = some start) (unbroken : Unbroken start run)
    {setting : Setting} (replayed : (Engine.replay setting (start.after run)).ending = .done ()) :
    (Engine.replay setting (start.after run)).state.round.Ahead := by
  have fits : (Step.outcome ⟨.replay, setting⟩ (start.after run)).ending ≠ .overflowed :=
    fun overflowed => nomatch replayed.symm.trans overflowed
  have bounded := (Unbroken.concat_iff.mpr ⟨unbroken, fits⟩).bounded (EngineState.start_bounded started)
  have ahead := (EngineState.after_ahead_iff started (run ++ [⟨.replay, setting⟩])).mpr bounded
  rwa [EngineState.after_concat] at ahead

/-- An expiry of the countdown has one of three outcomes, unless a number overflows: nothing happens, where the
node may not send timeouts; or it is refused, and nothing is sent; or the timeout is sent that the node signs,
with the bundle of its certificates after it or without, and ends the round exactly if its bucket suffices. -/
theorem expiry_has_one_outcome (started : EngineState.start? cert = some start) (unbroken : Unbroken start run)
    (setting : Setting) (fits : (Engine.handleExpiry setting (start.after run)).ending ≠ .overflowed) :
    let outcome := Engine.handleExpiry setting (start.after run)
    (Engine.Barred setting (start.after run) outcome ∨ Engine.Withholds setting (start.after run) outcome ∨
        ∃ timeout, Engine.Sends setting (start.after run) timeout outcome) ∧
      ¬(Engine.Barred setting (start.after run) outcome ∧ Engine.Withholds setting (start.after run) outcome) ∧
      ¬(Engine.Barred setting (start.after run) outcome ∧
        ∃ timeout, Engine.Sends setting (start.after run) timeout outcome) ∧
      ¬(Engine.Withholds setting (start.after run) outcome ∧
        ∃ timeout, Engine.Sends setting (start.after run) timeout outcome) := by
  intro outcome
  refine ⟨?_, fun ⟨barred, withholds⟩ => barred.ineligible withholds.eligible,
    fun ⟨barred, _, sends⟩ => barred.ineligible sends.eligible, fun ⟨withholds, _, sends⟩ => ?_⟩
  · by_cases eligible : setting.Eligible
    · right
      cases ended : (Engine.prepareTimeout setting (start.after run)).ending with
      | done timeout =>
        obtain ⟨signs, -⟩ := Engine.prepareTimeout_done eligible ended
        have ahead := replay_ahead started unbroken signs.replayed
        exact .inr ⟨timeout, Engine.handleExpiry_sends eligible ended ahead fits⟩
      | refused error => exact .inl (Engine.handleExpiry_withholds eligible ended)
      | overflowed =>
        have agrees := Engine.handleExpiry_agrees eligible (start.after run)
        rw [Action.bind_of_overflowed ended] at agrees
        exact absurd agrees.ending fits
    · have agrees := Engine.handleExpiry_of_barred eligible (start.after run)
      exact .inl ⟨eligible, agrees.ending, agrees.state, agrees.sent⟩
  · obtain ⟨error, refused⟩ := withholds.refused
    exact nomatch refused.symm.trans sends.done

theorem expiry_completes_certificate :
    Unbroken Sample.start Sample.others ∧
      (Engine.handleExpiry Sample.setting (Sample.start.after Sample.others)).ending ≠ .overflowed ∧
      Engine.Sends Sample.setting (Sample.start.after Sample.others) (Sample.timeout 1 1)
        (Engine.handleExpiry Sample.setting (Sample.start.after Sample.others)) ∧
      (Engine.handleExpiry Sample.setting (Sample.start.after Sample.others)).state.round.currentRound.toNat = 2 := by
  have done : (Engine.handleExpiry Sample.setting (Sample.start.after Sample.others)).ending = .done () := by
    rw [Sample.after_others]
    exact Sample.handleExpiry_almost.1
  have fits : (Engine.handleExpiry Sample.setting (Sample.start.after Sample.others)).ending ≠ .overflowed :=
    fun overflowed => nomatch done.symm.trans overflowed
  obtain ⟨barred | withholds | ⟨timeout, sends⟩, -⟩ :=
    expiry_has_one_outcome Sample.started Sample.others_unbroken Sample.setting fits
  · exact absurd Sample.eligible barred.ineligible
  · obtain ⟨error, refused⟩ := withholds.refused
    exact nomatch done.symm.trans refused
  · have signs : Engine.Signs Sample.setting (Sample.start.after Sample.others) (Sample.timeout 1 1) := by
      rw [Sample.after_others]
      exact Sample.almost_signs
    cases sends.signs.unique signs
    refine ⟨Sample.others_unbroken, fits, sends, sends.ended ?_⟩
    rw [Sample.after_others]
    exact Sample.suffices_three

end Outcome

end MasternodeBft
