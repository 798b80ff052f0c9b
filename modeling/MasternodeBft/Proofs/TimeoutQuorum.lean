import MasternodeBft.Proofs.OwnTimeouts
import MasternodeBft.Proofs.TimeoutOrder

/-!
No certificate of timeouts is missed. As soon as the signers of the timeouts for a key of the current round
suffice, their timeouts make a certificate, and the round is over. So no bucket is ever found that would
suffice.
-/

namespace MasternodeBft

/-- A run in which the selections of masternodes stay as they are, timeouts are checked before they are handed
over, and the node signs timeouts with its own key and for masternodes that it is one of. -/
structure Diligent (start : EngineState) (run : List Step) : Prop where
  continuous : run.Pairwise fun earlier later => later.setting.Continues earlier.setting
  checked : HandsOverChecked .collectTimeout .timeout start run
  recovers : ∀ step ∈ run, step.setting.authority.RecoversItself
  selected : ∀ before step after timeout, run = before ++ step :: after → step.operation = .handleExpiry →
    Engine.Signs step.setting (start.after before) timeout → timeout.attestation.Selected step.setting

namespace Diligent

variable {start : EngineState} {run : List Step} {step : Step}

theorem nil : Diligent start [] := by
  refine ⟨.nil, .nil, fun _ => nofun, fun before step after timeout split => ?_⟩
  exact absurd (congrArg List.length split) (by simp)

theorem concat (diligent : Diligent start run)
    (continues : ∀ earlier ∈ run, step.setting.Continues earlier.setting)
    (checked : ∀ timeout, step.operation = .collectTimeout timeout → CheckedIn start run (.timeout timeout))
    (recovers : step.setting.authority.RecoversItself)
    (selected : ∀ timeout, step.operation = .handleExpiry →
      Engine.Signs step.setting (start.after run) timeout → timeout.attestation.Selected step.setting) :
    Diligent start (run ++ [step]) where
  continuous := by
    refine List.pairwise_append.mpr ⟨diligent.continuous, List.pairwise_singleton _ _, fun earlier listed last => ?_⟩
    rw [List.mem_singleton]
    rintro rfl
    exact continues earlier listed
  checked := HandsOverChecked.concat_iff.mpr ⟨diligent.checked, checked⟩
  recovers earlier listed := by
    rcases List.mem_append.mp listed with before | last
    · exact diligent.recovers earlier before
    · rw [List.mem_singleton.mp last]
      exact recovers
  selected before earlier after timeout split := by
    rcases concat_eq_split_iff.mp split with ⟨rfl, rfl, -⟩ | ⟨rest, rfl, -⟩
    · exact selected timeout
    · exact diligent.selected before earlier rest timeout rfl

theorem init (diligent : Diligent start (run ++ [step])) : Diligent start run where
  continuous := (List.pairwise_append.mp diligent.continuous).1
  checked := (HandsOverChecked.concat_iff.mp diligent.checked).1
  recovers earlier listed := diligent.recovers earlier (List.mem_append_left _ listed)
  selected before earlier after timeout split :=
    diligent.selected before earlier (after ++ [step]) timeout (by rw [split, List.append_assoc]; rfl)

theorem continues_last (diligent : Diligent start (run ++ [step])) :
    ∀ earlier ∈ run, step.setting.Continues earlier.setting := by
  intro earlier listed
  exact (List.pairwise_append.mp diligent.continuous).2.2 earlier listed step List.mem_cons_self

theorem continues_all (diligent : Diligent start (run ++ [step])) :
    ∀ earlier ∈ run ++ [step], step.setting.Continues earlier.setting := by
  intro earlier listed
  rcases List.mem_append.mp listed with before | last
  · exact diligent.continues_last earlier before
  · rw [List.mem_singleton.mp last]
    exact .refl _

theorem holds_of_admitted (diligent : Diligent start (run ++ [step])) {timeout : Timeout}
    (admitted : AdmittedIn start (run ++ [step]) (.timeout timeout)) : timeout.attestation.Holds step.setting := by
  rcases timeout_holds_of_admitted diligent.continues_all diligent.checked admitted with holds | own
  · exact holds
  · obtain ⟨before, earlier, after, split, asked, signs⟩ := own
    have listed : earlier ∈ run ++ [step] := split ▸ List.mem_append_right before List.mem_cons_self
    have holds : timeout.attestation.Holds earlier.setting :=
      ⟨signs.genuine (diligent.recovers earlier listed),
        diligent.selected before earlier after timeout split asked signs⟩
    exact holds.of_continues (diligent.continues_all earlier listed)

end Diligent

namespace Step

variable {step : Step} {state : EngineState} {signers later : TimeoutKey → Set Address}

theorem orderly_collectionPoint (orderly : Orderly step.setting signers state) :
    Orderly step.setting signers (step.collectionPoint state) := by
  obtain ⟨sent, course⟩ := step.course_collectionPoint state
  exact course.keeps (Orderly step.setting signers) (fun change => change.orderly fun _ => id) orderly

theorem allShort_collectionPoint (short : AllShort step.setting state.timeouts) :
    AllShort step.setting (step.collectionPoint state).timeouts := by
  obtain ⟨sent, course⟩ := step.course_collectionPoint state
  exact course.keeps (fun state => AllShort step.setting state.timeouts)
    (fun change => change.allShort fun _ => id) short

theorem advances_collectionPoint (step : Step) (state : EngineState) :
    state.round.Advances (step.collectionPoint state).round := by
  obtain ⟨sent, course⟩ := step.course_collectionPoint state
  exact course.relates (fun first last => first.round.Advances last.round)
    (fun state => .refl state.round) .trans Change.advances

end Step

theorem Engine.collectTimeout_advances (setting : Setting) (timeout : Timeout) (state : EngineState) :
    state.round.Advances (collectTimeout setting timeout state).state.round := by
  have course : Course (Change setting fun _ => True) state _ (collectTimeout setting timeout state).state :=
    collectTimeout_follows timeout trivial
  exact course.relates (fun first last => first.round.Advances last.round)
    (fun state => .refl state.round) .trans Change.advances

namespace Step

variable {step : Step} {state : EngineState} {signers later : TimeoutKey → Set Address}

theorem hasNext_collectionPoint {timeout : Timeout} (admits : step.Admits state (.timeout timeout))
    (next : (step.next state).round.timeoutRound.HasNext) :
    (Engine.collectTimeout step.setting timeout (step.collectionPoint state)).state.round.timeoutRound.HasNext ∧
      (step.collectionPoint state).round.timeoutRound.HasNext := by
  rw [(step.sameTimeouts_of_admits admits).round] at next
  exact ⟨next, Round.hasNext_of_le (Engine.collectTimeout_advances _ _ _).timeoutRound next⟩

/-- An orderly state becomes an orderly one, and if all buckets were short of a certificate, they are again. -/
theorem orderly_next (orderly : Orderly step.setting signers state)
    (holds : ∀ timeout, step.Admits state (.timeout timeout) → timeout.attestation.Holds step.setting)
    (adds : ∀ key signer, signer ∈ later key ↔ signer ∈ signers key ∨
      ∃ timeout : Timeout, timeout.key = key ∧ timeout.signer = signer ∧ step.Collects state timeout)
    (next : (step.next state).round.timeoutRound.HasNext) (short : AllShort step.setting state.timeouts) :
    Orderly step.setting later (step.next state) ∧ AllShort step.setting (step.next state).timeouts := by
  by_cases collecting : ∃ timeout, step.Collects state timeout
  · obtain ⟨timeout, admits, current⟩ := collecting
    have same := step.sameTimeouts_of_admits admits
    obtain ⟨nextAfter, nextBefore⟩ := hasNext_collectionPoint admits next
    have addsOne : ∀ key signer, signer ∈ later key ↔
        signer ∈ signers key ∨ (timeout.key = key ∧ timeout.signer = signer) :=
      fun key signer => (adds key signer).trans (or_congr_right (collects_iff ⟨admits, current⟩))
    have collected := Engine.collectTimeout_orderly (orderly_collectionPoint orderly) current (holds _ admits)
      nextBefore addsOne
    refine ⟨collected.of_sameTimeouts same, ?_⟩
    rw [same.timeouts]
    exact Engine.collectTimeout_allShort (orderly_collectionPoint orderly) current (holds _ admits) nextBefore
      nextAfter (allShort_collectionPoint short)
  · have unchanged : later = signers := by
      funext key
      ext signer
      rw [adds]
      exact or_iff_left fun ⟨timeout, _, _, collects⟩ => collecting ⟨timeout, collects⟩
    rw [unchanged]
    by_cases admitting : ∃ timeout, step.Admits state (.timeout timeout)
    · obtain ⟨timeout, admits⟩ := admitting
      have same := step.sameTimeouts_of_admits admits
      rw [Engine.collectTimeout_of_other fun current => collecting ⟨timeout, admits, current⟩] at same
      refine ⟨(orderly_collectionPoint orderly).of_sameTimeouts same, ?_⟩
      rw [same.timeouts]
      exact allShort_collectionPoint short
    · have silent := not_exists.mp admitting
      obtain ⟨sent, course⟩ := step.course state
      exact ⟨course.keeps (Orderly step.setting signers) (fun change => change.orderly silent) orderly,
        course.keeps (fun state => AllShort step.setting state.timeouts) (fun change => change.allShort silent)
          short⟩

/-- A step that ends a round by a certificate of timeouts for a key. -/
structure Completes (step : Step) (state : EngineState) (key : TimeoutKey) : Prop where
  notOver : state.round.currentRound ≤ key.round
  newer : state.round.timeoutRound < key.round
  adopts : ∃ cert, (step.next state).round.highestTimeoutCert = some cert ∧ cert.round = key.round ∧
    cert.gapNumber = key.gapNumber ∧ cert.Certified step.setting
  enters : (step.next state).round.currentRound.toNat = key.round.toNat + 1

theorem completes_of_suffices (orderly : Orderly step.setting signers state) {timeout : Timeout}
    (collects : step.Collects state timeout) (holds : timeout.attestation.Holds step.setting)
    (adds : ∀ key signer, signer ∈ later key ↔
      signer ∈ signers key ∨ (timeout.key = key ∧ timeout.signer = signer))
    (next : (step.next state).round.timeoutRound.HasNext)
    (enough : step.setting.Suffices timeout.key (later timeout.key).ncard) :
    step.Completes state timeout.key := by
  obtain ⟨admits, current⟩ := collects
  have same := step.sameTimeouts_of_admits admits
  obtain ⟨nextAfter, nextBefore⟩ := hasNext_collectionPoint admits next
  have point := orderly_collectionPoint orderly
  have advances := step.advances_collectionPoint state
  have opened : timeout.key.round = (step.collectionPoint state).round.currentRound := current
  let pooled : EngineState :=
    { step.collectionPoint state with timeouts := (step.collectionPoint state).timeouts.add timeout }
  have count : (later timeout.key).ncard = (pooled.timeouts.bucket timeout.key).length :=
    (point.tallies.add current adds).ncard_signers (point.unique.add timeout) opened
  rcases Engine.collectTimeout_settles point current holds nextBefore with
    ⟨⟨found, selected, few⟩, -⟩ | ⟨-, newer, certified, adopted⟩
  · obtain ⟨other, alsoSelected, reached⟩ := enough
    cases Except.ok.inj (selected.symm.trans alsoSelected)
    rw [count, few] at reached
    cases reached
  · rw [adopted, EngineState.adopt_timeoutRound] at nextAfter
    have entered : (pooled.adopt (.timeout _)).round = _ :=
      (EngineState.adopt_timeout_of_current opened nextAfter).1
    rw [← adopted, ← same.round] at entered
    refine ⟨?_, UInt64.lt_of_le_of_lt advances.timeoutRound newer, ⟨_, ?_, rfl, rfl, certified⟩, ?_⟩
    · change state.round.currentRound ≤ timeout.round
      rw [current]
      exact advances.currentRound
    · rw [entered]
    · rw [entered]
      exact Round.toNat_add_one nextAfter

end Step

section Runs

variable {cert : QuorumCert} {start : EngineState}

theorem not_occurs_nil {event : Step → EngineState → Prop} : ¬Occurs event start [] := by
  rintro ⟨before, step, after, split, -⟩
  exact absurd (congrArg List.length split) (by simp)

theorem orderly_start (started : EngineState.start? cert = some start) (setting : Setting) :
    Orderly setting (signersIn start []) start ∧ AllShort setting start.timeouts := by
  obtain ⟨-, empty, -⟩ := pools_of_started started
  have none : ∀ key, signersIn start [] key = ∅ := fun key =>
    Set.eq_empty_of_forall_notMem fun _ ⟨_, _, _, occurs⟩ => not_occurs_nil occurs
  refine ⟨⟨?_, ?_, ⟨fun key _ => ?_, fun key _ signer => ?_, fun key _ => none key⟩,
    EngineState.start_past started⟩, ?_⟩
  · rw [empty]
    exact .empty
  · rw [empty]
    exact .empty
  · rw [empty, Pool.bucket_empty]
  · rw [empty, Pool.bucket_empty, none]
    exact iff_of_false List.not_mem_nil (Set.notMem_empty signer)
  · rw [empty]
    exact fun _ _ => nofun

theorem orderly_after (started : EngineState.start? cert = some start) (run : List Step)
    (diligent : Diligent start run) (next : (start.after run).round.timeoutRound.HasNext) {setting : Setting}
    (continues : ∀ step ∈ run, setting.Continues step.setting) :
    Orderly setting (signersIn start run) (start.after run) ∧ AllShort setting (start.after run).timeouts := by
  induction run using List.reverseRecOn generalizing setting with
  | nil => exact orderly_start started setting
  | append_singleton run step ih =>
    rw [EngineState.after_concat] at next ⊢
    have nextBefore := Round.hasNext_of_le (step.advances (start.after run)).timeoutRound next
    obtain ⟨orderly, short⟩ := ih diligent.init nextBefore diligent.continues_last
    have holds : ∀ timeout, step.Admits (start.after run) (.timeout timeout) →
        timeout.attestation.Holds step.setting :=
      fun timeout admits => diligent.holds_of_admitted (.last admits)
    obtain ⟨orderly, short⟩ := Step.orderly_next orderly holds (fun _ _ => mem_signersIn_concat) next short
    have last := continues step (List.mem_append_right _ List.mem_cons_self)
    exact ⟨orderly.of_continues last, short.of_continues last⟩

end Runs

/-! A node that sees three of four masternodes time out, the second of them itself; and one that sees it too,
but has adopted a certificate of the last round. -/

namespace Sample

theorem recovers : setting.authority.RecoversItself := fun digest => recover_sign digest 1

theorem selected : (Engine.snapshot setting 0).ending = .done ⟨0, names.map address⟩ := rfl

theorem timeout_holds (round : UInt8) {signer : UInt8} (member : signer ∈ names) :
    (timeout round signer).attestation.Holds setting :=
  ⟨timeout_genuine round signer, ⟨0, names.map address⟩, rfl, List.mem_map_of_mem member⟩

theorem verifyTimeout_of_member {current : Round} {round signer : UInt8} (fresh : current ≤ round.toUInt64)
    (member : signer ∈ names) :
    (Engine.verifyTimeout setting current (timeout round signer)).ending = .done (some (address signer)) :=
  Engine.verifySigned_done_iff.mpr ⟨fresh, timeout_holds round member⟩

def once : EngineState := { start with timeouts := start.timeouts.add (timeout 1 2) }

def twice : EngineState := { once with timeouts := once.timeouts.add (timeout 1 1) }

theorem verifyTimeout_start : Step.next ⟨.verifyTimeout (timeout 1 2), setting⟩ start = start :=
  Step.next_check (.timeout (timeout 1 2)) setting start

theorem collectTimeout_once : (Engine.collectTimeout setting (timeout 1 2) start).state = once := by
  have current : (timeout 1 2).round = start.round.currentRound := rfl
  refine (Engine.collectTimeout_of_short current selected ?_).state
  rw [certThreshold]
  change thresholdReached 1 4 0.667 = false
  decide

theorem collectTimeout_twice : (Engine.collectTimeout setting (timeout 1 1) once).state = twice := by
  have current : (timeout 1 1).round = once.round.currentRound := rfl
  refine (Engine.collectTimeout_of_short current selected ?_).state
  rw [certThreshold]
  change thresholdReached 2 4 0.667 = false
  decide

theorem once_signs : Engine.Signs setting once (timeout 1 1) := ⟨rfl, rfl, rfl, rfl⟩

theorem handleExpiry_once : SameTimeouts twice (Step.next ⟨.handleExpiry, setting⟩ once) := by
  have same := Engine.handleExpiry_sameTimeouts once_signs
  have replayed : (Engine.replay setting once).state = once := rfl
  rw [replayed, collectTimeout_twice] at same
  exact same

theorem not_suffices_two : ¬setting.Suffices ⟨1, 0⟩ 2 := by
  rintro ⟨found, chosen, reached⟩
  cases chosen
  rw [certThreshold] at reached
  revert reached
  decide

theorem suffices_three : setting.Suffices ⟨1, 0⟩ 3 := by
  refine ⟨_, rfl, ?_⟩
  rw [certThreshold]
  decide

def twiceRun : List Step :=
  [⟨.verifyTimeout (timeout 1 2), setting⟩, ⟨.collectTimeout (timeout 1 2), setting⟩, ⟨.handleExpiry, setting⟩]

def timesOut (signer : UInt8) : Step := ⟨.handleMessage (.timeout (timeout 1 signer)), setting⟩

def thriceRun : List Step := twiceRun ++ [timesOut 3]

theorem after_twiceRun : SameTimeouts twice (start.after twiceRun) := by
  have collected : Step.next ⟨.collectTimeout (timeout 1 2), setting⟩ start = once := collectTimeout_once
  unfold twiceRun EngineState.after
  rw [List.foldl_cons, verifyTimeout_start, List.foldl_cons, collected]
  exact handleExpiry_once

theorem diligent_concat {run : List Step} {operation : Operation} (diligent : Diligent start run)
    (same : ∀ step ∈ run, step.setting = setting)
    (checked : ∀ timeout, operation = .collectTimeout timeout → CheckedIn start run (.timeout timeout))
    (selected : ∀ timeout, operation = .handleExpiry → Engine.Signs setting (start.after run) timeout →
      timeout.attestation.Selected setting) :
    Diligent start (run ++ [⟨operation, setting⟩]) :=
  diligent.concat (continues_of_same same) checked recovers selected

theorem twiceRun_diligent : Diligent start twiceRun := by
  have first : Diligent start [⟨.verifyTimeout (timeout 1 2), setting⟩] :=
    diligent_concat .nil (by simp) nofun nofun
  have checks : Step.Checks ⟨.verifyTimeout (timeout 1 2), setting⟩ start (.timeout (timeout 1 2)) :=
    .timeout (timeout 1 2) (address 2) rfl (verifyTimeout_of_member (by decide) (by decide))
  have second : Diligent start
      [⟨.verifyTimeout (timeout 1 2), setting⟩, ⟨.collectTimeout (timeout 1 2), setting⟩] := by
    refine diligent_concat first (by simp) (fun object asked => ?_) nofun
    cases asked
    exact ⟨[], _, [], rfl, checks⟩
  have collected : start.after
      [⟨.verifyTimeout (timeout 1 2), setting⟩, ⟨.collectTimeout (timeout 1 2), setting⟩] = once := by
    unfold EngineState.after
    rw [List.foldl_cons, verifyTimeout_start]
    exact collectTimeout_once
  refine diligent_concat second (by simp) nofun (fun object _ signs => ?_)
  rw [collected] at signs
  rw [signs.unique once_signs]
  exact (timeout_holds 1 (by decide)).selected

theorem thriceRun_diligent : Diligent start thriceRun :=
  diligent_concat twiceRun_diligent (by simp [twiceRun]) nofun nofun

theorem collects_timeout {state : EngineState} {round signer : UInt8}
    (current : round.toUInt64 = state.round.currentRound) (member : signer ∈ names) :
    Step.Collects ⟨.handleMessage (.timeout (timeout round signer)), setting⟩ state (timeout round signer) := by
  have passed : (Engine.verifyTimeout setting state.round.currentRound (timeout round signer)).ending =
      .done (some (address signer)) := verifyTimeout_of_member (current ▸ UInt64.le_refl _) member
  exact ⟨.handleTimeout (timeout round signer) (address signer) passed, current⟩

theorem current_twiceRun : (1 : Round) = (start.after twiceRun).round.currentRound := by
  rw [after_twiceRun.round]
  rfl

theorem hasNext_twiceRun : (start.after twiceRun).round.timeoutRound.HasNext := by
  rw [after_twiceRun.round]
  decide

theorem orderly_twiceRun : Orderly setting (signersIn start twiceRun) (start.after twiceRun) := by
  have same : ∀ step ∈ twiceRun, step.setting = setting := by simp [twiceRun]
  exact (orderly_after started twiceRun twiceRun_diligent hasNext_twiceRun (continues_of_same same)).1

theorem timesOut_collects : (timesOut 3).Collects (start.after twiceRun) (timeout 1 3) :=
  collects_timeout current_twiceRun (by decide)

theorem ncard_signers_twiceRun : (signersIn start twiceRun ⟨1, 0⟩).ncard = 2 := by
  rw [orderly_twiceRun.tallies.ncard_signers orderly_twiceRun.unique current_twiceRun, after_twiceRun.timeouts]
  rfl

theorem ncard_signers_thriceRun : (signersIn start thriceRun ⟨1, 0⟩).ncard = 3 := by
  have added : signersIn start thriceRun ⟨1, 0⟩ = insert (address 3) (signersIn start twiceRun ⟨1, 0⟩) := by
    ext signer
    rw [thriceRun, mem_signersIn_concat, Step.collects_iff timesOut_collects, Set.mem_insert_iff, or_comm]
    exact or_congr_left ⟨fun both => both.2.symm, fun same => ⟨rfl, same.symm⟩⟩
  have fresh : address 3 ∉ signersIn start twiceRun ⟨1, 0⟩ := by
    rw [← orderly_twiceRun.tallies.current _ current_twiceRun, after_twiceRun.timeouts]
    change address 3 ∉ [address 2, address 1]
    decide
  have finite : (signersIn start twiceRun ⟨1, 0⟩).Finite :=
    Set.finite_of_ncard_ne_zero (by rw [ncard_signers_twiceRun]; decide)
  rw [added, Set.ncard_insert_of_notMem fresh finite, ncard_signers_twiceRun]

theorem hasNext_timeout {signers : TimeoutKey → Set Address} {state : EngineState} {round signer : UInt8}
    (orderly : Orderly setting signers state) (current : round.toUInt64 = state.round.currentRound)
    (member : signer ∈ names) (next : state.round.timeoutRound.HasNext) :
    (Step.next ⟨.handleMessage (.timeout (timeout round signer)), setting⟩ state).round.timeoutRound.HasNext := by
  have same := Step.sameTimeouts_of_admits (collects_timeout current member).1
  rw [same.round]
  rcases Engine.collectTimeout_settles orderly current (timeout_holds round member) next with
    ⟨-, kept⟩ | ⟨-, -, -, adopted⟩
  · exact (congrArg (fun state => state.round.timeoutRound.HasNext) kept).mpr next
  · have reached := congrArg (fun state => state.round.timeoutRound) adopted
    rw [EngineState.adopt_timeoutRound] at reached
    exact (congrArg Round.HasNext reached).mpr (hasNext round)

theorem hasNext_thriceRun : (start.after thriceRun).round.timeoutRound.HasNext := by
  rw [thriceRun, EngineState.after_concat]
  exact hasNext_timeout orderly_twiceRun current_twiceRun (by decide) hasNext_twiceRun

/-! A certificate of the last round is adopted, but there is no round to enter. -/

def endorsedCert (round : Round) : TimeoutCert :=
  ⟨round, 0, [1, 2, 3].map (sign (TimeoutPayload.digest ⟨round, 0⟩))⟩

theorem processTimeoutCert_of_last {state : EngineState} {round : Round} (newer : state.round.timeoutRound < round)
    (last : ¬round.HasNext) :
    Step.next ⟨.processTimeoutCert (endorsedCert round), setting⟩ state =
      { state with round.highestTimeoutCert := some (endorsedCert round) } := by
  have verified : (AnyCert.timeout (endorsedCert round)).Passes setting :=
    Engine.verifyTimeoutCert_done_iff.mpr (endorsed _ _ (by decide) (by decide) (by decide))
  have adopted : state.adopt (.timeout (endorsedCert round)) = _ := EngineState.adopt_of_last last
  exact (Engine.process_state verified).trans ((if_pos newer).trans adopted)

def lastRound : Round := 18446744073709551615

def torn : EngineState := { start with round := ⟨1, genesis, some (endorsedCert lastRound)⟩ }

theorem processTimeoutCert_lastRound :
    Step.next ⟨.processTimeoutCert (endorsedCert lastRound), setting⟩ start = torn :=
  processTimeoutCert_of_last (by decide) (by decide)

theorem handleTimeout_torn {state : EngineState} (round : state.round = torn.round) {signer : UInt8}
    (member : signer ∈ names) :
    (timesOut signer).next state = { state with timeouts := state.timeouts.add (timeout 1 signer) } := by
  have current : (timeout 1 signer).round = state.round.currentRound := by
    rw [round]
    rfl
  have passed : (Engine.verifyTimeout setting state.round.currentRound (timeout 1 signer)).ending =
      .done (some (address signer)) := verifyTimeout_of_member (current ▸ UInt64.le_refl _) member
  have behind : (timeout 1 signer).round ≤ state.round.timeoutRound := by
    rw [round]
    change (1 : UInt64) ≤ lastRound
    decide
  exact (Engine.handleSigned_of_verified passed).state.trans
    (Engine.collectTimeout_of_behind current selected behind)

theorem after_timeouts_torn (signers : List UInt8) (members : signers ⊆ names) {state : EngineState}
    (round : state.round = torn.round) :
    state.after (signers.map timesOut) =
      { state with timeouts := signers.foldl (fun pool signer => pool.add (timeout 1 signer)) state.timeouts } := by
  induction signers generalizing state with
  | nil => rfl
  | cons signer rest ih =>
    obtain ⟨member, others⟩ := List.cons_subset.mp members
    rw [List.map_cons, EngineState.after_cons, handleTimeout_torn round member]
    exact ih others round

def tornRun : List Step := ⟨.processTimeoutCert (endorsedCert lastRound), setting⟩ :: [1, 2, 3].map timesOut

theorem after_tornRun : start.after tornRun =
    { torn with timeouts := ((start.timeouts.add (timeout 1 1)).add (timeout 1 2)).add (timeout 1 3) } := by
  unfold tornRun
  rw [EngineState.after_cons, processTimeoutCert_lastRound]
  exact after_timeouts_torn [1, 2, 3] (by decide) rfl

theorem tornRun_diligent : Diligent start tornRun := by
  have settled : ∀ signers : List UInt8,
      ∀ step ∈ ⟨.processTimeoutCert (endorsedCert lastRound), setting⟩ :: signers.map timesOut,
        step.setting = setting := by
    simp [timesOut]
  have after (signers : List UInt8) :
      Diligent start (⟨.processTimeoutCert (endorsedCert lastRound), setting⟩ :: signers.map timesOut) := by
    induction signers using List.reverseRecOn with
    | nil => exact diligent_concat .nil (fun _ => nofun) nofun nofun
    | append_singleton signers signer ih =>
      rw [List.map_append, ← List.cons_append]
      exact diligent_concat ih (settled signers) nofun nofun
  exact after [1, 2, 3]

end Sample

section Runs

variable {cert : QuorumCert} {start : EngineState}

/-- In a diligent run in which no timeout certificate of the last round is adopted, no bucket of timeouts is
ever enough for a certificate; and the step after which the signers of the timeouts for a key suffice, while
they have not before, adopts a certificate for the key and enters the next round. -/
theorem timeout_certificates_never_missed (started : EngineState.start? cert = some start) (run : List Step)
    (diligent : Diligent start run) (next : (start.after run).round.timeoutRound.HasNext) :
    (∀ setting : Setting, (∀ step ∈ run, setting.Continues step.setting) →
      ∀ key bucket, (start.after run).timeouts.bucket? key = some bucket → setting.Short key bucket.length) ∧
      ∀ before step key, run = before ++ [step] →
        ¬step.setting.Suffices key (signersIn start before key).ncard →
          step.setting.Suffices key (signersIn start run key).ncard →
            step.Completes (start.after before) key := by
  refine ⟨fun setting continues => (orderly_after started run diligent next continues).2, ?_⟩
  rintro before step key rfl few enough
  rw [EngineState.after_concat] at next
  have nextBefore := Round.hasNext_of_le (step.advances (start.after before)).timeoutRound next
  obtain ⟨orderly, -⟩ := orderly_after started before diligent.init nextBefore diligent.continues_last
  -- Without a new signer for the key, nothing would have changed.
  have added : ∃ timeout : Timeout, timeout.key = key ∧ step.Collects (start.after before) timeout := by
    by_contra none
    have same : signersIn start (before ++ [step]) key = signersIn start before key := by
      ext signer
      rw [mem_signersIn_concat]
      exact or_iff_left fun ⟨timeout, own, _, collects⟩ => none ⟨timeout, own, collects⟩
    exact few (same ▸ enough)
  obtain ⟨timeout, rfl, collects⟩ := added
  have holds := diligent.holds_of_admitted (.last collects.1)
  exact step.completes_of_suffices orderly collects holds
    (fun _ _ => mem_signersIn_concat.trans (or_congr_right (Step.collects_iff collects))) next enough

/-- The node adopts a certificate of the last round, but stays in the first one; there, timeouts of three of
four masternodes pile up. -/
theorem timeouts_pile_up_behind_last_round :
    EngineState.start? Sample.genesis = some Sample.start ∧ Diligent Sample.start Sample.tornRun ∧
      (Sample.start.after Sample.tornRun).round.currentRound = 1 ∧
      ∃ bucket, (Sample.start.after Sample.tornRun).timeouts.bucket? ⟨1, 0⟩ = some bucket ∧
        Sample.setting.Suffices ⟨1, 0⟩ bucket.length := by
  rw [Sample.after_tornRun]
  exact ⟨Sample.started, Sample.tornRun_diligent, rfl, _, rfl, Sample.suffices_three⟩

/-- The third timeout ends the round. -/
theorem third_timeout_ends_round :
    Diligent Sample.start Sample.thriceRun ∧
      (Sample.start.after Sample.thriceRun).round.timeoutRound.HasNext ∧
      (Sample.timesOut 3).Completes (Sample.start.after Sample.twiceRun) ⟨1, 0⟩ := by
  obtain ⟨-, completes⟩ := timeout_certificates_never_missed Sample.started Sample.thriceRun
    Sample.thriceRun_diligent Sample.hasNext_thriceRun
  have few : ¬Sample.setting.Suffices ⟨1, 0⟩ (signersIn Sample.start Sample.twiceRun ⟨1, 0⟩).ncard := by
    rw [Sample.ncard_signers_twiceRun]
    exact Sample.not_suffices_two
  have enough : Sample.setting.Suffices ⟨1, 0⟩ (signersIn Sample.start Sample.thriceRun ⟨1, 0⟩).ncard := by
    rw [Sample.ncard_signers_thriceRun]
    exact Sample.suffices_three
  exact ⟨Sample.thriceRun_diligent, Sample.hasNext_thriceRun, completes _ _ _ rfl few enough⟩

end Runs

end MasternodeBft
