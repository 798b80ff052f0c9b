import MasternodeBft.Proofs.Assembly
import MasternodeBft.Proofs.LastWrites
import MasternodeBft.Proofs.Reception
import MasternodeBft.Proofs.Retention

/-!
How long votes are kept. A vote is pooled where it is for the current round or the next one, whatever becomes
of the certificate that it may complete; and it stays until its signer votes for the same block again, or the
pool is swept when its round is more than ten rounds past.
-/

namespace MasternodeBft

/-! What has happened in a run, and still stands. -/

theorem EngineState.after_append (state : EngineState) (first rest : List Step) :
    state.after (first ++ rest) = (state.after first).after rest := List.foldl_append

/-- Something has happened at a step of a run, and nothing has undone it since. -/
def Stands (event undoing : Step → EngineState → Prop) (start : EngineState) (run : List Step) : Prop :=
  ∃ before step after, run = before ++ step :: after ∧ event step (start.after before) ∧
    ¬Occurs undoing (step.next (start.after before)) after

namespace Stands

variable {event undoing : Step → EngineState → Prop} {start : EngineState} {run : List Step} {step : Step}

theorem not_nil : ¬Stands event undoing start [] := by
  rintro ⟨before, step, after, split, -⟩
  exact absurd split (by simp)

theorem last (happens : event step (start.after run)) : Stands event undoing start (run ++ [step]) :=
  ⟨run, step, [], rfl, happens, fun ⟨_, _, _, split, _⟩ => absurd split (by simp)⟩

theorem concat_iff : Stands event undoing start (run ++ [step]) ↔
    event step (start.after run) ∨ (Stands event undoing start run ∧ ¬undoing step (start.after run)) := by
  constructor
  · rintro ⟨before, earlier, after, split, happened, kept⟩
    rcases concat_eq_split_iff.mp split with ⟨rfl, rfl, -⟩ | ⟨rest, rfl, rfl⟩
    · exact .inl happened
    · rw [Occurs.concat_iff, not_or, ← EngineState.after_cons, ← EngineState.after_append] at kept
      exact .inr ⟨⟨before, earlier, rest, rfl, happened, kept.1⟩, kept.2⟩
  · rintro (happens | ⟨⟨before, earlier, rest, rfl, happened, kept⟩, spared⟩)
    · exact last happens
    · refine ⟨before, earlier, rest ++ [step], by rw [List.append_assoc]; rfl, happened, ?_⟩
      rw [Occurs.concat_iff, not_or, ← EngineState.after_cons, ← EngineState.after_append]
      exact ⟨kept, spared⟩

end Stands

/-! What steps do to votes. -/

/-- Votes for a round are taken in the round itself and in the one before it. In the last round of all none
are, as the one after it cannot be reckoned. -/
structure RoundState.AwaitsVotes (state : RoundState) (round : Round) : Prop where
  current : state.currentRound ≤ round
  near : round.toNat ≤ state.currentRound.toNat + 1
  next : state.currentRound.HasNext

theorem RoundState.awaitsVotes_iff {state : RoundState} {round : Round} (next : state.currentRound.HasNext) :
    state.AwaitsVotes round ↔ state.currentRound ≤ round ∧ ¬state.currentRound + 1 < round := by
  have reckoned : ¬state.currentRound + 1 < round ↔ round.toNat ≤ state.currentRound.toNat + 1 := by
    rw [UInt64.not_lt, UInt64.le_iff_toNat_le, Round.toNat_add_one next]
  rw [reckoned]
  exact ⟨fun awaits => ⟨awaits.current, awaits.near⟩, fun ⟨current, near⟩ => ⟨current, near, next⟩⟩

section Deeds

variable {setting : Setting}

theorem Deed.SparesVotes.keeps {deed : Deed} (spares : deed.SparesVotes) (pool : VotePool) :
    (deed.action setting).Keeps (fun state => state.votes = pool) False := by
  cases deed with
  | process cert =>
    refine .of_sure fun state same => ?_
    have kept : (Engine.process setting cert state).state.votes = state.votes :=
      (Engine.process_fate cert).spares EngineState.votes (state.adopt_votes cert)
    exact kept.trans same
  | keepVote | sweepVotes => exact spares.elim
  | _ => exact .of_sure fun _ same => same

theorem MadeOf.spares_votes {α : Type} {allowed : Deed → Prop} {action : Action α}
    (made : MadeOf setting allowed action) (spares : ∀ deed, allowed deed → deed.SparesVotes) (state : EngineState) :
    (action state).state.votes = state.votes := by
  have kept := made.keeps fun deed fits => (spares deed fits).keeps state.votes
  exact (kept state rfl).resolve_right fun stopped => stopped.1

end Deeds

namespace Engine

open MasternodeBft.Action

variable {setting : Setting} {state : EngineState} {vote : Vote}

theorem collectVote_votes (awaited : state.round.AwaitsVotes vote.round) :
    (collectVote setting vote state).state.votes = state.votes.add vote := by
  obtain ⟨current, near⟩ := (RoundState.awaitsVotes_iff awaited.next).mp awaited
  let pooled : EngineState := { state with votes := state.votes.add vote }
  let bucket := pooled.votes.bucket vote.key
  let rest : Action Unit := note (.collected (.vote vote) bucket.length) >>= fun _ =>
    if pooled.round.quorumRound < vote.round then
      certify setting (.vote vote) bucket.length (.quorum (assembleQuorum setting vote bucket))
    else pure ()
  have made : MadeOf setting Deed.Common rest := by
    have common : ∀ deed : Deed, deed.Common → deed.Common := fun _ => id
    exact note_bind_made common (.ite (certify_made common _ _ _) (.pure ()))
  change ((if vote.round < state.round.currentRound then _ else _ : Action Unit) state).state.votes = _
  rw [if_neg (UInt64.not_lt.mpr current), Check.add_one_of_hasNext awaited.next]
  change ((if state.round.currentRound + 1 < vote.round then _ else _ : Action Unit) state).state.votes = _
  rw [if_neg near]
  exact made.spares_votes (fun _ common => common.votes) pooled

theorem collectVote_of_unawaited (unawaited : ¬state.round.AwaitsVotes vote.round) :
    (collectVote setting vote state).state = state := by
  by_cases current : state.round.currentRound ≤ vote.round
  · by_cases next : state.round.currentRound.HasNext
    · have far : state.round.currentRound + 1 < vote.round := by
        by_contra near
        exact unawaited ((RoundState.awaitsVotes_iff next).mpr ⟨current, near⟩)
      exact (collectVote_of_far current next far).state
    · exact (collectVote_of_last current next).state
  · change ((if vote.round < state.round.currentRound then _ else _ : Action Unit) state).state = _
    rw [if_pos (UInt64.not_le.mp current)]
    rfl

end Engine

namespace Step

structure PoolsVote (vote : Vote) (step : Step) (state : EngineState) : Prop where
  admits : step.Admits state (.vote vote)
  awaited : state.round.AwaitsVotes vote.round

def PoolsUnder (key : VoteKey) (signer : Address) (step : Step) (state : EngineState) : Prop :=
  ∃ vote, vote.key = key ∧ vote.signer = signer ∧ step.PoolsVote vote state

def SweepsVotes (step : Step) : Prop := step.operation = .sweepVotes ∨ step.operation = .sweepAll

/-- A step that sweeps the pool of votes when the round of a key is more than ten rounds past. -/
structure SweepsKeyAway (key : VoteKey) (step : Step) (state : EngineState) : Prop where
  sweeps : step.SweepsVotes
  past : key.round.toNat + 10 < state.round.currentRound.toNat

variable {step : Step} {state : EngineState} {vote other : Vote}

theorem PoolsVote.unique (pools : step.PoolsVote vote state) (also : step.PoolsVote other state) : other = vote := by
  obtain ⟨operation, setting⟩ := step
  cases pools.admits with
  | collectVote =>
    cases also.admits
    rfl
  | handleVote sent signer passed =>
    cases also.admits with
    | handleVote _ another alsoPassed =>
      cases passed.symm.trans alsoPassed
      rfl

theorem votes_of_pools (pools : step.PoolsVote vote state) : (step.next state).votes = state.votes.add vote := by
  obtain ⟨operation, setting⟩ := step
  cases pools.admits with
  | collectVote => exact Engine.collectVote_votes pools.awaited
  | handleVote sent signer passed =>
    have verified : (Engine.handleVote setting sent state).Agrees _ := Engine.handleSigned_of_verified passed
    exact (congrArg EngineState.votes verified.state).trans (Engine.collectVote_votes pools.awaited)

theorem sweep_state (sweeps : step.SweepsVotes) (state : EngineState) :
    (step.next state).round = state.round ∧
      (step.next state).votes = state.votes.sweep state.round.currentRound Engine.hygieneWindow := by
  obtain ⟨operation, setting⟩ := step
  rcases sweeps with rfl | rfl
  · exact ⟨rfl, rfl⟩
  · change (Engine.sweepAll state).state.round = _ ∧ (Engine.sweepAll state).state.votes = _
    rw [Engine.sweepAll_state]
    exact ⟨rfl, rfl⟩

theorem votes_of_spares (pools : ∀ vote, ¬step.PoolsVote vote state) (sweeps : ¬step.SweepsVotes) :
    (step.next state).votes = state.votes := by
  obtain ⟨operation, setting⟩ := step
  by_cases takes : operation.TakesVote
  · cases operation with
    | collectVote vote =>
      have unawaited : ¬state.round.AwaitsVotes vote.round := fun awaited => pools vote ⟨.collectVote vote, awaited⟩
      exact congrArg EngineState.votes (Engine.collectVote_of_unawaited unawaited)
    | handleMessage message =>
      cases message with
      | vote sent =>
        by_cases verified : ∃ signer,
            (Engine.verifyVote setting state.round.currentRound sent).ending = .done (some signer)
        · obtain ⟨signer, passed⟩ := verified
          have collected : (Engine.handleVote setting sent state).Agrees _ := Engine.handleSigned_of_verified passed
          have unawaited : ¬state.round.AwaitsVotes sent.round :=
            fun awaited => pools { sent with signer } ⟨.handleVote sent signer passed, awaited⟩
          have spared : (Engine.collectVote setting { sent with signer } state).state = state :=
            Engine.collectVote_of_unawaited unawaited
          exact congrArg EngineState.votes (collected.state.trans spared)
        · exact congrArg EngineState.votes (Engine.handleSigned_of_unverified (not_exists.mp verified)).state
      | _ => exact takes.elim
    | _ => exact takes.elim
  · have made : MadeOf setting (operation.Allows setting state) _ := operation.made
    exact made.spares_votes (fun _ allowed => Operation.sparesVotes_of_allows allowed takes sweeps) state

/-- All that a step can do to the votes. -/
theorem votes_cases (step : Step) (state : EngineState) :
    (∃ vote, step.PoolsVote vote state ∧ (step.next state).votes = state.votes.add vote) ∨
      (step.SweepsVotes ∧
        (step.next state).votes = state.votes.sweep state.round.currentRound Engine.hygieneWindow) ∨
      (step.next state).votes = state.votes := by
  by_cases pooling : ∃ vote, step.PoolsVote vote state
  · obtain ⟨vote, pools⟩ := pooling
    exact .inl ⟨vote, pools, votes_of_pools pools⟩
  · by_cases sweeps : step.SweepsVotes
    · exact .inr (.inl ⟨sweeps, (sweep_state sweeps state).2⟩)
    · exact .inr (.inr (votes_of_spares (not_exists.mp pooling) sweeps))

end Step

/-! The votes that are found. -/

theorem VoteKey.swept_iff {key : VoteKey} {current : Round} :
    (Engine.hygieneWindow ≤ current ∧ PoolKey.isOlderThan key (current - Engine.hygieneWindow) = true) ↔
      key.round.toNat + 10 < current.toNat := by
  change (_ ∧ decide (key.round < current - Engine.hygieneWindow) = true) ↔ _
  have window : Engine.hygieneWindow.toNat = 10 := rfl
  rw [decide_eq_true_iff, UInt64.lt_iff_toNat_lt]
  constructor
  · rintro ⟨reached, past⟩
    rw [UInt64.toNat_sub_of_le _ _ reached, window] at past
    omega
  · intro past
    have reached : Engine.hygieneWindow ≤ current := UInt64.le_iff_toNat_le.mpr (by omega)
    rw [UInt64.toNat_sub_of_le _ _ reached, window]
    exact ⟨reached, by omega⟩

namespace Step

variable {step : Step} {state : EngineState} {key : VoteKey} {signer : Address} {vote : Vote}

theorem found_of_pools (pools : step.PoolsVote vote state) (sameKey : vote.key = key)
    (sameSigner : vote.signer = signer) :
    ((step.next state).votes.bucket key).get? signer = some vote := by
  rw [votes_of_pools pools, Pool.get?_bucket_add]
  exact if_pos ⟨sameKey, sameSigner⟩

theorem not_found_of_away (away : step.SweepsKeyAway key state) :
    ((step.next state).votes.bucket key).get? signer = none := by
  rw [(sweep_state away.sweeps state).2, Pool.get?_bucket_sweep]
  exact if_pos (VoteKey.swept_iff.mpr away.past)

theorem found_of_spared (elsewhere : ¬step.PoolsUnder key signer state) (spared : ¬step.SweepsKeyAway key state) :
    ((step.next state).votes.bucket key).get? signer = (state.votes.bucket key).get? signer := by
  rcases step.votes_cases state with ⟨pooled, pools, added⟩ | ⟨sweeps, swept⟩ | kept
  · rw [added, Pool.get?_bucket_add]
    exact if_neg fun ⟨sameKey, sameSigner⟩ => elsewhere ⟨pooled, sameKey, sameSigner, pools⟩
  · rw [swept, Pool.get?_bucket_sweep]
    exact if_neg fun stale => spared ⟨sweeps, VoteKey.swept_iff.mp stale⟩
  · rw [kept]

theorem found_iff_of_elsewhere (elsewhere : ¬step.PoolsUnder key signer state) :
    ((step.next state).votes.bucket key).get? signer = some vote ↔
      (state.votes.bucket key).get? signer = some vote ∧ ¬step.SweepsKeyAway key state := by
  by_cases away : step.SweepsKeyAway key state
  · rw [not_found_of_away away]
    exact iff_of_false nofun fun kept => kept.2 away
  · rw [found_of_spared elsewhere away]
    exact (and_iff_left away).symm

theorem found_iff : ((step.next state).votes.bucket key).get? signer = some vote ↔
    (vote.key = key ∧ vote.signer = signer ∧ step.PoolsVote vote state) ∨
      ((state.votes.bucket key).get? signer = some vote ∧
        ¬(step.PoolsUnder key signer state ∨ step.SweepsKeyAway key state)) := by
  by_cases under : step.PoolsUnder key signer state
  · obtain ⟨pooled, sameKey, sameSigner, pools⟩ := under
    rw [found_of_pools pools sameKey sameSigner]
    constructor
    · rintro ⟨⟩
      exact .inl ⟨sameKey, sameSigner, pools⟩
    · rintro (⟨-, -, also⟩ | ⟨-, kept⟩)
      · exact congrArg some (also.unique pools)
      · exact absurd (.inl ⟨pooled, sameKey, sameSigner, pools⟩) kept
  · have others : ¬(vote.key = key ∧ vote.signer = signer ∧ step.PoolsVote vote state) :=
      fun pools => under ⟨vote, pools⟩
    rw [or_iff_right others, or_iff_right under]
    exact found_iff_of_elsewhere under

theorem some_found_iff : (∃ vote, ((step.next state).votes.bucket key).get? signer = some vote) ↔
    step.PoolsUnder key signer state ∨
      ((∃ vote, (state.votes.bucket key).get? signer = some vote) ∧ ¬step.SweepsKeyAway key state) := by
  by_cases under : step.PoolsUnder key signer state
  · obtain ⟨pooled, sameKey, sameSigner, pools⟩ := under
    exact iff_of_true ⟨pooled, found_of_pools pools sameKey sameSigner⟩ (.inl ⟨pooled, sameKey, sameSigner, pools⟩)
  · rw [or_iff_right under, ← exists_and_right]
    exact exists_congr fun _ => found_iff_of_elsewhere under

theorem mem_vote_keys (listed : key ∈ (step.next state).votes.keys) :
    key ∈ state.votes.keys ∨ state.round.AwaitsVotes key.round := by
  rcases step.votes_cases state with ⟨pooled, pools, added⟩ | ⟨-, swept⟩ | kept
  · rw [added] at listed
    rcases Entries.mem_keys_put.mp listed with rfl | old
    · exact .inr pools.awaited
    · exact .inl old
  · rw [swept] at listed
    exact .inl (Pool.mem_keys_sweep_iff.mp listed).1
  · rw [kept] at listed
    exact .inl listed

end Step

def EngineState.VotesNear (state : EngineState) : Prop :=
  ∀ key ∈ state.votes.keys, key.round.toNat ≤ state.round.currentRound.toNat + 1

theorem Step.votesNear {step : Step} {state : EngineState} (near : state.VotesNear) : (step.next state).VotesNear := by
  intro key listed
  have advanced := UInt64.le_iff_toNat_le.mp (step.advances state).currentRound
  have bound : key.round.toNat ≤ state.round.currentRound.toNat + 1 :=
    (mem_vote_keys listed).elim (near key) RoundState.AwaitsVotes.near
  omega

structure VotesOfWindow (start : EngineState) (run : List Step) : Prop where
  /-- A vote of a signer is found under a key if such a one has been pooled, and not been swept away since. -/
  found_iff : ∀ key signer, (∃ vote, ((start.after run).votes.bucket key).get? signer = some vote) ↔
    Stands (Step.PoolsUnder key signer) (Step.SweepsKeyAway key) start run
  /-- It is the last one that has been pooled. -/
  last_iff : ∀ key signer vote, ((start.after run).votes.bucket key).get? signer = some vote ↔
    vote.key = key ∧ vote.signer = signer ∧ Stands (Step.PoolsVote vote)
      (fun step state => step.PoolsUnder key signer state ∨ step.SweepsKeyAway key state) start run
  near : (start.after run).VotesNear
  /-- A sweep leaves no key of a round that is more than ten rounds past. -/
  swept : ∀ step : Step, step.SweepsVotes → ∀ key ∈ (step.next (start.after run)).votes.keys,
    (step.next (start.after run)).round.currentRound.toNat ≤ key.round.toNat + 10
  /-- Whatever a step does, votes for the current round and the next one stay, but for the same signer's
  next votes under the same key. -/
  spared : ∀ (step : Step) key signer vote, (start.after run).round.currentRound ≤ key.round →
    ((start.after run).votes.bucket key).get? signer = some vote →
    ((step.next (start.after run)).votes.bucket key).get? signer = some vote ∨
      ∃ other, step.PoolsVote other (start.after run) ∧
        ((step.next (start.after run)).votes.bucket key).get? signer = some other

section Window

variable {cert : QuorumCert} {start : EngineState}

/-- The vote that is found is the last one that has been pooled, if that still stands. -/
theorem vote_found_iff_stands (started : EngineState.start? cert = some start) (run : List Step) {key : VoteKey}
    {signer : Address} {vote : Vote} : ((start.after run).votes.bucket key).get? signer = some vote ↔
      vote.key = key ∧ vote.signer = signer ∧ Stands (Step.PoolsVote vote)
        (fun step state => step.PoolsUnder key signer state ∨ step.SweepsKeyAway key state) start run := by
  induction run using List.reverseRecOn with
  | nil =>
    change (start.votes.bucket key).get? signer = some vote ↔ _
    rw [(pools_of_started started).1]
    exact iff_of_false nofun fun stands => Stands.not_nil stands.2.2
  | append_singleton run step ih =>
    rw [EngineState.after_concat, Step.found_iff, ih, Stands.concat_iff]
    simp only [and_or_left, and_assoc]

theorem votes_found_iff_stands (started : EngineState.start? cert = some start) (run : List Step) {key : VoteKey}
    {signer : Address} : (∃ vote, ((start.after run).votes.bucket key).get? signer = some vote) ↔
      Stands (Step.PoolsUnder key signer) (Step.SweepsKeyAway key) start run := by
  induction run using List.reverseRecOn with
  | nil =>
    change (∃ vote, (start.votes.bucket key).get? signer = some vote) ↔ _
    rw [(pools_of_started started).1]
    exact iff_of_false nofun Stands.not_nil
  | append_singleton run step ih =>
    rw [EngineState.after_concat, Step.some_found_iff, ih, Stands.concat_iff]

theorem votesNear (started : EngineState.start? cert = some start) (run : List Step) :
    (start.after run).VotesNear := by
  refine EngineState.after_keeps EngineState.VotesNear ?_ (fun _ _ => Step.votesNear) run
  intro key listed
  rw [(pools_of_started started).1] at listed
  exact absurd listed List.not_mem_nil

/-- Whatever is asked of a node, its pool holds the votes of its window, each signer's last one, and no others. -/
theorem votes_kept_in_window (started : EngineState.start? cert = some start) (run : List Step) :
    VotesOfWindow start run where
  found_iff _ _ := votes_found_iff_stands started run
  last_iff _ _ _ := vote_found_iff_stands started run
  near := votesNear started run
  swept step sweeps key listed := by
    obtain ⟨round, votes⟩ := Step.sweep_state sweeps (start.after run)
    rw [votes] at listed
    rw [round]
    have fresh := (Pool.mem_keys_sweep_iff.mp listed).2
    exact Nat.not_lt.mp (mt VoteKey.swept_iff.mpr fresh)
  spared step key signer vote current found := by
    by_cases under : step.PoolsUnder key signer (start.after run)
    · obtain ⟨other, sameKey, sameSigner, pools⟩ := under
      exact .inr ⟨other, pools, Step.found_of_pools pools sameKey sameSigner⟩
    · refine .inl ((Step.found_of_spared under fun away => ?_).trans found)
      have past := away.past
      rw [UInt64.le_iff_toNat_le] at current
      omega

/-- The vote that a run hands over is found, so it has been pooled and nothing has undone that. -/
theorem handed_over_vote_stands :
    EngineState.start? Sample.genesis = some Sample.start ∧ VotesOfWindow Sample.start Sample.earlyRun ∧
      Stands (Step.PoolsVote (Sample.vote 1 1)) (fun step state =>
        step.PoolsUnder (Sample.vote 1 1).key (Sample.address 1) state ∨
          step.SweepsKeyAway (Sample.vote 1 1).key state) Sample.start Sample.earlyRun := by
  have window := votes_kept_in_window Sample.started Sample.earlyRun
  have found : ((Sample.start.after Sample.earlyRun).votes.bucket (Sample.vote 1 1).key).get? (Sample.address 1) =
      some (Sample.vote 1 1) := by
    rw [Sample.after_earlyRun]
    rfl
  exact ⟨Sample.started, window, ((window.last_iff _ _ _).mp found).2.2⟩

end Window

end MasternodeBft
