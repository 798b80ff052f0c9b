import MasternodeBft.Chain.Memory
import MasternodeBft.Proofs.Assembly
import MasternodeBft.Proofs.LastRound
import MasternodeBft.Proofs.Reception

/-!
Votes and the block that they are for, in any order. Votes for a block that has not arrived stay in the pool,
and once it has, the next vote makes a certificate of them all. The arrival itself does not, so without another
vote the block stays uncertified.
-/

namespace MasternodeBft

def Setting.withChain (setting : Setting) (chain : ChainView) : Setting := { setting with chain }

theorem Setting.configAt_withChain (setting : Setting) (chain : ChainView) (round : Round) :
    (setting.withChain chain).configAt round = setting.configAt round := rfl

/-- The same setting with a block that has just arrived. -/
def Setting.importing (setting : Setting) (chain : MemoryChain) (block : BlockInfo) : Setting :=
  setting.withChain (chain.importBlock block).view

/-- The block is known under its hash, with its number and round. -/
def Setting.Knows (setting : Setting) (block : BlockInfo) : Prop :=
  ∃ header, setting.chain.header? block.hash = some header ∧ header.number = block.number ∧
    header.round = block.round

theorem Setting.importing_continues {setting : Setting} {chain : MemoryChain} (onChain : setting.chain = chain.view)
    (block : BlockInfo) : (setting.importing chain block).Continues setting where
  config := rfl
  authority := rfl
  snapshot gapNumber snapshot found := by
    rw [onChain] at found
    exact found

theorem Setting.Resembles.knows {other setting : Setting} {block : BlockInfo} (resembles : other.Resembles setting)
    (known : setting.Knows block) : other.Knows block := by
  unfold Setting.Knows
  rw [resembles.chain]
  exact known

theorem Setting.importing_knows (setting : Setting) (chain : MemoryChain) (block : BlockInfo) :
    (setting.importing chain block).Knows block :=
  ⟨⟨block.number, block.hash, FixedBytes.zero 32, block.round⟩, Entries.get?_put_self _ _ _, rfl, rfl⟩

/-- A block, and votes for it of masternodes who are enough to certify it. -/
structure Poll (setting : Setting) where
  block : BlockInfo
  gapNumber : UInt64
  snapshot : Snapshot
  voters : List Address
  ballot : Address → Vote
  selected : setting.chain.snapshot gapNumber = .ok snapshot
  distinct : voters.Nodup
  members : ∀ voter ∈ voters, voter ∈ snapshot.masternodes
  about : ∀ voter ∈ voters, (ballot voter).payload = ⟨block, gapNumber⟩
  genuine : ∀ voter ∈ voters,
    setting.authority.recover (VotePayload.digest ⟨block, gapNumber⟩) (ballot voter).signature = .ok voter
  enough : thresholdReached voters.length snapshot.masternodes.length
    (setting.configAt block.round).certThreshold = true

namespace Poll

variable {setting place : Setting} (poll : Poll setting)

def key : VoteKey := ⟨poll.block.round, poll.gapNumber, poll.block.number, poll.block.hash⟩

def entry (voter : Address) : Vote := { poll.ballot voter with signer := voter }

def pooled (voter : Address) (state : EngineState) : EngineState :=
  { state with votes := state.votes.add (poll.entry voter) }

/-- The deliveries of the votes of some voters, one after another, each in its setting. -/
def deliveries (places : Address → Setting) (voters : List Address) : List Step :=
  voters.map fun voter => ⟨.handleMessage (.vote (poll.ballot voter)), places voter⟩

/-- Each vote is delivered once, and the block arrives on the chain when those of some voters have come. -/
structure ArrivesBetween (chain : MemoryChain) (before after : List Address) (places : Address → Setting) :
    Prop where
  order : (before ++ after).Perm poll.voters
  earlier : ∀ voter ∈ before, (places voter).Resembles setting
  later : ∀ voter ∈ after, (places voter).Resembles (setting.importing chain poll.block)

/-- The block has been certified, and its round is over. -/
structure Certifies (state : EngineState) : Prop where
  block : state.round.highestQuorumCert.block = poll.block
  past : poll.block.round < state.round.currentRound

/-- Some have voted, and nothing but the pool of votes is other than at the start. -/
structure Gathers (start state : EngineState) (voted : List Address) : Prop where
  rest : state = { start with votes := state.votes }
  keys : (state.votes.bucket poll.key).keys = voted
  filed : ∀ entry ∈ state.votes.bucket poll.key, entry.2 = poll.entry entry.1
  electors : voted ⊆ poll.voters
  distinct : voted.Nodup

structure Timely (start : EngineState) : Prop where
  current : poll.block.round = start.round.currentRound
  next : poll.block.round.HasNext
  newer : start.round.quorumRound < poll.block.round

variable {poll} {voter : Address} {start state : EngineState} {voted voters : List Address}
  {places : Address → Setting}

theorem payload_entry (votes : voter ∈ poll.voters) : (poll.entry voter).payload = ⟨poll.block, poll.gapNumber⟩ :=
  poll.about voter votes

theorem key_entry (votes : voter ∈ poll.voters) : (poll.entry voter).key = poll.key :=
  congrArg (fun payload : VotePayload =>
    (⟨payload.block.round, payload.gapNumber, payload.block.number, payload.block.hash⟩ : VoteKey))
    (payload_entry votes)

theorem block_entry (votes : voter ∈ poll.voters) : (poll.entry voter).block = poll.block :=
  congrArg VotePayload.block (payload_entry votes)

theorem gapNumber_entry (votes : voter ∈ poll.voters) : (poll.entry voter).gapNumber = poll.gapNumber :=
  congrArg VotePayload.gapNumber (payload_entry votes)

theorem round_entry (votes : voter ∈ poll.voters) : (poll.entry voter).round = poll.block.round :=
  congrArg BlockInfo.round (block_entry votes)

theorem holds_entry (votes : voter ∈ poll.voters) (continues : place.Continues setting) :
    (poll.entry voter).attestation.Holds place := by
  have genuine := poll.genuine voter votes
  rw [← payload_entry votes] at genuine
  have selected := poll.selected
  rw [← gapNumber_entry votes] at selected
  have holds : (poll.entry voter).attestation.Holds setting :=
    ⟨genuine, poll.snapshot, selected, poll.members voter votes⟩
  exact holds.of_continues continues

theorem snapshot_done (votes : voter ∈ poll.voters) (continues : place.Continues setting) :
    (Engine.snapshot place (poll.entry voter).gapNumber).ending = .done poll.snapshot := by
  rw [gapNumber_entry votes, Engine.snapshot_done_iff]
  exact ⟨continues.snapshot _ _ poll.selected, List.ne_nil_of_mem (poll.members voter votes)⟩

/-! One vote. -/

theorem bucket_pooled (votes : voter ∈ poll.voters) (state : EngineState) :
    (poll.pooled voter state).votes.bucket poll.key =
      (state.votes.bucket poll.key).put voter (poll.entry voter) := by
  have own : Poolable.key (poll.entry voter) = poll.key := key_entry votes
  unfold pooled
  rw [Pool.bucket_add, if_pos own]
  rfl

theorem Gathers.add (gathers : poll.Gathers start state voted) (votes : voter ∈ poll.voters) :
    poll.Gathers start (poll.pooled voter state) (if voter ∈ voted then voted else voted ++ [voter]) where
  rest := by
    rw [gathers.rest]
    rfl
  keys := by
    rw [bucket_pooled votes, Entries.keys_put, gathers.keys]
  filed := by
    rw [bucket_pooled votes]
    intro entry present
    rcases Entries.mem_put present with rfl | old
    · rfl
    · exact gathers.filed entry old
  electors := by
    split
    · exact gathers.electors
    · exact List.append_subset.mpr ⟨gathers.electors, List.cons_subset.mpr ⟨votes, List.nil_subset _⟩⟩
  distinct := by
    have unique := Entries.nodup_keys_put (gathers.keys ▸ gathers.distinct) voter (poll.entry voter)
    rwa [Entries.keys_put, gathers.keys] at unique

theorem Gathers.length (gathers : poll.Gathers start state voted) :
    (state.votes.bucket poll.key).length = voted.length := by
  rw [← gathers.keys]
  exact (List.length_map _).symm

theorem Gathers.round (gathers : poll.Gathers start state voted) : state.round = start.round := by
  rw [gathers.rest]

theorem Gathers.timely (gathers : poll.Gathers start state voted) (timely : poll.Timely start) :
    poll.Timely state := by
  obtain ⟨current, next, newer⟩ := timely
  rw [← gathers.round] at current newer
  exact ⟨current, next, newer⟩

def cert (poll : Poll setting) (place : Setting) (state : EngineState) : QuorumCert :=
  ⟨poll.block, poll.gapNumber, (place.voteOrder.arrange (state.votes.bucket poll.key).values).map Vote.signature⟩

theorem assembleQuorum_entry (votes : voter ∈ poll.voters) (state : EngineState) :
    Engine.assembleQuorum place (poll.entry voter) (state.votes.bucket (poll.entry voter).key) =
      poll.cert place state := by
  unfold Engine.assembleQuorum cert
  rw [key_entry votes, block_entry votes, gapNumber_entry votes]

def Suffices (poll : Poll setting) (state : EngineState) : Prop :=
  thresholdReached (state.votes.bucket poll.key).length poll.snapshot.masternodes.length
    (setting.configAt poll.block.round).certThreshold = true

instance (poll : Poll setting) (state : EngineState) : Decidable (poll.Suffices state) :=
  inferInstanceAs (Decidable (_ = _))

theorem completesQuorum_iff (votes : voter ∈ poll.voters) (continues : place.Continues setting)
    (newer : state.round.quorumRound < poll.block.round) :
    Engine.CompletesQuorum place state (poll.entry voter) poll.snapshot ↔ poll.Suffices state := by
  unfold Engine.CompletesQuorum Suffices
  rw [key_entry votes, round_entry votes, Setting.configAt_of_config continues.config]
  exact and_iff_right newer

theorem handleVote_agrees (timely : poll.Timely state) (votes : voter ∈ poll.voters)
    (continues : place.Continues setting) :
    (Engine.handleVote place (poll.ballot voter) state).Agrees
      (if poll.Suffices (poll.pooled voter state) then
        Engine.process place (.quorum (poll.cert place (poll.pooled voter state))) (poll.pooled voter state)
      else ⟨.done (), poll.pooled voter state, []⟩) := by
  have round := round_entry votes
  have current : state.round.currentRound ≤ (poll.entry voter).round := by
    rw [round, timely.current]
    exact UInt64.le_refl _
  have next : state.round.currentRound.HasNext := timely.current ▸ timely.next
  have near : ¬state.round.currentRound + 1 < (poll.entry voter).round := by
    rw [round, timely.current, UInt64.lt_iff_toNat_lt, Round.toNat_add_one next]
    omega
  have passed : (Engine.verifyVote place state.round.currentRound (poll.ballot voter)).ending = .done (some voter) :=
    Engine.verifySigned_done_iff.mpr ⟨current, holds_entry votes continues⟩
  have collected := Engine.collectVote_of_selected current next near (snapshot_done votes continues)
  have newer : (poll.pooled voter state).round.quorumRound < poll.block.round := timely.newer
  change (Engine.collectVote place (poll.entry voter) state).Agrees
    (if Engine.CompletesQuorum place (poll.pooled voter state) (poll.entry voter) poll.snapshot then
      Engine.process place (.quorum (Engine.assembleQuorum place (poll.entry voter)
        ((poll.pooled voter state).votes.bucket (poll.entry voter).key))) (poll.pooled voter state)
    else ⟨.done (), poll.pooled voter state, []⟩) at collected
  rw [if_congr (completesQuorum_iff votes continues newer) rfl rfl, assembleQuorum_entry votes] at collected
  exact (Engine.handleSigned_of_verified passed).trans collected

theorem cert_fate (poll : Poll setting) (place : Setting) (state : EngineState) :
    Engine.Fate place state (.quorum (poll.cert place state))
      (Engine.process place (.quorum (poll.cert place state)) state) := Engine.process_fate _

theorem holds_of_filed (gathers : poll.Gathers start state voted) (continues : place.Continues setting)
    {entry : Address × Vote} (present : entry ∈ state.votes.bucket poll.key) :
    Attestation.Holds ⟨VotePayload.digest ⟨poll.block, poll.gapNumber⟩, entry.2.signature, poll.gapNumber, entry.1⟩
      place := by
  have listed : entry.1 ∈ voted := gathers.keys ▸ List.mem_map_of_mem present
  have votes := gathers.electors listed
  have holds := holds_entry votes continues
  change Attestation.Holds ⟨(poll.entry entry.1).payload.digest, (poll.entry entry.1).signature,
    (poll.entry entry.1).gapNumber, (poll.entry entry.1).signer⟩ place at holds
  rw [payload_entry votes, gapNumber_entry votes] at holds
  rw [gathers.filed entry present]
  exact holds

/-- Once they suffice, the votes that have come in make a certificate that passes, if the block is known. -/
theorem verifyQuorum_cert (gathers : poll.Gathers start state voted) (begun : voted ≠ []) (timely : poll.Timely state)
    (suffice : poll.Suffices state) (continues : place.Continues setting)
    (known : place.Knows poll.block) :
    (Engine.verifyQuorum place (poll.cert place state)).ending = .done () := by
  obtain ⟨first, listed⟩ := List.exists_mem_of_ne_nil voted begun
  have votes := gathers.electors listed
  have selected := snapshot_done votes continues
  rw [gapNumber_entry votes] at selected
  have present : state.votes.bucket poll.key ≠ [] := by
    intro empty
    have none := gathers.keys
    rw [empty] at none
    exact begun none.symm
  apply Engine.verifyQuorum_done_iff.mpr
  refine .inr ⟨UInt64.lt_of_le_of_lt UInt64.zero_le timely.newer, known, ?_⟩
  refine endorsed_of_bucket place.voteOrder (gathers.keys ▸ gathers.distinct) present ?_ selected ?_
  · intro entry filed
    exact holds_of_filed gathers continues filed
  · change thresholdReached _ _ (place.configAt poll.block.round).certThreshold = true
    rw [Setting.configAt_of_config continues.config]
    exact suffice

theorem Gathers.vote_of_unknown (gathers : poll.Gathers start state voted) (timely : poll.Timely start)
    (votes : voter ∈ poll.voters) (continues : place.Continues setting)
    (unknown : place.chain.header? poll.block.hash = none) :
    poll.Gathers start (Engine.handleVote place (poll.ballot voter) state).state
      (if voter ∈ voted then voted else voted ++ [voter]) := by
  have still := gathers.timely timely
  have agrees := handleVote_agrees still votes continues
  have settled : (Engine.handleVote place (poll.ballot voter) state).state = poll.pooled voter state := by
    by_cases suffice : poll.Suffices (poll.pooled voter state)
    · have positive : 0 < poll.block.round := UInt64.lt_of_le_of_lt UInt64.zero_le still.newer
      have fails : ¬(AnyCert.quorum (poll.cert place (poll.pooled voter state))).Passes place := by
        intro passes
        rcases Engine.verifyQuorum_done_iff.mp passes with zero | certified
        · exact UInt64.pos_iff_ne_zero.mp positive zero
        · obtain ⟨header, found, -⟩ := certified.known
          cases unknown.symm.trans found
      obtain ⟨error, refused⟩ := (poll.cert_fate place (poll.pooled voter state)).of_rejected still.newer fails
      rw [if_pos suffice] at agrees
      exact (agrees.trans refused).state
    · rw [if_neg suffice] at agrees
      exact agrees.state
  rw [settled]
  exact gathers.add votes

theorem Gathers.vote_of_known (gathers : poll.Gathers start state voted) (timely : poll.Timely start)
    (votes : voter ∈ poll.voters) (continues : place.Continues setting)
    (known : place.Knows poll.block) :
    poll.Certifies (Engine.handleVote place (poll.ballot voter) state).state ∨
      (¬poll.Suffices (Engine.handleVote place (poll.ballot voter) state).state ∧
        poll.Gathers start (Engine.handleVote place (poll.ballot voter) state).state
          (if voter ∈ voted then voted else voted ++ [voter])) := by
  have still := gathers.timely timely
  have agrees := handleVote_agrees still votes continues
  have added := gathers.add votes
  by_cases suffice : poll.Suffices (poll.pooled voter state)
  · have begun : (if voter ∈ voted then voted else voted ++ [voter]) ≠ [] := by
      split
      · rename_i listed
        exact List.ne_nil_of_mem listed
      · simp
    have passed := verifyQuorum_cert added begun (added.timely timely) suffice continues known
    have adopted := ((poll.cert_fate place (poll.pooled voter state)).of_passed still.newer passed).1
    rw [if_pos suffice] at agrees
    left
    rw [agrees.state, adopted]
    constructor
    · rw [EngineState.adopt_highestQuorumCert]
      rfl
    · exact EngineState.lt_leave_currentRound _ still.next
  · rw [if_neg suffice] at agrees
    rw [agrees.state]
    exact .inr ⟨suffice, added⟩

/-! Many votes. -/

theorem Certifies.deliveries (certifies : poll.Certifies state) (electors : voters ⊆ poll.voters) :
    poll.Certifies (state.after (poll.deliveries places voters)) := by
  induction voters with
  | nil => exact certifies
  | cons voter rest ih =>
    obtain ⟨votes, others⟩ := List.cons_subset.mp electors
    have past : (poll.ballot voter).round < state.round.currentRound := by
      change (poll.entry voter).round < _
      rw [round_entry votes]
      exact certifies.past
    have kept : (Engine.handleVote (places voter) (poll.ballot voter) state).state = state :=
      (@Engine.handleSigned_of_past _ state (.vote (poll.ballot voter)) past).state
    change poll.Certifies ((Engine.handleVote (places voter) (poll.ballot voter) state).state.after _)
    rw [kept]
    exact ih others

theorem Gathers.deliveries_of_unknown (gathers : poll.Gathers start state voted) (timely : poll.Timely start)
    (continues : place.Continues setting) (unknown : place.chain.header? poll.block.hash = none)
    (alike : ∀ voter ∈ voters, (places voter).Resembles place) (electors : voters ⊆ poll.voters)
    (distinct : (voted ++ voters).Nodup) :
    poll.Gathers start (state.after (poll.deliveries places voters)) (voted ++ voters) := by
  induction voters generalizing state voted with
  | nil =>
    rw [List.append_nil]
    exact gathers
  | cons voter rest ih =>
    obtain ⟨votes, others⟩ := List.cons_subset.mp electors
    have absent : voter ∉ voted := fun listed =>
      (List.nodup_append.mp distinct).2.2 voter listed voter List.mem_cons_self rfl
    obtain ⟨resembles, alikeRest⟩ := List.forall_mem_cons.mp alike
    have added := gathers.vote_of_unknown timely votes (resembles.continues continues) (resembles.chain ▸ unknown)
    rw [if_neg absent] at added
    rw [List.append_cons] at distinct ⊢
    exact ih added alikeRest others distinct

theorem Gathers.deliveries_of_known (gathers : poll.Gathers start state voted) (timely : poll.Timely start)
    (continues : place.Continues setting) (known : place.Knows poll.block)
    (alike : ∀ voter ∈ voters, (places voter).Resembles place) (electors : voters ⊆ poll.voters)
    (distinct : (voted ++ voters).Nodup) :
    poll.Certifies (state.after (poll.deliveries places voters)) ∨
      (poll.Gathers start (state.after (poll.deliveries places voters)) (voted ++ voters) ∧
        (voters ≠ [] → ¬poll.Suffices (state.after (poll.deliveries places voters)))) := by
  induction voters generalizing state voted with
  | nil =>
    rw [List.append_nil]
    exact .inr ⟨gathers, fun some => absurd rfl some⟩
  | cons voter rest ih =>
    obtain ⟨votes, others⟩ := List.cons_subset.mp electors
    have absent : voter ∉ voted := fun listed =>
      (List.nodup_append.mp distinct).2.2 voter listed voter List.mem_cons_self rfl
    obtain ⟨resembles, alikeRest⟩ := List.forall_mem_cons.mp alike
    rcases gathers.vote_of_known timely votes (resembles.continues continues) (resembles.knows known) with
      certifies | ⟨short, added⟩
    · exact .inl (certifies.deliveries others)
    · rw [if_neg absent] at added
      rw [List.append_cons] at distinct ⊢
      refine (ih added alikeRest others distinct).imp_right fun ⟨all, shortAfter⟩ => ⟨all, fun _ => ?_⟩
      cases rest with
      | nil => exact short
      | cons next last => exact shortAfter (List.cons_ne_nil _ _)

theorem Certifies.highest (certifies : poll.Certifies state) :
    state.round.quorumRound = poll.block.round ∧ state.round.highestQuorumCert.block = poll.block :=
  ⟨congrArg BlockInfo.round certifies.block, certifies.block⟩

theorem Gathers.filed_of_mem (gathers : poll.Gathers start state voted) (listed : voter ∈ voted) :
    (voter, poll.entry voter) ∈ state.votes.bucket poll.key := by
  rw [← gathers.keys] at listed
  obtain ⟨entry, present, rfl⟩ := List.mem_map.mp listed
  rw [← gathers.filed entry present]
  exact present

theorem Gathers.suffices (gathers : poll.Gathers start state voted) (all : voted.Perm poll.voters) :
    poll.Suffices state := by
  unfold Suffices
  rw [gathers.length, all.length_eq]
  exact poll.enough

theorem gathers_none (unpooled : start.votes.bucket poll.key = []) :
    poll.Gathers start start [] where
  rest := rfl
  keys := by
    rw [unpooled]
    rfl
  filed entry present := by
    rw [unpooled] at present
    cases present
  electors := List.nil_subset _
  distinct := List.nodup_nil

end Poll

/-! Three of four masternodes vote for the block of the first round. -/

namespace Sample

@[irreducible] def memory : MemoryChain := .create (names.map address) 900

def waitingForBlock : Setting := setting.withChain memory.view

theorem memory_unknown : memory.headerByHash? (block 1).hash = none := by
  have other : MemoryChain.genesis.hash ≠ (block 1).hash := by decide +kernel
  unfold memory
  exact Entries.get?_put_of_ne [] MemoryChain.genesis other

theorem memory_selected : memory.snapshot 0 = .ok ⟨0, names.map address⟩ := by
  have found : memory.snapshots.get? 0 = some ⟨0, names.map address⟩ := by
    unfold memory
    exact Entries.get?_put_self [] 0 _
  unfold MemoryChain.snapshot
  rw [found]

theorem vote_recovers (round signer : UInt8) (chain : ChainView) :
    (setting.withChain chain).authority.recover (VotePayload.digest ⟨block round, 0⟩) (vote round signer).signature =
      .ok (address signer) := recover_sign _ signer

def poll : Poll waitingForBlock where
  block := block 1
  gapNumber := 0
  snapshot := ⟨0, names.map address⟩
  voters := [1, 2, 3].map address
  ballot voter := vote 1 (voter.bytes.headD 0)
  selected := memory_selected
  distinct := by decide
  members := by decide
  about _ _ := rfl
  genuine := List.forall_mem_map.mpr fun name _ => vote_recovers 1 name memory.view
  enough := by
    rw [waitingForBlock, Setting.configAt_withChain, certThreshold]
    decide

theorem poll_timely : poll.Timely start := ⟨rfl, hasNext 1, by decide⟩

end Sample

/-- Enough votes for a block of the current round, some of which come after the block, certify it, whatever has
come before it. Where the block comes last, the votes are all in the pool and no round has changed; then the
next delivery of one of them certifies the block. -/
theorem votes_certify_block_that_arrives {cert : QuorumCert} {start : EngineState}
    (started : EngineState.start? cert = some start) (run : List Step)
    (bounded : (start.after run).round.quorumRound.HasNext) {chain : MemoryChain} {setting : Setting}
    (onChain : setting.chain = chain.view) (poll : Poll setting)
    (current : poll.block.round = (start.after run).round.currentRound) (next : poll.block.round.HasNext)
    (unknown : chain.headerByHash? poll.block.hash = none)
    (unpooled : (start.after run).votes.bucket poll.key = []) {before after : List Address}
    {places : Address → Setting} (arrives : poll.ArrivesBetween chain before after places) :
    let final := (start.after run).after (poll.deliveries places (before ++ after))
    (after ≠ [] → final.round.quorumRound = poll.block.round ∧ final.round.highestQuorumCert.block = poll.block) ∧
      (after = [] → final.round = (start.after run).round ∧
        (∀ voter ∈ poll.voters, (voter, poll.entry voter) ∈ final.votes.bucket poll.key) ∧
        ∀ voter ∈ poll.voters, ∀ place : Setting, place.Resembles (setting.importing chain poll.block) →
          let again := (Engine.handleMessage place (.vote (poll.ballot voter)) final).state
          again.round.quorumRound = poll.block.round ∧ again.round.highestQuorumCert.block = poll.block) := by
  intro final
  obtain ⟨order, earlier, later⟩ := arrives
  have newer : (start.after run).round.quorumRound < poll.block.round :=
    current ▸ (EngineState.after_past started run).quorum bounded
  have timely : poll.Timely (start.after run) := ⟨current, next, newer⟩
  have continues := Setting.importing_continues onChain poll.block
  have known := setting.importing_knows chain poll.block
  have unseen : setting.chain.header? poll.block.hash = none := by
    rw [onChain]
    exact unknown
  have distinct : (before ++ after).Nodup := order.nodup_iff.mpr poll.distinct
  obtain ⟨electors, electorsAfter⟩ := List.append_subset.mp order.subset
  let middle := (start.after run).after (poll.deliveries places before)
  have gathered : poll.Gathers (start.after run) middle before :=
    (Poll.gathers_none unpooled).deliveries_of_unknown timely (.refl setting) unseen earlier electors
      (List.nodup_append.mp distinct).1
  have split : final = middle.after (poll.deliveries places after) :=
    (congrArg (start.after run).after List.map_append).trans List.foldl_append
  constructor
  · intro some
    rw [split]
    rcases gathered.deliveries_of_known timely continues known later electorsAfter distinct with
      certifies | ⟨all, short⟩
    · exact certifies.highest
    · exact absurd (all.suffices order) (short some)
  · rintro rfl
    rw [List.append_nil] at order
    have last : final = middle := split
    rw [last]
    refine ⟨gathered.round, fun voter votes => gathered.filed_of_mem (order.mem_iff.mpr votes), ?_⟩
    intro voter votes place resembles
    rcases gathered.vote_of_known timely votes (resembles.continues continues) (resembles.knows known) with
      certifies | ⟨short, all⟩
    · exact certifies.highest
    · rw [if_pos (order.mem_iff.mpr votes)] at all
      exact absurd (all.suffices order) short

namespace Sample

/-- The block comes between the second vote and the third one. -/
def place (voter : Address) : Setting :=
  if voter = address 3 then waitingForBlock.importing memory poll.block else waitingForBlock

theorem block_arrives_between : poll.ArrivesBetween memory [address 1, address 2] [address 3] place where
  order := .refl _
  earlier := by
    have others : ∀ voter ∈ [address 1, address 2], voter ≠ address 3 := by decide
    intro voter listed
    rw [place, if_neg (others voter listed)]
    exact .refl _
  later := by
    rw [List.forall_mem_singleton, place, if_pos rfl]
    exact .refl _

theorem block_arrives_last : poll.ArrivesBetween memory poll.voters [] (fun _ => waitingForBlock) where
  order := by rw [List.append_nil]
  earlier _ _ := .refl _
  later := nofun

end Sample

/-- The third vote certifies the block that has come before it. -/
theorem block_certified_by_third_vote :
    let final := Sample.start.after
      (Sample.poll.deliveries Sample.place ([Sample.address 1, Sample.address 2] ++ [Sample.address 3]))
    EngineState.start? Sample.genesis = some Sample.start ∧ Sample.start.round.quorumRound.HasNext ∧
      Sample.waitingForBlock.chain = Sample.memory.view ∧
      Sample.poll.block.round = Sample.start.round.currentRound ∧ Sample.poll.block.round.HasNext ∧
      Sample.memory.headerByHash? Sample.poll.block.hash = none ∧
      Sample.start.votes.bucket Sample.poll.key = [] ∧
      Sample.poll.ArrivesBetween Sample.memory [Sample.address 1, Sample.address 2] [Sample.address 3] Sample.place ∧
      final.round.quorumRound = Sample.poll.block.round ∧
      final.round.highestQuorumCert.block = Sample.poll.block := by
  have bounded : Sample.start.round.quorumRound.HasNext := Sample.hasNext 0
  obtain ⟨certified, -⟩ := votes_certify_block_that_arrives Sample.started [] bounded rfl Sample.poll rfl
    (Sample.hasNext 1) Sample.memory_unknown rfl Sample.block_arrives_between
  obtain ⟨round, block⟩ := certified (List.cons_ne_nil _ _)
  exact ⟨Sample.started, bounded, rfl, rfl, Sample.hasNext 1, Sample.memory_unknown, rfl,
    Sample.block_arrives_between, round, block⟩

/-- The block comes after all the votes, and is not certified. -/
theorem block_uncertified_after_all_votes :
    let final := Sample.start.after
      (Sample.poll.deliveries (fun _ => Sample.waitingForBlock) (Sample.poll.voters ++ []))
    EngineState.start? Sample.genesis = some Sample.start ∧ Sample.start.round.quorumRound.HasNext ∧
      Sample.waitingForBlock.chain = Sample.memory.view ∧
      Sample.poll.block.round = Sample.start.round.currentRound ∧ Sample.poll.block.round.HasNext ∧
      Sample.memory.headerByHash? Sample.poll.block.hash = none ∧
      Sample.start.votes.bucket Sample.poll.key = [] ∧
      Sample.poll.ArrivesBetween Sample.memory Sample.poll.voters [] (fun _ => Sample.waitingForBlock) ∧
      ¬(final.round.quorumRound = Sample.poll.block.round ∧
        final.round.highestQuorumCert.block = Sample.poll.block) := by
  intro final
  have gathered := (Sample.poll.gathers_none rfl).deliveries_of_unknown Sample.poll_timely
    (.refl Sample.waitingForBlock) Sample.memory_unknown Sample.block_arrives_last.earlier
    (List.Subset.refl Sample.poll.voters) Sample.poll.distinct
  have last : final = Sample.start.after
      (Sample.poll.deliveries (fun _ => Sample.waitingForBlock) Sample.poll.voters) :=
    congrArg (fun voters => Sample.start.after (Sample.poll.deliveries _ voters)) (List.append_nil _)
  have unchanged : final.round = Sample.start.round := last ▸ gathered.round
  refine ⟨Sample.started, Sample.hasNext 0, rfl, rfl, Sample.hasNext 1, Sample.memory_unknown, rfl,
    Sample.block_arrives_last, fun certified => ?_⟩
  rw [unchanged] at certified
  exact absurd certified.1 (by decide)

end MasternodeBft
