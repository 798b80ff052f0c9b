import Mathlib.Data.List.Perm.Subperm
import MasternodeBft.Engine.Verification
import MasternodeBft.Proofs.Signatures

/-!
What the checks of certificates conclude. A quorum certificate passes exactly if it is of round zero,
where nothing is asked, or certified: its block is known, and enough masternodes have signed it.
-/

namespace MasternodeBft

namespace Check

variable {α β : Type}

theorem ending_bind (first : Check α) (next : α → Check β) :
    (first >>= next).ending = match first.ending with
      | .done value => (next value).ending
      | .refused error => .refused error
      | .overflowed => .overflowed := by
  rcases first with ⟨ending, notices⟩
  cases ending <;> rfl

theorem bind_done_iff {first : Check α} {next : α → Check β} {result : β} :
    (first >>= next).ending = .done result ↔
      ∃ value, first.ending = .done value ∧ (next value).ending = .done result := by
  rw [ending_bind]
  cases first.ending <;> simp

theorem bind_unit_done_iff {first : Check Unit} {next : Unit → Check β} {result : β} :
    (first >>= next).ending = .done result ↔
      first.ending = .done () ∧ (next ()).ending = .done result := by
  rw [bind_done_iff]
  exact ⟨fun ⟨_, done, rest⟩ => ⟨done, rest⟩, fun ⟨done, rest⟩ => ⟨(), done, rest⟩⟩

@[simp] theorem ending_pure (value : α) : (pure value : Check α).ending = .done value := rfl

@[simp] theorem ending_refuse (error : ConsensusError) : (refuse error : Check α).ending = .refused error :=
  rfl

@[simp] theorem ending_note_bind (notice : Notice) (next : Unit → Check β) :
    (note notice >>= next).ending = (next ()).ending := rfl

end Check

/-- Signatures over a digest stand for enough of the masternodes selected at a gap number. -/
structure Endorsed (setting : Setting) (digest : Digest) (signatures : List Signature)
    (gapNumber : UInt64) (round : Round) : Prop where
  signed : signatures ≠ []
  verified : ∃ snapshot, setting.chain.snapshot gapNumber = .ok snapshot ∧ snapshot.masternodes ≠ [] ∧
    Certificate.verify setting.authority.recover digest signatures snapshot.masternodes
      (setting.configAt round).certThreshold = .ok ()

/-- A certificate of a later round than zero, for a known block, with the signatures it needs. -/
structure QuorumCert.Certified (cert : QuorumCert) (setting : Setting) : Prop where
  positive : 0 < cert.round
  known : ∃ header, setting.chain.header? cert.block.hash = some header ∧
    header.number = cert.block.number ∧ header.round = cert.round
  endorsed : Endorsed setting cert.payload.digest cert.signatures cert.gapNumber cert.round

/-- A certificate of a later round than zero, with the signatures it needs. -/
structure TimeoutCert.Certified (cert : TimeoutCert) (setting : Setting) : Prop where
  positive : 0 < cert.round
  endorsed : Endorsed setting cert.payload.digest cert.signatures cert.gapNumber cert.round

namespace AnyCert

def Certified (setting : Setting) : AnyCert → Prop
  | quorum cert => cert.Certified setting
  | timeout cert => cert.Certified setting

def Passes (setting : Setting) (cert : AnyCert) : Prop := (Engine.verifyCert setting cert).ending = .done ()

end AnyCert

namespace Engine

variable {setting : Setting}

theorem snapshot_done_iff {gapNumber : UInt64} {found : Snapshot} :
    (snapshot setting gapNumber).ending = .done found ↔
      setting.chain.snapshot gapNumber = .ok found ∧ found.masternodes ≠ [] := by
  unfold snapshot
  cases result : setting.chain.snapshot gapNumber with
  | error cause => simp
  | ok other =>
    by_cases empty : other.masternodes = []
    · simp only [List.isEmpty_iff, empty, ↓reduceIte, Check.ending_note_bind, Check.ending_refuse,
        reduceCtorEq, Except.ok.injEq, false_iff, not_and, not_not]
      intro same
      exact same ▸ empty
    · simp only [List.isEmpty_iff, empty, ↓reduceIte, Check.ending_pure, Ending.done.injEq, Except.ok.injEq]
      exact ⟨fun same => ⟨same, same ▸ empty⟩, And.left⟩

theorem verifyBlock_done_iff {block : BlockInfo} :
    (verifyBlock setting block).ending = .done () ↔
      ∃ header, setting.chain.header? block.hash = some header ∧
        header.number = block.number ∧ header.round = block.round := by
  unfold verifyBlock
  cases setting.chain.header? block.hash with
  | none => simp
  | some header =>
    by_cases differs : header.number ≠ block.number ∨ header.round ≠ block.round
    · simp only [differs, ↓reduceIte, Check.ending_note_bind, Check.ending_refuse, reduceCtorEq,
        Option.some.injEq, false_iff, not_exists, not_and]
      intro other same number round
      subst same
      exact differs.elim (fun apart => apart number) (fun apart => apart round)
    · have alike := not_or.mp differs
      simp only [differs, ↓reduceIte, Check.ending_pure, Option.some.injEq, true_iff]
      exact ⟨header, rfl, not_not.mp alike.1, not_not.mp alike.2⟩

theorem verifySignatures_ending (digest : Digest) (signatures : List Signature) (snapshot : Snapshot)
    (round : Round) :
    (verifySignatures setting digest signatures snapshot round).ending =
      .done (Certificate.verify setting.authority.recover digest signatures snapshot.masternodes
        (setting.configAt round).certThreshold) := rfl

theorem endorsed_iff {digest : Digest} {signatures : List Signature} {gapNumber : UInt64} {round : Round}
    {conclude : Except CertificateError Unit → Check Unit} (signed : signatures ≠ [])
    (accepts : (conclude (.ok ())).ending = .done ())
    (refuses : ∀ cause, (conclude (.error cause)).ending ≠ .done ()) :
    (do conclude (← verifySignatures setting digest signatures (← snapshot setting gapNumber) round)
      : Check Unit).ending = .done () ↔ Endorsed setting digest signatures gapNumber round := by
  simp only [Check.bind_done_iff, snapshot_done_iff, verifySignatures_ending, Ending.done.injEq]
  constructor
  · rintro ⟨found, ⟨selected, some⟩, verdict, same, concluded⟩
    subst same
    cases outcome : Certificate.verify setting.authority.recover digest signatures found.masternodes
        (setting.configAt round).certThreshold with
    | error cause => exact absurd (outcome ▸ concluded) (refuses cause)
    | ok => exact ⟨signed, found, selected, some, outcome⟩
  · rintro ⟨-, found, selected, some, outcome⟩
    exact ⟨found, ⟨selected, some⟩, _, rfl, by rw [outcome]; exact accepts⟩

theorem verifyQuorum_done_iff {cert : QuorumCert} :
    (verifyQuorum setting cert).ending = .done () ↔ cert.round = 0 ∨ cert.Certified setting := by
  unfold verifyQuorum
  by_cases zero : cert.round = 0
  · simp [zero]
  · have positive : 0 < cert.round := UInt64.pos_iff_ne_zero.mpr zero
    by_cases unsigned : cert.signatures = []
    · simp only [zero, unsigned, List.isEmpty_nil, ↓reduceIte, Check.ending_note_bind, Check.ending_refuse,
        reduceCtorEq, false_or, false_iff]
      intro certified
      exact certified.endorsed.signed unsigned
    · simp only [zero, List.isEmpty_iff, unsigned, ↓reduceIte, false_or]
      rw [Check.bind_unit_done_iff, verifyBlock_done_iff,
        endorsed_iff unsigned rfl (fun _ same => by cases same)]
      exact ⟨fun ⟨known, endorsed⟩ => ⟨positive, known, endorsed⟩,
        fun certified => ⟨certified.known, certified.endorsed⟩⟩

theorem verifyTimeoutCert_done_iff {cert : TimeoutCert} :
    (verifyTimeoutCert setting cert).ending = .done () ↔
      Endorsed setting cert.payload.digest cert.signatures cert.gapNumber cert.round := by
  unfold verifyTimeoutCert
  by_cases unsigned : cert.signatures = []
  · simp only [unsigned, List.isEmpty_nil, ↓reduceIte, Check.ending_note_bind, Check.ending_refuse, reduceCtorEq,
      false_iff]
    intro endorsed
    exact endorsed.signed rfl
  · simp only [List.isEmpty_iff, unsigned, ↓reduceIte]
    exact endorsed_iff unsigned rfl (fun _ same => by cases same)

/-- A certificate of a later round than one that is reached is not of round zero, where checks are lax. -/
theorem certified_of_passes {cert : AnyCert} {round : Round} (newer : round < cert.round)
    (passes : cert.Passes setting) : cert.Certified setting := by
  cases cert with
  | quorum cert =>
    rcases verifyQuorum_done_iff.mp passes with zero | certified
    · rw [show AnyCert.round (.quorum cert) = 0 from zero] at newer
      exact absurd newer UInt64.not_lt_zero
    · exact certified
  | timeout cert =>
    have positive : 0 < cert.round := UInt64.lt_of_le_of_lt UInt64.zero_le newer
    exact ⟨positive, verifyTimeoutCert_done_iff.mp passes⟩

end Engine

/-! Four masternodes, any three of which can certify any block. -/

namespace Sample

def address (name : UInt8) : Address := ⟨List.replicate 20 name, List.length_replicate⟩

def names : List UInt8 := [1, 2, 3, 4]

def sign (digest : Digest) (name : UInt8) : Signature := ⟨name :: digest.bytes⟩

def recover : Certificate.Recovery := fun digest signature =>
  match signature.bytes with
  | [] => .error (.malformed 0)
  | name :: signed => if signed = digest.bytes then .ok (address name) else .error .mismatch

theorem recover_sign (digest : Digest) (name : UInt8) : recover digest (sign digest name) = .ok (address name) :=
  if_pos rfl

theorem sign_injective (digest : Digest) : Function.Injective (sign digest) := by
  intro name other same
  exact (List.cons.inj (Signature.mk.inj same)).1

def block (round : UInt8) : BlockInfo :=
  ⟨⟨List.replicate 32 round, List.length_replicate⟩, round.toUInt64, round.toUInt64⟩

def headerOf (hash : Digest) : Header :=
  let round := (hash.bytes.headD 0).toUInt64
  ⟨round, hash, FixedBytes.zero 32, round⟩

/-- All blocks are known, and there is one set of masternodes. -/
def chain : ChainView where
  head := Header.zero
  header? hash := some (headerOf hash)
  snapshot gapNumber :=
    if gapNumber = 0 then .ok ⟨0, names.map address⟩ else .error (.snapshotNotFound gapNumber)
  epochSwitch header := .ok ⟨header.blockInfo, names.map address⟩

def setting : Setting where
  config := .standard
  authority := ⟨address 1, fun digest => sign digest 1, recover⟩
  chain := chain
  messagesTaken := true
  commandsTaken := true
  voteOrder := .arrival Vote
  timeoutOrder := .arrival Timeout
  keyOrder := .arrival SyncKey
  bundleOrder := .arrival SyncInfo

def quorumCert (round : UInt8) (signers : List UInt8) : QuorumCert :=
  ⟨block round, 0, signers.map (sign (VotePayload.digest ⟨block round, 0⟩))⟩

def timeoutCert (round : UInt8) (signers : List UInt8) : TimeoutCert :=
  ⟨round.toUInt64, 0, signers.map (sign (TimeoutPayload.digest ⟨round.toUInt64, 0⟩))⟩

theorem certThreshold (round : Round) : (setting.configAt round).certThreshold = 0.667 := by
  have all : (0 : Round) ≤ round := UInt64.zero_le
  simp [Setting.configAt, setting, ConsensusConfig.standard, UpgradeConfig.standard, UpgradeConfig.config,
    SortedMap.upTo?, SortedMap.ofList, SortedMap.insert, SortedMap.place, SortedMap.empty, all,
    RoundConfig.standard]

theorem endorsed (digest : Digest) (round : Round) {signers : List UInt8} (distinct : signers.Nodup)
    (members : signers ⊆ names) (enough : 3 ≤ signers.length) :
    Endorsed setting digest (signers.map (sign digest)) 0 round := by
  have bound : signers.length ≤ 4 := (List.subperm_of_subset distinct members).length_le
  refine ⟨?_, ⟨0, names.map address⟩, rfl, by decide, ?_⟩
  · rw [ne_eq, List.map_eq_nil_iff, ← List.length_eq_zero_iff]
    omega
  · have apart : (signers.map (sign digest)).Nodup := distinct.map (sign_injective digest)
    rw [certThreshold, Certificate.verify_ok_iff, Certificate.unique_of_nodup apart, List.length_map]
    constructor
    · have count : signers.length = 3 ∨ signers.length = 4 := by omega
      rcases count with three | four
      · rw [three]
        decide
      · rw [four]
        decide
    · intro signature present
      obtain ⟨name, signs, rfl⟩ := List.mem_map.mp present
      exact ⟨address name, List.mem_map_of_mem (members signs), recover_sign digest name⟩

theorem quorumCert_certified {round : UInt8} (positive : 0 < round.toUInt64) {signers : List UInt8}
    (distinct : signers.Nodup) (members : signers ⊆ names) (enough : 3 ≤ signers.length) :
    (quorumCert round signers).Certified setting :=
  ⟨positive, ⟨headerOf (block round).hash, rfl, rfl, rfl⟩, endorsed _ _ distinct members enough⟩

theorem timeoutCert_certified {round : UInt8} (positive : 0 < round.toUInt64) {signers : List UInt8}
    (distinct : signers.Nodup) (members : signers ⊆ names) (enough : 3 ≤ signers.length) :
    (timeoutCert round signers).Certified setting :=
  ⟨positive, endorsed _ _ distinct members enough⟩

end Sample

end MasternodeBft
