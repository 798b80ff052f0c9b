import MasternodeBft.Pool.Basic
import MasternodeBft.Proofs.Checks

/-!
What signatures attest. A vote or a timeout passes its check exactly if its signature is that of a
masternode selected at its gap number. Signatures over one digest that different signers have given are
different, so a bucket of them makes a certificate as soon as it reaches the threshold.
-/

namespace MasternodeBft

/-- What is said of a signature: whose it is, and where the signer has been selected. -/
structure Attestation where
  digest : Digest
  signature : Signature
  gapNumber : UInt64
  signer : Address

namespace Attestation

def Genuine (attestation : Attestation) (setting : Setting) : Prop :=
  setting.authority.recover attestation.digest attestation.signature = .ok attestation.signer

def Selected (attestation : Attestation) (setting : Setting) : Prop :=
  ∃ snapshot, setting.chain.snapshot attestation.gapNumber = .ok snapshot ∧
    attestation.signer ∈ snapshot.masternodes

structure Holds (attestation : Attestation) (setting : Setting) : Prop where
  genuine : attestation.Genuine setting
  selected : attestation.Selected setting

end Attestation

def Signed.attestation (signed : Signed) : Attestation :=
  ⟨signed.payloadDigest, signed.signature, signed.gapNumber, signed.signer⟩

theorem Signed.attestation_signedBy (signed : Signed) (signer : Address) :
    (signed.signedBy signer).attestation = ⟨signed.payloadDigest, signed.signature, signed.gapNumber, signer⟩ := by
  cases signed <;> rfl

def Vote.attestation (vote : Vote) : Attestation := (Signed.vote vote).attestation

def Timeout.attestation (timeout : Timeout) : Attestation := (Signed.timeout timeout).attestation

theorem Setting.configAt_of_config {earlier later : Setting} (same : later.config = earlier.config) (round : Round) :
    later.configAt round = earlier.configAt round := by
  unfold Setting.configAt
  rw [same]

/-- A later setting of the same node, in which the masternodes that were selected before still are. -/
structure Setting.Continues (later earlier : Setting) : Prop where
  config : later.config = earlier.config
  authority : later.authority = earlier.authority
  snapshot : ∀ gapNumber snapshot, earlier.chain.snapshot gapNumber = .ok snapshot →
    later.chain.snapshot gapNumber = .ok snapshot

theorem Setting.Continues.refl (setting : Setting) : setting.Continues setting := ⟨rfl, rfl, fun _ _ found => found⟩

/-- The same setting, but for the orders in which pools are visited, and for who takes what is sent. -/
structure Setting.Resembles (other setting : Setting) : Prop where
  config : other.config = setting.config
  authority : other.authority = setting.authority
  chain : other.chain = setting.chain

namespace Setting.Resembles

variable {other later earlier : Setting}

theorem refl (setting : Setting) : setting.Resembles setting := ⟨rfl, rfl, rfl⟩

theorem continues (resembles : other.Resembles later) (continues : later.Continues earlier) :
    other.Continues earlier where
  config := resembles.config.trans continues.config
  authority := resembles.authority.trans continues.authority
  snapshot gapNumber snapshot found := by
    rw [resembles.chain]
    exact continues.snapshot gapNumber snapshot found

end Setting.Resembles

namespace Attestation

variable {attestation : Attestation} {earlier later : Setting}

theorem Genuine.of_continues (continues : later.Continues earlier) (genuine : attestation.Genuine earlier) :
    attestation.Genuine later := by
  unfold Genuine
  rw [continues.authority]
  exact genuine

theorem Selected.of_continues (continues : later.Continues earlier) (selected : attestation.Selected earlier) :
    attestation.Selected later := by
  obtain ⟨snapshot, found, member⟩ := selected
  exact ⟨snapshot, continues.snapshot _ _ found, member⟩

theorem Holds.of_continues (continues : later.Continues earlier) (holds : attestation.Holds earlier) :
    attestation.Holds later :=
  ⟨holds.genuine.of_continues continues, holds.selected.of_continues continues⟩

end Attestation

namespace Engine

variable {setting : Setting}

theorem verifySigner_done_iff {signed : Signed} {signer : Address} :
    (verifySigner setting signed).ending = .done (some signer) ↔
      (signed.signedBy signer).attestation.Holds setting := by
  rw [signed.attestation_signedBy]
  unfold verifySigner
  simp only [Check.bind_done_iff, snapshot_done_iff]
  cases recovered : setting.authority.recover signed.payloadDigest signed.signature with
  | error cause =>
    simp only [Check.ending_note_bind, Check.ending_refuse, reduceCtorEq, and_false, exists_false, false_iff]
    intro holds
    have genuine := holds.genuine
    unfold Attestation.Genuine at genuine
    rw [recovered] at genuine
    cases genuine
  | ok found =>
    dsimp only
    constructor
    · rintro ⟨snapshot, ⟨chosen, -⟩, passed⟩
      by_cases member : found ∈ snapshot.masternodes
      · rw [if_pos member] at passed
        cases passed
        exact ⟨recovered, snapshot, chosen, member⟩
      · rw [if_neg member] at passed
        cases passed
    · rintro ⟨genuine, snapshot, chosen, member⟩
      unfold Attestation.Genuine at genuine
      rw [recovered] at genuine
      cases genuine
      refine ⟨snapshot, ⟨chosen, List.ne_nil_of_mem member⟩, ?_⟩
      rw [if_pos member]
      rfl

theorem snapshot_of_selected {attestation : Attestation} (selected : attestation.Selected setting) :
    ∃ found, (snapshot setting attestation.gapNumber).ending = .done found ∧
      attestation.signer ∈ found.masternodes := by
  obtain ⟨found, chosen, member⟩ := selected
  exact ⟨found, snapshot_done_iff.mpr ⟨chosen, List.ne_nil_of_mem member⟩, member⟩

theorem verifySigned_done_iff {current : Round} {signed : Signed} {signer : Address} :
    (verifySigned setting current signed).ending = .done (some signer) ↔
      current ≤ signed.round ∧ (signed.signedBy signer).attestation.Holds setting := by
  unfold verifySigned
  by_cases stale : signed.round < current
  · rw [if_pos stale]
    exact ⟨nofun, fun fresh => absurd fresh.1 (UInt64.not_le.mpr stale)⟩
  · rw [if_neg stale, verifySigner_done_iff]
    exact (and_iff_right (UInt64.not_lt.mp stale)).symm

end Engine

namespace Certificate

variable {Object : Type} {recover : Recovery} {digest : Digest} {bucket : Bucket Object Address}
  {signature : Object → Signature}

theorem signatures_nodup (unique : bucket.keys.Nodup)
    (genuine : ∀ entry ∈ bucket, recover digest (signature entry.2) = .ok entry.1) :
    (bucket.values.map signature).Nodup := by
  have recovered : (bucket.values.map signature).map (recover digest) = bucket.keys.map .ok := by
    unfold Entries.values Entries.keys
    rw [List.map_map, List.map_map, List.map_map]
    exact List.map_congr_left genuine
  apply List.Nodup.of_map (recover digest)
  rw [recovered]
  exact unique.map fun one other same => Except.ok.inj same

/-- The signatures of a bucket, in any order, form a certificate exactly if there are enough of them and all
signers are masternodes. -/
theorem verify_bucket_iff (order : VisitOrder Object) (unique : bucket.keys.Nodup)
    (genuine : ∀ entry ∈ bucket, recover digest (signature entry.2) = .ok entry.1)
    {masternodes : List Address} {threshold : Float} :
    verify recover digest ((order.arrange bucket.values).map signature) masternodes threshold = .ok () ↔
      thresholdReached bucket.length masternodes.length threshold = true ∧
        ∀ entry ∈ bucket, entry.1 ∈ masternodes := by
  have arranged : ((order.arrange bucket.values).map signature).Perm (bucket.values.map signature) :=
    (order.perm bucket.values).map signature
  have distinct := arranged.nodup_iff.mpr (signatures_nodup unique genuine)
  have count : ((order.arrange bucket.values).map signature).length = bucket.length := by
    rw [arranged.length_eq, List.length_map]
    exact List.length_map _
  rw [verify_ok_iff, unique_of_nodup distinct, count]
  refine and_congr_right fun _ => ⟨fun signed entry present => ?_, fun members given present => ?_⟩
  · have listed : signature entry.2 ∈ (order.arrange bucket.values).map signature :=
      arranged.mem_iff.mpr (List.mem_map_of_mem (List.mem_map_of_mem present))
    obtain ⟨signer, member, found⟩ := signed _ listed
    rw [genuine entry present] at found
    cases found
    exact member
  · obtain ⟨object, held, rfl⟩ := List.mem_map.mp (arranged.mem_iff.mp present)
    obtain ⟨entry, listed, rfl⟩ := List.mem_map.mp held
    exact ⟨entry.1, members entry listed, genuine entry listed⟩

end Certificate

end MasternodeBft
