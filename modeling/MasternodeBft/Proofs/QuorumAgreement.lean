import Mathlib.Data.Finset.Card
import MasternodeBft.Proofs.Certification

/-!
Agreement of quorum certificates. A certificate is signed by so many different masternodes that any two
share some; unless these have signed for two blocks of one round, two certificates of a round are for one
block. Signatures are told apart by their bytes, so for the count of the signers, no two signatures over a
digest may come from one signer.
-/

namespace MasternodeBft

namespace Certificate

def signers (recover : Recovery) (digest : Digest) (signatures : List Signature)
    (masternodes : List Address) : Finset Address :=
  {member ∈ masternodes.toFinset | ∃ signature ∈ signatures, (recover digest signature).toOption = some member}

def Separates (recover : Recovery) (digest : Digest) (signatures : List Signature) : Prop :=
  ∀ one ∈ signatures, ∀ other ∈ signatures, ∀ signer,
    recover digest one = .ok signer → recover digest other = .ok signer → one = other

variable {recover : Recovery} {digest : Digest} {signatures : List Signature} {masternodes : List Address}

theorem toOption_eq_some_iff {signature : Signature} {signer : Address} :
    (recover digest signature).toOption = some signer ↔ recover digest signature = .ok signer := by
  cases recover digest signature <;> simp [Except.toOption]

theorem mem_signers {member : Address} :
    member ∈ signers recover digest signatures masternodes ↔
      member ∈ masternodes ∧ ∃ signature ∈ signatures, recover digest signature = .ok member := by
  unfold signers
  simp only [Finset.mem_filter, List.mem_toFinset, toOption_eq_some_iff]

theorem signers_subset : signers recover digest signatures masternodes ⊆ masternodes.toFinset :=
  Finset.filter_subset _ _

theorem length_unique_le_card_signers (separates : Separates recover digest signatures)
    (signed : ∀ signature ∈ signatures, ∃ signer ∈ masternodes, recover digest signature = .ok signer) :
    (unique signatures).length ≤ (signers recover digest signatures masternodes).card := by
  let signerOf (signature : Signature) : Address :=
    ((recover digest signature).toOption).getD (FixedBytes.zero 20)
  have recovered : ∀ signature ∈ signatures,
      signerOf signature ∈ masternodes ∧ recover digest signature = .ok (signerOf signature) := by
    intro signature present
    obtain ⟨signer, member, found⟩ := signed signature present
    have same : signerOf signature = signer := by
      change ((recover digest signature).toOption).getD _ = signer
      rw [found]
      rfl
    rw [same]
    exact ⟨member, found⟩
  have count : (unique signatures).toFinset.card = (unique signatures).length :=
    List.toFinset_card_of_nodup (unique_nodup signatures)
  rw [← count]
  apply Finset.card_le_card_of_injOn signerOf
  · intro signature listed
    have present := mem_unique.mp (List.mem_toFinset.mp listed)
    obtain ⟨member, found⟩ := recovered signature present
    exact mem_signers.mpr ⟨member, signature, present, found⟩
  · intro one oneListed other otherListed same
    have onePresent := mem_unique.mp (List.mem_toFinset.mp oneListed)
    have otherPresent := mem_unique.mp (List.mem_toFinset.mp otherListed)
    have oneFound := (recovered one onePresent).2
    have otherFound := (recovered other otherPresent).2
    rw [← same] at otherFound
    exact separates one onePresent other otherPresent _ oneFound otherFound

theorem card_inter_ge {first second : Finset Address} {count : Nat} (firstAmong : first ⊆ masternodes.toFinset)
    (secondAmong : second ⊆ masternodes.toFinset) (firstSize : count ≤ first.card)
    (secondSize : count ≤ second.card) : 2 * count - masternodes.length ≤ (first ∩ second).card := by
  have total := Finset.card_union_add_card_inter first second
  have among : (first ∪ second).card ≤ masternodes.toFinset.card :=
    Finset.card_le_card (Finset.union_subset firstAmong secondAmong)
  have members := List.toFinset_card_le masternodes
  omega

end Certificate

/-- An adoption of a quorum certificate, with the way in which signers are found and the masternodes that
were selected at its gap number. The run may begin in any state, so also in the midst of a replay. -/
structure Adoption (recover : Certificate.Recovery) (masternodes : List Address) where
  start : EngineState
  run : List Step
  step : Step
  cert : QuorumCert
  installed : InstalledBy RoundState.highestQuorumCert start run step cert
  recovery : step.setting.authority.recover = recover
  selected : ∃ number, step.setting.chain.snapshot cert.gapNumber = .ok ⟨number, masternodes⟩

namespace Adoption

variable {recover : Certificate.Recovery} {masternodes : List Address}

def signers (adoption : Adoption recover masternodes) : Finset Address :=
  Certificate.signers recover adoption.cert.payload.digest adoption.cert.signatures masternodes

/-- No fewer signatures than these reach the threshold for the certificate. -/
def Needs (adoption : Adoption recover masternodes) (count : Nat) : Prop :=
  ∀ reaching, thresholdReached reaching masternodes.length
    (adoption.step.setting.configAt adoption.cert.round).certThreshold = true → count ≤ reaching

def Separates (adoption : Adoption recover masternodes) : Prop :=
  Certificate.Separates recover adoption.cert.payload.digest adoption.cert.signatures

variable {adoption : Adoption recover masternodes} {count : Nat}

theorem card_signers (needs : adoption.Needs count) (separates : adoption.Separates) :
    count ≤ adoption.signers.card := by
  have certified := (ofCerts_quorum _).installed adoption.installed
  obtain ⟨snapshot, found, -, verified⟩ := certified.endorsed.verified
  obtain ⟨number, selected⟩ := adoption.selected
  have same : snapshot = ⟨number, masternodes⟩ := Except.ok.inj (found.symm.trans selected)
  rw [same, adoption.recovery, Certificate.verify_ok_iff] at verified
  obtain ⟨reached, signed⟩ := verified
  calc
    count ≤ (Certificate.unique adoption.cert.signatures).length := needs _ reached
    _ ≤ adoption.signers.card := Certificate.length_unique_le_card_signers separates signed

end Adoption

/-- There are signatures of a member for two votes of one round and gap number, for different blocks. -/
def Equivocates (recover : Certificate.Recovery) (signatures : Set Signature) (round : Round)
    (gapNumber : UInt64) (member : Address) : Prop :=
  ∃ one other : BlockInfo, one.round = round ∧ other.round = round ∧
    VotePayload.digest ⟨one, gapNumber⟩ ≠ VotePayload.digest ⟨other, gapNumber⟩ ∧
    (∃ signature ∈ signatures, recover (VotePayload.digest ⟨one, gapNumber⟩) signature = .ok member) ∧
    ∃ signature ∈ signatures, recover (VotePayload.digest ⟨other, gapNumber⟩) signature = .ok member

namespace Sample

theorem recover_sign_done {digest signed : Digest} {name : UInt8} {signer : Address}
    (found : recover digest (sign signed name) = .ok signer) : signed = digest ∧ signer = address name := by
  unfold recover sign at found
  by_cases same : signed.bytes = digest.bytes
  · simp only [same, ↓reduceIte, Except.ok.injEq] at found
    exact ⟨FixedBytes.ext same, found.symm⟩
  · simp [same] at found

theorem address_injective : Function.Injective address := by
  intro name other same
  have bytes : List.replicate 20 name = List.replicate 20 other := congrArg FixedBytes.bytes same
  exact (List.cons.inj bytes).1

theorem separates (digest : Digest) (signers : List UInt8) :
    Certificate.Separates recover digest (signers.map (sign digest)) := by
  intro one onePresent other otherPresent signer oneFound otherFound
  obtain ⟨oneName, -, rfl⟩ := List.mem_map.mp onePresent
  obtain ⟨otherName, -, rfl⟩ := List.mem_map.mp otherPresent
  have same := (recover_sign_done oneFound).2.symm.trans (recover_sign_done otherFound).2
  rw [address_injective same]

theorem needs_three {reaching : Nat} (reached : thresholdReached reaching 4 0.667 = true) : 3 ≤ reaching := by
  by_contra few
  have below : reaching = 0 ∨ reaching = 1 ∨ reaching = 2 := by omega
  rcases below with rfl | rfl | rfl <;> exact absurd reached (by decide)

def adoption (signers : List UInt8) (distinct : signers.Nodup) (members : signers ⊆ names)
    (enough : 3 ≤ signers.length) : Adoption recover (names.map address) where
  start := start
  run := [⟨.processQuorum (quorumCert 1 signers), setting⟩]
  step := ⟨.processQuorum (quorumCert 1 signers), setting⟩
  cert := quorumCert 1 signers
  installed := by
    refine ⟨[], [], rfl, ?_, ?_⟩
    · intro same
      exact absurd (congrArg QuorumCert.round same) (show (0 : Round) ≠ 1 by decide)
    · have next : Step.next ⟨.processQuorum (quorumCert 1 signers), setting⟩ start = _ :=
        processQuorum_next (by decide) distinct members enough
      change (Step.next _ start).round.highestQuorumCert = _
      rw [next, EngineState.adopt_highestQuorumCert]
      rfl
  recovery := rfl
  selected := ⟨0, rfl⟩

theorem adoption_needs {signers : List UInt8} (distinct : signers.Nodup) (members : signers ⊆ names)
    (enough : 3 ≤ signers.length) : (adoption signers distinct members enough).Needs 3 := by
  intro reaching reached
  change thresholdReached reaching 4 (setting.configAt _).certThreshold = true at reached
  rw [certThreshold] at reached
  exact needs_three reached

theorem not_equivocates {signed : Digest} {round : Round} {gapNumber : UInt64} {member : Address} :
    ¬Equivocates recover {signature | ∃ name, signature = sign signed name} round gapNumber member := by
  rintro ⟨one, other, -, -, differ, ⟨_, ⟨oneName, rfl⟩, oneFound⟩, _, ⟨otherName, rfl⟩, otherFound⟩
  exact differ ((recover_sign_done oneFound).1.symm.trans (recover_sign_done otherFound).1)

end Sample

section Agreement

variable {recover : Certificate.Recovery} {masternodes : List Address}
  (first second : Adoption recover masternodes) {count : Nat} {signatures : Set Signature}

theorem equivocates_of_signed_both {member : Address}
    (sameGap : second.cert.gapNumber = first.cert.gapNumber) (sameRound : second.cert.round = first.cert.round)
    (differ : first.cert.payload.digest ≠ second.cert.payload.digest)
    (firstSeen : ∀ signature ∈ first.cert.signatures, signature ∈ signatures)
    (secondSeen : ∀ signature ∈ second.cert.signatures, signature ∈ signatures)
    (signed : member ∈ first.signers ∩ second.signers) :
    Equivocates recover signatures first.cert.round first.cert.gapNumber member := by
  obtain ⟨one, other⟩ := Finset.mem_inter.mp signed
  obtain ⟨-, oneSignature, onePresent, oneFound⟩ := Certificate.mem_signers.mp one
  obtain ⟨-, otherSignature, otherPresent, otherFound⟩ := Certificate.mem_signers.mp other
  have payload : second.cert.payload = ⟨second.cert.block, first.cert.gapNumber⟩ := by
    rw [← sameGap]
    rfl
  rw [payload] at differ otherFound
  exact ⟨first.cert.block, second.cert.block, rfl, sameRound, differ,
    ⟨oneSignature, firstSeen _ onePresent, oneFound⟩, otherSignature, secondSeen _ otherPresent, otherFound⟩

/-- Two adopted certificates with the same masternodes are signed by enough of them to share some. If they
are of one round and not that many have signed for two blocks of it, they are for the same block. Of
digests it is only asked that those of the two votes tell them apart. -/
theorem adopted_quorums_agree (sameGap : second.cert.gapNumber = first.cert.gapNumber)
    (firstNeeds : first.Needs count) (secondNeeds : second.Needs count)
    (firstSeparates : first.Separates) (secondSeparates : second.Separates)
    (distinguished : first.cert.payload.digest = second.cert.payload.digest →
      first.cert.payload = second.cert.payload)
    (firstSeen : ∀ signature ∈ first.cert.signatures, signature ∈ signatures)
    (secondSeen : ∀ signature ∈ second.cert.signatures, signature ∈ signatures) :
    count ≤ first.signers.card ∧ count ≤ second.signers.card ∧
      2 * count - masternodes.length ≤ (first.signers ∩ second.signers).card ∧
      (second.cert.round = first.cert.round →
        (∀ culprits ⊆ masternodes.toFinset,
          (∀ member ∈ culprits, Equivocates recover signatures first.cert.round first.cert.gapNumber member) →
            culprits.card < 2 * count - masternodes.length) →
        first.cert.block = second.cert.block) := by
  have firstCount := Adoption.card_signers firstNeeds firstSeparates
  have secondCount := Adoption.card_signers secondNeeds secondSeparates
  have shared :=
    Certificate.card_inter_ge Certificate.signers_subset Certificate.signers_subset firstCount secondCount
  refine ⟨firstCount, secondCount, shared, fun sameRound few => ?_⟩
  by_contra differ
  have apart : first.cert.payload.digest ≠ second.cert.payload.digest :=
    fun same => differ (congrArg VotePayload.block (distinguished same))
  have among : first.signers ∩ second.signers ⊆ masternodes.toFinset :=
    Finset.inter_subset_left.trans Certificate.signers_subset
  have tooFew := few _ among fun member signed =>
    equivocates_of_signed_both first second sameGap sameRound apart firstSeen secondSeen signed
  exact absurd shared (Nat.not_le.mpr tooFew)

end Agreement

theorem adopted_quorums_agree_of_three :
    ∃ first second : Adoption Sample.recover (Sample.names.map Sample.address),
      first.cert = Sample.quorumCert 1 [1, 2, 3] ∧ second.cert = Sample.quorumCert 1 [2, 3, 4] ∧
      3 ≤ first.signers.card ∧ 3 ≤ second.signers.card ∧ 2 ≤ (first.signers ∩ second.signers).card ∧
      first.cert.block = second.cert.block := by
  let first := Sample.adoption [1, 2, 3] (by decide) (by decide) (by decide)
  let second := Sample.adoption [2, 3, 4] (by decide) (by decide) (by decide)
  let digest := VotePayload.digest ⟨Sample.block 1, 0⟩
  have seen : ∀ names : List UInt8, ∀ signature ∈ names.map (Sample.sign digest),
      signature ∈ {signature | ∃ name, signature = Sample.sign digest name} := by
    intro names signature present
    obtain ⟨name, -, rfl⟩ := List.mem_map.mp present
    exact ⟨name, rfl⟩
  obtain ⟨firstCount, secondCount, shared, agree⟩ := adopted_quorums_agree first second rfl
    (Sample.adoption_needs _ _ _) (Sample.adoption_needs _ _ _) (Sample.separates _ _) (Sample.separates _ _)
    (fun _ => rfl) (seen [1, 2, 3]) (seen [2, 3, 4])
  refine ⟨first, second, rfl, rfl, firstCount, secondCount, shared, agree rfl fun culprits _ guilty => ?_⟩
  have innocent : culprits = ∅ := by
    apply Finset.eq_empty_of_forall_notMem
    intro member present
    exact Sample.not_equivocates (guilty member present)
  rw [innocent]
  decide

end MasternodeBft
