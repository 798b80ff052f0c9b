import Mathlib.Data.Set.Function
import MasternodeBft.Proofs.Assembly
import MasternodeBft.Proofs.WireRoundTrip

/-!
What masternodes sign. The text of a payload tells which payload it is, and whether it is one of a vote or of a
timeout. So as long as no two of the texts that occur have one hash, digests tell it too: a signature is good
for one payload only, the digest of a certificate is that of the votes in its bucket, and no signature of a
vote passes for one of a timeout.
-/

namespace MasternodeBft

namespace Json

theorem eq_of_render_eq {value other : Json} (readable : Readable value) (alsoReadable : Readable other)
    (same : value.render = other.render) : value = other := by
  have read := parse?_render readable
  rw [same, parse?_render alsoReadable] at read
  exact (Option.some.inj read).symm

theorem record_inj {names otherNames : List String} {fields others : List (String × Json)} (keys : Keys names)
    (named : fields.map Prod.fst = names) (otherKeys : Keys otherNames)
    (otherNamed : others.map Prod.fst = otherNames) (same : record fields = record others) : fields = others := by
  have read := toFields?_record (named ▸ keys.legible)
  rw [same, toFields?_record (otherNamed ▸ otherKeys.legible)] at read
  exact (Option.some.inj read).symm

theorem word_injective : Function.Injective word := by
  have read : toWord? ∘ word = some := funext toWord?_word
  exact .of_comp (read ▸ Option.some_injective _)

end Json

theorem BlockInfo.toJson_injective : Function.Injective toJson := by
  have read : ofJson? ∘ toJson = some := funext ofJson?_toJson
  exact .of_comp (read ▸ Option.some_injective _)

inductive SigningPayload where
  | vote (payload : VotePayload)
  | timeout (payload : TimeoutPayload)

namespace SigningPayload

open Json (Readable Keys)

def bytes : SigningPayload → Bytes
  | vote payload => payload.bytes
  | timeout payload => payload.bytes

def digest : SigningPayload → Digest
  | vote payload => payload.digest
  | timeout payload => payload.digest

theorem digest_eq (payload : SigningPayload) : payload.digest = sha256 payload.bytes := by
  cases payload <;> rfl

def fields : SigningPayload → List (String × Json)
  | vote payload => [("proposed_block_info", payload.block.toJson), ("gap_number", .word payload.gapNumber)]
  | timeout payload => [("round", .word payload.round), ("gap_number", .word payload.gapNumber)]

theorem bytes_eq (payload : SigningPayload) : payload.bytes = (Json.record payload.fields).render := by
  cases payload <;> rfl

theorem keys (payload : SigningPayload) : Keys (payload.fields.map Prod.fst) := by
  cases payload with
  | vote payload =>
    change Keys ["proposed_block_info", "gap_number"]
    decide
  | timeout payload =>
    change Keys ["round", "gap_number"]
    decide

theorem readable (payload : SigningPayload) : Readable (Json.record payload.fields) := by
  apply Json.readable_record payload.keys rfl
  cases payload with
  | vote payload =>
    simp only [fields, List.forall_mem_cons]
    exact ⟨payload.block.readable, Json.readable_word _, nofun⟩
  | timeout payload =>
    simp only [fields, List.forall_mem_cons]
    exact ⟨Json.readable_word _, Json.readable_word _, nofun⟩

theorem vote_inj {payload other : VotePayload} (same : (vote payload).fields = (vote other).fields) :
    payload = other := by
  simp only [fields, List.cons.injEq, Prod.mk.injEq, true_and, and_true] at same
  obtain ⟨block, gapNumber⟩ := same
  calc payload
    _ = ⟨payload.block, payload.gapNumber⟩ := rfl
    _ = ⟨other.block, other.gapNumber⟩ := by
      rw [BlockInfo.toJson_injective block, Json.word_injective gapNumber]

theorem timeout_inj {payload other : TimeoutPayload} (same : (timeout payload).fields = (timeout other).fields) :
    payload = other := by
  simp only [fields, List.cons.injEq, Prod.mk.injEq, true_and, and_true] at same
  obtain ⟨round, gapNumber⟩ := same
  calc payload
    _ = ⟨payload.round, payload.gapNumber⟩ := rfl
    _ = ⟨other.round, other.gapNumber⟩ := by
      rw [Json.word_injective round, Json.word_injective gapNumber]

theorem vote_fields_ne_timeout (payload : VotePayload) (other : TimeoutPayload) :
    (vote payload).fields ≠ (timeout other).fields := by
  simp [fields]

theorem fields_injective : Function.Injective fields := by
  intro payload other same
  cases payload with
  | vote payload => cases other with
    | vote other => rw [vote_inj same]
    | timeout other => exact absurd same (vote_fields_ne_timeout payload other)
  | timeout payload => cases other with
    | vote other => exact absurd same.symm (vote_fields_ne_timeout other payload)
    | timeout other => rw [timeout_inj same]

theorem bytes_injective : Function.Injective bytes := by
  intro payload other same
  rw [bytes_eq, bytes_eq] at same
  have records := Json.eq_of_render_eq payload.readable other.readable same
  exact fields_injective (Json.record_inj payload.keys rfl other.keys rfl records)

/-- No two of the payloads have texts with one hash. -/
def CollisionFree (seen : Set SigningPayload) : Prop := Set.InjOn sha256 (bytes '' seen)

theorem CollisionFree.digest_injOn {seen : Set SigningPayload} (collisionFree : CollisionFree seen) :
    Set.InjOn digest seen := by
  intro payload present other alsoPresent same
  rw [digest_eq, digest_eq] at same
  exact bytes_injective (collisionFree (Set.mem_image_of_mem _ present) (Set.mem_image_of_mem _ alsoPresent) same)

/-- A signature passes for one of somebody over the payload. -/
def AcceptedFor (recover : Certificate.Recovery) (payload : SigningPayload) (signature : Signature) : Prop :=
  ∃ signer, recover payload.digest signature = .ok signer

/-- No signature passes over two different digests of the payloads. -/
def SignedApart (recover : Certificate.Recovery) (seen : Set SigningPayload) : Prop :=
  ∀ payload ∈ seen, ∀ other ∈ seen, ∀ signature, payload.AcceptedFor recover signature →
    other.AcceptedFor recover signature → payload.digest = other.digest

variable {seen : Set SigningPayload}

theorem eq_of_acceptedFor {recover : Certificate.Recovery} (collisionFree : CollisionFree seen)
    (apart : SignedApart recover seen) {payload other : SigningPayload} (present : payload ∈ seen)
    (alsoPresent : other ∈ seen) {signature : Signature} (accepted : payload.AcceptedFor recover signature)
    (alsoAccepted : other.AcceptedFor recover signature) : payload = other :=
  collisionFree.digest_injOn present alsoPresent
    (apart payload present other alsoPresent signature accepted alsoAccepted)

theorem not_acceptedFor_timeout {recover : Certificate.Recovery} (collisionFree : CollisionFree seen)
    (apart : SignedApart recover seen) {payload : VotePayload} {other : TimeoutPayload} (present : vote payload ∈ seen)
    (alsoPresent : timeout other ∈ seen) {signature : Signature}
    (accepted : (vote payload).AcceptedFor recover signature) : ¬(timeout other).AcceptedFor recover signature :=
  fun alsoAccepted => nomatch eq_of_acceptedFor collisionFree apart present alsoPresent accepted alsoAccepted

theorem vote_key_eq_iff {one other : Vote} : one.key = other.key ↔ one.payload = other.payload := by
  refine ⟨Vote.payload_of_key, fun same => ?_⟩
  have block : one.block = other.block := congrArg VotePayload.block same
  have gapNumber : one.gapNumber = other.gapNumber := congrArg VotePayload.gapNumber same
  unfold Vote.key
  rw [block, gapNumber]

/-- The digest of a certificate that is made of a bucket is that of the votes in the bucket, and of no other
votes in the pool. -/
theorem assembleQuorum_digest_iff {setting : Setting} {pool : VotePool} {kind : Vote → Prop} (files : pool.Files kind)
    (collisionFree : CollisionFree seen) {voted : Vote} (present : vote voted.payload ∈ seen) {key : VoteKey}
    {entry : Address × Vote} (pooled : entry ∈ pool.bucket key) (alsoPresent : vote entry.2.payload ∈ seen) :
    (Engine.assembleQuorum setting voted (pool.bucket voted.key)).payload.digest = entry.2.payload.digest ↔
      key = voted.key := by
  have filed : entry.2.key = key := (files key entry pooled).2.1
  rw [← filed, vote_key_eq_iff]
  constructor
  · intro same
    have payloads : vote voted.payload = vote entry.2.payload :=
      collisionFree.digest_injOn present alsoPresent same
    exact (vote.inj payloads).symm
  · intro same
    rw [same]
    rfl

end SigningPayload

namespace Engine

variable {setting : Setting}

theorem acceptedFor_of_verifyTimeoutCert {cert : TimeoutCert}
    (verified : (verifyTimeoutCert setting cert).ending = .done ()) {signature : Signature}
    (counted : signature ∈ cert.signatures) :
    (SigningPayload.timeout cert.payload).AcceptedFor setting.authority.recover signature := by
  obtain ⟨snapshot, -, -, passed⟩ := (verifyTimeoutCert_done_iff.mp verified).verified
  obtain ⟨signer, -, recovered⟩ := (Certificate.verify_ok_iff.mp passed).2 signature counted
  exact ⟨signer, recovered⟩

theorem acceptedFor_of_verifyTimeout {current : Round} {timeout : Timeout} {signer : Address}
    (passed : (verifyTimeout setting current timeout).ending = .done (some signer)) :
    (SigningPayload.timeout timeout.payload).AcceptedFor setting.authority.recover timeout.signature :=
  ⟨signer, (verifySigned_done_iff.mp passed).2.genuine⟩

end Engine

/-! Three payloads that a masternode has signed. -/

namespace Sample

def payloads : List SigningPayload :=
  [.vote ⟨block 1, 0⟩, .vote ⟨block 2, 0⟩, .timeout ⟨1, 0⟩]

theorem payloads_collisionFree : SigningPayload.CollisionFree {payload | payload ∈ payloads} := by
  have distinct : ((payloads.map SigningPayload.bytes).map sha256).Nodup := by decide +kernel
  rintro _ ⟨payload, present, rfl⟩ _ ⟨other, alsoPresent, rfl⟩ same
  exact List.inj_on_of_nodup_map distinct (List.mem_map_of_mem present) (List.mem_map_of_mem alsoPresent) same

theorem signed_of_recovered {digest : Digest} {signature : Signature} {signer : Address}
    (found : recover digest signature = .ok signer) : signature.bytes.tail = digest.bytes := by
  unfold recover at found
  split at found
  · cases found
  · rename_i name signed bytes
    rw [bytes]
    by_contra differ
    rw [if_neg (show signed ≠ digest.bytes from differ)] at found
    cases found

theorem signedApart (seen : Set SigningPayload) : SigningPayload.SignedApart recover seen := by
  rintro payload - other - signature ⟨signer, found⟩ ⟨otherSigner, otherFound⟩
  exact FixedBytes.ext ((signed_of_recovered found).symm.trans (signed_of_recovered otherFound))

def pollRun : List Step := [⟨.collectVote (vote 1 1), early⟩, ⟨.collectVote (vote 2 1), early⟩]

theorem bucket_pollRun :
    (start.after pollRun).votes.bucket (vote 2 1).key = [(address 1, vote 2 1)] := rfl

end Sample

namespace SigningPayload

/-- Texts of different payloads differ, those of a vote and a timeout included. Among payloads whose texts have
different hashes, then, each digest is of one payload; a signature that does not pass over two of the digests is
accepted for one payload; the digest of a certificate that is made of a bucket is that of the pooled votes in the
bucket, and of no others; and a signature of a vote counts neither in a certificate of timeouts nor as that of
a timeout. -/
theorem signing_payloads_unambiguous {seen : Set SigningPayload} (collisionFree : CollisionFree seen) :
    (Function.Injective VotePayload.bytes ∧ Function.Injective TimeoutPayload.bytes ∧
        ∀ (voted : VotePayload) (other : TimeoutPayload), voted.bytes ≠ other.bytes) ∧
      (∀ payload ∈ seen, ∀ other ∈ seen, payload.digest = other.digest → payload = other) ∧
      (∀ recover, SignedApart recover seen → ∀ payload ∈ seen, ∀ other ∈ seen, ∀ signature,
        payload.AcceptedFor recover signature → other.AcceptedFor recover signature → payload = other) ∧
      (∀ {cert start}, EngineState.start? cert = some start → ∀ run setting (voted : Vote) key,
        ∀ entry ∈ (start.after run).votes.bucket key, vote voted.payload ∈ seen → vote entry.2.payload ∈ seen →
          ((Engine.assembleQuorum setting voted ((start.after run).votes.bucket voted.key)).payload.digest =
            entry.2.payload.digest ↔ key = voted.key)) ∧
      ∀ setting : Setting, SignedApart setting.authority.recover seen → ∀ voted, vote voted ∈ seen → ∀ signature,
        (vote voted).AcceptedFor setting.authority.recover signature →
          (∀ cert : TimeoutCert, timeout cert.payload ∈ seen → signature ∈ cert.signatures →
            (Engine.verifyTimeoutCert setting cert).ending ≠ .done ()) ∧
          ∀ (current : Round) (other : Timeout) (signer : Address), timeout other.payload ∈ seen →
            other.signature = signature →
            (Engine.verifyTimeout setting current other).ending ≠ .done (some signer) := by
  refine ⟨⟨fun one other same => ?_, fun one other same => ?_, fun voted other same => ?_⟩, ?_, ?_, ?_, ?_⟩
  · exact vote.inj (bytes_injective (show (vote one).bytes = (vote other).bytes from same))
  · exact timeout.inj (bytes_injective (show (timeout one).bytes = (timeout other).bytes from same))
  · exact nomatch bytes_injective (show (vote voted).bytes = (timeout other).bytes from same)
  · intro payload present other alsoPresent same
    exact collisionFree.digest_injOn present alsoPresent same
  · intro recover apart payload present other alsoPresent signature accepted alsoAccepted
    exact eq_of_acceptedFor collisionFree apart present alsoPresent accepted alsoAccepted
  · intro cert start started run setting voted key entry pooled present alsoPresent
    exact assembleQuorum_digest_iff (isPool_votes.admitted started run) collisionFree present pooled alsoPresent
  · intro setting apart voted present signature accepted
    refine ⟨fun cert alsoPresent counted verified => ?_, fun current other signer alsoPresent same passed => ?_⟩
    · exact not_acceptedFor_timeout collisionFree apart present alsoPresent accepted
        (Engine.acceptedFor_of_verifyTimeoutCert verified counted)
    · subst same
      exact not_acceptedFor_timeout collisionFree apart present alsoPresent accepted
        (Engine.acceptedFor_of_verifyTimeout passed)

theorem vote_of_masternode_is_for_one_block :
    CollisionFree {payload | payload ∈ Sample.payloads} ∧
      SignedApart Sample.recover {payload | payload ∈ Sample.payloads} ∧
      (vote ⟨Sample.block 1, 0⟩).AcceptedFor Sample.recover (Sample.vote 1 1).signature ∧
      ¬(vote ⟨Sample.block 2, 0⟩).AcceptedFor Sample.recover (Sample.vote 1 1).signature ∧
      (Engine.assembleQuorum Sample.setting (Sample.vote 1 1)
          ((Sample.start.after Sample.pollRun).votes.bucket (Sample.vote 1 1).key)).payload.digest ≠
        (Sample.vote 2 1).payload.digest ∧
      (Engine.verifyTimeoutCert Sample.setting ⟨1, 0, [(Sample.vote 1 1).signature]⟩).ending ≠ .done () ∧
      ∀ signer, (Engine.verifyTimeout Sample.setting 1 ⟨1, 0, (Sample.vote 1 1).signature, signer⟩).ending ≠
        .done (some signer) := by
  have collisionFree := Sample.payloads_collisionFree
  have apart := Sample.signedApart {payload | payload ∈ Sample.payloads}
  have first : vote ⟨Sample.block 1, 0⟩ ∈ {payload | payload ∈ Sample.payloads} := List.mem_cons_self
  have second : vote ⟨Sample.block 2, 0⟩ ∈ {payload | payload ∈ Sample.payloads} :=
    List.mem_cons_of_mem _ List.mem_cons_self
  have third : timeout ⟨1, 0⟩ ∈ {payload | payload ∈ Sample.payloads} :=
    List.mem_cons_of_mem _ (List.mem_cons_of_mem _ List.mem_cons_self)
  have accepted : (vote ⟨Sample.block 1, 0⟩).AcceptedFor Sample.recover (Sample.vote 1 1).signature :=
    ⟨Sample.address 1, Sample.recover_sign _ 1⟩
  have pooled : (Sample.address 1, Sample.vote 2 1) ∈
      (Sample.start.after Sample.pollRun).votes.bucket (Sample.vote 2 1).key := by
    rw [Sample.bucket_pollRun]
    exact List.mem_cons_self
  obtain ⟨-, -, signatures, buckets, kinds⟩ := signing_payloads_unambiguous collisionFree
  obtain ⟨certificates, timeouts⟩ := kinds Sample.setting apart _ first _ accepted
  refine ⟨collisionFree, apart, accepted, fun alsoAccepted => ?_, fun same => ?_, ?_, fun signer => ?_⟩
  · have same := signatures _ apart _ first _ second _ accepted alsoAccepted
    exact absurd (congrArg BlockInfo.round (congrArg VotePayload.block (vote.inj same))) (by decide)
  · have keys :=
      (buckets Sample.started Sample.pollRun Sample.setting (Sample.vote 1 1) _ _ pooled first second).mp same
    exact absurd (congrArg VoteKey.round keys) (by decide)
  · exact certificates ⟨1, 0, [(Sample.vote 1 1).signature]⟩ third List.mem_cons_self
  · exact timeouts 1 ⟨1, 0, (Sample.vote 1 1).signature, signer⟩ signer third rfl

end SigningPayload

end MasternodeBft
