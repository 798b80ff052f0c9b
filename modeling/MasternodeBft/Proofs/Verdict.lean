import MasternodeBft.Proofs.Checks

/-!
The verdict on a certificate's signatures. It is told by the different ones of them and by the strays, those
that are not of masternodes; so neither the order of the signatures nor their repetition is of account, and a
single stray spoils the certificate.
-/

namespace MasternodeBft.Certificate

/-! Signatures that are different from those before. -/

/-- The signatures that stand neither before in the list, nor among those already seen. -/
def uniqueAfter (seen : List Signature) : List Signature → List Signature
  | [] => []
  | signature :: rest =>
    if signature ∈ seen then uniqueAfter seen rest else signature :: uniqueAfter (signature :: seen) rest

theorem eraseDups_filter (seen signatures : List Signature) :
    (signatures.filter fun signature => signature ∉ seen).eraseDups = uniqueAfter seen signatures := by
  induction signatures generalizing seen with
  | nil => rfl
  | cons signature rest ih =>
    unfold uniqueAfter
    by_cases known : signature ∈ seen
    · rw [if_pos known, ← ih, List.filter_cons_of_neg (by simpa using known)]
    · rw [if_neg known, ← ih, List.filter_cons_of_pos (by simpa using known), List.eraseDups_cons,
        List.filter_filter]
      congr 2
      apply List.filter_congr
      intro other _
      by_cases same : other = signature <;> simp [same]

theorem unique_eq (signatures : List Signature) : unique signatures = uniqueAfter [] signatures := by
  rw [← eraseDups_filter]
  simp [unique]

theorem mem_uniqueAfter {seen signatures : List Signature} {signature : Signature} :
    signature ∈ uniqueAfter seen signatures ↔ signature ∈ signatures ∧ signature ∉ seen := by
  rw [← eraseDups_filter, List.mem_eraseDups, List.mem_filter, decide_eq_true_iff]

theorem uniqueAfter_ordered (seen signatures : List Signature) :
    (uniqueAfter seen signatures).Pairwise fun first second => signatures.idxOf first < signatures.idxOf second := by
  induction signatures generalizing seen with
  | nil => exact .nil
  | cons signature rest ih =>
    have later {seen : List Signature} (known : signature ∈ seen) : (uniqueAfter seen rest).Pairwise
        fun first second => (signature :: rest).idxOf first < (signature :: rest).idxOf second := by
      refine (ih seen).imp_of_mem fun {first second} firstMember secondMember before => ?_
      have apart {other : Signature} (member : other ∈ uniqueAfter seen rest) : signature ≠ other := by
        rintro rfl
        exact (mem_uniqueAfter.mp member).2 known
      rw [List.idxOf_cons_ne _ (apart firstMember), List.idxOf_cons_ne _ (apart secondMember)]
      exact Nat.succ_lt_succ before
    unfold uniqueAfter
    by_cases known : signature ∈ seen
    · rw [if_pos known]
      exact later known
    · rw [if_neg known]
      refine .cons (fun other member => ?_) (later List.mem_cons_self)
      have apart : signature ≠ other := by
        rintro rfl
        exact (mem_uniqueAfter.mp member).2 List.mem_cons_self
      rw [List.idxOf_cons_self, List.idxOf_cons_ne _ apart]
      exact Nat.succ_pos _

theorem repeatedAfter_eq_diff (seen signatures : List Signature) :
    repeatedAfter seen signatures = signatures.diff (uniqueAfter seen signatures) := by
  induction signatures generalizing seen with
  | nil => rfl
  | cons signature rest ih =>
    unfold repeatedAfter uniqueAfter
    by_cases known : signature ∈ seen
    · have absent : signature ∉ uniqueAfter seen rest := fun member => (mem_uniqueAfter.mp member).2 known
      rw [if_pos known, if_pos known, List.cons_diff, if_neg absent, ih]
    · rw [if_neg known, if_neg known, List.diff_cons, List.erase_cons_head, ih]

/-- A list of signatures is split into its different ones, in the order of their first occurrences, and into
their further occurrences. -/
structure Splits (signatures unique repeated : List Signature) : Prop where
  members : ∀ signature, signature ∈ unique ↔ signature ∈ signatures
  ordered : unique.Pairwise fun first second => signatures.idxOf first < signatures.idxOf second
  remaining : repeated = signatures.diff unique
  complete : (unique ++ repeated).Perm signatures

theorem splits (signatures : List Signature) : Splits signatures (unique signatures) (repeated signatures) where
  members _ := mem_unique
  ordered := unique_eq signatures ▸ uniqueAfter_ordered [] signatures
  remaining := unique_eq signatures ▸ repeatedAfter_eq_diff [] signatures
  complete := by
    have remaining : repeated signatures = signatures.diff (unique signatures) :=
      unique_eq signatures ▸ repeatedAfter_eq_diff [] signatures
    rw [remaining]
    refine List.subperm_append_diff_self_of_count_le fun signature member => ?_
    rw [(unique_nodup signatures).count, if_pos member]
    exact List.one_le_count_iff.mpr (mem_unique.mp member)

/-! Strays. -/

def counts (recover : Recovery) (digest : Digest) (masternodes : List Address) (signature : Signature) : Bool :=
  match recover digest signature with
  | .ok signer => signer ∈ masternodes
  | .error _ => false

def fault (recover : Recovery) (digest : Digest) (signature : Signature) : CertificateError :=
  match recover digest signature with
  | .ok signer => .notAMasternode signature signer
  | .error cause => .invalidSignature signature cause

def strays (recover : Recovery) (digest : Digest) (masternodes : List Address) (signatures : List Signature) :
    List Signature :=
  (unique signatures).filter fun signature => !counts recover digest masternodes signature

variable {recover : Recovery} {digest : Digest} {signatures : List Signature} {masternodes : List Address}
  {threshold : Float}

theorem counts_iff {signature : Signature} : counts recover digest masternodes signature = true ↔
    ∃ signer ∈ masternodes, recover digest signature = .ok signer := by
  unfold counts
  cases recover digest signature with
  | error cause => simp
  | ok signer => simp

theorem mem_strays_iff {signature : Signature} : signature ∈ strays recover digest masternodes signatures ↔
    signature ∈ signatures ∧ ∀ signer ∈ masternodes, recover digest signature ≠ .ok signer := by
  unfold strays
  rw [List.mem_filter, mem_unique, Bool.not_eq_true', ← Bool.not_eq_true, counts_iff]
  simp only [not_exists, not_and, ne_eq]

theorem failure?_eq (signature : Signature) : failure? recover digest masternodes signature =
    if counts recover digest masternodes signature then none else some (fault recover digest signature) := by
  unfold failure? counts fault
  cases recover digest signature with
  | error cause => rfl
  | ok signer => by_cases member : signer ∈ masternodes <;> simp [member]

theorem filterMap_failure? (signatures : List Signature) :
    signatures.filterMap (failure? recover digest masternodes) =
      (signatures.filter fun signature => !counts recover digest masternodes signature).map
        (fault recover digest) := by
  induction signatures with
  | nil => rfl
  | cons signature rest ih =>
    rw [List.filterMap_cons, failure?_eq, List.filter_cons]
    cases counts recover digest masternodes signature <;> simp [ih]

/-! The verdict. -/

theorem verify_of_few (few : thresholdReached (unique signatures).length masternodes.length threshold = false) :
    verify recover digest signatures masternodes threshold =
      .error (.insufficient (unique signatures).length (Float.ofNat masternodes.length * threshold)) := by
  unfold verify examine
  simp only [few]
  rfl

/-- The verdict on so many different signatures with certain strays, if they are enough. -/
def judge (recover : Recovery) (digest : Digest) (different : Nat) (strays : List Signature) :
    Except CertificateError Unit :=
  match strays with
  | [] => .ok ()
  | [stray] => .error (fault recover digest stray)
  | first :: _ :: _ => .error (.multiple strays.length different (fault recover digest first))

theorem verify_of_enough
    (enough : thresholdReached (unique signatures).length masternodes.length threshold = true) :
    verify recover digest signatures masternodes threshold =
      judge recover digest (unique signatures).length (strays recover digest masternodes signatures) := by
  unfold verify examine
  simp only [enough, if_true]
  rw [filterMap_failure?]
  change (Finding.examined _ ((strays recover digest masternodes signatures).map _)).verdict = _
  match strays recover digest masternodes signatures with
  | [] | [_] => rfl
  | _ :: _ :: _ => simp [Finding.verdict, judge]

theorem fault_ne_insufficient (signature : Signature) (count : Nat) (required : Float) :
    fault recover digest signature ≠ .insufficient count required := by
  unfold fault
  cases recover digest signature <;> exact nofun

theorem judge_ne_insufficient (different : Nat) (strays : List Signature) (count : Nat) (required : Float) :
    judge recover digest different strays ≠ .error (.insufficient count required) := by
  match strays with
  | [] => exact nofun
  | [stray] => exact fun same => fault_ne_insufficient stray count required (Except.error.inj same)
  | _ :: _ :: _ => exact nofun

theorem judge_ok_iff {different : Nat} {strays : List Signature} :
    judge recover digest different strays = .ok () ↔ strays = [] := by
  match strays with
  | [] => exact iff_of_true rfl rfl
  | [_] | _ :: _ :: _ => exact iff_of_false nofun nofun

/-- Verdicts of one kind with the same counts. Which fault is named may differ only where there are several. -/
inductive Alike : Except CertificateError Unit → Except CertificateError Unit → Prop
  | same (verdict : Except CertificateError Unit) : Alike verdict verdict
  | several (failed total : Nat) (first other : CertificateError) :
      Alike (.error (.multiple failed total first)) (.error (.multiple failed total other))

section Sets

variable {other : List Signature}

theorem judge_alike {strays others : List Signature} (strayed : others.Perm strays) (different : Nat) :
    Alike (judge recover digest different strays) (judge recover digest different others) := by
  match strays, others with
  | [], _ =>
    rw [strayed.eq_nil]
    exact .same _
  | [stray], _ =>
    rw [List.perm_singleton.mp strayed]
    exact .same _
  | _ :: _ :: _, [] | _ :: _ :: _, [_] => exact absurd strayed.length_eq (by simp)
  | _ :: _ :: _, _ :: _ :: _ =>
    unfold judge
    rw [strayed.length_eq]
    exact .several _ _ _ _

/-- Order and repetition are of no account. -/
theorem verify_alike (same : ∀ signature, signature ∈ other ↔ signature ∈ signatures) :
    Alike (verify recover digest signatures masternodes threshold)
      (verify recover digest other masternodes threshold) := by
  have uniques := unique_perm same
  have count := uniques.length_eq
  cases reached : thresholdReached (unique signatures).length masternodes.length threshold with
  | false =>
    rw [verify_of_few reached, verify_of_few (count ▸ reached), count]
    exact .same _
  | true =>
    rw [verify_of_enough reached, verify_of_enough (count ▸ reached), count]
    exact judge_alike (uniques.filter _) _

end Sets

/-- The verdict on signatures is told by the different ones and the strays of them. They are too few, whatever
the strays, or they pass if there are no strays, or the fault of the only stray is told, or that of the first
stray and how many there are. So signatures that are the same but for order and repetition have verdicts alike,
and none pass that have a stray among them. -/
theorem verdict_told_by_strays (recover : Recovery) (digest : Digest) (signatures : List Signature)
    (masternodes : List Address) (threshold : Float) :
    let different := unique signatures
    let strays := strays recover digest masternodes signatures
    let enough := thresholdReached different.length masternodes.length threshold
    let verdict := verify recover digest signatures masternodes threshold
    Splits signatures different (repeated signatures) ∧
      (strays.Sublist different ∧ ∀ signature, signature ∈ strays ↔
        signature ∈ signatures ∧ ∀ signer ∈ masternodes, recover digest signature ≠ .ok signer) ∧
      ((∃ count required, verdict = .error (.insufficient count required)) ↔ enough = false) ∧
      (enough = false →
        verdict = .error (.insufficient different.length (Float.ofNat masternodes.length * threshold))) ∧
      (enough = true →
        (verdict = .ok () ↔ strays = []) ∧
          (∀ stray, strays = [stray] → verdict = .error (fault recover digest stray)) ∧
          ∀ first second rest, strays = first :: second :: rest →
            verdict = .error (.multiple strays.length different.length (fault recover digest first))) ∧
      (∀ other, (∀ signature, signature ∈ other ↔ signature ∈ signatures) →
        Alike verdict (verify recover digest other masternodes threshold)) ∧
      ∀ stray ∈ strays, enough = true → verdict ≠ .ok () := by
  intro different strays enough verdict
  have judged (reached : enough = true) : verdict = judge recover digest different.length strays :=
    verify_of_enough reached
  refine ⟨splits signatures, ⟨List.filter_sublist, fun _ => mem_strays_iff⟩, ⟨?_, ?_⟩, verify_of_few, fun reached => ?_,
    fun other same => verify_alike same, fun stray member reached passed => ?_⟩
  · rintro ⟨count, required, short⟩
    by_contra reached
    exact judge_ne_insufficient _ _ _ _ ((judged (Bool.not_eq_false _ ▸ reached)).symm.trans short)
  · exact fun few => ⟨_, _, verify_of_few few⟩
  · rw [judged reached]
    refine ⟨judge_ok_iff, fun stray alone => ?_, fun first second rest more => ?_⟩
    · rw [alone]
      rfl
    · rw [more]
      rfl
  · exact List.ne_nil_of_mem member (judge_ok_iff.mp ((judged reached).symm.trans passed))

/-- The signatures of three masternodes, one of them twice, and that of a stranger. -/
theorem stranger_spoils_certificate :
    let digest : Digest := FixedBytes.zero 32
    let signatures := [1, 9, 2, 1, 3].map (Sample.sign digest)
    let masternodes := Sample.names.map Sample.address
    thresholdReached (unique signatures).length masternodes.length 0.667 = true ∧
      strays Sample.recover digest masternodes signatures = [Sample.sign digest 9] ∧
      verify Sample.recover digest signatures masternodes 0.667 =
        .error (.notAMasternode (Sample.sign digest 9) (Sample.address 9)) ∧
      Alike (verify Sample.recover digest signatures masternodes 0.667)
        (verify Sample.recover digest ([9, 3, 2, 1, 9].map (Sample.sign digest)) masternodes 0.667) := by
  intro digest signatures masternodes
  have enough : thresholdReached (unique signatures).length masternodes.length 0.667 = true := by decide
  have alone : strays Sample.recover digest masternodes signatures = [Sample.sign digest 9] := by decide
  obtain ⟨-, -, -, -, verdict, alike, -⟩ :=
    verdict_told_by_strays Sample.recover digest signatures masternodes 0.667
  refine ⟨enough, alone, (verdict enough).2.1 _ alone, alike _ fun signature => ?_⟩
  have same (name : UInt8) : name ∈ [9, 3, 2, 1, 9] ↔ name ∈ [1, 9, 2, 1, 3] := by grind
  simp only [signatures, List.mem_map, same]

end MasternodeBft.Certificate
