import Mathlib.Data.List.Nodup
import MasternodeBft.Certificate

/-!
What it takes for signatures to form a certificate: their different bytes reach the threshold, and each
of them is that of a masternode.
-/

namespace MasternodeBft.Certificate

theorem mem_unique {signature : Signature} {signatures : List Signature} :
    signature ∈ unique signatures ↔ signature ∈ signatures := List.mem_eraseDups

theorem unique_nodup (signatures : List Signature) : (unique signatures).Nodup := by
  unfold unique
  match signatures with
  | [] => exact List.nodup_nil
  | first :: rest =>
    rw [List.eraseDups_cons, List.nodup_cons]
    constructor
    · intro again
      rw [List.mem_eraseDups, List.mem_filter] at again
      have differs := again.2
      simp at differs
    · exact unique_nodup (rest.filter fun signature => !signature == first)
termination_by signatures.length
decreasing_by exact Nat.lt_succ_of_le (List.length_filter_le _ rest)

theorem unique_perm {signatures others : List Signature}
    (same : ∀ signature, signature ∈ others ↔ signature ∈ signatures) : (unique others).Perm (unique signatures) := by
  rw [List.perm_ext_iff_of_nodup (unique_nodup others) (unique_nodup signatures)]
  intro signature
  rw [mem_unique, mem_unique]
  exact same signature

theorem unique_of_nodup {signatures : List Signature} (distinct : signatures.Nodup) :
    unique signatures = signatures := by
  unfold unique
  induction signatures with
  | nil => rfl
  | cons first rest ih =>
    obtain ⟨absent, distinct⟩ := List.nodup_cons.mp distinct
    have kept : rest.filter (fun signature => !signature == first) = rest := by
      apply List.filter_eq_self.mpr
      intro signature present
      have differs : signature ≠ first := fun same => absent (same ▸ present)
      simpa using differs
    rw [List.eraseDups_cons, kept, ih distinct]

variable {recover : Recovery} {digest : Digest} {signatures : List Signature} {masternodes : List Address}

theorem failure?_eq_none_iff {signature : Signature} :
    failure? recover digest masternodes signature = none ↔
      ∃ signer ∈ masternodes, recover digest signature = .ok signer := by
  unfold failure?
  cases recover digest signature with
  | error cause => simp
  | ok signer => by_cases member : signer ∈ masternodes <;> simp [member]

theorem verdict_examined_iff {count : Nat} {failures : List CertificateError} :
    (Finding.examined count failures).verdict = .ok () ↔ failures = [] := by
  match failures with
  | [] => exact iff_of_true rfl rfl
  | [_] => simp [Finding.verdict]
  | _ :: _ :: _ => simp [Finding.verdict]

theorem verify_ok_iff {threshold : Float} :
    verify recover digest signatures masternodes threshold = .ok () ↔
      thresholdReached (unique signatures).length masternodes.length threshold = true ∧
        ∀ signature ∈ signatures, ∃ signer ∈ masternodes, recover digest signature = .ok signer := by
  unfold verify examine
  by_cases reached : thresholdReached (unique signatures).length masternodes.length threshold = true
  · simp only [reached, ↓reduceIte, true_and]
    rw [verdict_examined_iff, List.filterMap_eq_nil_iff]
    constructor
    · intro clean signature present
      exact failure?_eq_none_iff.mp (clean signature (mem_unique.mpr present))
    · intro signed signature present
      exact failure?_eq_none_iff.mpr (signed signature (mem_unique.mp present))
  · simp only [reached, Bool.false_eq_true, ↓reduceIte, false_and, iff_false]
    simp [Finding.verdict]

end MasternodeBft.Certificate
