import Mathlib.Data.List.Nodup
import MasternodeBft.Pool.Key

/-!
What pools hold. An addition changes one entry of one bucket, and a sweep takes whole buckets away, those
of old rounds; so entries stay under the keys and signers of their objects, one for each signer.
-/

namespace MasternodeBft

namespace Entries

variable {κ α : Type} [DecidableEq κ]

theorem mem_put {key : κ} {value : α} {entries : Entries κ α} {entry : κ × α}
    (present : entry ∈ entries.put key value) : entry = (key, value) ∨ entry ∈ entries := by
  induction entries with
  | nil => exact .inl (List.mem_singleton.mp present)
  | cons head rest ih =>
    unfold put at present
    split at present
    · rcases List.mem_cons.mp present with new | old
      · exact .inl new
      · exact .inr (List.mem_cons_of_mem _ old)
    · rcases List.mem_cons.mp present with first | later
      · exact .inr (first ▸ List.mem_cons_self)
      · exact (ih later).imp_right (List.mem_cons_of_mem _)

theorem mem_put_self (key : κ) (value : α) (entries : Entries κ α) : (key, value) ∈ entries.put key value := by
  induction entries with
  | nil => exact List.mem_singleton.mpr rfl
  | cons head rest ih =>
    unfold put
    split
    · exact List.mem_cons_self
    · exact List.mem_cons_of_mem _ ih

theorem mem_keys_put {key other : κ} {value : α} {entries : Entries κ α} :
    other ∈ (entries.put key value).keys ↔ other = key ∨ other ∈ entries.keys := by
  rw [keys_put]
  by_cases present : key ∈ entries.keys
  · rw [if_pos present]
    refine ⟨.inr, fun either => either.elim (fun same => ?_) id⟩
    rwa [same]
  · rw [if_neg present, List.mem_append, List.mem_singleton]
    exact or_comm

theorem put_put (key : κ) (earlier later : α) (entries : Entries κ α) :
    (entries.put key earlier).put key later = entries.put key later := by
  induction entries with
  | nil => simp [put]
  | cons entry rest ih =>
    by_cases same : entry.1 = key
    · simp [put, same]
    · simp [put, same, ih]

theorem get?_filter (keeps : κ → Bool) (entries : Entries κ α) (key : κ) :
    get? (entries.filter fun entry => keeps entry.1) key = if keeps key then entries.get? key else none := by
  induction entries with
  | nil => simp
  | cons entry rest ih =>
    by_cases kept : keeps entry.1 = true
    · rw [List.filter_cons, if_pos kept, get?_cons, get?_cons, ih]
      by_cases same : entry.1 = key
      · simp [← same, kept]
      · simp [same]
    · rw [List.filter_cons, if_neg kept, ih, get?_cons]
      by_cases same : entry.1 = key
      · simp [← same, kept]
      · simp [same]

theorem mem_of_get? {entries : Entries κ α} {key : κ} {value : α} (found : entries.get? key = some value) :
    (key, value) ∈ entries := by
  induction entries with
  | nil => cases found
  | cons entry rest ih =>
    rw [get?_cons] at found
    split at found
    · rename_i same
      cases found
      exact same ▸ List.mem_cons_self
    · exact List.mem_cons_of_mem _ (ih found)

end Entries

namespace Pool

variable {Object Key Signer : Type} [DecidableEq Key]

@[simp] theorem bucket_empty (key : Key) : (empty : Pool Object Key Signer).bucket key = [] := rfl

theorem bucket_of_bucket? {pool : Pool Object Key Signer} {key : Key} {bucket : Bucket Object Signer}
    (present : pool.bucket? key = some bucket) : pool.bucket key = bucket := by
  unfold Pool.bucket
  rw [present]
  rfl

theorem bucket?_sweep [PoolKey Key] (pool : Pool Object Key Signer) (current : Round) (window : UInt64)
    (key : Key) :
    (pool.sweep current window).bucket? key =
      if ∃ bound ∈ sweepBound? current window, PoolKey.isOlderThan key bound = true then none
      else pool.bucket? key := by
  unfold sweep bucket?
  cases sweepBound? current window with
  | none => simp
  | some bound =>
    have kept := Entries.get?_filter (fun key => !PoolKey.isOlderThan key bound) pool.buckets key
    simp only [Bool.not_eq_true, Bool.decide_eq_false, Option.mem_def, Option.some.injEq, exists_eq_left']
    rw [kept]
    cases PoolKey.isOlderThan key bound <;> simp

theorem bucket_sweep [PoolKey Key] (pool : Pool Object Key Signer) (current : Round) (window : UInt64)
    (key : Key) :
    (pool.sweep current window).bucket key =
      if ∃ bound ∈ sweepBound? current window, PoolKey.isOlderThan key bound = true then []
      else pool.bucket key := by
  unfold bucket
  rw [bucket?_sweep]
  split <;> rfl

theorem sweepBound?_le {current bound : Round} {window : UInt64} (swept : bound ∈ sweepBound? current window) :
    bound ≤ current := by
  unfold sweepBound? at swept
  split at swept
  · rename_i reached
    cases swept
    rw [UInt64.le_iff_toNat_le, UInt64.toNat_sub_of_le _ _ reached]
    exact Nat.sub_le _ _
  · cases swept

section Addition

variable [DecidableEq Signer] [Poolable Object Key Signer]

theorem bucket?_add_self (pool : Pool Object Key Signer) (object : Object) :
    (pool.add object).bucket? (Poolable.key object) =
      some ((pool.bucket (Poolable.key object)).put (Poolable.signer object) object) :=
  Entries.get?_put_self _ _ _

theorem bucket?_add_of_ne (pool : Pool Object Key Signer) {object : Object} {key : Key}
    (other : Poolable.key object ≠ key) : (pool.add object).bucket? key = pool.bucket? key :=
  Entries.get?_put_of_ne _ _ other

theorem bucket_add (pool : Pool Object Key Signer) (object : Object) (key : Key) :
    (pool.add object).bucket key =
      if Poolable.key object = key then (pool.bucket key).put (Poolable.signer object) object
      else pool.bucket key := by
  by_cases own : Poolable.key object = key
  · rw [if_pos own, ← own]
    exact bucket_of_bucket? (bucket?_add_self pool object)
  · rw [if_neg own]
    exact congrArg (Option.getD · []) (bucket?_add_of_ne pool own)

theorem add_add_self (pool : Pool Object Key Signer) (object : Object) :
    (pool.add object).add object = pool.add object := by
  have again : (pool.add object).bucket (Poolable.key object) =
      (pool.bucket (Poolable.key object)).put (Poolable.signer object) object := by
    rw [bucket_add, if_pos rfl]
  have outer : (pool.add object).add object = ⟨(pool.add object).buckets.put (Poolable.key object)
      (((pool.add object).bucket (Poolable.key object)).put (Poolable.signer object) object)⟩ := rfl
  rw [outer, again, Entries.put_put]
  exact congrArg Pool.mk (Entries.put_put _ _ _ _)

end Addition

def OnePerSigner (pool : Pool Object Key Signer) : Prop := ∀ key, (pool.bucket key).keys.Nodup

theorem OnePerSigner.add [DecidableEq Signer] [Poolable Object Key Signer] {pool : Pool Object Key Signer}
    (unique : pool.OnePerSigner) (object : Object) : (pool.add object).OnePerSigner := by
  intro key
  rw [bucket_add]
  split
  · exact Entries.nodup_keys_put (unique key) _ _
  · exact unique key

theorem OnePerSigner.sweep [PoolKey Key] {pool : Pool Object Key Signer} (unique : pool.OnePerSigner)
    (current : Round) (window : UInt64) : (pool.sweep current window).OnePerSigner := by
  intro key
  rw [bucket_sweep]
  split
  · exact List.nodup_nil
  · exact unique key

theorem OnePerSigner.empty : (empty : Pool Object Key Signer).OnePerSigner := fun _ => List.nodup_nil

section Filing

variable [Poolable Object Key Signer]

/-- All entries are of a certain kind, and stand under the keys and signers of their objects. -/
def Files (kind : Object → Prop) (pool : Pool Object Key Signer) : Prop :=
  ∀ key, ∀ entry ∈ pool.bucket key, kind entry.2 ∧ Poolable.key entry.2 = key ∧ Poolable.signer entry.2 = entry.1

variable {kind : Object → Prop} {pool : Pool Object Key Signer}

theorem Files.mono {wider : Object → Prop} (files : pool.Files kind) (included : ∀ object, kind object → wider object) :
    pool.Files wider :=
  fun key entry present => (files key entry present).imp_left (included entry.2)

theorem Files.add [DecidableEq Signer] (files : pool.Files kind) {object : Object} (fits : kind object) :
    (pool.add object).Files kind := by
  intro key entry present
  rw [bucket_add] at present
  split at present
  · rename_i own
    rcases Entries.mem_put present with rfl | old
    · exact ⟨fits, own, rfl⟩
    · exact files key entry old
  · exact files key entry present

theorem Files.sweep [PoolKey Key] (files : pool.Files kind) (current : Round) (window : UInt64) :
    (pool.sweep current window).Files kind := by
  intro key entry present
  rw [bucket_sweep] at present
  split at present
  · exact absurd present List.not_mem_nil
  · exact files key entry present

theorem Files.empty : (empty : Pool Object Key Signer).Files kind :=
  fun _ _ present => absurd present List.not_mem_nil

end Filing

section Holding

variable {pool : Pool Object Key Signer}

theorem mem_keys_of_mem_bucket {key : Key} {entry : Signer × Object} (present : entry ∈ pool.bucket key) :
    key ∈ pool.keys := by
  unfold bucket at present
  cases found : pool.bucket? key with
  | none =>
    rw [found] at present
    exact absurd present List.not_mem_nil
  | some bucket => exact List.mem_map_of_mem (Entries.mem_of_get? found)

variable [Poolable Object Key Signer] {object : Object}

def Contains (pool : Pool Object Key Signer) (object : Object) : Prop :=
  object ∈ (pool.bucket (Poolable.key object)).values

theorem not_contains_empty : ¬(empty : Pool Object Key Signer).Contains object := List.not_mem_nil

variable [DecidableEq Signer]

theorem contains_add {other : Object} (contains : (pool.add object).Contains other) :
    other = object ∨ pool.Contains other := by
  obtain ⟨entry, present, rfl⟩ := List.mem_map.mp contains
  rw [bucket_add] at present
  split at present
  · rcases Entries.mem_put present with rfl | old
    · exact .inl rfl
    · exact .inr (List.mem_map_of_mem old)
  · exact .inr (List.mem_map_of_mem present)

def Holds (pool : Pool Object Key Signer) (object : Object) : Prop :=
  (pool.bucket (Poolable.key object)).get? (Poolable.signer object) = some object

theorem Holds.contains (holds : pool.Holds object) : pool.Contains object :=
  List.mem_map_of_mem (Entries.mem_of_get? holds)

theorem Holds.mem_keys (holds : pool.Holds object) : Poolable.key object ∈ pool.keys :=
  mem_keys_of_mem_bucket (Entries.mem_of_get? holds)

theorem holds_add_self (pool : Pool Object Key Signer) (object : Object) : (pool.add object).Holds object := by
  unfold Holds
  rw [bucket_add, if_pos rfl]
  exact Entries.get?_put_self _ _ _

theorem Holds.add (holds : pool.Holds object) {other : Object}
    (apart : Poolable.signer other = Poolable.signer object → other = object) : (pool.add other).Holds object := by
  unfold Holds
  rw [bucket_add]
  by_cases together : Poolable.key other = Poolable.key object
  · rw [if_pos together]
    by_cases same : Poolable.signer other = Poolable.signer object
    · rw [apart same]
      exact Entries.get?_put_self _ _ _
    · rw [Entries.get?_put_of_ne _ _ same]
      exact holds
  · rw [if_neg together]
    exact holds

theorem Holds.sweep [PoolKey Key] (holds : pool.Holds object) {current : Round} {window : UInt64}
    (fresh : Poolable.key object ∉ pool.stale current window) : (pool.sweep current window).Holds object := by
  unfold Holds
  rw [bucket_sweep, if_neg]
  · exact holds
  · rintro ⟨bound, swept, older⟩
    unfold stale at fresh
    rw [swept] at fresh
    exact fresh (List.mem_filter.mpr ⟨holds.mem_keys, older⟩)

end Holding

end Pool

end MasternodeBft
