import Mathlib.Data.Set.Card
import MasternodeBft.Proofs.Pooling

/-!
Pools as maps of last writes. Whatever is asked of a pool, its buckets hold the object that was last written
for each key and signer, unless that has been cleared or swept away since; no bucket is empty, and of several
sweeps the one of the latest round decides.
-/

namespace MasternodeBft

/-- Keys that all of whose rounds lie below a bound lie below all later bounds too. -/
class LawfulPoolKey (Key : Type) [PoolKey Key] : Prop where
  older_of_le {key : Key} {bound later : Round} (before : bound ≤ later)
    (older : PoolKey.isOlderThan key bound = true) : PoolKey.isOlderThan key later = true

instance : LawfulPoolKey TimeoutKey where
  older_of_le before older := by
    have below := of_decide_eq_true older
    exact decide_eq_true (UInt64.lt_of_lt_of_le below before)

instance : LawfulPoolKey VoteKey where
  older_of_le before older := by
    have below := of_decide_eq_true older
    exact decide_eq_true (UInt64.lt_of_lt_of_le below before)

theorem SyncKey.isOlderThan_iff {key : SyncKey} {bound : Round} :
    PoolKey.isOlderThan key bound = true ↔
      key.quorumRound < bound ∧ (key.timeoutRound = 0 ∨ key.timeoutRound < bound) := decide_eq_true_iff

instance : LawfulPoolKey SyncKey where
  older_of_le before older := by
    obtain ⟨quorum, timeout⟩ := SyncKey.isOlderThan_iff.mp older
    have later := timeout.imp_right fun below => UInt64.lt_of_lt_of_le below before
    exact SyncKey.isOlderThan_iff.mpr ⟨UInt64.lt_of_lt_of_le quorum before, later⟩

namespace Entries

variable {κ α : Type} [DecidableEq κ] {entries : Entries κ α}

theorem get?_of_mem (distinct : entries.keys.Nodup) {key : κ} {value : α} (present : (key, value) ∈ entries) :
    entries.get? key = some value := by
  induction entries with
  | nil => cases present
  | cons entry rest ih =>
    obtain ⟨absent, distinct⟩ := List.nodup_cons.mp distinct
    rw [get?_cons]
    rcases List.mem_cons.mp present with rfl | later
    · exact if_pos rfl
    · have listed : key ∈ keys rest := List.mem_map_of_mem later
      have apart : entry.1 ≠ key := fun same => absent (same ▸ listed)
      rw [if_neg apart]
      exact ih distinct later

theorem mem_iff_get? (distinct : entries.keys.Nodup) {key : κ} {value : α} :
    (key, value) ∈ entries ↔ entries.get? key = some value := ⟨get?_of_mem distinct, mem_of_get?⟩

theorem get?_put (entries : Entries κ α) (key other : κ) (value : α) :
    (entries.put key value).get? other = if key = other then some value else entries.get? other := by
  by_cases same : key = other
  · rw [if_pos same, same]
    exact get?_put_self entries other value
  · rw [if_neg same]
    exact get?_put_of_ne entries value same

theorem get?_erase (entries : Entries κ α) (key other : κ) :
    (entries.erase key).get? other = if key = other then none else entries.get? other := by
  by_cases same : key = other
  · rw [if_pos same, same]
    exact get?_erase_self entries other
  · rw [if_neg same]
    exact get?_erase_of_ne entries same

omit [DecidableEq κ] in
theorem nodup_keys_filter (distinct : entries.keys.Nodup) (keeps : κ × α → Bool) :
    Entries.keys (entries.filter keeps) |>.Nodup :=
  distinct.sublist (List.filter_sublist.map Prod.fst)

end Entries

namespace Pool

variable {Object Key Signer : Type}

/-! Sweeps. -/

section Sweep

variable [PoolKey Key] {pool : Pool Object Key Signer} {current : Round} {window : UInt64} {key : Key}

theorem swept_iff : (∃ bound ∈ sweepBound? current window, PoolKey.isOlderThan key bound = true) ↔
    window ≤ current ∧ PoolKey.isOlderThan key (current - window) = true := by
  unfold sweepBound?
  by_cases reached : window ≤ current <;> simp [reached]

theorem mem_stale_iff : key ∈ pool.stale current window ↔
    key ∈ pool.keys ∧ window ≤ current ∧ PoolKey.isOlderThan key (current - window) = true := by
  unfold stale sweepBound?
  by_cases reached : window ≤ current <;> simp [reached]

theorem mem_keys_sweep_iff : key ∈ (pool.sweep current window).keys ↔
    key ∈ pool.keys ∧ ¬(window ≤ current ∧ PoolKey.isOlderThan key (current - window) = true) := by
  unfold sweep sweepBound? keys Entries.keys
  by_cases reached : window ≤ current <;> simp [reached]

theorem sweep_of_early (early : ¬window ≤ current) : pool.sweep current window = pool := by
  unfold sweep sweepBound?
  rw [if_neg early]

theorem sweep_of_reached (reached : window ≤ current) : pool.sweep current window =
    ⟨pool.buckets.filter fun entry => ¬PoolKey.isOlderThan entry.1 (current - window)⟩ := by
  unfold sweep sweepBound?
  rw [if_pos reached]

theorem sweep_sweep_of_le [LawfulPoolKey Key] (pool : Pool Object Key Signer) {earlier later : Round}
    (before : earlier ≤ later) (window : UInt64) :
    (pool.sweep earlier window).sweep later window = pool.sweep later window ∧
      (pool.sweep later window).sweep earlier window = pool.sweep later window := by
  by_cases early : window ≤ earlier
  · have late : window ≤ later := UInt64.le_trans early before
    have bounds : earlier - window ≤ later - window := by
      rw [UInt64.le_iff_toNat_le] at before ⊢
      rw [UInt64.toNat_sub_of_le _ _ early, UInt64.toNat_sub_of_le _ _ late]
      exact Nat.sub_le_sub_right before _
    have covers {key : Key} (fresh : ¬PoolKey.isOlderThan key (later - window) = true) :
        ¬PoolKey.isOlderThan key (earlier - window) = true := mt (LawfulPoolKey.older_of_le bounds) fresh
    simp only [sweep_of_reached early, sweep_of_reached late, List.filter_filter, ← Bool.decide_and]
    constructor <;> congr 1 <;> refine List.filter_congr fun entry _ => decide_eq_decide.mpr ?_
    · exact ⟨And.left, fun fresh => ⟨fresh, covers fresh⟩⟩
    · exact ⟨And.right, fun fresh => ⟨covers fresh, fresh⟩⟩
  · simp only [sweep_of_early early, and_self]

end Sweep

variable [DecidableEq Key]

theorem mem_buckets_iff {pool : Pool Object Key Signer} (distinct : pool.keys.Nodup) {key : Key}
    {bucket : Bucket Object Signer} : (key, bucket) ∈ pool.buckets ↔ pool.bucket? key = some bucket :=
  Entries.mem_iff_get? distinct

theorem bucket_erase (pool : Pool Object Key Signer) (key other : Key) :
    (pool.erase key).bucket other = if key = other then [] else pool.bucket other := by
  unfold bucket bucket? erase
  rw [Entries.get?_erase]
  split <;> rfl

theorem bucket?_sweep_of_fresh [PoolKey Key] {pool : Pool Object Key Signer} {current : Round} {window : UInt64}
    {key : Key} (fresh : key ∉ pool.stale current window) :
    (pool.sweep current window).bucket? key = pool.bucket? key := by
  rw [bucket?_sweep]
  split
  · rename_i swept
    cases present : pool.bucket? key with
    | none => rfl
    | some bucket =>
      have listed : key ∈ pool.keys := List.mem_map_of_mem (Entries.mem_of_get? present)
      exact absurd (mem_stale_iff.mpr ⟨listed, swept_iff.mp swept⟩) fresh
  · rfl

theorem get?_bucket_add [DecidableEq Signer] [Poolable Object Key Signer] (pool : Pool Object Key Signer)
    (object : Object) (key : Key) (signer : Signer) :
    ((pool.add object).bucket key).get? signer =
      if Poolable.key object = key ∧ Poolable.signer object = signer then some object
      else (pool.bucket key).get? signer := by
  rw [bucket_add]
  by_cases own : Poolable.key object = key
  · simp only [own, if_true, true_and, Entries.get?_put]
  · simp only [own, if_false, false_and]

theorem get?_bucket_sweep [DecidableEq Signer] [PoolKey Key] (pool : Pool Object Key Signer) (current : Round)
    (window : UInt64) (key : Key) (signer : Signer) :
    ((pool.sweep current window).bucket key).get? signer =
      if window ≤ current ∧ PoolKey.isOlderThan key (current - window) then none
      else (pool.bucket key).get? signer := by
  rw [bucket_sweep]
  simp only [swept_iff]
  split <;> rfl

/-- A pool is tidy if each key comes once and has objects, and each object comes once, under its own key and
signer. -/
structure Tidy [Poolable Object Key Signer] (pool : Pool Object Key Signer) : Prop where
  distinct : pool.keys.Nodup
  occupied : ∀ entry ∈ pool.buckets, entry.2 ≠ []
  unique : pool.OnePerSigner
  filed : pool.Files fun _ => True

section Tidiness

variable [Poolable Object Key Signer] {pool : Pool Object Key Signer}

theorem Tidy.empty : (empty : Pool Object Key Signer).Tidy :=
  ⟨List.nodup_nil, fun _ present => absurd present List.not_mem_nil, .empty, .empty⟩

theorem Tidy.add [DecidableEq Signer] (tidy : pool.Tidy) (object : Object) : (pool.add object).Tidy where
  distinct := Entries.nodup_keys_put tidy.distinct _ _
  occupied entry present := by
    rcases Entries.mem_put present with rfl | old
    · exact List.ne_nil_of_mem (Entries.mem_put_self _ _ _)
    · exact tidy.occupied entry old
  unique := tidy.unique.add object
  filed := tidy.filed.add trivial

theorem Tidy.erase (tidy : pool.Tidy) (key : Key) : (pool.erase key).Tidy where
  distinct := Entries.nodup_keys_filter tidy.distinct _
  occupied entry present := tidy.occupied entry (List.mem_filter.mp present).1
  unique other := by
    rw [bucket_erase]
    split
    · exact List.nodup_nil
    · exact tidy.unique other
  filed other entry present := by
    rw [bucket_erase] at present
    split at present
    · exact absurd present List.not_mem_nil
    · exact tidy.filed other entry present

theorem Tidy.sweep [PoolKey Key] (tidy : pool.Tidy) (current : Round) (window : UInt64) :
    (pool.sweep current window).Tidy where
  distinct := by
    by_cases reached : window ≤ current
    · rw [sweep_of_reached reached]
      exact Entries.nodup_keys_filter tidy.distinct _
    · rw [sweep_of_early reached]
      exact tidy.distinct
  occupied entry present := by
    by_cases reached : window ≤ current
    · rw [sweep_of_reached reached] at present
      exact tidy.occupied entry (List.mem_filter.mp present).1
    · rw [sweep_of_early reached] at present
      exact tidy.occupied entry present
  unique := tidy.unique.sweep current window
  filed := tidy.filed.sweep current window

theorem Tidy.mem_keys_iff (tidy : pool.Tidy) {key : Key} : key ∈ pool.keys ↔ pool.bucket key ≠ [] := by
  constructor
  · intro listed
    obtain ⟨⟨_, bucket⟩, present, rfl⟩ := List.mem_map.mp listed
    rw [bucket_of_bucket? ((mem_buckets_iff tidy.distinct).mp present)]
    exact tidy.occupied _ present
  · intro occupied
    obtain ⟨entry, present⟩ := List.exists_mem_of_ne_nil _ occupied
    exact mem_keys_of_mem_bucket present

end Tidiness

/-! What is asked of a pool, and what it comes to. -/

inductive Call (Object Key : Type) where
  | add (object : Object)
  | erase (key : Key)
  | clear
  | sweep (current : Round) (window : UInt64)

variable [DecidableEq Signer] [PoolKey Key] [Poolable Object Key Signer]

def Call.next (pool : Pool Object Key Signer) : Call Object Key → Pool Object Key Signer
  | add object => pool.add object
  | erase key => pool.erase key
  | clear => .empty
  | sweep current window => pool.sweep current window

def ofCalls (calls : List (Call Object Key)) : Pool Object Key Signer := calls.foldl Call.next .empty

theorem tidy_ofCalls (calls : List (Call Object Key)) : (ofCalls calls : Pool Object Key Signer).Tidy := by
  suffices kept : ∀ pool : Pool Object Key Signer, pool.Tidy → (calls.foldl Call.next pool).Tidy from
    kept .empty .empty
  induction calls with
  | nil => exact fun _ tidy => tidy
  | cons call rest ih =>
    intro pool tidy
    refine ih (call.next pool) ?_
    cases call with
    | add object => exact tidy.add object
    | erase key => exact tidy.erase key
    | clear => exact .empty
    | sweep current window => exact tidy.sweep current window

end Pool

abbrev LastWrites (Object Key Signer : Type) := Key → Signer → Option Object

namespace LastWrites

variable {Object Key Signer : Type} [DecidableEq Key] [DecidableEq Signer] [PoolKey Key] [Poolable Object Key Signer]

/-- An addition writes an object for its key and signer, and all else deletes. -/
def next (writes : LastWrites Object Key Signer) : Pool.Call Object Key → LastWrites Object Key Signer
  | .add object => fun key signer =>
    if Poolable.key object = key ∧ Poolable.signer object = signer then some object else writes key signer
  | .erase erased => fun key signer => if erased = key then none else writes key signer
  | .clear => fun _ _ => none
  | .sweep current window => fun key signer =>
    if window ≤ current ∧ PoolKey.isOlderThan key (current - window) then none else writes key signer

def ofCalls (calls : List (Pool.Call Object Key)) : LastWrites Object Key Signer := calls.foldl next fun _ _ => none

end LastWrites

namespace Pool

variable {Object Key Signer : Type} [DecidableEq Key] [DecidableEq Signer] [Poolable Object Key Signer]
  {pool : Pool Object Key Signer} {writes : LastWrites Object Key Signer}

def Reflects (pool : Pool Object Key Signer) (writes : LastWrites Object Key Signer) : Prop :=
  ∀ key signer, (pool.bucket key).get? signer = writes key signer

theorem Reflects.mem_bucket_iff (reflects : pool.Reflects writes) (tidy : pool.Tidy) {key : Key} {signer : Signer}
    {object : Object} : (signer, object) ∈ pool.bucket key ↔ writes key signer = some object := by
  rw [Entries.mem_iff_get? (tidy.unique key), reflects]

theorem Reflects.encard_signers (reflects : pool.Reflects writes) (tidy : pool.Tidy) (key : Key) :
    {signer | writes key signer ≠ none}.encard = (pool.bucket key).length := by
  have same : {signer | writes key signer ≠ none} = ((pool.bucket key).keys.toFinset : Set Signer) := by
    ext signer
    rw [Finset.mem_coe, List.mem_toFinset, Set.mem_ofPred_eq, Option.ne_none_iff_exists']
    simp only [← reflects.mem_bucket_iff tidy]
    constructor
    · rintro ⟨object, present⟩
      exact List.mem_map_of_mem present
    · intro listed
      obtain ⟨⟨_, object⟩, present, rfl⟩ := List.mem_map.mp listed
      exact ⟨object, present⟩
  rw [same, Set.encard_coe_eq_coe_finsetCard, List.toFinset_card_of_nodup (tidy.unique key)]
  exact congrArg Nat.cast (List.length_map _)

theorem Reflects.mem_keys_iff (reflects : pool.Reflects writes) (tidy : pool.Tidy) {key : Key} :
    key ∈ pool.keys ↔ ∃ signer, writes key signer ≠ none := by
  simp only [Option.ne_none_iff_exists', ← reflects.mem_bucket_iff tidy]
  rw [tidy.mem_keys_iff]
  constructor
  · intro occupied
    obtain ⟨entry, present⟩ := List.exists_mem_of_ne_nil _ occupied
    exact ⟨entry.1, entry.2, present⟩
  · rintro ⟨signer, object, present⟩
    exact List.ne_nil_of_mem present

variable [PoolKey Key]

theorem Reflects.next (reflects : pool.Reflects writes) (call : Call Object Key) :
    (call.next pool).Reflects (writes.next call) := by
  intro key signer
  have found := reflects key signer
  cases call with
  | add object =>
    change ((pool.add object).bucket key).get? signer = _
    rw [get?_bucket_add, found]
    rfl
  | erase erased =>
    change ((pool.erase erased).bucket key).get? signer = _
    rw [bucket_erase]
    by_cases same : erased = key
    · simp only [LastWrites.next, same, if_true, Entries.get?_nil]
    · simp only [LastWrites.next, same, if_false, found]
  | clear => rfl
  | sweep current window =>
    change ((pool.sweep current window).bucket key).get? signer = _
    rw [get?_bucket_sweep, found]
    rfl

theorem reflects_ofCalls (calls : List (Call Object Key)) :
    (ofCalls calls : Pool Object Key Signer).Reflects (.ofCalls calls) := by
  suffices kept : ∀ (pool : Pool Object Key Signer) writes, pool.Reflects writes →
      (calls.foldl Call.next pool).Reflects (calls.foldl LastWrites.next writes) from
    kept .empty _ fun _ _ => rfl
  induction calls with
  | nil => exact fun _ _ reflects => reflects
  | cons call rest ih => exact fun pool writes reflects => ih _ _ (reflects.next call)

/-- A pool is the map of the objects that were last written, and what it says and does is what this map does. -/
structure Mirrors (pool : Pool Object Key Signer) (writes : LastWrites Object Key Signer) : Prop where
  holds : ∀ key signer object, (signer, object) ∈ pool.bucket key ↔ writes key signer = some object
  once : ∀ key, (pool.bucket key).keys.Nodup
  keys : pool.keys.Nodup ∧ ∀ key, key ∈ pool.keys ↔ ∃ signer, writes key signer ≠ none
  occupied : ∀ key, pool.bucket? key ≠ some []
  filed : ∀ key, ∀ entry ∈ pool.bucket key, Poolable.key entry.2 = key ∧ Poolable.signer entry.2 = entry.1
  /-- An addition tells the bucket of its object, which is that of the map afterwards, and the number of signers. -/
  added : ∀ object,
    let key := Poolable.key object
    let ((count, bucket), added) := pool.collect object
    added = pool.add object ∧ bucket = added.bucket key ∧
      (∀ signer other, (signer, other) ∈ bucket ↔ writes.next (.add object) key signer = some other) ∧
      {signer | writes.next (.add object) key signer ≠ none}.encard = count
  /-- A sweep tells the keys that it takes away, once each, and leaves the buckets of the others. -/
  swept : ∀ current window,
    (pool.stale current window).Nodup ∧
      (∀ key, key ∈ pool.stale current window ↔ key ∈ pool.keys ∧ key ∉ (pool.sweep current window).keys) ∧
      ∀ key, key ∉ pool.stale current window → (pool.sweep current window).bucket? key = pool.bucket? key
  /-- Two sweeps come to one, that of the later round. -/
  sweptTwice : ∀ first second window,
    (pool.sweep first window).sweep second window = pool.sweep (max first second) window ∧
      (pool.sweep second window).sweep first window = pool.sweep (max first second) window

theorem Reflects.mirrors [LawfulPoolKey Key] (reflects : pool.Reflects writes) (tidy : pool.Tidy) :
    pool.Mirrors writes where
  holds _ _ _ := reflects.mem_bucket_iff tidy
  once := tidy.unique
  keys := ⟨tidy.distinct, fun _ => reflects.mem_keys_iff tidy⟩
  occupied key empty := tidy.occupied _ ((mem_buckets_iff tidy.distinct).mpr empty) rfl
  filed key entry present := (tidy.filed key entry present).2
  added object := by
    have added : (pool.add object).Reflects _ := reflects.next (.add object)
    exact ⟨rfl, rfl, fun _ _ => added.mem_bucket_iff (tidy.add object), added.encard_signers (tidy.add object) _⟩
  swept current window := by
    refine ⟨?_, fun key => ?_, fun key => bucket?_sweep_of_fresh⟩
    · unfold stale
      split
      · exact List.nodup_nil
      · exact tidy.distinct.filter _
    · rw [mem_stale_iff, mem_keys_sweep_iff, not_and, not_not]
      exact ⟨fun ⟨listed, swept⟩ => ⟨listed, fun _ => swept⟩, fun ⟨listed, gone⟩ => ⟨listed, gone listed⟩⟩
  sweptTwice first second window := by
    rw [UInt64.max_def]
    split
    · rename_i before
      exact pool.sweep_sweep_of_le before window
    · rename_i after
      exact (pool.sweep_sweep_of_le (UInt64.le_of_lt (UInt64.not_le.mp after)) window).symm

end Pool

theorem SyncInfo.fresh_iff {bundle : SyncInfo} {bound : Round} : ¬PoolKey.isOlderThan bundle.key bound = true ↔
    bound ≤ bundle.quorumCert.round ∨
      ∃ cert, bundle.timeoutCert = some cert ∧ cert.round ≠ 0 ∧ bound ≤ cert.round := by
  rw [SyncKey.isOlderThan_iff, not_and_or, not_or, UInt64.not_lt, UInt64.not_lt]
  refine or_congr_right ?_
  change ¬bundle.timeoutRound = 0 ∧ bound ≤ bundle.timeoutRound ↔ _
  unfold SyncInfo.timeoutRound
  cases bundle.timeoutCert with
  | none => exact iff_of_false (fun fresh => fresh.1 rfl) fun ⟨_, absent, _⟩ => nomatch absent
  | some cert => simp

theorem SyncInfo.holds_sweep_iff {pool : SyncPool} {bundle : SyncInfo} {current : Round} {window : UInt64} :
    (pool.sweep current window).Holds bundle ↔ pool.Holds bundle ∧
      (current < window ∨ current - window ≤ bundle.quorumCert.round ∨
        ∃ cert, bundle.timeoutCert = some cert ∧ cert.round ≠ 0 ∧ current - window ≤ cert.round) := by
  rw [← SyncInfo.fresh_iff, ← UInt64.not_le, ← not_and_or]
  unfold Pool.Holds
  rw [Pool.bucket_sweep]
  split
  · rename_i swept
    refine iff_of_false (fun absent => ?_) fun kept => kept.2 (Pool.swept_iff.mp swept)
    cases absent
  · rename_i kept
    exact (and_iff_left (mt Pool.swept_iff.mpr kept)).symm

/-- Whatever is asked of pools of votes, timeouts and bundles, they mirror what was last written. Of bundles, a
sweep leaves those that are no older than its bound. -/
theorem pools_mirror_last_writes (votes : List (Pool.Call Vote VoteKey))
    (timeouts : List (Pool.Call Timeout TimeoutKey)) (bundles : List (Pool.Call SyncInfo SyncKey)) :
    (Pool.ofCalls votes : VotePool).Mirrors (.ofCalls votes) ∧
      (Pool.ofCalls timeouts : TimeoutPool).Mirrors (.ofCalls timeouts) ∧
      (Pool.ofCalls bundles : SyncPool).Mirrors (.ofCalls bundles) ∧
      ∀ bundle current window,
        ((Pool.ofCalls bundles : SyncPool).sweep current window).Holds bundle ↔
          (Pool.ofCalls bundles : SyncPool).Holds bundle ∧
            (current < window ∨ current - window ≤ bundle.quorumCert.round ∨
              ∃ cert, bundle.timeoutCert = some cert ∧ cert.round ≠ 0 ∧ current - window ≤ cert.round) :=
  ⟨(Pool.reflects_ofCalls votes).mirrors (Pool.tidy_ofCalls votes),
    (Pool.reflects_ofCalls timeouts).mirrors (Pool.tidy_ofCalls timeouts),
    (Pool.reflects_ofCalls bundles).mirrors (Pool.tidy_ofCalls bundles),
    fun _ _ _ => SyncInfo.holds_sweep_iff⟩

end MasternodeBft
