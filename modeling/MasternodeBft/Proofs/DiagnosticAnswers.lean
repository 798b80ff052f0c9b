import MasternodeBft.Diagnostics.Method
import MasternodeBft.Proofs.Assembly
import MasternodeBft.Proofs.KeyTexts
import MasternodeBft.Proofs.LastWrites
import MasternodeBft.Proofs.Retention
import MasternodeBft.Proofs.WireRoundTrip

/-!
What a node shows of itself. Keys and signers have texts of their own, so that the view of a pool shows each key
once, and under it each signer once with its object. Whatever a node is asked, its answer is read as it has been
given, but for the notes about signers, which do not travel.
-/

namespace MasternodeBft

open Json (Readable Keys)

namespace Entries

variable {κ α : Type}

def labelled (text : κ → String) (entries : Entries κ α) : Entries String α :=
  entries.map fun entry => (text entry.1, entry.2)

def mapValues {β : Type} (change : α → β) (entries : Entries κ α) : Entries κ β :=
  entries.map fun entry => (entry.1, change entry.2)

@[simp] theorem keys_labelled (text : κ → String) (entries : Entries κ α) :
    (entries.labelled text).keys = entries.keys.map text := by
  simp [keys, labelled]

@[simp] theorem keys_mapValues {β : Type} (change : α → β) (entries : Entries κ α) :
    (entries.mapValues change).keys = entries.keys := by
  simp [keys, mapValues]

@[simp] theorem mapValues_id (entries : Entries κ α) : entries.mapValues id = entries := List.map_id entries

variable [DecidableEq κ]

theorem get?_labelled {text : κ → String} (apart : Function.Injective text) (entries : Entries κ α) (key : κ) :
    (entries.labelled text).get? (text key) = entries.get? key := by
  induction entries with
  | nil => rfl
  | cons entry rest ih =>
    change get? ((text entry.1, entry.2) :: labelled text rest) (text key) = _
    rw [get?_cons, get?_cons, ih]
    simp only [apart.eq_iff]

theorem get?_mapValues {β : Type} (change : α → β) (entries : Entries κ α) (key : κ) :
    (entries.mapValues change).get? key = (entries.get? key).map change := by
  induction entries with
  | nil => rfl
  | cons entry rest ih =>
    change get? ((entry.1, change entry.2) :: mapValues change rest) key = _
    rw [get?_cons, get?_cons, ih]
    split <;> rfl

theorem put_of_fresh {entries : Entries κ α} {key : κ} (fresh : key ∉ entries.keys) (value : α) :
    entries.put key value = entries ++ [(key, value)] := by
  induction entries with
  | nil => rfl
  | cons entry rest ih =>
    have other : entry.1 ≠ key := fun same => fresh (same ▸ List.mem_cons_self)
    rw [put, if_neg other, ih fun listed => fresh (List.mem_cons_of_mem _ listed)]
    rfl

end Entries

/-- Each key of a pool comes once, and each signer once in its bucket. -/
structure Pool.Keyed {Object Key Signer : Type} [DecidableEq Key] (pool : Pool Object Key Signer) : Prop where
  keys : pool.keys.Nodup
  signers : pool.OnePerSigner

theorem Pool.Tidy.keyed {Object Key Signer : Type} [DecidableEq Key] [Poolable Object Key Signer]
    {pool : Pool Object Key Signer} (tidy : pool.Tidy) : pool.Keyed := ⟨tidy.distinct, tidy.unique⟩

namespace PoolView

open Entries

theorem byText_of_distinct {α : Type} {entries : Entries String α} (distinct : entries.keys.Nodup) :
    byText entries = entries := by
  suffices kept : ∀ view : Entries String α, (Entries.keys (view ++ entries)).Nodup →
      entries.foldl (fun view entry => view.put entry.1 entry.2) view = view ++ entries from kept [] distinct
  clear distinct
  induction entries with
  | nil => simp
  | cons entry rest ih =>
    intro view apart
    have fresh : entry.1 ∉ view.keys := by
      intro listed
      unfold Entries.keys at apart
      rw [List.map_append] at apart
      exact (List.nodup_append.mp apart).2.2 _ listed _ List.mem_cons_self rfl
    have onward : view ++ entry :: rest = (view ++ [entry]) ++ rest := by rw [List.append_assoc]; rfl
    rw [onward] at apart ⊢
    rw [List.foldl_cons, put_of_fresh fresh]
    exact ih _ apart

/-- A view shows each key of a pool once, and under it each signer once, with the signer's object. -/
structure Shows {Object Key Signer : Type} [DecidableEq Key] [DecidableEq Signer] [PoolKey Key]
    (view : PoolView Object) (signerText : Signer → String) (pool : Pool Object Key Signer) : Prop where
  keys : view.keys = pool.keys.map PoolKey.text
  once : view.keys.Nodup
  bucket : ∀ key bucket, pool.bucket? key = some bucket →
    ∃ shown, view.get? (PoolKey.text key) = some shown ∧ shown.keys = bucket.keys.map signerText ∧
      shown.keys.Nodup ∧ ∀ signer, shown.get? (signerText signer) = bucket.get? signer

structure Writable {Object : Type} (view : PoolView Object) : Prop where
  keys : Keys view.keys
  signers : ∀ entry ∈ view, Keys (Entries.keys entry.2)

section OfPool

variable {Object Key Signer : Type} [DecidableEq Key] [PoolKey Key] {signerText : Signer → String}
  {pool : Pool Object Key Signer}

omit [PoolKey Key] in
theorem bucket_keys_nodup (keyed : pool.Keyed) {entry : Key × Bucket Object Signer} (present : entry ∈ pool.buckets) :
    (Entries.keys entry.2).Nodup := by
  have own := keyed.signers entry.1
  rwa [Pool.bucket_of_bucket? ((Pool.mem_buckets_iff keyed.keys).mp present)] at own

theorem ofPool_eq (keyed : pool.Keyed) (keyLabels : Labels (PoolKey.text : Key → String))
    (signerLabels : Labels signerText) :
    ofPool signerText pool = (pool.buckets.mapValues (labelled signerText)).labelled PoolKey.text := by
  have buckets : (pool.buckets.map fun entry =>
      (PoolKey.text entry.1, byText (labelled signerText entry.2))) =
      (pool.buckets.mapValues (labelled signerText)).labelled PoolKey.text := by
    unfold mapValues labelled
    rw [List.map_map]
    apply List.map_congr_left
    intro entry present
    have distinct : (labelled signerText entry.2).keys.Nodup := by
      rw [keys_labelled]
      exact (bucket_keys_nodup keyed present).map signerLabels.injective
    exact congrArg (Prod.mk _) (byText_of_distinct distinct)
  have distinct : ((pool.buckets.mapValues (labelled signerText)).labelled PoolKey.text).keys.Nodup := by
    rw [keys_labelled, keys_mapValues]
    exact keyed.keys.map keyLabels.injective
  change byText (pool.buckets.map fun entry => (PoolKey.text entry.1, byText (labelled signerText entry.2))) = _
  rw [buckets, byText_of_distinct distinct]

theorem ofPool_shows [DecidableEq Signer] (keyed : pool.Keyed) (keyLabels : Labels (PoolKey.text : Key → String))
    (signerLabels : Labels signerText) : (ofPool signerText pool).Shows signerText pool := by
  have keys : (ofPool signerText pool).keys = pool.keys.map PoolKey.text := by
    rw [ofPool_eq keyed keyLabels signerLabels, keys_labelled, keys_mapValues]
    rfl
  refine ⟨keys, ?_, fun key bucket found => ⟨bucket.labelled signerText, ?_, keys_labelled .., ?_, ?_⟩⟩
  · rw [keys]
    exact keyed.keys.map keyLabels.injective
  · have found : pool.buckets.get? key = some bucket := found
    rw [ofPool_eq keyed keyLabels signerLabels, get?_labelled keyLabels.injective, get?_mapValues, found]
    rfl
  · rw [keys_labelled]
    exact (bucket_keys_nodup keyed ((Pool.mem_buckets_iff keyed.keys).mpr found)).map signerLabels.injective
  · exact get?_labelled signerLabels.injective bucket

theorem ofPool_writable (keyed : pool.Keyed) (keyLabels : Labels (PoolKey.text : Key → String))
    (signerLabels : Labels signerText) : (ofPool signerText pool).Writable := by
  rw [ofPool_eq keyed keyLabels signerLabels]
  refine ⟨?_, fun entry listed => ?_⟩
  · rw [keys_labelled, keys_mapValues]
    exact keyLabels.keys keyed.keys
  · obtain ⟨shown, present, rfl⟩ := List.mem_map.mp listed
    obtain ⟨source, pooled, rfl⟩ := List.mem_map.mp present
    change Keys (labelled signerText source.2).keys
    rw [keys_labelled]
    exact signerLabels.keys (bucket_keys_nodup keyed pooled)

end OfPool

section Reading

theorem entries?_record {α β : Type} {write : α → Json} {read : Json → Option β} {change : α → β}
    {entries : Entries String α} (keys : Keys entries.keys)
    (each : ∀ entry ∈ entries, read (write entry.2) = some (change entry.2)) :
    entries? read (.record (entries.mapValues write)) = some (entries.mapValues change) := by
  have fields : (Json.record (entries.mapValues write)).toFields? = some (entries.mapValues write) := by
    apply Json.toFields?_record
    change ∀ name ∈ (entries.mapValues write).keys, _
    rw [keys_mapValues]
    exact keys.legible
  have distinct : (entries.mapValues change).keys.Nodup := by
    rw [keys_mapValues]
    exact keys.distinct
  have read_each : (entries.mapValues write).mapM (fun field => (read field.2).map (field.1, ·)) =
      some (entries.mapValues change) := by
    refine Json.mapM_map fun entry listed => ?_
    rw [each entry listed, Option.map_some]
  unfold entries?
  rw [fields, Option.bind_eq_bind, Option.bind_some, read_each, Option.bind_eq_bind, Option.bind_some,
    byText_of_distinct distinct]
  rfl

theorem readable_entries {α : Type} {write : α → Json} {entries : Entries String α} (keys : Keys entries.keys)
    (each : ∀ entry ∈ entries, Readable (write entry.2)) : Readable (.record (entries.mapValues write)) := by
  apply Json.readable_record keys (keys_mapValues write entries)
  intro field listed
  obtain ⟨entry, present, rfl⟩ := List.mem_map.mp listed
  exact each entry present

variable {Object : Type} {view : PoolView Object} {write : Object → Json}

def mapObjects (change : Object → Object) (view : PoolView Object) : PoolView Object :=
  view.mapValues (Entries.mapValues change)

@[simp] theorem mapObjects_id (view : PoolView Object) : view.mapObjects id = view := by
  have buckets : Entries.mapValues (κ := String) (id : Object → Object) = id := funext mapValues_id
  unfold mapObjects
  rw [buckets, mapValues_id]

theorem toJson_eq (write : Object → Json) (view : PoolView Object) :
    view.toJson write = .record (view.mapValues fun bucket => .record (bucket.mapValues write)) := rfl

theorem readable (writable : view.Writable) (each : ∀ object, Readable (write object)) :
    Readable (view.toJson write) := by
  rw [toJson_eq]
  apply readable_entries writable.keys
  intro entry listed
  exact readable_entries (writable.signers entry listed) fun entry _ => each entry.2

theorem ofJson?_toJson {read : Json → Option Object} {change : Object → Object} (writable : view.Writable)
    (each : ∀ object, read (write object) = some (change object)) :
    ofJson? read (view.toJson write) = some (view.mapObjects change) := by
  rw [toJson_eq]
  apply entries?_record writable.keys
  intro entry listed
  exact entries?_record (writable.signers entry listed) fun entry _ => each entry.2

end Reading

end PoolView

namespace RoundState

theorem keys : Keys ["current_round", "highest_quorum_cert", "highest_timeout_cert"] := by decide

theorem readable (state : RoundState) : Readable state.toJson := by
  apply Json.readable_record keys rfl
  simp only [List.forall_mem_cons]
  exact ⟨Json.readable_word _, state.highestQuorumCert.readable, TimeoutCert.readable_optional _, nofun⟩

theorem ofJson?_toJson (state : RoundState) : ofJson? state.toJson = some state := by
  unfold ofJson? toJson
  rw [Json.toRecord?_record keys rfl]
  simp [Json.toWord?_word, QuorumCert.ofJson?_toJson, Json.missing?, TimeoutCert.toOption?_optional]

end RoundState

structure EngineState.Keyed (state : EngineState) : Prop where
  votes : state.votes.Keyed
  timeouts : state.timeouts.Keyed
  bundles : state.bundles.Keyed

theorem EngineState.after_keyed {cert : QuorumCert} {start : EngineState} (started : start? cert = some start)
    (run : List Step) : (start.after run).Keyed := by
  exact ⟨(isPool_votes.tidy started run).keyed, (isPool_timeouts.tidy started run).keyed,
    (isPool_bundles.tidy started run).keyed⟩

namespace Diagnostics

namespace Answer

/-- What arrives of an answer: of votes and timeouts, all but the notes about their signers. -/
def arrived : Answer → Answer
  | timeouts view => timeouts (view.mapObjects fun timeout => { timeout with signer := Address.zero })
  | votes view => votes (view.mapObjects fun vote => { vote with signer := Address.zero })
  | answer => answer

def Writable : Answer → Prop
  | timeouts view => view.Writable
  | votes view => view.Writable
  | bundles view => view.Writable
  | _ => True

def method : Answer → Method
  | roundState _ => .roundState
  | syncInfo _ => .syncInfo
  | timeouts _ => .receivedTimeouts
  | votes _ => .receivedVotes
  | bundles _ => .receivedSyncInfo

variable {answer : Answer}

theorem readable (writable : answer.Writable) : Readable answer.toJson := by
  cases answer with
  | roundState state => exact state.readable
  | syncInfo bundle => exact bundle.readable
  | timeouts view => exact PoolView.readable writable Timeout.readable
  | votes view => exact PoolView.readable writable Vote.readable
  | bundles view => exact PoolView.readable writable SyncInfo.readable

theorem ofJson?_toJson (writable : answer.Writable) : ofJson? answer.toJson answer.method = some answer.arrived := by
  cases answer with
  | roundState state => exact congrArg (Option.map _) state.ofJson?_toJson
  | syncInfo bundle => exact congrArg (Option.map _) bundle.ofJson?_toJson
  | timeouts view => exact congrArg (Option.map _) (PoolView.ofJson?_toJson writable Timeout.ofJson?_toJson)
  | votes view => exact congrArg (Option.map _) (PoolView.ofJson?_toJson writable Vote.ofJson?_toJson)
  | bundles view =>
    have read : PoolView.ofJson? SyncInfo.ofJson? (view.toJson SyncInfo.toJson) = some (view.mapObjects id) :=
      PoolView.ofJson?_toJson writable SyncInfo.ofJson?_toJson
    rw [PoolView.mapObjects_id] at read
    exact congrArg (Option.map _) read

end Answer

variable {state : EngineState}

theorem answer_method (state : EngineState) (method : Method) : (answer state method).method = method := by
  cases method <;> rfl

theorem answer_writable (keyed : state.Keyed) (method : Method) : (answer state method).Writable := by
  cases method with
  | roundState => trivial
  | syncInfo => trivial
  | receivedTimeouts => exact PoolView.ofPool_writable keyed.timeouts TimeoutKey.labels Address.checksummed_labels
  | receivedVotes => exact PoolView.ofPool_writable keyed.votes VoteKey.labels Address.checksummed_labels
  | receivedSyncInfo => exact PoolView.ofPool_writable keyed.bundles SyncKey.labels Digest.labels

theorem Method.ofName?_name (method : Method) : ofName? method.name = some method := by
  cases method <;> rfl

theorem serve_name (state : EngineState) (method : Method) :
    serve state method.name = .ok (answer state method).toJson := by
  unfold serve
  rw [Method.ofName?_name]

/-- What a node answers gets to the one who has asked, as it is written. -/
def Transport.Carries (transport : Transport) (state : EngineState) : Prop :=
  ∀ name value, serve state name = .ok value → transport name = .ok value.render

theorem Transport.ofState_carries (state : EngineState) : (ofState state).Carries state := by
  intro name value served
  unfold ofState
  rw [served]

theorem ask_of_carries (keyed : state.Keyed) {transport : Transport} (carries : transport.Carries state)
    (method : Method) : ask transport method = .ok (answer state method).arrived := by
  have writable := answer_writable keyed method
  have read := Answer.ofJson?_toJson writable
  rw [answer_method] at read
  unfold ask
  rw [carries _ _ (serve_name state method)]
  dsimp only
  rw [Json.parse?_render (Answer.readable writable), Option.bind_some, read]

/-- The texts of keys and signers are of one key or signer each, so that the view of a pool shows each of its keys
once, and under it each signer once. And one who asks a node by a transport that carries its answers gets the
round state, the bundle or the view that the node has answered with, where only the notes about the signers of
votes and timeouts are cleared. -/
theorem diagnostics_lose_nothing :
    (Function.Injective TimeoutKey.text ∧ Function.Injective VoteKey.text ∧ Function.Injective SyncKey.text ∧
        Function.Injective Address.checksummed ∧
        Function.Injective fun digest : Digest => Text.Hex.encode digest.bytes) ∧
      (∀ pool : TimeoutPool, pool.Keyed → (TimeoutPool.view pool).Shows Address.checksummed pool) ∧
      (∀ pool : VotePool, pool.Keyed → (VotePool.view pool).Shows Address.checksummed pool) ∧
      (∀ pool : SyncPool, pool.Keyed →
        (SyncPool.view pool).Shows (fun digest => Text.Hex.encode digest.bytes) pool) ∧
      ∀ state : EngineState, state.Keyed → ∀ transport : Transport, transport.Carries state →
        ∀ method, ask transport method = .ok (answer state method).arrived := by
  refine ⟨⟨TimeoutKey.labels.injective, VoteKey.labels.injective, SyncKey.labels.injective,
    Address.checksummed_labels.injective, Digest.labels.injective⟩, fun pool keyed => ?_, fun pool keyed => ?_,
    fun pool keyed => ?_, fun state keyed transport carries method => ask_of_carries keyed carries method⟩
  · exact PoolView.ofPool_shows keyed TimeoutKey.labels Address.checksummed_labels
  · exact PoolView.ofPool_shows keyed VoteKey.labels Address.checksummed_labels
  · exact PoolView.ofPool_shows keyed SyncKey.labels Digest.labels

/-- A vote in a pool, asked for in the same process. -/
theorem pooled_vote_shown_without_signer :
    let state := Sample.start.after Sample.earlyRun
    let vote := Sample.vote 1 1
    state.Keyed ∧ (Transport.ofState state).Carries state ∧
      (VotePool.view state.votes).Shows Address.checksummed state.votes ∧
      ask (Transport.ofState state) .receivedVotes =
        .ok (.votes [(vote.key.text, [(vote.signer.checksummed, { vote with signer := Address.zero })])]) := by
  have keyed := EngineState.after_keyed Sample.started Sample.earlyRun
  have carries := Transport.ofState_carries (Sample.start.after Sample.earlyRun)
  obtain ⟨-, -, shows, -, asked⟩ := diagnostics_lose_nothing
  refine ⟨keyed, carries, shows _ keyed.votes, ?_⟩
  rw [asked _ keyed _ carries, Sample.after_earlyRun]
  rfl

end Diagnostics

end MasternodeBft
