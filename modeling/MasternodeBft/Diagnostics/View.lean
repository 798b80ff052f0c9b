import MasternodeBft.Engine.State
import MasternodeBft.Json.Record

/-! What a node shows of itself: its round, its certificates, and its pools by the texts of keys and
signers. -/

namespace MasternodeBft

namespace RoundState

def toJson (state : RoundState) : Json :=
  .record [("current_round", .word state.currentRound),
    ("highest_quorum_cert", state.highestQuorumCert.toJson),
    ("highest_timeout_cert", .optional TimeoutCert.toJson state.highestTimeoutCert)]

def ofJson? (value : Json) : Option RoundState := do
  match ← value.toRecord? ["current_round", "highest_quorum_cert", "highest_timeout_cert"] with
  | [some currentRound, some quorumCert, timeoutCert] =>
    pure ⟨← currentRound.toWord?, ← QuorumCert.ofJson? quorumCert,
      ← Json.missing? (Json.toOption? TimeoutCert.ofJson?) timeoutCert⟩
  | _ => none

end RoundState

/-- Objects by the texts of their keys, and then of their signers. -/
abbrev PoolView (Object : Type) := Entries String (Entries String Object)

namespace PoolView

variable {Object : Type}

def byText {α : Type} (entries : List (String × α)) : Entries String α :=
  entries.foldl (fun view entry => view.put entry.1 entry.2) []

def ofPool {Key Signer : Type} [PoolKey Key] (signerText : Signer → String)
    (pool : Pool Object Key Signer) : PoolView Object :=
  byText (pool.buckets.map fun (key, bucket) =>
    (PoolKey.text key, byText (bucket.map fun (signer, object) => (signerText signer, object))))

def toJson (encode : Object → Json) (view : PoolView Object) : Json :=
  .record (view.map fun (key, bucket) =>
    (key, .record (bucket.map fun (signer, object) => (signer, encode object))))

def entries? {α : Type} (decode : Json → Option α) (value : Json) : Option (Entries String α) := do
  let fields ← value.toFields?
  let entries ← fields.mapM fun (key, value) => (decode value).map fun value => (key, value)
  pure (byText entries)

def ofJson? (decode : Json → Option Object) (value : Json) : Option (PoolView Object) :=
  entries? (entries? decode) value

end PoolView

namespace TimeoutPool

def view (pool : TimeoutPool) : PoolView Timeout := .ofPool Address.checksummed pool

end TimeoutPool

namespace VotePool

def view (pool : VotePool) : PoolView Vote := .ofPool Address.checksummed pool

end VotePool

namespace SyncPool

def view (pool : SyncPool) : PoolView SyncInfo := .ofPool (fun digest => Text.Hex.encode digest.bytes) pool

end SyncPool

end MasternodeBft
