import MasternodeBft.Message.Wire
import MasternodeBft.Proofs.RecordText

/-!
What is sent is what is received: messages come back from the form in which they travel, but for the notes
about signers, which do not travel.
-/

namespace MasternodeBft

open Json (Readable Keys)

namespace Signature

theorem readable (signature : Signature) : Readable signature.toJson := Json.readable_bytes signature.bytes

theorem ofJson?_toJson (signature : Signature) : ofJson? signature.toJson = some signature := by
  change (Json.bytes signature.bytes).toBytes?.map Signature.mk = _
  rw [Json.toBytes?_bytes]
  rfl

end Signature

namespace BlockInfo

theorem keys : Keys ["hash", "number", "round"] := by decide

theorem readable (block : BlockInfo) : Readable block.toJson := by
  apply Json.readable_record keys rfl
  simp only [List.forall_mem_cons]
  exact ⟨Json.readable_bytes _, Json.readable_word _, Json.readable_word _, nofun⟩

theorem ofJson?_toJson (block : BlockInfo) : ofJson? block.toJson = some block := by
  unfold ofJson? toJson
  rw [Json.toRecord?_record keys rfl]
  simp [Json.toFixedBytes?_bytes, Json.toWord?_word]

end BlockInfo

namespace Vote

theorem keys : Keys ["proposed_block_info", "gap_number", "signature"] := by decide

theorem readable (vote : Vote) : Readable vote.toJson := by
  apply Json.readable_record keys rfl
  simp only [List.forall_mem_cons]
  exact ⟨vote.block.readable, Json.readable_word _, vote.signature.readable, nofun⟩

theorem ofJson?_toJson (vote : Vote) : ofJson? vote.toJson = some { vote with signer := Address.zero } := by
  unfold ofJson? toJson
  rw [Json.toRecord?_record keys rfl]
  simp [BlockInfo.ofJson?_toJson, Json.toWord?_word, Signature.ofJson?_toJson]

end Vote

namespace Timeout

theorem keys : Keys ["round", "gap_number", "signature"] := by decide

theorem readable (timeout : Timeout) : Readable timeout.toJson := by
  apply Json.readable_record keys rfl
  simp only [List.forall_mem_cons]
  exact ⟨Json.readable_word _, Json.readable_word _, timeout.signature.readable, nofun⟩

theorem ofJson?_toJson (timeout : Timeout) :
    ofJson? timeout.toJson = some { timeout with signer := Address.zero } := by
  unfold ofJson? toJson
  rw [Json.toRecord?_record keys rfl]
  simp [Json.toWord?_word, Signature.ofJson?_toJson]

end Timeout

namespace QuorumCert

theorem keys : Keys ["proposed_block_info", "gap_number", "signatures"] := by decide

theorem readable (cert : QuorumCert) : Readable cert.toJson := by
  apply Json.readable_record keys rfl
  simp only [List.forall_mem_cons]
  exact ⟨cert.block.readable, Json.readable_word _, Json.readable_array_map Signature.readable _, nofun⟩

theorem ofJson?_toJson (cert : QuorumCert) : ofJson? cert.toJson = some cert := by
  unfold ofJson? toJson
  rw [Json.toRecord?_record keys rfl]
  simp [BlockInfo.ofJson?_toJson, Json.toWord?_word, Json.toList?_array Signature.ofJson?_toJson]

end QuorumCert

namespace TimeoutCert

theorem keys : Keys ["round", "gap_number", "signatures"] := by decide

theorem readable (cert : TimeoutCert) : Readable cert.toJson := by
  apply Json.readable_record keys rfl
  simp only [List.forall_mem_cons]
  exact ⟨Json.readable_word _, Json.readable_word _, Json.readable_array_map Signature.readable _, nofun⟩

theorem ofJson?_toJson (cert : TimeoutCert) : ofJson? cert.toJson = some cert := by
  unfold ofJson? toJson
  rw [Json.toRecord?_record keys rfl]
  simp [Json.toWord?_word, Json.toList?_array Signature.ofJson?_toJson]

theorem readable_optional (cert : Option TimeoutCert) : Readable (Json.optional toJson cert) := by
  cases cert with
  | none => exact .null
  | some cert => exact cert.readable

theorem toOption?_optional (cert : Option TimeoutCert) :
    Json.toOption? ofJson? (Json.optional toJson cert) = some cert := by
  cases cert with
  | none => rfl
  | some cert =>
    change (ofJson? cert.toJson).map some = _
    rw [ofJson?_toJson]
    rfl

end TimeoutCert

namespace SyncInfo

theorem keys : Keys ["highest_quorum_cert", "highest_timeout_cert"] := by decide

theorem readable (bundle : SyncInfo) : Readable bundle.toJson := by
  apply Json.readable_record keys rfl
  simp only [List.forall_mem_cons]
  exact ⟨bundle.quorumCert.readable, TimeoutCert.readable_optional _, nofun⟩

theorem ofJson?_toJson (bundle : SyncInfo) : ofJson? bundle.toJson = some bundle := by
  unfold ofJson? toJson
  rw [Json.toRecord?_record keys rfl]
  simp [QuorumCert.ofJson?_toJson, Json.missing?, TimeoutCert.toOption?_optional]

end SyncInfo

namespace Message

def arrived : Message → Message
  | .vote body => .vote { body with signer := Address.zero }
  | .timeout body => .timeout { body with signer := Address.zero }
  | .syncInfo body => .syncInfo body

theorem kinds : Keys ["Vote", "Timeout", "SyncInfo"] := by decide

theorem readable_single {name : String} (kind : name ∈ ["Vote", "Timeout", "SyncInfo"]) {body : Json}
    (readable : Readable body) : Readable (Json.record [(name, body)]) := by
  have legible : ∀ other ∈ [name], Legible other.toList := by
    intro other same
    rw [List.mem_singleton.mp same]
    exact kinds.legible name kind
  have keys : Keys [name] := ⟨legible, List.pairwise_singleton _ name⟩
  apply Json.readable_record keys rfl
  intro field listed
  rw [List.mem_singleton.mp listed]
  exact readable

theorem readable (message : Message) : Readable message.toJson := by
  cases message with
  | vote body => exact readable_single (by decide) body.readable
  | timeout body => exact readable_single (by decide) body.readable
  | syncInfo body => exact readable_single (by decide) body.readable

theorem ofJson?_toJson (message : Message) : ofJson? message.toJson = some message.arrived := by
  have text {name : String} (kind : name ∈ ["Vote", "Timeout", "SyncInfo"]) :
      (Json.Quoted.ofText name).text? = some name := Json.Quoted.text?_ofText (kinds.legible name kind)
  cases message with
  | vote body => simp [toJson, Json.record, ofJson?, text, Vote.ofJson?_toJson, arrived]
  | timeout body => simp [toJson, Json.record, ofJson?, text, Timeout.ofJson?_toJson, arrived]
  | syncInfo body => simp [toJson, Json.record, ofJson?, text, SyncInfo.ofJson?_toJson, arrived]

theorem decode_encode (message : Message) : decode message.encode = some message.arrived := by
  unfold decode encode
  rw [Json.parse?_render message.readable]
  exact message.ofJson?_toJson

end Message

end MasternodeBft
