import MasternodeBft.Json.Record
import MasternodeBft.Message.Basic

/-! The form in which messages travel, its reading, and the digests taken over it. -/

namespace MasternodeBft

def Json.digest (value : Json) : Digest := sha256 value.render

namespace BlockInfo

def toJson (block : BlockInfo) : Json :=
  .record [("hash", .bytes block.hash.bytes), ("number", .word block.number), ("round", .word block.round)]

def ofJson? (value : Json) : Option BlockInfo := do
  match ← value.toRecord? ["hash", "number", "round"] with
  | [some hash, some number, some round] =>
    pure ⟨← hash.toFixedBytes? 32, ← number.toWord?, ← round.toWord?⟩
  | _ => none

end BlockInfo

namespace Header

def toJson (header : Header) : Json :=
  .record [("number", .word header.number), ("hash", .bytes header.hash.bytes),
    ("parent_hash", .bytes header.parentHash.bytes), ("round", .word header.round)]

def digest (header : Header) : Digest := header.toJson.digest

end Header

namespace Signature

def toJson (signature : Signature) : Json := .bytes signature.bytes

def ofJson? (value : Json) : Option Signature := value.toBytes?.map Signature.mk

end Signature

namespace VotePayload

def toJson (payload : VotePayload) : Json :=
  .record [("proposed_block_info", payload.block.toJson), ("gap_number", .word payload.gapNumber)]

def bytes (payload : VotePayload) : Bytes := payload.toJson.render

def digest (payload : VotePayload) : Digest := sha256 payload.bytes

end VotePayload

namespace TimeoutPayload

def toJson (payload : TimeoutPayload) : Json :=
  .record [("round", .word payload.round), ("gap_number", .word payload.gapNumber)]

def bytes (payload : TimeoutPayload) : Bytes := payload.toJson.render

def digest (payload : TimeoutPayload) : Digest := sha256 payload.bytes

end TimeoutPayload

namespace Vote

def toJson (vote : Vote) : Json :=
  .record [("proposed_block_info", vote.block.toJson), ("gap_number", .word vote.gapNumber),
    ("signature", vote.signature.toJson)]

/-- A vote that has been read names no signer yet. -/
def ofJson? (value : Json) : Option Vote := do
  match ← value.toRecord? ["proposed_block_info", "gap_number", "signature"] with
  | [some block, some gapNumber, some signature] =>
    pure ⟨← BlockInfo.ofJson? block, ← gapNumber.toWord?, ← Signature.ofJson? signature, Address.zero⟩
  | _ => none

def digest (vote : Vote) : Digest := vote.toJson.digest

end Vote

namespace Timeout

def toJson (timeout : Timeout) : Json :=
  .record [("round", .word timeout.round), ("gap_number", .word timeout.gapNumber),
    ("signature", timeout.signature.toJson)]

/-- A timeout that has been read names no signer yet. -/
def ofJson? (value : Json) : Option Timeout := do
  match ← value.toRecord? ["round", "gap_number", "signature"] with
  | [some round, some gapNumber, some signature] =>
    pure ⟨← round.toWord?, ← gapNumber.toWord?, ← Signature.ofJson? signature, Address.zero⟩
  | _ => none

def digest (timeout : Timeout) : Digest := timeout.toJson.digest

end Timeout

def Signed.payloadDigest : Signed → Digest
  | .vote body => body.payload.digest
  | .timeout body => body.payload.digest

namespace QuorumCert

def toJson (cert : QuorumCert) : Json :=
  .record [("proposed_block_info", cert.block.toJson), ("gap_number", .word cert.gapNumber),
    ("signatures", .array (cert.signatures.map Signature.toJson))]

def ofJson? (value : Json) : Option QuorumCert := do
  match ← value.toRecord? ["proposed_block_info", "gap_number", "signatures"] with
  | [some block, some gapNumber, some signatures] =>
    pure ⟨← BlockInfo.ofJson? block, ← gapNumber.toWord?, ← signatures.toList? Signature.ofJson?⟩
  | _ => none

end QuorumCert

namespace TimeoutCert

def toJson (cert : TimeoutCert) : Json :=
  .record [("round", .word cert.round), ("gap_number", .word cert.gapNumber),
    ("signatures", .array (cert.signatures.map Signature.toJson))]

def ofJson? (value : Json) : Option TimeoutCert := do
  match ← value.toRecord? ["round", "gap_number", "signatures"] with
  | [some round, some gapNumber, some signatures] =>
    pure ⟨← round.toWord?, ← gapNumber.toWord?, ← signatures.toList? Signature.ofJson?⟩
  | _ => none

end TimeoutCert

namespace SyncInfo

def toJson (bundle : SyncInfo) : Json :=
  .record [("highest_quorum_cert", bundle.quorumCert.toJson),
    ("highest_timeout_cert", .optional TimeoutCert.toJson bundle.timeoutCert)]

def ofJson? (value : Json) : Option SyncInfo := do
  match ← value.toRecord? ["highest_quorum_cert", "highest_timeout_cert"] with
  | [some quorumCert, timeoutCert] =>
    pure ⟨← QuorumCert.ofJson? quorumCert, ← Json.missing? (Json.toOption? TimeoutCert.ofJson?) timeoutCert⟩
  | _ => none

def digest (bundle : SyncInfo) : Digest := bundle.toJson.digest

end SyncInfo

namespace Message

def toJson : Message → Json
  | .vote body => .record [("Vote", body.toJson)]
  | .timeout body => .record [("Timeout", body.toJson)]
  | .syncInfo body => .record [("SyncInfo", body.toJson)]

/-- A message is an object with one field, whose key names the kind. -/
def ofJson? : Json → Option Message
  | .object [(key, value)] => do
    let kind ← key.text?
    if kind = "Vote" then (Vote.ofJson? value).map vote
    else if kind = "Timeout" then (Timeout.ofJson? value).map timeout
    else if kind = "SyncInfo" then (SyncInfo.ofJson? value).map syncInfo
    else none
  | _ => none

def encode (message : Message) : Bytes := message.toJson.render

def decode (text : Bytes) : Option Message := (Json.parse? text).bind ofJson?

end Message

end MasternodeBft
