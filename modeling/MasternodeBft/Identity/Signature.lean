import MasternodeBft.Identity.Key

/-!
Signatures as they travel: the signer's public key followed by the signature proper, so that the
signer can be recovered. Any bytes may arrive.
-/

namespace MasternodeBft

structure Signature where
  bytes : Bytes
deriving DecidableEq

inductive SignatureError where
  | malformed (length : Nat)
  | invalidPublicKey (cause : Bls.EncodingError)
  | invalidEncoding (cause : Bls.EncodingError)
  | mismatch
deriving DecidableEq

namespace SignatureError

def message : SignatureError → String
  | malformed length => "Malformed signature: expected 144 bytes, got " ++ Text.Decimal.text length
  | invalidPublicKey cause => "Invalid public key encoding: " ++ cause.name
  | invalidEncoding cause => "Invalid signature encoding: " ++ cause.name
  | mismatch => "Signature does not match digest"

end SignatureError

namespace Signature

def text (signature : Signature) : String := Text.Hex.encode signature.bytes

def debug (signature : Signature) : String := "Sig(" ++ signature.text ++ ")"

def sign (key : PrivateKey) (digest : Digest) : Signature :=
  ⟨key.publicKey.toBytes ++ Bls.G1.compress (Bls.signPoint key.secret digest.bytes)⟩

/-- The address of the signer, if the signature is that of its own public key over the digest. -/
def recover (digest : Digest) (signature : Signature) : Except SignatureError Address :=
  if signature.bytes.length ≠ 144 then .error (.malformed signature.bytes.length)
  else match PublicKey.ofBytes (signature.bytes.take 96) with
    | .error cause => .error (.invalidPublicKey cause)
    | .ok key => match Bls.G1.decompress (signature.bytes.drop 96) with
      | .error cause => .error (.invalidEncoding cause)
      | .ok point => if Bls.verify digest.bytes point key.point then .ok key.address else .error .mismatch

end Signature

end MasternodeBft
