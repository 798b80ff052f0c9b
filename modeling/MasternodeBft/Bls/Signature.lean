import MasternodeBft.Hash.Hmac
import MasternodeBft.Bls.HashToCurve
import MasternodeBft.Bls.Pairing
import MasternodeBft.Bls.Encoding

/-! Keys and signatures: public keys in the second group, signatures in the first. -/

namespace MasternodeBft.Bls

def secretOfMaterial (material : Bytes) : Nat :=
  let salt := (sha256 "BLS-SIG-KEYGEN-SALT-".toUTF8.data.toList).bytes
  Bytes.toNat (Hash.hkdf salt (material ++ [0]) [0, 48] 48) % groupOrder

def publicPoint (secret : Nat) : G2 := G2.generator.multiple (binary secret)

def signPoint (secret : Nat) (message : Bytes) : G1 :=
  (HashToCurve.hash message).multiple (binary secret)

/-- Whether the signature is the message's point times the secret number of the public key. Points
outside the groups are refused, and so is the public key at infinity. -/
def verify (message : Bytes) (signature : G1) (publicKey : G2) : Bool :=
  signature.inGroup && publicKey ≠ .infinity && publicKey.inGroup &&
    Pairing.productIsOne [(signature, G2.generator.neg), (HashToCurve.hash message, publicKey)]

end MasternodeBft.Bls
