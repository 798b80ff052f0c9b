import MasternodeBft.Bls.Signature
import MasternodeBft.Text.Decimal
import MasternodeBft.Identity.Address

/-! Public and private keys of masternodes. -/

namespace MasternodeBft

structure PublicKey where
  point : Bls.G2
deriving DecidableEq

namespace PublicKey

def toBytes (key : PublicKey) : Bytes := Bls.G2.compress key.point

def ofBytes (bytes : Bytes) : Except Bls.EncodingError PublicKey := (Bls.G2.read bytes).map PublicKey.mk

def address (key : PublicKey) : Address := Address.ofKeyBytes key.toBytes

def text (key : PublicKey) : String := "Pub(" ++ Text.Hex.encode key.toBytes ++ ")"

end PublicKey

structure PrivateKey where
  secret : Nat
  publicKey : PublicKey

namespace PrivateKey

/-- The key of a numbered masternode; the number is the key material. -/
def ofId (id : UInt64) : PrivateKey :=
  let secret := Bls.secretOfMaterial (Bytes.ofNat 32 id.toNat)
  ⟨secret, ⟨Bls.publicPoint secret⟩⟩

def address (key : PrivateKey) : Address := key.publicKey.address

def text (key : PrivateKey) : String := "Priv(" ++ key.address.checksummed ++ ")"

end PrivateKey

end MasternodeBft
