import MasternodeBft.Hash.Sha256

/-! Keyed hashing and key derivation on top of SHA-256. -/

namespace MasternodeBft.Hash

/-- A key is zero-filled to one block of 64 bytes; a longer key is hashed first. -/
def blockKey (key : Bytes) : Bytes :=
  let short := if key.length > 64 then (sha256 key).bytes else key
  short ++ List.replicate (64 - short.length) 0

def hmac (key message : Bytes) : Digest :=
  let key := blockKey key
  sha256 (key.map (· ^^^ 0x5c) ++ (sha256 (key.map (· ^^^ 0x36) ++ message)).bytes)

/-- Blocks `counter`, `counter + 1`, … of the expansion, each keyed over the block before it. -/
def expandFrom (key info : Bytes) : Nat → UInt8 → Bytes → Bytes
  | 0, _, _ => []
  | count + 1, counter, previous =>
    let block := (hmac key (previous ++ info ++ [counter])).bytes
    block ++ expandFrom key info count (counter + 1) block

def hkdf (salt secret info : Bytes) (length : Nat) : Bytes :=
  let key := (hmac salt secret).bytes
  (expandFrom key info ((length + 31) / 32) 1 []).take length

end MasternodeBft.Hash
