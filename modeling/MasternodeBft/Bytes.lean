/-! Byte strings, byte strings of one fixed length, and their reading as big-endian numbers. -/

namespace MasternodeBft

abbrev Bytes := List UInt8

namespace Bytes

def toNat (bytes : Bytes) : Nat :=
  bytes.foldl (fun value byte => value * 256 + byte.toNat) 0

/-- The last `width` base-256 digits of a number, most significant first. -/
def ofNat (width value : Nat) : Bytes :=
  (List.range width).reverse.map fun place => UInt8.ofNat (value >>> (8 * place))

end Bytes

structure FixedBytes (length : Nat) where
  bytes : Bytes
  length_eq : bytes.length = length
deriving DecidableEq

namespace FixedBytes

@[ext] theorem ext {length : Nat} {left right : FixedBytes length} (same : left.bytes = right.bytes) :
    left = right := by
  cases left; cases right; simp_all

def zero (length : Nat) : FixedBytes length := ⟨List.replicate length 0, List.length_replicate⟩

instance {length : Nat} : Inhabited (FixedBytes length) := ⟨zero length⟩

def ofBytes? (length : Nat) (bytes : Bytes) : Option (FixedBytes length) :=
  if same : bytes.length = length then some ⟨bytes, same⟩ else none

/-- The first `length` bytes, with zeros where there are fewer. -/
def take (length : Nat) (bytes : Bytes) : FixedBytes length :=
  ⟨(bytes ++ List.replicate length 0).take length, by simp⟩

theorem ofBytes?_bytes {length : Nat} (value : FixedBytes length) :
    ofBytes? length value.bytes = some value := by
  simp [ofBytes?, value.length_eq]

end FixedBytes

end MasternodeBft
