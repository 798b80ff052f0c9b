import MasternodeBft.Chain.Basic
import MasternodeBft.Entries
import MasternodeBft.Message.Wire
import MasternodeBft.SortedMap

/-! A chain held in memory, with the same masternodes in all its epochs. -/

namespace MasternodeBft

structure MemoryChain where
  epoch : UInt64
  masternodes : List Address
  headers : SortedMap Header
  byHash : Entries Digest Header
  snapshots : Entries UInt64 Snapshot

namespace MemoryChain

def genesis : Header :=
  ⟨0, (Json.array [.text "genesis", .word 0]).digest, FixedBytes.zero 32, 0⟩

def insert (chain : MemoryChain) (header : Header) : MemoryChain :=
  { chain with
    headers := chain.headers.insert header.number header
    byHash := chain.byHash.put header.hash header }

def insertSnapshot (chain : MemoryChain) (gapNumber : UInt64) (masternodes : List Address) : MemoryChain :=
  { chain with snapshots := chain.snapshots.put gapNumber ⟨gapNumber, masternodes⟩ }

def create (masternodes : List Address) (epoch : UInt64) : MemoryChain :=
  insertSnapshot (insert ⟨epoch, masternodes, .empty, [], []⟩ genesis) 0 masternodes

/-- Makes a block known by its hash alone. -/
def importBlock (chain : MemoryChain) (block : BlockInfo) : MemoryChain :=
  { chain with byHash := chain.byHash.put block.hash ⟨block.number, block.hash, FixedBytes.zero 32, block.round⟩ }

def head (chain : MemoryChain) : Header := chain.headers.last?.getD Header.zero

def header? (chain : MemoryChain) (number : UInt64) : Option Header := chain.headers.get? number

def headerByHash? (chain : MemoryChain) (hash : Digest) : Option Header := chain.byHash.get? hash

/-- A child of a header at a round. Its hash is that of its place in the chain. -/
def child (parent : Header) (round : Round) : Header :=
  let number := parent.number + 1
  let hash := (Json.array [.bytes parent.hash.bytes, .word number, .word round]).digest
  ⟨number, hash, parent.hash, round⟩

/-- Appends a child of the head. After the greatest number there is none. -/
def extend? (chain : MemoryChain) (round : Round) : Option (Header × MemoryChain) :=
  if chain.head.number.toNat + 1 < UInt64.size then
    let header := child chain.head round
    some (header, chain.insert header)
  else none

def snapshot (chain : MemoryChain) (gapNumber : UInt64) : Except ChainError Snapshot :=
  match chain.snapshots.get? gapNumber with
  | some snapshot => .ok snapshot
  | none => .error (.snapshotNotFound gapNumber)

/-- The number at which the epoch of a number starts. Without a length, an epoch is one block. -/
def boundary (chain : MemoryChain) (number : UInt64) : UInt64 :=
  if chain.epoch = 0 then number else number - number % chain.epoch

def epochSwitch (chain : MemoryChain) (header : Header) : Except ChainError EpochSwitch :=
  let start := chain.boundary header.number
  match chain.header? start with
  | some header => .ok ⟨header.blockInfo, chain.masternodes⟩
  | none => .error (.headerNotFound start)

def view (chain : MemoryChain) : ChainView :=
  ⟨chain.head, chain.headerByHash?, chain.snapshot, chain.epochSwitch⟩

end MemoryChain

end MasternodeBft
