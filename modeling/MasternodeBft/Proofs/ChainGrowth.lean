import Mathlib.Logic.Relation
import MasternodeBft.Chain.Memory
import MasternodeBft.Proofs.RoundOrder

/-!
How a chain in memory grows. Children of the head are appended, and nothing else changes its headers: blocks can
be made known by their hashes alone, and masternodes selected at other gap numbers. So the head stays what it is,
or has a greater number than before.
-/

namespace MasternodeBft

def Header.Reaches (later earlier : Header) : Prop := later = earlier ∨ earlier.number < later.number

namespace Header.Reaches

variable {first middle last : Header}

theorem refl (header : Header) : header.Reaches header := .inl rfl

theorem trans (ended : last.Reaches middle) (begun : middle.Reaches first) : last.Reaches first := by
  rcases ended with same | after
  · rw [same]
    exact begun
  · rcases begun with same | before
    · exact .inr (same ▸ after)
    · exact .inr (UInt64.lt_trans before after)

end Header.Reaches

namespace MemoryChain

variable {chain later : MemoryChain}

inductive Alters (chain : MemoryChain) : MemoryChain → Prop
  | extend {round : Round} {header : Header} {later : MemoryChain}
      (extended : chain.extend? round = some (header, later)) : Alters chain later
  | importBlock (block : BlockInfo) : Alters chain (chain.importBlock block)
  | insertSnapshot (gapNumber : UInt64) (masternodes : List Address) :
      Alters chain (chain.insertSnapshot gapNumber masternodes)

def Grows : MemoryChain → MemoryChain → Prop := Relation.ReflTransGen Alters

/-- There is a first header, and all of them are found under their own numbers. -/
structure Sound (chain : MemoryChain) : Prop where
  begun : chain.headers.entries ≠ []
  numbered : ∀ entry ∈ chain.headers.entries, entry.2.number = entry.1

theorem create_sound (masternodes : List Address) (epoch : UInt64) : (create masternodes epoch).Sound where
  begun := List.cons_ne_nil _ _
  numbered := List.forall_mem_singleton.mpr rfl

theorem head_eq {header : Header} (listed : (header.number, header) ∈ chain.headers.entries)
    (greatest : ∀ entry ∈ chain.headers.entries, entry.1 ≤ header.number) : chain.head = header := by
  unfold head
  rw [SortedMap.last?_eq_some_iff.mpr ⟨header.number, listed, greatest⟩]
  rfl

namespace Sound

theorem header_number (sound : chain.Sound) {number : UInt64} {header : Header}
    (found : chain.header? number = some header) : header.number = number :=
  sound.numbered (number, header) (SortedMap.get?_eq_some_iff.mp found)

theorem head_greatest (sound : chain.Sound) :
    (chain.head.number, chain.head) ∈ chain.headers.entries ∧
      ∀ entry ∈ chain.headers.entries, entry.1 ≤ chain.head.number := by
  have last := List.getLast?_eq_some_getLast sound.begun
  obtain ⟨listed, greatest⟩ := (SortedMap.getLast?_eq_some_iff chain.headers.increasing).mp last
  have own := sound.numbered _ listed
  have head : chain.head = (chain.headers.entries.getLast sound.begun).2 := by
    apply head_eq
    · rw [own]
      exact listed
    · rw [own]
      exact greatest
  rw [head, own]
  exact ⟨listed, greatest⟩

theorem epochSwitch_number (sound : chain.Sound) {header : Header} {switch : EpochSwitch}
    (resolves : chain.epochSwitch header = .ok switch) : switch.block.number = chain.boundary header.number := by
  unfold epochSwitch at resolves
  dsimp only at resolves
  split at resolves
  · rename_i start found
    cases resolves
    exact sound.header_number found
  · cases resolves

theorem epochSwitch_head (sound : chain.Sound) (starts : chain.boundary chain.head.number = chain.head.number) :
    chain.epochSwitch chain.head = .ok ⟨chain.head.blockInfo, chain.masternodes⟩ := by
  have found : chain.header? chain.head.number = some chain.head :=
    SortedMap.get?_eq_some_iff.mpr sound.head_greatest.1
  unfold epochSwitch
  dsimp only
  rw [starts, found]

end Sound

theorem extend?_of_hasNext (next : Round.HasNext chain.head.number) (round : Round) :
    chain.extend? round = some (child chain.head round, chain.insert (child chain.head round)) := if_pos next

theorem extend?_some {round : Round} {header : Header} (extended : chain.extend? round = some (header, later)) :
    Round.HasNext chain.head.number ∧ header = child chain.head round ∧ later = chain.insert header := by
  unfold extend? at extended
  split at extended
  · rename_i next
    cases extended
    exact ⟨next, rfl, rfl⟩
  · cases extended

theorem child_number {parent : Header} (next : Round.HasNext parent.number) (round : Round) :
    (child parent round).number.toNat = parent.number.toNat + 1 := Round.toNat_add_one next

theorem lt_child {parent : Header} (next : Round.HasNext parent.number) (round : Round) :
    parent.number < (child parent round).number := by
  rw [UInt64.lt_iff_toNat_lt, child_number next]
  omega

namespace Sound

theorem insert (sound : chain.Sound) (header : Header) : (chain.insert header).Sound where
  begun := List.ne_nil_of_mem (SortedMap.mem_insert_self ..)
  numbered entry listed := by
    rcases SortedMap.mem_insert listed with rfl | earlier
    · rfl
    · exact sound.numbered entry earlier

theorem head_insert (sound : chain.Sound) {header : Header} (above : chain.head.number < header.number) :
    (chain.insert header).head = header := by
  apply head_eq (SortedMap.mem_insert_self ..)
  intro entry listed
  rcases SortedMap.mem_insert listed with rfl | earlier
  · exact UInt64.le_refl _
  · exact UInt64.le_of_lt (UInt64.lt_of_le_of_lt (sound.head_greatest.2 entry earlier) above)

end Sound

/-- A chain comes after another one: a sound chain with epochs of the same length, whose head is the same or
has a greater number. -/
structure Succeeds (later earlier : MemoryChain) : Prop where
  sound : later.Sound
  epoch : later.epoch = earlier.epoch
  head : later.head.Reaches earlier.head

namespace Succeeds

variable {first middle last : MemoryChain}

theorem refl (sound : chain.Sound) : chain.Succeeds chain := ⟨sound, rfl, .refl chain.head⟩

theorem of_headers (sound : chain.Sound) (epoch : later.epoch = chain.epoch) (same : later.headers = chain.headers) :
    later.Succeeds chain := by
  have head : later.head = chain.head := by
    unfold MemoryChain.head
    rw [same]
  refine ⟨⟨?_, ?_⟩, epoch, .inl head⟩
  · rw [same]
    exact sound.begun
  · rw [same]
    exact sound.numbered

theorem trans (ended : last.Succeeds middle) (begun : middle.Succeeds first) : last.Succeeds first :=
  ⟨ended.sound, ended.epoch.trans begun.epoch, ended.head.trans begun.head⟩

end Succeeds

theorem Alters.succeeds (alters : chain.Alters later) (sound : chain.Sound) : later.Succeeds chain := by
  cases alters with
  | @extend round _ _ extended =>
    obtain ⟨next, rfl, rfl⟩ := extend?_some extended
    have above := lt_child next round
    refine ⟨sound.insert _, rfl, .inr ?_⟩
    rw [sound.head_insert above]
    exact above
  | importBlock block => exact .of_headers sound rfl rfl
  | insertSnapshot gapNumber masternodes => exact .of_headers sound rfl rfl

theorem Grows.succeeds (grows : chain.Grows later) (sound : chain.Sound) : later.Succeeds chain := by
  induction grows with
  | refl => exact .refl sound
  | tail _ alters ih => exact (alters.succeeds ih.sound).trans ih

end MemoryChain

end MasternodeBft
