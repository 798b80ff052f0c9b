import MasternodeBft.Proofs.ChainGrowth
import MasternodeBft.Proofs.LastWrites
import MasternodeBft.Proofs.SigningPayloads

/-!
The two indexes of a chain in memory. Under each number up to that of the head there is one header, linked to the
one before it, and imports of blocks leave all this as it is. By its hash each of these headers is found again,
unless a block has been imported under that hash since the header was appended: such a block takes the header's
place among the hashes, without a link to a parent.
-/

namespace MasternodeBft

/-- The header under which an imported block is found. It is linked to no parent. -/
def BlockInfo.unlinked (block : BlockInfo) : Header := ⟨block.number, block.hash, FixedBytes.zero 32, block.round⟩

namespace Header

def place (header : Header) : Json :=
  if header.number = 0 then .array [.text "genesis", .word 0]
  else .array [.bytes header.parentHash.bytes, .word header.number, .word header.round]

theorem place_readable (header : Header) : header.place.Readable := by
  unfold place
  split
  · have legible : Legible "genesis".toList := by decide
    apply Json.Readable.array
    simp only [List.forall_mem_cons]
    exact ⟨.string _ (Json.Quoted.passes_ofChars legible), Json.readable_word 0, nofun⟩
  · apply Json.Readable.array
    simp only [List.forall_mem_cons]
    exact ⟨Json.readable_bytes _, Json.readable_word _, Json.readable_word _, nofun⟩

theorem number_of_place {header other : Header} (same : header.place = other.place) : header.number = other.number := by
  unfold place at same
  split at same
  · rename_i first
    split at same
    · rename_i alsoFirst
      rw [first, alsoFirst]
    · cases same
  · split at same
    · cases same
    · exact Json.word_injective (List.cons.inj (List.cons.inj (Json.array.inj same)).2).1

theorem number_of_render {header other : Header} (same : header.place.render = other.place.render) :
    header.number = other.number :=
  number_of_place (Json.eq_of_render_eq header.place_readable other.place_readable same)

end Header

namespace MemoryChain

inductive Edit where
  | extend (round : Round)
  | importBlock (block : BlockInfo)

/-- After the greatest number there is nothing to append. -/
def Edit.apply (chain : MemoryChain) : Edit → MemoryChain
  | extend round => ((chain.extend? round).map Prod.snd).getD chain
  | importBlock block => chain.importBlock block

def edited (chain : MemoryChain) (edits : List Edit) : MemoryChain := edits.foldl Edit.apply chain

def Lists (chain : MemoryChain) (hash : Digest) : Prop := ∃ entry ∈ chain.headers.entries, entry.2.hash = hash

instance (chain : MemoryChain) (hash : Digest) : Decidable (chain.Lists hash) := List.decidableBEx _ _

/-- The block of an import under a hash that one of the headers has already. -/
def Edit.reimport (chain : MemoryChain) : Edit → List BlockInfo
  | extend _ => []
  | importBlock block => if chain.Lists block.hash then [block] else []

/-- All blocks that edits import under hashes that headers have by then. -/
def reimports (chain : MemoryChain) : List Edit → List BlockInfo
  | [] => []
  | edit :: rest => edit.reimport chain ++ (edit.apply chain).reimports rest

/-- No two headers of the chain have places whose texts have one hash. -/
def CollisionFree (chain : MemoryChain) : Prop :=
  Set.InjOn sha256 ((fun header => header.place.render) '' {header | ∃ number, chain.header? number = some header})

variable {chain later : MemoryChain} {number : UInt64} {header : Header}

/-! Headers by their numbers. -/

structure Linked (chain : MemoryChain) : Prop where
  sound : chain.Sound
  complete : ∀ number ≤ chain.head.number, ∃ header, chain.header? number = some header
  linked : ∀ {number header}, chain.header? number = some header → 0 < number →
    ∃ parent, chain.header? (number - 1) = some parent ∧ header.parentHash = parent.hash
  hashed : ∀ {number header}, chain.header? number = some header → header.hash = sha256 header.place.render

theorem Sound.le_head (sound : chain.Sound) (found : chain.header? number = some header) :
    number ≤ chain.head.number :=
  sound.head_greatest.2 (number, header) (SortedMap.get?_eq_some_iff.mp found)

theorem Sound.header?_head (sound : chain.Sound) : chain.header? chain.head.number = some chain.head :=
  SortedMap.get?_eq_some_iff.mpr sound.head_greatest.1

theorem header?_insert (chain : MemoryChain) (header : Header) (number : UInt64) :
    (chain.insert header).header? number = if header.number = number then some header else chain.header? number := by
  unfold header? insert
  split
  · rename_i same
    rw [← same]
    exact SortedMap.get?_insert_self ..
  · rename_i different
    exact SortedMap.get?_insert_of_ne _ _ different

theorem lists_iff {hash : Digest} :
    chain.Lists hash ↔ ∃ number header, chain.header? number = some header ∧ header.hash = hash := by
  constructor
  · rintro ⟨⟨number, other⟩, listed, same⟩
    exact ⟨number, other, SortedMap.get?_eq_some_iff.mpr listed, same⟩
  · rintro ⟨number, other, found, same⟩
    exact ⟨(number, other), SortedMap.get?_eq_some_iff.mp found, same⟩

theorem create_header? {masternodes : List Address} {epoch : UInt64}
    (found : (create masternodes epoch).header? number = some header) : number = 0 ∧ header = genesis := by
  have listed : (number, header) ∈ [((0 : UInt64), genesis)] := SortedMap.get?_eq_some_iff.mp found
  exact Prod.mk.inj (List.mem_singleton.mp listed)

theorem create_linked (masternodes : List Address) (epoch : UInt64) : (create masternodes epoch).Linked := by
  refine ⟨create_sound masternodes epoch, fun number below => ⟨genesis, ?_⟩, fun found positive => ?_, fun found => ?_⟩
  · have first : number = 0 := UInt64.le_zero_iff.mp below
    rw [first]
    rfl
  · rw [(create_header? found).1] at positive
    exact absurd positive (UInt64.lt_irrefl 0)
  · rw [(create_header? found).2]
    rfl

theorem Sound.header?_insert_of_above (sound : chain.Sound) {added : Header} (above : chain.head.number < added.number)
    (found : chain.header? number = some header) : (chain.insert added).header? number = some header := by
  have below := UInt64.lt_of_le_of_lt (sound.le_head found) above
  rw [header?_insert, if_neg (UInt64.ne_of_lt below).symm]
  exact found

theorem child_hash {parent : Header} (next : Round.HasNext parent.number) (round : Round) :
    (child parent round).hash = sha256 (child parent round).place.render := by
  have later : (child parent round).number ≠ 0 :=
    (UInt64.ne_of_lt (UInt64.lt_of_le_of_lt UInt64.zero_le (lt_child next round))).symm
  unfold Header.place
  rw [if_neg later]
  rfl

theorem Linked.append (linked : chain.Linked) (next : Round.HasNext chain.head.number) (round : Round) :
    (chain.insert (child chain.head round)).Linked := by
  have above := lt_child next round
  have head := linked.sound.head_insert above
  refine ⟨linked.sound.insert _, fun number below => ?_, fun {number header} found positive => ?_,
    fun {number header} found => ?_⟩
  · rw [header?_insert]
    split
    · exact ⟨_, rfl⟩
    · rename_i different
      apply linked.complete number
      rw [head, UInt64.le_iff_toNat_le, child_number next] at below
      rw [← UInt64.toNat_inj, child_number next] at different
      rw [UInt64.le_iff_toNat_le]
      omega
  · rw [header?_insert] at found
    split at found
    · rename_i same
      cases found
      have before : number - 1 = chain.head.number := by
        rw [← same]
        exact UInt64.add_sub_cancel chain.head.number 1
      refine ⟨chain.head, ?_, rfl⟩
      rw [before]
      exact linked.sound.header?_insert_of_above above linked.sound.header?_head
    · obtain ⟨parent, before, same⟩ := linked.linked found positive
      exact ⟨parent, linked.sound.header?_insert_of_above above before, same⟩
  · rw [header?_insert] at found
    split at found
    · cases found
      exact child_hash next round
    · exact linked.hashed found

theorem Edit.apply_extend (chain : MemoryChain) (round : Round) :
    (Edit.extend round).apply chain =
      if Round.HasNext chain.head.number then chain.insert (child chain.head round) else chain := by
  change ((chain.extend? round).map Prod.snd).getD chain = _
  split
  · rename_i next
    rw [extend?_of_hasNext next]
    rfl
  · rename_i last
    rw [show chain.extend? round = none from if_neg last]
    rfl

theorem Linked.importBlock (linked : chain.Linked) (block : BlockInfo) : (chain.importBlock block).Linked :=
  ⟨⟨linked.sound.begun, linked.sound.numbered⟩, linked.complete, linked.linked, linked.hashed⟩

theorem Linked.apply (linked : chain.Linked) (edit : Edit) : (edit.apply chain).Linked := by
  cases edit with
  | extend round =>
    rw [Edit.apply_extend]
    split
    · rename_i next
      exact linked.append next round
    · exact linked
  | importBlock block => exact linked.importBlock block

theorem Linked.header?_apply (linked : chain.Linked) (edit : Edit) (found : chain.header? number = some header) :
    (edit.apply chain).header? number = some header := by
  cases edit with
  | extend round =>
    rw [Edit.apply_extend]
    split
    · rename_i next
      exact linked.sound.header?_insert_of_above (lt_child next round) found
    · exact found
  | importBlock block => exact found

theorem Linked.header?_edited (linked : chain.Linked) (edits : List Edit) (found : chain.header? number = some header) :
    (chain.edited edits).header? number = some header := by
  induction edits generalizing chain with
  | nil => exact found
  | cons edit rest ih => exact ih (linked.apply edit) (linked.header?_apply edit found)

theorem Linked.edited (linked : chain.Linked) (edits : List Edit) : (chain.edited edits).Linked := by
  induction edits generalizing chain with
  | nil => exact linked
  | cons edit rest ih => exact ih (linked.apply edit)

/-! Headers by their hashes. -/

theorem CollisionFree.of_later (collisionFree : later.CollisionFree)
    (kept : ∀ {number header}, chain.header? number = some header → later.header? number = some header) :
    chain.CollisionFree := by
  apply Set.InjOn.mono _ collisionFree
  apply Set.image_mono
  rintro header ⟨number, found⟩
  exact ⟨number, kept found⟩

theorem CollisionFree.number_eq (collisionFree : chain.CollisionFree) (linked : chain.Linked) {other : Header}
    {otherNumber : UInt64} (found : chain.header? number = some header)
    (alsoFound : chain.header? otherNumber = some other) (same : header.hash = other.hash) : number = otherNumber := by
  rw [linked.hashed found, linked.hashed alsoFound] at same
  have texts := collisionFree ⟨header, ⟨number, found⟩, rfl⟩ ⟨other, ⟨otherNumber, alsoFound⟩, rfl⟩ same
  rw [← linked.sound.header_number found, ← linked.sound.header_number alsoFound]
  exact Header.number_of_render texts

/-- What is found under the hash of a header: the last one of these blocks that has the hash, or the header itself. -/
def recalled (again : List BlockInfo) (header : Header) : Header :=
  ((again.filter fun block => block.hash = header.hash).getLast?.map BlockInfo.unlinked).getD header

theorem recalled_of_absent {again : List BlockInfo} (absent : ∀ block ∈ again, block.hash ≠ header.hash) :
    recalled again header = header := by
  have none : again.filter (fun block => block.hash = header.hash) = [] :=
    List.filter_eq_nil_iff.mpr fun block listed => by simpa using absent block listed
  unfold recalled
  rw [none]
  rfl

theorem recalled_concat (again : List BlockInfo) (block : BlockInfo) (header : Header) :
    recalled (again ++ [block]) header =
      if block.hash = header.hash then block.unlinked else recalled again header := by
  unfold recalled
  rw [List.filter_append]
  split
  · rename_i same
    simp [same]
  · rename_i differ
    simp [differ]

/-- Each header is found by its hash, unless one of these blocks is found in its place. -/
structure Recalls (chain : MemoryChain) (again : List BlockInfo) : Prop where
  known : ∀ block ∈ again, chain.Lists block.hash
  found : ∀ {number header}, chain.header? number = some header →
    chain.headerByHash? header.hash = some (recalled again header)

theorem create_recalls (masternodes : List Address) (epoch : UInt64) : (create masternodes epoch).Recalls [] := by
  refine ⟨fun _ => nofun, fun {number header} found => ?_⟩
  rw [(create_header? found).2]
  exact Entries.get?_put_self [] genesis.hash genesis

variable {again : List BlockInfo}

theorem Linked.child_hash_ne (linked : chain.Linked) (next : Round.HasNext chain.head.number) {round : Round}
    (collisionFree : (chain.insert (child chain.head round)).CollisionFree)
    (found : chain.header? number = some header) : (child chain.head round).hash ≠ header.hash := by
  intro same
  have above := lt_child next round
  have added : (chain.insert (child chain.head round)).header? (child chain.head round).number = some _ :=
    SortedMap.get?_insert_self ..
  have numbers := collisionFree.number_eq (linked.append next round) added
    (linked.sound.header?_insert_of_above above found) same
  rw [numbers] at above
  exact UInt64.lt_irrefl _ (UInt64.lt_of_lt_of_le above (linked.sound.le_head found))

theorem Recalls.append (recalls : chain.Recalls again) (linked : chain.Linked)
    (next : Round.HasNext chain.head.number) {round : Round}
    (collisionFree : (chain.insert (child chain.head round)).CollisionFree) :
    (chain.insert (child chain.head round)).Recalls again := by
  have above := lt_child next round
  refine ⟨fun block listed => ?_, fun {number header} found => ?_⟩
  · obtain ⟨number, other, found, same⟩ := lists_iff.mp (recalls.known block listed)
    exact lists_iff.mpr ⟨number, other, linked.sound.header?_insert_of_above above found, same⟩
  · change (chain.byHash.put (child chain.head round).hash (child chain.head round)).get? header.hash = _
    rw [header?_insert] at found
    split at found
    · cases found
      -- each of the blocks has the hash of an earlier header, which is not the hash of the new one
      have absent : ∀ block ∈ again, block.hash ≠ (child chain.head round).hash := by
        intro block listed same
        obtain ⟨number, other, found, own⟩ := lists_iff.mp (recalls.known block listed)
        exact linked.child_hash_ne next collisionFree found (own.trans same).symm
      rw [recalled_of_absent absent]
      exact Entries.get?_put_self ..
    · rw [Entries.get?_put_of_ne _ _ (linked.child_hash_ne next collisionFree found)]
      exact recalls.found found

theorem headerByHash?_importBlock (chain : MemoryChain) (block : BlockInfo) (hash : Digest) :
    (chain.importBlock block).headerByHash? hash =
      if block.hash = hash then some block.unlinked else chain.headerByHash? hash :=
  Entries.get?_put chain.byHash block.hash hash block.unlinked

theorem Recalls.importBlock (recalls : chain.Recalls again) (block : BlockInfo) :
    (chain.importBlock block).Recalls (again ++ (Edit.importBlock block).reimport chain) := by
  unfold Edit.reimport
  dsimp only
  split
  · rename_i listed
    refine ⟨List.forall_mem_append.mpr ⟨recalls.known, List.forall_mem_singleton.mpr listed⟩, ?_⟩
    intro number header found
    rw [headerByHash?_importBlock, recalled_concat]
    split
    · rfl
    · exact recalls.found found
  · rename_i unlisted
    rw [List.append_nil]
    refine ⟨recalls.known, fun {number header} found => ?_⟩
    have differ : block.hash ≠ header.hash := fun same => unlisted (lists_iff.mpr ⟨number, header, found, same.symm⟩)
    rw [headerByHash?_importBlock, if_neg differ]
    exact recalls.found found

theorem Recalls.apply (recalls : chain.Recalls again) (linked : chain.Linked) (edit : Edit)
    (collisionFree : (edit.apply chain).CollisionFree) :
    (edit.apply chain).Recalls (again ++ edit.reimport chain) := by
  cases edit with
  | extend round =>
    change ((Edit.extend round).apply chain).Recalls (again ++ [])
    rw [List.append_nil]
    rw [Edit.apply_extend] at collisionFree ⊢
    split
    · rename_i next
      rw [if_pos next] at collisionFree
      exact recalls.append linked next collisionFree
    · exact recalls
  | importBlock block => exact recalls.importBlock block

theorem Recalls.edited (recalls : chain.Recalls again) (linked : chain.Linked) (edits : List Edit)
    (collisionFree : (chain.edited edits).CollisionFree) :
    (chain.edited edits).Recalls (again ++ chain.reimports edits) := by
  induction edits generalizing chain again with
  | nil =>
    change chain.Recalls (again ++ [])
    rwa [List.append_nil]
  | cons edit rest ih =>
    have applied : (edit.apply chain).CollisionFree :=
      collisionFree.of_later ((linked.apply edit).header?_edited rest)
    change ((edit.apply chain).edited rest).Recalls
      (again ++ (edit.reimport chain ++ (edit.apply chain).reimports rest))
    rw [← List.append_assoc]
    exact ih (recalls.apply linked edit applied) (linked.apply edit) collisionFree

/-! Two blocks, of which the first is imported again, after one that is in no chain. -/

namespace Sample

def first : Header := child genesis 1

def second : Header := child first 3

def stray : BlockInfo := ⟨FixedBytes.take 32 [1], 7, 2⟩

def edits : List Edit := [.extend 1, .importBlock stray, .extend 3, .importBlock first.blockInfo]

theorem headers_edited : ((create [] 10).edited edits).headers.entries = [(0, genesis), (1, first), (2, second)] := rfl

theorem reimports_edits : (create [] 10).reimports edits = [first.blockInfo] := by decide +kernel

theorem hashes_distinct : ([genesis, first, second].map Header.hash).Nodup := by decide +kernel

theorem edited_collisionFree : ((create [] 10).edited edits).CollisionFree := by
  have linked := (create_linked [] 10).edited edits
  have listed {number : UInt64} {header : Header} (found : ((create [] 10).edited edits).header? number = some header) :
      header ∈ [genesis, first, second] := by
    have entry := SortedMap.get?_eq_some_iff.mp found
    rw [headers_edited] at entry
    exact List.mem_map_of_mem (f := Prod.snd) entry
  rintro _ ⟨header, ⟨number, found⟩, rfl⟩ _ ⟨other, ⟨otherNumber, alsoFound⟩, rfl⟩ same
  have hashes : header.hash = other.hash := by rw [linked.hashed found, linked.hashed alsoFound, same]
  rw [List.inj_on_of_nodup_map hashes_distinct (listed found) (listed alsoFound) hashes]

end Sample

/-- However a chain in memory is extended, and blocks are imported into it, there is a header for each number up to
that of the head, with this number and with the hash of the header before it as its link. It is found by its own
hash too, if no two of the headers' texts have one hash, and unless a block has been imported under its hash since
it was appended; the last such block is found in its place, without a link. No import changes the head, nor any
header that is found by its number. -/
theorem header_indexes_agree_unless_reimported (masternodes : List Address) (epoch : UInt64) (edits : List Edit)
    (collisionFree : ((create masternodes epoch).edited edits).CollisionFree) :
    let chain := (create masternodes epoch).edited edits
    let again := (create masternodes epoch).reimports edits
    (∀ number ≤ chain.head.number, ∃ header, chain.header? number = some header ∧ header.number = number ∧
        (0 < number → ∃ parent, chain.header? (number - 1) = some parent ∧ header.parentHash = parent.hash) ∧
        ((∀ block ∈ again, block.hash ≠ header.hash) → chain.headerByHash? header.hash = some header) ∧
        ∀ block, (again.filter fun other => other.hash = header.hash).getLast? = some block →
          chain.headerByHash? header.hash = some block.unlinked) ∧
      ∀ block, (chain.importBlock block).head = chain.head ∧
        ∀ number, (chain.importBlock block).header? number = chain.header? number := by
  intro chain again
  have created := create_linked masternodes epoch
  have linked : chain.Linked := created.edited edits
  have recalls : chain.Recalls again := (create_recalls masternodes epoch).edited created edits collisionFree
  refine ⟨fun number below => ?_, fun block => ⟨rfl, fun _ => rfl⟩⟩
  obtain ⟨header, found⟩ := linked.complete number below
  refine ⟨header, found, linked.sound.header_number found, linked.linked found, fun absent => ?_, fun block last => ?_⟩
  · rw [recalls.found found, recalled_of_absent absent]
  · rw [recalls.found found]
    unfold recalled
    rw [last]
    rfl

/-- The second header is found by its hash, and the first one, which has been imported again, without its link. -/
theorem second_header_in_both_indexes :
    let chain := (create [] 10).edited Sample.edits
    chain.CollisionFree ∧ chain.headerByHash? Sample.second.hash = some Sample.second ∧
      Sample.second.parentHash = Sample.first.hash ∧
      chain.headerByHash? Sample.first.hash = some Sample.first.blockInfo.unlinked := by
  intro chain
  obtain ⟨indexed, -⟩ := header_indexes_agree_unless_reimported [] 10 Sample.edits Sample.edited_collisionFree
  rw [Sample.reimports_edits] at indexed
  have head : chain.head.number = 2 := rfl
  have firstFound : chain.header? 1 = some Sample.first := rfl
  have secondFound : chain.header? 2 = some Sample.second := rfl
  have differ : Sample.first.hash ≠ Sample.second.hash := fun same =>
    (List.nodup_cons.mp (List.nodup_cons.mp Sample.hashes_distinct).2).1 (List.mem_singleton.mpr same)
  obtain ⟨_, found, -, -, -, again⟩ := indexed 1 (by rw [head]; decide)
  cases firstFound.symm.trans found
  obtain ⟨_, found, -, linked, recalled, -⟩ := indexed 2 (by rw [head]; decide)
  cases secondFound.symm.trans found
  obtain ⟨_, found, same⟩ := linked (by decide)
  cases firstFound.symm.trans found
  refine ⟨Sample.edited_collisionFree, recalled (List.forall_mem_singleton.mpr differ), same, ?_⟩
  exact again Sample.first.blockInfo (by simp [Header.blockInfo])

/-- An import under the hash of a header hides the header, whose link is not found by its hash any more. -/
theorem reimport_hides_header :
    let chain := (create [] 10).edited [.extend 1, .importBlock Sample.first.blockInfo]
    chain.header? 1 = some Sample.first ∧ chain.headerByHash? Sample.first.hash ≠ some Sample.first := by
  intro chain
  have hidden : chain.headerByHash? Sample.first.hash = some Sample.first.blockInfo.unlinked := by
    change (((create [] 10).edited [.extend 1]).importBlock Sample.first.blockInfo).headerByHash? Sample.first.hash = _
    exact (headerByHash?_importBlock ..).trans (if_pos rfl)
  have linked : Sample.first.parentHash ≠ FixedBytes.zero 32 := by decide +kernel
  refine ⟨rfl, fun found => linked ?_⟩
  rw [hidden] at found
  exact (congrArg Header.parentHash (Option.some.inj found)).symm

end MemoryChain

end MasternodeBft
