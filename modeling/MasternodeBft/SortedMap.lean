import MasternodeBft.Bytes

/-! Finite maps from 64-bit keys, held as lists in the order of the keys. -/

namespace MasternodeBft

/-- Entries with strictly increasing keys. -/
structure SortedMap (α : Type) where
  entries : List (UInt64 × α)
  increasing : entries.Pairwise fun first second => first.1 < second.1

namespace SortedMap

variable {α : Type}

def empty : SortedMap α := ⟨[], .nil⟩

def place (key : UInt64) (value : α) : List (UInt64 × α) → List (UInt64 × α)
  | [] => [(key, value)]
  | entry :: rest =>
    if key < entry.1 then (key, value) :: entry :: rest
    else if key = entry.1 then (key, value) :: rest
    else entry :: place key value rest

theorem mem_place {key : UInt64} {value : α} {entries : List (UInt64 × α)} {entry : UInt64 × α}
    (present : entry ∈ place key value entries) : entry.1 = key ∨ entry ∈ entries := by
  induction entries with
  | nil => simp_all [place]
  | cons head rest ih =>
    unfold place at present
    split at present
    · rcases List.mem_cons.mp present with same | later
      · exact .inl (by rw [same])
      · exact .inr later
    · split at present
      · rcases List.mem_cons.mp present with same | later
        · exact .inl (by rw [same])
        · exact .inr (List.mem_cons_of_mem _ later)
      · rcases List.mem_cons.mp present with same | later
        · exact .inr (by rw [same]; exact List.mem_cons_self ..)
        · exact (ih later).imp id (List.mem_cons_of_mem _)

theorem place_increasing (key : UInt64) (value : α) {entries : List (UInt64 × α)}
    (sorted : entries.Pairwise fun first second => first.1 < second.1) :
    (place key value entries).Pairwise fun first second => first.1 < second.1 := by
  induction entries with
  | nil => simp [place]
  | cons head rest ih =>
    rw [List.pairwise_cons] at sorted
    unfold place
    split
    · rename_i below
      refine List.pairwise_cons.mpr ⟨fun entry present => ?_, List.pairwise_cons.mpr sorted⟩
      rcases List.mem_cons.mp present with same | later
      · rw [same]; exact below
      · exact UInt64.lt_trans below (sorted.1 entry later)
    · split
      · rename_i same
        exact List.pairwise_cons.mpr ⟨fun entry present => same ▸ sorted.1 entry present, sorted.2⟩
      · rename_i notBelow different
        refine List.pairwise_cons.mpr ⟨fun entry present => ?_, ih sorted.2⟩
        rcases mem_place present with same | later
        · rw [same]
          exact UInt64.lt_of_le_of_ne (UInt64.not_lt.mp notBelow) (Ne.symm different)
        · exact sorted.1 entry later

def insert (map : SortedMap α) (key : UInt64) (value : α) : SortedMap α :=
  ⟨place key value map.entries, place_increasing key value map.increasing⟩

def ofList (entries : List (UInt64 × α)) : SortedMap α :=
  entries.foldl (fun map entry => map.insert entry.1 entry.2) empty

def get? (map : SortedMap α) (key : UInt64) : Option α :=
  (map.entries.find? fun entry => entry.1 = key).map Prod.snd

def first? (map : SortedMap α) : Option α := map.entries.head?.map Prod.snd

def last? (map : SortedMap α) : Option α := map.entries.getLast?.map Prod.snd

/-- The value under the greatest key that does not exceed a bound. -/
def upTo? (map : SortedMap α) (bound : UInt64) : Option α :=
  ((map.entries.filter fun entry => entry.1 ≤ bound).getLast?).map Prod.snd

@[simp] theorem get?_insert_self (map : SortedMap α) (key : UInt64) (value : α) :
    (map.insert key value).get? key = some value := by
  simp only [get?, insert]
  generalize map.entries = entries
  induction entries with
  | nil => simp [place]
  | cons entry rest ih =>
    unfold place
    split
    · simp
    · split
      · simp
      · rename_i different
        have apart : ¬entry.1 = key := fun same => different same.symm
        simpa [apart] using ih

theorem get?_insert_of_ne (map : SortedMap α) {key other : UInt64} (value : α) (different : key ≠ other) :
    (map.insert key value).get? other = map.get? other := by
  simp only [get?, insert]
  generalize map.entries = entries
  induction entries with
  | nil => simp [place, different]
  | cons entry rest ih =>
    unfold place
    split
    · simp [different]
    · split
      · rename_i same
        have apart : ¬entry.1 = other := same ▸ different
        simp [different, apart]
      · by_cases found : entry.1 = other
        · simp [found]
        · simpa [found] using ih

/-! What the look-ups find, by the order of the keys. -/

variable {entries : List (UInt64 × α)}

theorem eq_of_key (sorted : entries.Pairwise fun first second => first.1 < second.1) {entry other : UInt64 × α}
    (present : entry ∈ entries) (listed : other ∈ entries) (same : entry.1 = other.1) : entry = other := by
  induction entries with
  | nil => cases present
  | cons head rest ih =>
    obtain ⟨above, sorted⟩ := List.pairwise_cons.mp sorted
    rcases List.mem_cons.mp present with rfl | later
    · rcases List.mem_cons.mp listed with rfl | after
      · rfl
      · exact absurd (same ▸ above other after) (UInt64.lt_irrefl _)
    · rcases List.mem_cons.mp listed with rfl | after
      · exact absurd (same ▸ above entry later) (UInt64.lt_irrefl _)
      · exact ih sorted later after

theorem getLast?_eq_some_iff (sorted : entries.Pairwise fun first second => first.1 < second.1)
    {entry : UInt64 × α} :
    entries.getLast? = some entry ↔ entry ∈ entries ∧ ∀ other ∈ entries, other.1 ≤ entry.1 := by
  have greatest {last : UInt64 × α} (ends : entries.getLast? = some last) :
      last ∈ entries ∧ ∀ other ∈ entries, other.1 ≤ last.1 := by
    obtain ⟨before, rfl⟩ := List.getLast?_eq_some_iff.mp ends
    refine ⟨List.mem_append_right before List.mem_cons_self, fun other listed => ?_⟩
    rcases List.mem_append.mp listed with earlier | same
    · exact UInt64.le_of_lt ((List.pairwise_append.mp sorted).2.2 other earlier last List.mem_cons_self)
    · rw [List.mem_singleton.mp same]
      exact UInt64.le_refl _
  refine ⟨greatest, fun ⟨present, above⟩ => ?_⟩
  cases ends : entries.getLast? with
  | none =>
    rw [List.getLast?_eq_none_iff.mp ends] at present
    cases present
  | some last =>
    obtain ⟨listed, upper⟩ := greatest ends
    have same : last.1 = entry.1 := UInt64.le_antisymm (above last listed) (upper entry present)
    rw [eq_of_key sorted listed present same]

theorem head?_eq_some_iff (sorted : entries.Pairwise fun first second => first.1 < second.1)
    {entry : UInt64 × α} :
    entries.head? = some entry ↔ entry ∈ entries ∧ ∀ other ∈ entries, entry.1 ≤ other.1 := by
  cases entries with
  | nil => simp
  | cons head rest =>
    have above := (List.pairwise_cons.mp sorted).1
    have least : ∀ other ∈ head :: rest, head.1 ≤ other.1 := by
      intro other listed
      rcases List.mem_cons.mp listed with rfl | later
      · exact UInt64.le_refl _
      · exact UInt64.le_of_lt (above other later)
    rw [List.head?_cons, Option.some_inj]
    constructor
    · rintro rfl
      exact ⟨List.mem_cons_self, least⟩
    · intro ⟨present, below⟩
      have same : head.1 = entry.1 := UInt64.le_antisymm (least entry present) (below head List.mem_cons_self)
      exact eq_of_key sorted List.mem_cons_self present same

variable {map : SortedMap α} {key bound : UInt64} {value : α}

theorem get?_eq_some_iff : map.get? key = some value ↔ (key, value) ∈ map.entries := by
  have keyed {entry : UInt64 × α} (found : map.entries.find? (fun entry => entry.1 = key) = some entry) :
      entry.1 = key := by simpa using List.find?_some found
  unfold get?
  rw [Option.map_eq_some_iff]
  constructor
  · rintro ⟨entry, found, rfl⟩
    rw [← keyed found]
    exact List.mem_of_find?_eq_some found
  · intro present
    cases found : map.entries.find? fun entry => entry.1 = key with
    | none => simpa using List.find?_eq_none.mp found (key, value) present
    | some entry =>
      rw [eq_of_key map.increasing (List.mem_of_find?_eq_some found) present (keyed found)]
      exact ⟨(key, value), rfl, rfl⟩

theorem mem_insert_self (map : SortedMap α) (key : UInt64) (value : α) :
    (key, value) ∈ (map.insert key value).entries := get?_eq_some_iff.mp (get?_insert_self map key value)

theorem mem_insert {entry : UInt64 × α} (listed : entry ∈ (map.insert key value).entries) :
    entry = (key, value) ∨ entry ∈ map.entries := by
  apply (mem_place listed).imp_left
  intro same
  exact eq_of_key (map.insert key value).increasing listed (mem_insert_self map key value) same

theorem upTo?_eq_some_iff : map.upTo? bound = some value ↔
    ∃ key, (key, value) ∈ map.entries ∧ key ≤ bound ∧ ∀ entry ∈ map.entries, entry.1 ≤ bound → entry.1 ≤ key := by
  have sorted := map.increasing.filter fun entry => decide (entry.1 ≤ bound)
  unfold upTo?
  rw [Option.map_eq_some_iff]
  constructor
  · rintro ⟨⟨key, value⟩, ends, rfl⟩
    obtain ⟨present, greatest⟩ := (getLast?_eq_some_iff sorted).mp ends
    simp only [List.mem_filter, decide_eq_true_eq] at present greatest
    exact ⟨key, present.1, present.2, fun entry listed below => greatest entry ⟨listed, below⟩⟩
  · rintro ⟨key, present, below, greatest⟩
    refine ⟨(key, value), (getLast?_eq_some_iff sorted).mpr ?_, rfl⟩
    simp only [List.mem_filter, decide_eq_true_eq]
    exact ⟨⟨present, below⟩, fun entry ⟨listed, under⟩ => greatest entry listed under⟩

theorem upTo?_eq_none_iff : map.upTo? bound = none ↔ ∀ entry ∈ map.entries, bound < entry.1 := by
  unfold upTo?
  simp only [Option.map_eq_none_iff, List.getLast?_eq_none_iff, List.filter_eq_nil_iff, decide_eq_true_eq,
    UInt64.not_le]

theorem first?_eq_some_iff : map.first? = some value ↔
    ∃ key, (key, value) ∈ map.entries ∧ ∀ entry ∈ map.entries, key ≤ entry.1 := by
  unfold first?
  rw [Option.map_eq_some_iff]
  constructor
  · rintro ⟨⟨key, value⟩, begins, rfl⟩
    exact ⟨key, (head?_eq_some_iff map.increasing).mp begins⟩
  · rintro ⟨key, least⟩
    exact ⟨(key, value), (head?_eq_some_iff map.increasing).mpr least, rfl⟩

theorem last?_eq_some_iff : map.last? = some value ↔
    ∃ key, (key, value) ∈ map.entries ∧ ∀ entry ∈ map.entries, entry.1 ≤ key := by
  unfold last?
  rw [Option.map_eq_some_iff]
  constructor
  · rintro ⟨⟨key, value⟩, ends, rfl⟩
    exact ⟨key, (getLast?_eq_some_iff map.increasing).mp ends⟩
  · rintro ⟨key, greatest⟩
    exact ⟨(key, value), (getLast?_eq_some_iff map.increasing).mpr greatest, rfl⟩

end SortedMap

end MasternodeBft
