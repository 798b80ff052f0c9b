import MasternodeBft.Host.Name
import MasternodeBft.Proofs.RecordText

/-!
Plain names of hosts are their own normal form. The tables of characters begin beyond ASCII, apart from the small
letters for capitals; so where a name is of visible characters of ASCII, without capitals, there is nothing in it
to replace or to join.
-/

namespace MasternodeBft.Host

/-- A visible character of ASCII that is no capital. -/
structure PlainChar (char : Char) : Prop where
  visible : 0x20 < char.toNat
  ascii : char.toNat < 0x80
  small : char.toNat < 65 ∨ 91 ≤ char.toNat

variable {char : Char} {start : Nat}

theorem PlainChar.ne_ofNat (plain : PlainChar char) {code : Nat} (beyond : 0x80 ≤ code) : Char.ofNat code ≠ char := by
  rintro rfl
  have ascii := plain.ascii
  have visible := plain.visible
  unfold Char.ofNat at ascii visible
  by_cases valid : code.isValidChar
  · rw [dif_pos valid] at ascii
    exact absurd beyond (Nat.not_le.mpr ascii)
  · rw [dif_neg valid] at visible
    cases visible

/-! What a table lists lies behind the code point at which it starts. -/

namespace Table

theorem start_le_of_mem_placed {ρ : Type} {covered : ρ → Nat} {rows : List (Nat × ρ)} {row : Nat × ρ}
    (listed : row ∈ placed covered start rows) : start ≤ row.1 := by
  fun_induction placed covered start rows with
  | case1 => cases listed
  | case2 start gap row rest ih =>
    rcases List.mem_cons.mp listed with rfl | later
    · exact Nat.le_add_right _ _
    · exact Nat.le_trans (by omega) (ih later)

theorem start_le_of_mem_plain {text : String} {run : Run} (listed : run ∈ plain start text) : start ≤ run.first := by
  obtain ⟨row, placed, rfl⟩ := List.mem_map.mp listed
  exact start_le_of_mem_placed placed

theorem start_le_of_mem_marked {text : String} {run : Run} (listed : run ∈ marked start text) : start ≤ run.first := by
  obtain ⟨row, placed, rfl⟩ := List.mem_map.mp listed
  exact start_le_of_mem_placed placed

theorem not_holds_of_begins {runs : List Run} (begins : ∀ run ∈ runs, start ≤ run.first)
    (below : char.toNat < start) : ∀ run ∈ runs, ¬run.holds char = true := by
  intro run listed held
  have before : char.toNat < run.first := Nat.lt_of_lt_of_le below (begins run listed)
  unfold Run.holds at held
  rw [decide_eq_false (Nat.not_le.mpr before), Bool.false_and] at held
  cases held

theorem holds_plain_of_below (below : char.toNat < start) (text : String) : holds (plain start text) char = false :=
  List.any_eq_false.mpr (not_holds_of_begins (fun _ => start_le_of_mem_plain) below)

theorem find?_marked_of_below (below : char.toNat < start) (text : String) :
    (marked start text).find? (·.holds char) = none :=
  List.find?_eq_none.mpr (not_holds_of_begins (fun _ => start_le_of_mem_marked) below)

theorem property_marked_of_below (below : char.toNat < start) (text : String) :
    property (marked start text) char = 0 := by
  unfold property
  rw [find?_marked_of_below below]
  rfl

end Table

namespace Replacement

theorem image?_of_plain (plain : PlainChar char) {shift : Shift} (listed : shift ∈ Shift.all) :
    shift.image? char.toNat = none := by
  unfold Shift.image?
  refine if_neg ?_
  rintro ⟨from_first, -, within⟩
  have ascii := plain.ascii
  rcases List.mem_cons.mp listed with rfl | later
  · change 65 ≤ char.toNat at from_first
    change (char.toNat - 65) / 1 < 26 at within
    have small := plain.small
    omega
  · obtain ⟨row, placed, rfl⟩ := List.mem_map.mp later
    have beyond := Table.start_le_of_mem_placed placed
    change row.1 ≤ char.toNat at from_first
    omega

theorem codes_of_plain (plain : PlainChar char) : codes char.toNat = [char.toNat] := by
  have ascii := plain.ascii
  have unshifted : Shift.all.findSome? (·.image? char.toNat) = none :=
    List.findSome?_eq_none_iff.mpr fun _ listed => image?_of_plain plain listed
  have single : Single.all.find? (fun entry => entry.1 = char.toNat) = none := by
    refine List.find?_eq_none.mpr fun entry listed same => ?_
    have beyond := Table.start_le_of_mem_placed listed
    have code := of_decide_eq_true same
    omega
  have unspelled : Spelling.all.find? (fun entry => entry.1 = char.toNat) = none := by
    refine List.find?_eq_none.mpr fun entry listed same => ?_
    have beyond := Table.start_le_of_mem_placed listed
    have code := of_decide_eq_true same
    omega
  unfold codes
  rw [unshifted, single, unspelled]
  rfl

theorem of?_of_plain (plain : PlainChar char) : of? char = some [char] := by
  have allowed : Table.holds disallowed char = false := Table.holds_plain_of_below plain.ascii _
  have kept : Table.holds ignored char = false :=
    Table.holds_plain_of_below (Nat.lt_of_lt_of_le plain.ascii (by decide)) _
  unfold of?
  rw [allowed, kept, codes_of_plain plain, List.map_singleton, Char.ofNat_toNat]
  rfl

end Replacement

namespace Composition

theorem markClass_of_plain (plain : PlainChar char) : markClass char = 0 :=
  Table.property_marked_of_below (Nat.lt_of_lt_of_le plain.ascii (by decide)) _

theorem codes_of_mem_pairs {entry : Char × Char × Char} (listed : entry ∈ pairs) :
    (∃ code, 224 ≤ code ∧ entry.1 = Char.ofNat code) ∧ ∃ code, 768 ≤ code ∧ entry.2.2 = Char.ofNat code := by
  obtain ⟨row, placed, rfl⟩ := List.mem_map.mp listed
  exact ⟨⟨row.1, Table.start_le_of_mem_placed placed, rfl⟩, _, Nat.le_add_right _ _, rfl⟩

theorem parts_of_plain (plain : PlainChar char) : parts pairs 3 char = [char] := by
  have ascii := plain.ascii
  have whole : syllableParts? char = none := by
    unfold syllableParts? syllableBase
    rw [if_neg (by omega)]
  have single : pairs.find? (fun entry => entry.1 = char) = none := by
    refine List.find?_eq_none.mpr fun entry listed same => ?_
    obtain ⟨⟨code, beyond, first⟩, -⟩ := codes_of_mem_pairs listed
    have whole : entry.1 = char := of_decide_eq_true same
    exact plain.ne_ofNat (Nat.le_trans (by decide) beyond) (first.symm.trans whole)
  unfold parts
  rw [whole, single]

theorem join?_of_plain (first : Char) (plain : PlainChar char) : join? first char = none := by
  have ascii := plain.ascii
  have apart : syllable? first char = none := by
    unfold syllable? vowelBase trailingBase
    rw [if_neg (by omega), if_neg (by omega)]
  have unpaired : pairs.find? (fun entry => entry.2.1 = first ∧ entry.2.2 = char) = none := by
    refine List.find?_eq_none.mpr fun entry listed same => ?_
    obtain ⟨-, code, beyond, second⟩ := codes_of_mem_pairs listed
    exact plain.ne_ofNat (Nat.le_trans (by decide) beyond) (second.symm.trans (of_decide_eq_true same).2)
  unfold join?
  rw [apart, unpaired]
  rfl

section Plain

variable {chars : List Char}

theorem foldr_place_of_plain (plain : ∀ char ∈ chars, PlainChar char) : chars.foldr place [] = chars := by
  induction chars with
  | nil => rfl
  | cons char rest ih =>
    obtain ⟨-, others⟩ := List.forall_mem_cons.mp plain
    rw [List.foldr_cons, ih others]
    cases rest with
    | nil => rfl
    | cons next rest =>
      have unmarked := markClass_of_plain (others next List.mem_cons_self)
      unfold place
      rw [unmarked, if_neg fun marked => Nat.lt_irrefl 0 marked.1]

theorem joinFrom_of_plain (char : Char) (plain : ∀ char ∈ chars, PlainChar char) :
    joinFrom char [] chars = char :: chars := by
  induction chars generalizing char with
  | nil => rfl
  | cons next rest ih =>
    obtain ⟨first, others⟩ := List.forall_mem_cons.mp plain
    unfold joinFrom
    simp only [List.head?_nil, Option.any_none, Bool.false_eq_true, if_false, join?_of_plain char first,
      markClass_of_plain first, if_true, List.reverse_nil, List.nil_append, ih next others]

theorem compose_of_plain (plain : ∀ char ∈ chars, PlainChar char) : compose chars = chars := by
  have whole : chars.flatMap (parts pairs 3) = chars := by
    induction chars with
    | nil => rfl
    | cons char rest ih =>
      obtain ⟨first, others⟩ := List.forall_mem_cons.mp plain
      rw [List.flatMap_cons, parts_of_plain first, ih others]
      rfl
  unfold compose
  rw [whole, foldr_place_of_plain plain]
  cases chars with
  | nil => rfl
  | cons char rest =>
    obtain ⟨first, others⟩ := List.forall_mem_cons.mp plain
    unfold joinAll
    rw [if_pos (markClass_of_plain first), joinFrom_of_plain char others]

end Plain

end Composition

theorem Direction.not_turns_of_plain (plain : PlainChar char) : turns char = false := by
  have beyond : char.toNat < 216 := Nat.lt_of_lt_of_le plain.ascii (by decide)
  have property : Table.property runs char = 0 ∨ Table.property runs char = 2 ∨ Table.property runs char = 4 := by
    unfold Table.property runs
    rw [List.find?_append, Table.find?_marked_of_below beyond, Option.or_none]
    cases found : List.find? (·.holds char)
        ([⟨0, 48, 4⟩, ⟨48, 10, 2⟩, ⟨58, 39, 4⟩, ⟨123, 93, 4⟩] : List Table.Run) with
    | none => exact .inl rfl
    | some run =>
      have listed := List.mem_of_find?_eq_some found
      simp only [List.mem_cons, List.not_mem_nil, or_false] at listed
      rcases listed with rfl | rfl | rfl | rfl <;> simp
  unfold turns of
  rcases property with same | same | same <;> rw [same] <;> rfl

theorem Joining.validFrom_of_plain {chars : List Char} (plain : ∀ char ∈ chars, PlainChar char) (before : List Char) :
    validFrom before chars = true := by
  induction chars generalizing before with
  | nil => rfl
  | cons char rest ih =>
    obtain ⟨first, others⟩ := List.forall_mem_cons.mp plain
    have free : char ≠ nonJoiner ∧ char ≠ joiner :=
      ⟨(first.ne_ofNat (by decide)).symm, (first.ne_ofNat (by decide)).symm⟩
    unfold validFrom
    rw [decide_eq_true free, Bool.true_or, Bool.true_and, ih others]

namespace Name

/-- A name of plain characters, none of which is forbidden, and without labels that are spelled in ASCII. -/
structure Plain (name : List Char) : Prop where
  nonempty : name ≠ []
  chars : ∀ char ∈ name, PlainChar char
  allowed : ∀ char ∈ name, forbidden char = false
  unspelled : ∀ label ∈ labels name, label.take 4 ≠ spelled

variable {name : List Char}

theorem Plain.ne (plain : Plain name) (listed : char ∈ name) {other : Char} (kept : forbidden other = true) :
    char ≠ other := by
  rintro rfl
  rw [plain.allowed char listed] at kept
  cases kept

theorem mem_of_mem_labels {label : List Char} (listed : label ∈ labels name) (mem : char ∈ label) : char ∈ name := by
  suffices joined : ∀ parts : List (List Char), label ∈ parts → char ∈ ['.'].intercalate parts by
    rw [← @List.intercalate_splitOn _ name _ _ '.']
    exact joined _ listed
  intro parts listed
  induction parts with
  | nil => cases listed
  | cons part rest ih =>
    cases rest with
    | nil =>
      rw [List.mem_singleton.mp listed] at mem
      simpa using mem
    | cons next rest =>
      rw [List.intercalate_cons_cons]
      rcases List.mem_cons.mp listed with rfl | later
      · simp [mem]
      · simp [ih later]

theorem Plain.normal?_eq (plain : Plain name) : normal? name = some name := by
  have kept : name.mapM Replacement.of? = some (name.map fun char => [char]) := by
    have each := @Json.mapM_map _ _ _ id Replacement.of? (fun char => [char]) name fun char listed =>
      Replacement.of?_of_plain (plain.chars char listed)
    rwa [List.map_id] at each
  have joined : (name.map fun char => [char]).flatten = name := by
    rw [← List.flatMap_def, List.flatMap_singleton']
  unfold normal?
  rw [kept, Option.map_some, joined, Composition.compose_of_plain plain.chars]

theorem Plain.label?_eq (plain : Plain name) : (labels name).mapM label? = some (labels name) := by
  have each := @Json.mapM_map _ _ _ id label? id (labels name) fun label listed =>
    if_neg (plain.unspelled label listed)
  rwa [List.map_id] at each

theorem Plain.validLabels (plain : Plain name) : Name.validLabels (labels name) = true := by
  have chars : ∀ label ∈ labels name, ∀ char ∈ label, PlainChar char :=
    fun label listed char mem => plain.chars char (mem_of_mem_labels listed mem)
  have each : (labels name).all validLabel = true := by
    refine List.all_eq_true.mpr fun label listed => ?_
    have joiners : Joining.valid label = true := Joining.validFrom_of_plain (chars label listed) []
    unfold validLabel
    rw [joiners, Bool.and_true]
    cases label with
    | nil => rfl
    | cons char rest =>
      have first := chars _ listed char List.mem_cons_self
      have unmarked : Table.holds marks char = false :=
        Table.holds_plain_of_below (Nat.lt_of_lt_of_le first.ascii (by decide)) _
      rw [List.head?_cons, Option.any_some, unmarked]
      rfl
  have straight : (labels name).flatten.any Direction.turns = false := by
    refine List.any_eq_false.mpr fun char listed => ?_
    obtain ⟨label, present, mem⟩ := List.mem_flatten.mp listed
    rw [Direction.not_turns_of_plain (chars label present char mem)]
    exact Bool.false_ne_true
  unfold Name.validLabels
  rw [each, straight]
  rfl

/-- A plain name is its own normal form. -/
theorem Plain.ofChars?_eq (plain : Plain name) : ofChars? name = some name := by
  have allowed : name.all (!forbidden ·) = true := by
    refine List.all_eq_true.mpr fun char listed => ?_
    rw [plain.allowed char listed]
    rfl
  unfold ofChars?
  rw [plain.normal?_eq, Option.bind_eq_bind, Option.bind_some, plain.label?_eq, Option.bind_eq_bind,
    Option.bind_some, if_pos ⟨plain.nonempty, allowed, plain.validLabels⟩]

end Name

end MasternodeBft.Host
