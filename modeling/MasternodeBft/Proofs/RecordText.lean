import MasternodeBft.Json.Record
import MasternodeBft.Proofs.JsonText

/-!
Typed readings undo typed writings. Records are written with plain keys, each of which stands once, so
that every field is found again under its own.
-/

namespace MasternodeBft

/-- Printable ASCII characters that need no escape. -/
def Legible (chars : List Char) : Prop :=
  ∀ char ∈ chars, 32 ≤ char.toNat ∧ char.toNat < 128 ∧ char ≠ '"' ∧ char ≠ '\\'

instance (chars : List Char) : Decidable (Legible chars) := List.decidableBAll _ chars

namespace Json

namespace Quoted

theorem escape_of_legible {char : Char} (printable : 32 ≤ char.toNat) (ascii : char.toNat < 128)
    (quote : char ≠ '"') (backslash : char ≠ '\\') : escape char = [UInt8.ofNat char.toNat] := by
  have control : ∀ other : Char, other.toNat < 32 → char ≠ other := by
    intro other below same
    rw [same] at printable
    omega
  unfold escape Text.Utf8.charBytes
  rw [if_neg quote, if_neg backslash, if_neg (control _ (by decide)), if_neg (control _ (by decide)),
    if_neg (control _ (by decide)), if_neg (control _ (by decide)), if_neg (control _ (by decide)),
    if_neg (Nat.not_lt.mpr printable), if_pos ascii]

theorem raw_ofChars {chars : List Char} (legible : Legible chars) :
    (ofChars chars).raw = chars.map fun char => UInt8.ofNat char.toNat := by
  change chars.flatMap escape = _
  induction chars with
  | nil => rfl
  | cons char chars ih =>
    obtain ⟨⟨printable, ascii, quote, backslash⟩, others⟩ := List.forall_mem_cons.mp legible
    rw [List.flatMap_cons, escape_of_legible printable ascii quote backslash, ih others]
    rfl

theorem toNat_ofNat_of_ascii {char : Char} (ascii : char.toNat < 128) :
    (UInt8.ofNat char.toNat).toNat = char.toNat :=
  UInt8.toNat_ofNat_of_lt' (by change char.toNat < 256; omega)

theorem byte_ne {char other : Char} (ascii : char.toNat < 128) (differ : char ≠ other) {code : UInt8}
    (names : code.toNat = other.toNat) : UInt8.ofNat char.toNat ≠ code := by
  intro same
  have codes : char.toNat = other.toNat := by rw [← names, ← same, toNat_ofNat_of_ascii ascii]
  exact differ (Char.toNat_inj.mp codes)

theorem passes_ofChars {chars : List Char} (legible : Legible chars) : Token.Passes (ofChars chars).raw := by
  rw [raw_ofChars legible]
  apply Token.passes_of_plain
  intro byte present
  obtain ⟨char, listed, rfl⟩ := List.mem_map.mp present
  obtain ⟨printable, ascii, quote, backslash⟩ := legible char listed
  refine ⟨?_, byte_ne ascii quote rfl, byte_ne ascii backslash rfl⟩
  rw [toNat_ofNat_of_ascii ascii]
  exact printable

theorem unescapeAfter_of_plain {bytes : Bytes} (plain : ∀ byte ∈ bytes, byte ≠ 92) (done : Bytes) :
    unescapeAfter done bytes = some (done.reverse ++ bytes) := by
  induction bytes generalizing done with
  | nil => rw [unescapeAfter, List.append_nil]
  | cons byte bytes ih =>
    obtain ⟨first, others⟩ := List.forall_mem_cons.mp plain
    have onward := ih others (byte :: done)
    rw [List.reverse_cons, List.append_assoc, List.singleton_append] at onward
    rw [← onward]
    conv => lhs; unfold unescapeAfter
    split
    · rename_i same
      exact absurd same (List.cons_ne_nil _ _)
    · rename_i same
      exact absurd (List.cons.inj same).1 first
    · rename_i same
      exact absurd (List.cons.inj same).1 first
    · rename_i same
      cases same
      rfl

end Quoted

end Json

theorem Text.Utf8.readAfter_of_ascii {chars : List Char} (ascii : ∀ char ∈ chars, char.toNat < 128)
    (done : List Char) :
    readAfter done (chars.map fun char => UInt8.ofNat char.toNat) = some (done.reverse ++ chars) := by
  induction chars generalizing done with
  | nil => rw [List.map_nil, readAfter, List.append_nil]
  | cons char chars ih =>
    obtain ⟨first, others⟩ := List.forall_mem_cons.mp ascii
    have code := Json.Quoted.toNat_ofNat_of_ascii first
    have onward := ih others (char :: done)
    rw [List.reverse_cons, List.append_assoc, List.singleton_append] at onward
    rw [← onward, List.map_cons]
    conv => lhs; unfold readAfter
    rw [code, if_pos first, Char.ofNat_toNat]

namespace Json

theorem Quoted.chars?_ofChars {chars : List Char} (legible : Legible chars) :
    (ofChars chars).chars? = some chars := by
  have ascii : ∀ char ∈ chars, char.toNat < 128 := fun char listed => (legible char listed).2.1
  have plain : ∀ byte ∈ chars.map (fun char => UInt8.ofNat char.toNat), byte ≠ 92 := by
    intro byte present
    obtain ⟨char, listed, rfl⟩ := List.mem_map.mp present
    obtain ⟨-, below, -, backslash⟩ := legible char listed
    exact byte_ne below backslash rfl
  unfold chars?
  rw [raw_ofChars legible, unescapeAfter_of_plain plain]
  exact Text.Utf8.readAfter_of_ascii ascii []

theorem Quoted.text?_ofText {text : String} (legible : Legible text.toList) :
    (ofText text).text? = some text := by
  unfold text? ofText
  rw [chars?_ofChars legible]
  exact congrArg some String.ofList_toList

/-! Values that are written. -/

theorem toWord?_word (value : UInt64) : (word value).toWord? = some value := by
  have below : value.toNat < UInt64.size := value.toNat_lt
  change ((Number.ofNat value.toNat).toNat? UInt64.size).map UInt64.ofNat = _
  have read : (Number.ofNat value.toNat).toNat? UInt64.size = some value.toNat :=
    if_pos ⟨Bool.false_ne_true, rfl, rfl, below⟩
  rw [read, Option.map_some, UInt64.ofNat_toNat]

theorem toByte?_nat (byte : UInt8) : (nat byte.toNat).toByte? = some byte := by
  have below : byte.toNat < 256 := byte.toNat_lt
  change ((Number.ofNat byte.toNat).toNat? 256).map UInt8.ofNat = _
  have read : (Number.ofNat byte.toNat).toNat? 256 = some byte.toNat :=
    if_pos ⟨Bool.false_ne_true, rfl, rfl, below⟩
  rw [read, Option.map_some, UInt8.ofNat_toNat]

theorem mapM_map {α β γ : Type} {write : α → β} {read : β → Option γ} {change : α → γ} {values : List α}
    (each : ∀ value ∈ values, read (write value) = some (change value)) :
    (values.map write).mapM read = some (values.map change) := by
  induction values with
  | nil => rfl
  | cons value values ih =>
    obtain ⟨first, others⟩ := List.forall_mem_cons.mp each
    rw [List.map_cons, List.mapM_cons, first, ih others]
    rfl

theorem mapM_map_self {α β : Type} {write : α → β} {read : β → Option α}
    (each : ∀ value, read (write value) = some value) (values : List α) :
    (values.map write).mapM read = some values := by
  rw [mapM_map fun value _ => each value, List.map_id']

theorem toBytes?_bytes (value : Bytes) : (bytes value).toBytes? = some value :=
  mapM_map_self toByte?_nat value

theorem toFixedBytes?_bytes {length : Nat} (value : FixedBytes length) :
    (bytes value.bytes).toFixedBytes? length = some value := by
  unfold toFixedBytes?
  rw [toBytes?_bytes]
  exact FixedBytes.ofBytes?_bytes value

theorem toList?_array {α : Type} {write : α → Json} {read : Json → Option α}
    (each : ∀ value, read (write value) = some value) (values : List α) :
    (array (values.map write)).toList? read = some values := mapM_map_self each values

theorem field?_of_mem {fields : List (String × Json)} (distinct : (fields.map Prod.fst).Nodup)
    {field : String × Json} (present : field ∈ fields) : field? fields field.1 = some (some field.2) := by
  have alone : fields.filter (fun other => other.1 = field.1) = [field] := by
    induction fields with
    | nil => cases present
    | cons first fields ih =>
      obtain ⟨absent, distinct⟩ := List.nodup_cons.mp distinct
      rcases List.mem_cons.mp present with rfl | present
      · have others : fields.filter (fun other => other.1 = field.1) = [] := by
          apply List.filter_eq_nil_iff.mpr
          intro other listed same
          exact absent (List.mem_map.mpr ⟨other, listed, of_decide_eq_true same⟩)
        rw [List.filter_cons_of_pos (by simp), others]
      · have differ : first.1 ≠ field.1 := fun same => absent (same ▸ List.mem_map_of_mem present)
        rw [List.filter_cons_of_neg (by simpa using differ), ih distinct present]
  unfold field?
  rw [alone]

structure Keys (names : List String) : Prop where
  legible : ∀ name ∈ names, Legible name.toList
  distinct : names.Nodup

instance (names : List String) : Decidable (Keys names) :=
  have : Decidable (∀ name ∈ names, Legible name.toList) := List.decidableBAll _ names
  decidable_of_iff ((∀ name ∈ names, Legible name.toList) ∧ names.Nodup)
    ⟨fun both => ⟨both.1, both.2⟩, fun keys => ⟨keys.legible, keys.distinct⟩⟩

theorem toFields?_record {fields : List (String × Json)}
    (legible : ∀ name ∈ fields.map Prod.fst, Legible name.toList) :
    (record fields).toFields? = some fields := by
  change (fields.map fun field => (Quoted.ofText field.1, field.2)).mapM _ = _
  induction fields with
  | nil => rfl
  | cons field fields ih =>
    obtain ⟨first, others⟩ := List.forall_mem_cons.mp legible
    rw [List.map_cons, List.mapM_cons, Quoted.text?_ofText first, ih others]
    rfl

theorem mapM_field? {fields : List (String × Json)} (distinct : (fields.map Prod.fst).Nodup)
    {part : List (String × Json)} (among : part ⊆ fields) :
    (part.map Prod.fst).mapM (field? fields) = some (part.map fun field => some field.2) := by
  induction part with
  | nil => rfl
  | cons field part ih =>
    obtain ⟨present, others⟩ := List.cons_subset.mp among
    rw [List.map_cons, List.mapM_cons, field?_of_mem distinct present, ih others]
    rfl

theorem toRecord?_record {names : List String} {fields : List (String × Json)} (keys : Keys names)
    (named : fields.map Prod.fst = names) :
    (record fields).toRecord? names = some (fields.map fun field => some field.2) := by
  subst named
  change (record fields).toFields?.bind _ = _
  rw [toFields?_record keys.legible]
  exact mapM_field? keys.distinct (List.Subset.refl fields)

/-! Readable values. -/

theorem readable_word (value : UInt64) : Readable (word value) := .number _

theorem readable_bytes (value : Bytes) : Readable (bytes value) := by
  apply Readable.array
  intro item listed
  obtain ⟨byte, -, rfl⟩ := List.mem_map.mp listed
  exact .number _

theorem readable_array_map {α : Type} {write : α → Json} (each : ∀ value, Readable (write value))
    (values : List α) : Readable (array (values.map write)) := by
  apply Readable.array
  intro item listed
  obtain ⟨value, -, rfl⟩ := List.mem_map.mp listed
  exact each value

theorem readable_record {names : List String} {fields : List (String × Json)} (keys : Keys names)
    (named : fields.map Prod.fst = names) (each : ∀ field ∈ fields, Readable field.2) :
    Readable (record fields) := by
  apply Readable.object
  · intro field listed
    obtain ⟨source, present, rfl⟩ := List.mem_map.mp listed
    have among : source.1 ∈ names := named ▸ List.mem_map_of_mem present
    exact Quoted.passes_ofChars (keys.legible _ among)
  · intro field listed
    obtain ⟨source, present, rfl⟩ := List.mem_map.mp listed
    exact each source present

end Json

end MasternodeBft
