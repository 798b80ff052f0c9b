import Mathlib.Data.List.Forall2
import Mathlib.Data.List.Nodup
import Mathlib.Data.Option.Basic
import MasternodeBft.Pool.Key
import MasternodeBft.Proofs.RecordText

/-!
Texts of keys and signers. Each text is of one key or signer only: the fields of a key are told apart by colons,
which none of them has, and the case of an address's letters adds nothing to what they say. No text needs an
escape, so that all of them can be keys of records.
-/

namespace MasternodeBft

def Alphanumeric (chars : List Char) : Prop := ∀ char ∈ chars, char.isAlphanum = true

theorem Alphanumeric.append {first second : List Char} (letters : Alphanumeric first) (more : Alphanumeric second) :
    Alphanumeric (first ++ second) := List.forall_mem_append.mpr ⟨letters, more⟩

theorem Alphanumeric.no_colon {chars : List Char} (letters : Alphanumeric chars) : ':' ∉ chars := by
  intro listed
  have colon := letters ':' listed
  revert colon
  decide

theorem Alphanumeric.legible {chars : List Char} (letters : Alphanumeric chars) : Legible chars := by
  intro char listed
  have letter := letters char listed
  have code : (65 ≤ char.toNat ∧ char.toNat ≤ 90 ∨ 97 ≤ char.toNat ∧ char.toNat ≤ 122) ∨
      48 ≤ char.toNat ∧ char.toNat ≤ 57 := by
    have ranges : ((65 ≤ char.val ∧ char.val ≤ 90 || 97 ≤ char.val && char.val ≤ 122) ||
        48 ≤ char.val && char.val ≤ 57) = true := letter
    simp only [Bool.or_eq_true, Bool.and_eq_true, decide_eq_true_eq, UInt32.le_iff_toNat_le] at ranges
    exact ranges
  refine ⟨by omega, by omega, ?_, ?_⟩
  · rintro rfl
    revert letter
    decide
  · rintro rfl
    revert letter
    decide

namespace Text.Decimal

theorem isAlphanum_char (digit : Fin 10) : (char digit).isAlphanum = true := by
  revert digit
  decide

theorem char_injective : Function.Injective char := by
  intro digit other
  revert digit other
  decide

theorem word_injective : Function.Injective word := by
  intro number other same
  have digits_eq : digits number.toNat = digits other.toNat :=
    List.map_injective_iff.mpr char_injective (String.ofList_injective same)
  have values := (digits_writes number.toNat).value
  rw [digits_eq, (digits_writes other.toNat).value] at values
  exact UInt64.toNat_inj.mp values.symm

theorem alphanumeric_word (number : UInt64) : Alphanumeric (word number).toList := by
  intro char listed
  rw [word, text, String.toList_ofList] at listed
  obtain ⟨digit, -, rfl⟩ := List.mem_map.mp listed
  exact isAlphanum_char digit

end Text.Decimal

namespace Text.Hex

theorem nibble?_digit {nibble : Nat} (small : nibble < 16) : nibble? (digit nibble) = some nibble := by
  have all : ∀ nibble : Fin 16, nibble? (digit nibble) = some nibble.val := by decide
  exact all ⟨nibble, small⟩

theorem digit_cases {nibble : Nat} (small : nibble < 16) :
    (digit nibble).isAlphanum = true ∧ (digit nibble).toUpper.isAlphanum = true ∧
      (digit nibble).toLower = digit nibble ∧ (digit nibble).toUpper.toLower = digit nibble := by
  have all : ∀ nibble : Fin 16, (digit nibble).isAlphanum = true ∧ (digit nibble).toUpper.isAlphanum = true ∧
      (digit nibble).toLower = digit nibble ∧ (digit nibble).toUpper.toLower = digit nibble := by decide
  exact all ⟨nibble, small⟩

theorem mem_chars {bytes : Bytes} {char : Char} (listed : char ∈ chars bytes) : ∃ nibble < 16, char = digit nibble := by
  induction bytes with
  | nil => cases listed
  | cons byte bytes ih =>
    have bound := byte.toNat_lt
    unfold chars at listed
    rcases List.mem_cons.mp listed with rfl | listed
    · exact ⟨_, by omega, rfl⟩
    · rcases List.mem_cons.mp listed with rfl | listed
      · exact ⟨_, by omega, rfl⟩
      · exact ih listed

theorem read?_chars (bytes : Bytes) : read? (chars bytes) = some bytes := by
  induction bytes with
  | nil => rfl
  | cons byte bytes ih =>
    have bound := byte.toNat_lt
    have joined : 16 * (byte.toNat / 16) + byte.toNat % 16 = byte.toNat := by omega
    unfold chars read?
    rw [nibble?_digit (by omega), nibble?_digit (by omega), ih]
    simp only [Option.bind_eq_bind, Option.bind_some, joined, UInt8.ofNat_toNat, Option.pure_def]

theorem chars_injective : Function.Injective chars := by
  have read : read? ∘ chars = some := funext read?_chars
  exact .of_comp (read ▸ Option.some_injective _)

theorem alphanumeric_encode (bytes : Bytes) : Alphanumeric (encode bytes).toList := by
  intro char listed
  rw [encode, String.toList_ofList] at listed
  obtain ⟨nibble, small, rfl⟩ := mem_chars listed
  exact (digit_cases small).1

end Text.Hex

/-- Texts that tell apart what they are of, and that can be keys of records. -/
structure Labels {α : Type} (text : α → String) : Prop where
  injective : Function.Injective text
  legible : ∀ value, Legible (text value).toList

theorem Labels.keys {α : Type} {text : α → String} (labels : Labels text) {values : List α} (distinct : values.Nodup) :
    Json.Keys (values.map text) where
  legible name listed := by
    obtain ⟨value, -, rfl⟩ := List.mem_map.mp listed
    exact labels.legible value
  distinct := distinct.map labels.injective

/-! Signers. -/

theorem Digest.labels : Labels fun digest : Digest => Text.Hex.encode digest.bytes where
  injective _ _ same := FixedBytes.ext (Text.Hex.chars_injective (String.ofList_injective same))
  legible _ := (Text.Hex.alphanumeric_encode _).legible

namespace Address

theorem raise_digits {chars : List Char} (digits : ∀ char ∈ chars, ∃ nibble < 16, char = Text.Hex.digit nibble)
    (nibbles : List Nat) : Alphanumeric (raise nibbles chars) ∧ (raise nibbles chars).map Char.toLower = chars := by
  suffices each : List.Forall₂ (fun raised char => raised.isAlphanum = true ∧ raised.toLower = char)
      (raise nibbles chars) chars by
    obtain ⟨letters, lower⟩ := (List.forall₂_and_left _ _).mp each
    rw [← List.forall₂_map_left_iff, List.forall₂_eq_eq_eq] at lower
    exact ⟨letters, lower⟩
  induction chars generalizing nibbles with
  | nil => cases nibbles <;> exact .nil
  | cons char chars ih =>
    obtain ⟨⟨digit, small, rfl⟩, others⟩ := List.forall_mem_cons.mp digits
    obtain ⟨letter, alsoLetter, lower, raised⟩ := Text.Hex.digit_cases small
    cases nibbles with
    | nil =>
      have rest := ih others []
      unfold raise at rest ⊢
      exact .cons ⟨letter, lower⟩ rest
    | cons nibble nibbles =>
      rw [raise]
      refine .cons ?_ (ih others nibbles)
      split
      · exact ⟨alsoLetter, raised⟩
      · exact ⟨letter, lower⟩

theorem checksummed_labels : Labels checksummed where
  injective address other same := by
    have raised := String.ofList_injective same
    unfold checksumChars at raised
    have letters := congrArg (List.map Char.toLower) (List.cons.inj (List.cons.inj raised).2).2
    rw [(raise_digits (fun _ => Text.Hex.mem_chars) _).2, (raise_digits (fun _ => Text.Hex.mem_chars) _).2] at letters
    exact FixedBytes.ext (Text.Hex.chars_injective letters)
  legible address := by
    have sign : Alphanumeric ['0', 'x'] := List.all_eq_true.mp rfl
    have letters : Alphanumeric address.checksumChars :=
      sign.append (raise_digits (fun _ => Text.Hex.mem_chars) _).1
    rw [checksummed, String.toList_ofList]
    exact letters.legible

end Address

/-! Keys. -/

namespace PoolKey

theorem joined_inj {fields others : List String} (present : fields ≠ []) (alsoPresent : others ≠ [])
    (letters : ∀ field ∈ fields, Alphanumeric field.toList) (alsoLetters : ∀ field ∈ others, Alphanumeric field.toList)
    (same : joined fields = joined others) : fields = others := by
  have split {fields : List String} (present : fields ≠ []) (letters : ∀ field ∈ fields, Alphanumeric field.toList) :
      (joined fields).toList.splitOn ':' = fields.map String.toList := by
    rw [joined, String.toList_intercalate]
    refine List.splitOn_intercalate _ ?_ (mt List.map_eq_nil_iff.mp present)
    intro chars listed
    obtain ⟨field, among, rfl⟩ := List.mem_map.mp listed
    exact (letters field among).no_colon
  have parts := split present letters
  rw [same, split alsoPresent alsoLetters] at parts
  exact (List.map_injective_iff.mpr (fun _ _ => String.toList_inj.mp) parts).symm

theorem legible_joined {fields : List String} (letters : ∀ field ∈ fields, Alphanumeric field.toList) :
    Legible (joined fields).toList := by
  induction fields with
  | nil => nofun
  | cons first rest ih =>
    obtain ⟨own, others⟩ := List.forall_mem_cons.mp letters
    cases rest with
    | nil =>
      rw [joined, String.intercalate_singleton]
      exact own.legible
    | cons next rest =>
      have colon : Legible ":".toList := by decide
      rw [joined, String.intercalate_cons_cons, String.toList_append, String.toList_append]
      exact List.forall_mem_append.mpr ⟨List.forall_mem_append.mpr ⟨own.legible, colon⟩, ih others⟩

theorem labels_of_fields {Key : Type} (text : Key → String) (fields : Key → List String)
    (made : ∀ key, text key = joined (fields key)) (present : ∀ key, fields key ≠ [])
    (letters : ∀ key, ∀ field ∈ fields key, Alphanumeric field.toList) (complete : Function.Injective fields) :
    Labels text where
  injective key other same := by
    rw [made, made] at same
    exact complete (joined_inj (present key) (present other) (letters key) (letters other) same)
  legible key := by
    rw [made]
    exact legible_joined (letters key)

end PoolKey

open Text.Decimal Text.Hex

theorem TimeoutKey.labels : Labels TimeoutKey.text := by
  apply PoolKey.labels_of_fields TimeoutKey.text (fun key => [word key.round, word key.gapNumber]) (fun _ => rfl)
    (fun _ => List.cons_ne_nil _ _)
  · intro key
    simp only [List.forall_mem_cons]
    exact ⟨alphanumeric_word _, alphanumeric_word _, nofun⟩
  · rintro ⟨round, gapNumber⟩ ⟨otherRound, otherGapNumber⟩ same
    simp only [List.cons.injEq, word_injective.eq_iff, and_true] at same
    obtain ⟨rfl, rfl⟩ := same
    rfl

theorem VoteKey.labels : Labels VoteKey.text := by
  apply PoolKey.labels_of_fields VoteKey.text (fun key => [word key.round, word key.gapNumber, word key.blockNumber,
    encode key.blockHash.bytes]) (fun _ => rfl) (fun _ => List.cons_ne_nil _ _)
  · intro key
    simp only [List.forall_mem_cons]
    exact ⟨alphanumeric_word _, alphanumeric_word _, alphanumeric_word _, alphanumeric_encode _, nofun⟩
  · rintro ⟨round, gapNumber, blockNumber, blockHash⟩ ⟨otherRound, otherGapNumber, otherNumber, otherHash⟩ same
    simp only [List.cons.injEq, word_injective.eq_iff, and_true] at same
    obtain ⟨rfl, rfl, rfl, hash⟩ := same
    rw [Digest.labels.injective hash]

theorem SyncKey.labels : Labels SyncKey.text := by
  apply PoolKey.labels_of_fields SyncKey.text (fun key => [word key.quorumRound, word key.quorumGapNumber,
    word key.blockNumber, word key.timeoutRound, word key.timeoutGapNumber, encode key.blockHash.bytes])
    (fun _ => rfl) (fun _ => List.cons_ne_nil _ _)
  · intro key
    simp only [List.forall_mem_cons]
    exact ⟨alphanumeric_word _, alphanumeric_word _, alphanumeric_word _, alphanumeric_word _, alphanumeric_word _,
      alphanumeric_encode _, nofun⟩
  · rintro ⟨quorumRound, quorumGapNumber, blockNumber, timeoutRound, timeoutGapNumber, blockHash⟩
      ⟨otherQuorum, otherQuorumGap, otherNumber, otherTimeout, otherTimeoutGap, otherHash⟩ same
    simp only [List.cons.injEq, word_injective.eq_iff, and_true] at same
    obtain ⟨rfl, rfl, rfl, rfl, rfl, hash⟩ := same
    rw [Digest.labels.injective hash]

end MasternodeBft
