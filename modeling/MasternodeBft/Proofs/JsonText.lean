import MasternodeBft.Json.Parser
import MasternodeBft.Proofs.Numeral

/-!
JSON values come back from their text, if reading goes through all strings in them. The tokens of a text
are those of its value, one after another, and the fuel of the reading, which is more than their number,
does not run out.
-/

namespace MasternodeBft.Json

/-! The tokens of a value. -/

mutual

def tokens : Json → List Token
  | null => [.scalar null]
  | bool value => [.scalar (bool value)]
  | number value => [.scalar (number value)]
  | string value => [.string value]
  | array [] => [.openBracket, .closeBracket]
  | array (item :: items) => .openBracket :: (tokens item ++ itemTokens items)
  | object [] => [.openBrace, .closeBrace]
  | object ((key, value) :: fields) =>
    .openBrace :: .string key :: .colon :: (tokens value ++ fieldTokens fields)

def itemTokens : List Json → List Token
  | [] => [.closeBracket]
  | item :: items => .comma :: (tokens item ++ itemTokens items)

def fieldTokens : List (Quoted × Json) → List Token
  | [] => [.closeBrace]
  | (key, value) :: fields => .comma :: .string key :: .colon :: (tokens value ++ fieldTokens fields)

end

namespace Token

/-- Reading goes through these bytes of a string, whatever comes before and after them. -/
def Passes (piece : Bytes) : Prop :=
  ∀ before done rest,
    scan (.quoted before) done (piece ++ rest) = scan (.quoted (piece.reverse ++ before)) done rest

/-- What may follow a word: nothing, or a mark. -/
def Closes (rest : Bytes) : Prop :=
  ∀ byte ∈ rest.head?, isBlank byte = false ∧ byte ≠ 34 ∧ (mark? byte).isSome

def isWordByte (byte : UInt8) : Bool := !isBlank byte && byte ≠ 34 && (mark? byte).isNone

theorem passes_of_plain {piece : Bytes} (plain : ∀ byte ∈ piece, 32 ≤ byte.toNat ∧ byte ≠ 34 ∧ byte ≠ 92) :
    Passes piece := by
  intro before done rest
  induction piece generalizing before with
  | nil => rfl
  | cons byte piece ih =>
    obtain ⟨printable, quote, backslash⟩ := plain byte List.mem_cons_self
    rw [List.cons_append, List.reverse_cons, List.append_assoc, List.singleton_append]
    rw [← ih (fun other present => plain other (List.mem_cons_of_mem _ present)) (byte :: before)]
    conv => lhs; unfold scan
    rw [if_neg quote, if_neg backslash, if_neg (Nat.not_lt.mpr printable)]

/-- Before the rest of a text, a piece of it adds these tokens. -/
def Yields (piece : Bytes) (tokens : List Token) (rest : Bytes) : Prop :=
  ∀ done, scan (.word []) done (piece ++ rest) = scan (.word []) (tokens.reverse ++ done) rest

theorem Yields.append {first second rest : Bytes} {tokens others : List Token}
    (begun : Yields first tokens (second ++ rest)) (ended : Yields second others rest) :
    Yields (first ++ second) (tokens ++ others) rest := by
  intro done
  rw [List.append_assoc, begun, ended, List.reverse_append, List.append_assoc]

theorem yields_mark {byte : UInt8} {mark : Token} (blank : isBlank byte = false) (quote : byte ≠ 34)
    (found : mark? byte = some mark) (rest : Bytes) : Yields [byte] [mark] rest := by
  intro done
  change scan (.word []) done (byte :: rest) = scan (.word []) (mark :: done) rest
  conv => lhs; unfold scan
  simp only [blank, quote, found, Bool.false_eq_true, ↓reduceIte]
  rfl

theorem yields_string {value : Quoted} (passes : Passes value.raw) (rest : Bytes) :
    Yields value.render [.string value] rest := by
  intro done
  have text : value.render ++ rest = 34 :: (value.raw ++ 34 :: rest) := by
    unfold Quoted.render
    rw [List.cons_append, List.append_assoc]
    rfl
  have closed : scan (.quoted (value.raw.reverse ++ [])) done (34 :: rest) =
      scan (.word []) (.string ⟨(value.raw.reverse ++ []).reverse⟩ :: done) rest := rfl
  rw [text]
  change scan (.quoted []) done (value.raw ++ 34 :: rest) = _
  rw [passes, closed, List.append_nil, List.reverse_reverse]
  rfl

theorem scan_bytes {word : Bytes} (bytes : ∀ byte ∈ word, isWordByte byte = true) (before : Bytes)
    (done : List Token) (rest : Bytes) :
    scan (.word before) done (word ++ rest) = scan (.word (word.reverse ++ before)) done rest := by
  induction word generalizing before with
  | nil => rfl
  | cons byte word ih =>
    have first := bytes byte List.mem_cons_self
    simp only [isWordByte, Bool.and_eq_true, Bool.not_eq_eq_eq_not, Bool.not_true, decide_eq_true_eq,
      Option.isNone_iff_eq_none] at first
    obtain ⟨⟨blank, quote⟩, mark⟩ := first
    rw [List.cons_append, List.reverse_cons, List.append_assoc, List.singleton_append]
    rw [← ih (fun other present => bytes other (List.mem_cons_of_mem _ present)) (byte :: before)]
    conv => lhs; unfold scan
    simp only [blank, quote, mark, Bool.false_eq_true, ↓reduceIte]

theorem endWord?_reverse {word : Bytes} {value : Json} (nonempty : word ≠ []) (found : scalar? word = some value)
    (done : List Token) : endWord? done word.reverse = some (.scalar value :: done) := by
  obtain ⟨last, before, reversed⟩ := List.exists_cons_of_ne_nil (List.reverse_ne_nil_iff.mpr nonempty)
  rw [reversed]
  change (scalar? (last :: before).reverse).map _ = _
  rw [← reversed, List.reverse_reverse, found]
  rfl

theorem yields_scalar {word : Bytes} {value : Json} (bytes : ∀ byte ∈ word, isWordByte byte = true)
    (nonempty : word ≠ []) (found : scalar? word = some value) {rest : Bytes} (closes : Closes rest) :
    Yields word [.scalar value] rest := by
  intro done
  have ended := endWord?_reverse nonempty found done
  rw [scan_bytes bytes, List.append_nil]
  cases rest with
  | nil =>
    change (endWord? done word.reverse).map List.reverse = _
    rw [ended]
    rfl
  | cons byte rest =>
    obtain ⟨blank, quote, some⟩ := closes byte rfl
    obtain ⟨mark, mark_eq⟩ := Option.isSome_iff_exists.mp some
    have after : scan (.word []) (.scalar value :: done) ([byte] ++ rest) = _ := yields_mark blank quote mark_eq rest _
    refine Eq.trans ?_ after.symm
    conv => lhs; unfold scan
    simp only [blank, quote, mark_eq, ended, Bool.false_eq_true, ↓reduceIte]
    rfl

end Token

/-! Words. -/

theorem isWordByte_digit (digit : Fin 10) : Token.isWordByte (Text.Decimal.byte digit) = true := by
  revert digit
  decide

theorem isWordByte_digits (digits : List (Fin 10)) :
    ∀ byte ∈ digits.map Text.Decimal.byte, Token.isWordByte byte = true := by
  intro byte present
  obtain ⟨digit, -, rfl⟩ := List.mem_map.mp present
  exact isWordByte_digit digit

theorem isWordByte_sign (negative : Prop) [Decidable negative] :
    ∀ byte ∈ (if negative then [45] else [] : Bytes), Token.isWordByte byte = true := by
  split
  · exact List.all_eq_true.mp rfl
  · nofun

theorem isWordByte_fraction (fraction : List (Fin 10)) :
    ∀ byte ∈ Number.fractionText fraction, Token.isWordByte byte = true := by
  unfold Number.fractionText
  split
  · nofun
  · exact List.forall_mem_cons.mpr ⟨by decide, isWordByte_digits fraction⟩

theorem isWordByte_exponent (exponent : Option Int) :
    ∀ byte ∈ Number.exponentText exponent, Token.isWordByte byte = true := by
  cases exponent with
  | none => nofun
  | some exponent =>
    refine List.forall_mem_cons.mpr ⟨by decide, ?_⟩
    exact List.forall_mem_append.mpr ⟨isWordByte_sign (exponent < 0), isWordByte_digits _⟩

theorem isWordByte_render (number : Number) : ∀ byte ∈ number.render, Token.isWordByte byte = true := by
  rw [Number.render_eq, List.forall_mem_append, List.forall_mem_append, List.forall_mem_append]
  exact ⟨isWordByte_sign _, isWordByte_digits _, isWordByte_fraction _, isWordByte_exponent _⟩

theorem byte_ne_letters (digit : Fin 10) :
    Text.Decimal.byte digit ≠ 110 ∧ Text.Decimal.byte digit ≠ 116 ∧ Text.Decimal.byte digit ≠ 102 := by
  revert digit
  decide

theorem render_cons (number : Number) :
    ∃ first rest, number.render = first :: rest ∧ first ≠ 110 ∧ first ≠ 116 ∧ first ≠ 102 := by
  rw [Number.render_eq]
  by_cases negative : number.negative = true
  · exact ⟨45, _, by rw [if_pos negative]; rfl, by decide, by decide, by decide⟩
  · obtain ⟨digit, digits, cons⟩ := List.exists_cons_of_ne_nil (Text.Decimal.digits_writes number.whole).nonempty
    rw [if_neg negative, cons]
    exact ⟨Text.Decimal.byte digit, _, rfl, byte_ne_letters digit⟩

theorem scalar?_render (number : Number) : Token.scalar? number.render = some (.number number) := by
  obtain ⟨first, rest, cons, notNull, notTrue, notFalse⟩ := render_cons number
  unfold Token.scalar?
  rw [Number.ofBytes?_render, cons]
  rw [if_neg fun same => notNull (List.cons.inj same).1, if_neg fun same => notTrue (List.cons.inj same).1,
    if_neg fun same => notFalse (List.cons.inj same).1]
  rfl

inductive Readable : Json → Prop
  | null : Readable null
  | bool (value : Bool) : Readable (bool value)
  | number (value : Number) : Readable (number value)
  | string (value : Quoted) (passes : Token.Passes value.raw) : Readable (string value)
  | array (items : List Json) (each : ∀ item ∈ items, Readable item) : Readable (array items)
  | object (fields : List (Quoted × Json)) (keys : ∀ field ∈ fields, Token.Passes field.1.raw)
      (each : ∀ field ∈ fields, Readable field.2) : Readable (object fields)

/-! Reading a text. -/

section Scanning

open Token

/-- The text of a value yields its tokens wherever it may end. -/
def Scans (value : Json) : Prop := ∀ rest, Closes rest → Yields value.render value.tokens rest

theorem closes_mark {byte : UInt8} (blank : isBlank byte = false) (quote : byte ≠ 34)
    (some : (mark? byte).isSome) (rest : Bytes) : Closes (byte :: rest) := by
  intro other present
  rw [List.head?_cons, Option.mem_some_iff] at present
  rw [← present]
  exact ⟨blank, quote, some⟩

theorem closes_renderItems (items : List Json) (rest : Bytes) : Closes (renderItems items ++ rest) := by
  cases items <;> exact closes_mark (by decide) (by decide) (by decide) _

theorem closes_renderFields (fields : List (Quoted × Json)) (rest : Bytes) :
    Closes (renderFields fields ++ rest) := by
  cases fields <;> exact closes_mark (by decide) (by decide) (by decide) _

theorem yields_renderItems {items : List Json} (each : ∀ item ∈ items, item.Scans) (rest : Bytes) :
    Yields (renderItems items) (itemTokens items) rest := by
  induction items with
  | nil => exact yields_mark (by decide) (by decide) rfl rest
  | cons item items ih =>
    obtain ⟨first, others⟩ := List.forall_mem_cons.mp each
    have body : Yields (item.render ++ renderItems items) (item.tokens ++ itemTokens items) rest :=
      (first _ (closes_renderItems items rest)).append (ih others)
    exact (yields_mark (by decide) (by decide) rfl _).append body

theorem yields_field {key : Quoted} {value : Json} (passes : Passes key.raw) (scans : value.Scans)
    {fields : List (Quoted × Json)} {rest : Bytes} (others : Yields (renderFields fields) (fieldTokens fields) rest) :
    Yields (key.render ++ 58 :: (value.render ++ renderFields fields))
      (.string key :: .colon :: (value.tokens ++ fieldTokens fields)) rest := by
  have body : Yields (value.render ++ renderFields fields) (value.tokens ++ fieldTokens fields) rest :=
    (scans _ (closes_renderFields fields rest)).append others
  exact (yields_string passes _).append ((yields_mark (by decide) (by decide) rfl _).append body)

theorem yields_renderFields {fields : List (Quoted × Json)} (keys : ∀ field ∈ fields, Passes field.1.raw)
    (each : ∀ field ∈ fields, field.2.Scans) (rest : Bytes) :
    Yields (renderFields fields) (fieldTokens fields) rest := by
  induction fields with
  | nil => exact yields_mark (by decide) (by decide) rfl rest
  | cons field fields ih =>
    obtain ⟨passes, otherKeys⟩ := List.forall_mem_cons.mp keys
    obtain ⟨first, others⟩ := List.forall_mem_cons.mp each
    exact (yields_mark (by decide) (by decide) rfl _).append (yields_field passes first (ih otherKeys others))

theorem scans_array {items : List Json} (each : ∀ item ∈ items, item.Scans) : (array items).Scans := by
  intro rest _
  cases items with
  | nil =>
    have closed : Yields [93] [.closeBracket] rest := yields_mark (by decide) (by decide) rfl rest
    exact (yields_mark (by decide) (by decide) rfl _).append closed
  | cons item items =>
    obtain ⟨first, others⟩ := List.forall_mem_cons.mp each
    have body : Yields (item.render ++ renderItems items) (item.tokens ++ itemTokens items) rest :=
      (first _ (closes_renderItems items rest)).append (yields_renderItems others rest)
    exact (yields_mark (by decide) (by decide) rfl _).append body

theorem scans_object {fields : List (Quoted × Json)} (keys : ∀ field ∈ fields, Passes field.1.raw)
    (each : ∀ field ∈ fields, field.2.Scans) : (object fields).Scans := by
  intro rest _
  cases fields with
  | nil =>
    have closed : Yields [125] [.closeBrace] rest := yields_mark (by decide) (by decide) rfl rest
    exact (yields_mark (by decide) (by decide) rfl _).append closed
  | cons field fields =>
    obtain ⟨passes, otherKeys⟩ := List.forall_mem_cons.mp keys
    obtain ⟨first, others⟩ := List.forall_mem_cons.mp each
    have body := yields_field passes first (yields_renderFields otherKeys others rest)
    exact (yields_mark (by decide) (by decide) rfl _).append body

theorem Readable.scans {value : Json} (readable : Readable value) : value.Scans := by
  induction readable with
  | null =>
    intro rest closes
    exact yields_scalar (List.all_eq_true.mp rfl) (List.cons_ne_nil _ _) rfl closes
  | bool value =>
    intro rest closes
    cases value with
    | true => exact yields_scalar (List.all_eq_true.mp rfl) (List.cons_ne_nil _ _) rfl closes
    | false => exact yields_scalar (List.all_eq_true.mp rfl) (List.cons_ne_nil _ _) rfl closes
  | number value =>
    intro rest closes
    obtain ⟨first, others, cons, -⟩ := render_cons value
    have nonempty : value.render ≠ [] := by
      rw [cons]
      exact List.cons_ne_nil _ _
    exact yields_scalar (isWordByte_render value) nonempty (scalar?_render value) closes
  | string value passes => exact fun rest _ => yields_string passes rest
  | array items _ ih => exact scans_array ih
  | object fields keys _ ih => exact scans_object keys ih

theorem Token.ofBytes?_render {value : Json} (readable : Readable value) :
    ofBytes? value.render = some value.tokens := by
  have scanned := readable.scans [] (fun _ => nofun) []
  rw [List.append_nil, List.append_nil] at scanned
  unfold ofBytes?
  rw [scanned]
  change some value.tokens.reverse.reverse = _
  rw [List.reverse_reverse]

end Scanning

/-! Reading the tokens. -/

/-- With fuel for all its tokens, a value is read from them and from nothing after them. -/
def Parses (value : Json) : Prop :=
  ∀ fuel rest, value.tokens.length ≤ fuel → value? fuel (value.tokens ++ rest) = some (value, rest)

theorem tokens_cons (value : Json) :
    ∃ first rest, value.tokens = first :: rest ∧ first ≠ .closeBracket ∧ first ≠ .closeBrace := by
  cases value with
  | array items => cases items <;> exact ⟨_, _, rfl, nofun, nofun⟩
  | object fields => cases fields <;> exact ⟨_, _, rfl, nofun, nofun⟩
  | _ => exact ⟨_, _, rfl, nofun, nofun⟩

theorem items?_tokens {item : Json} {items : List Json} (each : ∀ value ∈ item :: items, value.Parses)
    {fuel : Nat} (rest : List Token) (enough : (item.tokens ++ itemTokens items).length ≤ fuel) :
    items? fuel (item.tokens ++ itemTokens items ++ rest) = some (item :: items, rest) := by
  induction items generalizing item fuel with
  | nil =>
    have first := each item List.mem_cons_self
    simp only [itemTokens, List.length_append, List.length_singleton] at enough
    obtain ⟨fuel, rfl⟩ := Nat.exists_eq_add_of_le' (Nat.le_of_add_left_le enough)
    have apart : item.tokens ++ itemTokens [] ++ rest = item.tokens ++ .closeBracket :: rest := by
      simp only [itemTokens, List.append_assoc, List.singleton_append]
    rw [apart, items?, first fuel _ (by omega)]
  | cons next items ih =>
    obtain ⟨first, others⟩ := List.forall_mem_cons.mp each
    simp only [itemTokens, List.length_append, List.length_cons] at enough
    obtain ⟨fuel, rfl⟩ := Nat.exists_eq_add_of_le' (show 1 ≤ fuel by omega)
    have apart : item.tokens ++ itemTokens (next :: items) ++ rest =
        item.tokens ++ .comma :: (next.tokens ++ itemTokens items ++ rest) := by
      simp only [itemTokens, List.append_assoc, List.cons_append]
    have onward := ih others (show _ ≤ fuel by rw [List.length_append]; omega)
    rw [apart, items?, first fuel _ (by omega)]
    simp only [onward]

theorem fields?_tokens {field : Quoted × Json} {fields : List (Quoted × Json)}
    (each : ∀ other ∈ field :: fields, other.2.Parses) {fuel : Nat} (rest : List Token)
    (enough : (field.2.tokens ++ fieldTokens fields).length ≤ fuel) :
    fields? fuel (.string field.1 :: .colon :: (field.2.tokens ++ fieldTokens fields ++ rest)) =
      some (field :: fields, rest) := by
  induction fields generalizing field fuel with
  | nil =>
    have first := each field List.mem_cons_self
    simp only [fieldTokens, List.length_append, List.length_singleton] at enough
    obtain ⟨fuel, rfl⟩ := Nat.exists_eq_add_of_le' (Nat.le_of_add_left_le enough)
    have apart : field.2.tokens ++ fieldTokens [] ++ rest = field.2.tokens ++ .closeBrace :: rest := by
      simp only [fieldTokens, List.append_assoc, List.singleton_append]
    rw [apart, fields?, first fuel _ (by omega)]
  | cons next fields ih =>
    obtain ⟨first, others⟩ := List.forall_mem_cons.mp each
    simp only [fieldTokens, List.length_append, List.length_cons] at enough
    obtain ⟨fuel, rfl⟩ := Nat.exists_eq_add_of_le' (show 1 ≤ fuel by omega)
    have apart : field.2.tokens ++ fieldTokens (next :: fields) ++ rest =
        field.2.tokens ++
          .comma :: .string next.1 :: .colon :: (next.2.tokens ++ fieldTokens fields ++ rest) := by
      simp only [fieldTokens, List.append_assoc, List.cons_append]
    have onward := ih others (show _ ≤ fuel by rw [List.length_append]; omega)
    rw [apart, fields?, first fuel _ (by omega)]
    simp only [onward]

theorem parses_array {items : List Json} (each : ∀ item ∈ items, item.Parses) : (array items).Parses := by
  intro fuel rest enough
  cases items with
  | nil =>
    obtain ⟨fuel, rfl⟩ := Nat.exists_eq_add_of_le' (show 1 ≤ fuel from Nat.le_of_succ_le enough)
    rfl
  | cons item items =>
    simp only [tokens, List.length_cons] at enough
    obtain ⟨fuel, rfl⟩ := Nat.exists_eq_add_of_le' (show 1 ≤ fuel by omega)
    have read := items?_tokens each rest (show _ ≤ fuel by omega)
    obtain ⟨first, others, cons, opens, -⟩ := tokens_cons item
    simp only [tokens, List.cons_append, List.append_assoc] at read ⊢
    rw [cons, List.cons_append] at read ⊢
    rw [value?, read]
    intro closed same
    exact opens (List.cons.inj same).1

theorem parses_object {fields : List (Quoted × Json)} (each : ∀ field ∈ fields, field.2.Parses) :
    (object fields).Parses := by
  intro fuel rest enough
  cases fields with
  | nil =>
    obtain ⟨fuel, rfl⟩ := Nat.exists_eq_add_of_le' (show 1 ≤ fuel from Nat.le_of_succ_le enough)
    rfl
  | cons field fields =>
    simp only [tokens, List.length_cons] at enough
    obtain ⟨fuel, rfl⟩ := Nat.exists_eq_add_of_le' (show 1 ≤ fuel by omega)
    have read := fields?_tokens each rest (show _ ≤ fuel by omega)
    simp only [tokens, List.cons_append]
    rw [value?, read]
    intro closed same
    exact nomatch (List.cons.inj same).1

theorem Readable.parses {value : Json} (readable : Readable value) : value.Parses := by
  induction readable with
  | array items _ ih => exact parses_array ih
  | object fields _ _ ih => exact parses_object ih
  | _ =>
    intro fuel rest enough
    obtain ⟨fuel, rfl⟩ := Nat.exists_eq_add_of_le' enough
    rfl

theorem parse?_render {value : Json} (readable : Readable value) : parse? value.render = some value := by
  have read := readable.parses (2 * value.tokens.length + 1) [] (by omega)
  rw [List.append_nil] at read
  unfold parse?
  rw [Token.ofBytes?_render readable]
  change ofTokens? value.tokens = some value
  unfold ofTokens?
  rw [read]

end MasternodeBft.Json
