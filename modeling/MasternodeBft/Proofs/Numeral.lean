import Mathlib.Algebra.Group.Nat.Defs
import MasternodeBft.Json.Number

/-!
Numbers come back from their text. Decimal digits have no leading zeros, so a number is written in one way
only, and that way is read.
-/

namespace MasternodeBft

namespace Text.Decimal

theorem value_append (digits : List (Fin 10)) (digit : Fin 10) :
    value (digits ++ [digit]) = value digits * 10 + digit.val := by
  unfold value
  rw [List.foldl_append]
  rfl

/-- Digits of a number: at least one, and the first one is zero only if it is the only one. -/
structure Writes (number : Nat) (digits : List (Fin 10)) : Prop where
  nonempty : digits ≠ []
  value : value digits = number
  canonical : digits.head? = some 0 → digits.length = 1

theorem Writes.append {number : Nat} {digits : List (Fin 10)} (writes : Writes number digits)
    (positive : 0 < number) (digit : Fin 10) : Writes (number * 10 + digit.val) (digits ++ [digit]) where
  nonempty := List.append_ne_nil_of_left_ne_nil writes.nonempty _
  value := by rw [value_append, writes.value]
  canonical zero := by
    obtain ⟨first, rest, rfl⟩ := List.exists_cons_of_ne_nil writes.nonempty
    -- A single digit zero would be the number zero.
    have first_eq : first = 0 := Option.some.inj zero
    have single : rest = [] := List.length_eq_zero_iff.mp (Nat.succ.inj (writes.canonical zero))
    have same := writes.value
    rw [first_eq, single] at same
    exact absurd same (Nat.ne_of_lt positive)

theorem digitsBefore_writes (fuel number : Nat) (known : List (Fin 10)) (enough : number < 10 ^ (fuel + 1)) :
    ∃ digits, digitsBefore (fuel + 1) number known = digits ++ known ∧ Writes number digits := by
  induction fuel generalizing number known with
  | zero =>
    have small : number < 10 := enough
    refine ⟨[⟨number % 10, Nat.mod_lt _ (by decide)⟩], if_pos small, List.cons_ne_nil _ _, ?_, fun _ => rfl⟩
    change 0 * 10 + number % 10 = number
    omega
  | succ fuel ih =>
    unfold digitsBefore
    by_cases small : number < 10
    · refine ⟨[⟨number % 10, Nat.mod_lt _ (by decide)⟩], if_pos small, List.cons_ne_nil _ _, ?_, fun _ => rfl⟩
      change 0 * 10 + number % 10 = number
      omega
    · have rest : number / 10 < 10 ^ (fuel + 1) := by
        rw [Nat.pow_succ] at enough
        omega
      obtain ⟨digits, found, writes⟩ := ih (number / 10) (⟨number % 10, Nat.mod_lt _ (by decide)⟩ :: known) rest
      refine ⟨digits ++ [⟨number % 10, Nat.mod_lt _ (by decide)⟩], ?_, ?_⟩
      · rw [if_neg small, found, List.append_assoc]
        rfl
      · have joined : number / 10 * 10 + number % 10 = number := by omega
        have positive : 0 < number / 10 := by omega
        have longer := writes.append positive ⟨number % 10, Nat.mod_lt _ (by decide)⟩
        rwa [joined] at longer

theorem digits_writes (number : Nat) : Writes number (digits number) := by
  have enough : number < 10 ^ (number.log2 + 1) := calc
    number < 2 ^ (number.log2 + 1) := Nat.lt_log2_self
    _ ≤ 10 ^ (number.log2 + 1) := Nat.pow_le_pow_left (by decide) _
  obtain ⟨found, same, writes⟩ := digitsBefore_writes number.log2 number [] enough
  rw [List.append_nil] at same
  unfold digits
  rwa [same]

theorem digit?_byte (digit : Fin 10) : digit? (byte digit).toNat = some digit := by
  revert digit
  decide

end Text.Decimal

namespace Json.Number

open Text.Decimal

/-- What may follow digits, so that they are known to have ended. -/
def EndsDigits (rest : Bytes) : Prop := ∀ byte ∈ rest.head?, digit? byte.toNat = none

theorem spanDigits_append {digits : List (Fin 10)} {rest : Bytes} (ends : EndsDigits rest) :
    spanDigits (digits.map byte ++ rest) = (digits, rest) := by
  induction digits with
  | nil =>
    cases rest with
    | nil => rfl
    | cons first rest =>
      have other : digit? first.toNat = none := ends first rfl
      change spanDigits (first :: rest) = ([], first :: rest)
      unfold spanDigits
      rw [other]
  | cons digit digits ih =>
    change spanDigits (byte digit :: (digits.map byte ++ rest)) = (digit :: digits, rest)
    unfold spanDigits
    rw [digit?_byte, ih]

theorem endsDigits_nil : EndsDigits [] := fun _ => nofun

theorem endsDigits_cons {first : UInt8} {rest : Bytes} (other : digit? first.toNat = none) :
    EndsDigits (first :: rest) := by
  intro byte present
  rw [List.head?_cons, Option.mem_some_iff] at present
  rwa [← present]

theorem spanDigits_digits (digits : List (Fin 10)) : spanDigits (digits.map byte) = (digits, []) := by
  have span : spanDigits (digits.map byte ++ []) = (digits, []) := spanDigits_append endsDigits_nil
  rwa [List.append_nil] at span

theorem byte_ne_sign (digit : Fin 10) : byte digit ≠ 45 ∧ byte digit ≠ 43 := by
  revert digit
  decide

def magnitude? (negative : Bool) (bytes : Bytes) : Option Int :=
  match spanDigits bytes with
  | ([], _) => none
  | (digits, []) => some (if negative then -(value digits : Int) else value digits)
  | (_, _ :: _) => none

theorem exponent?_unsigned {first : UInt8} {rest : Bytes} (minus : first ≠ 45) (plus : first ≠ 43) :
    exponent? (first :: rest) = magnitude? false (first :: rest) := by
  unfold exponent?
  split
  rename_i signed
  split at signed
  · rename_i same
    exact absurd (List.cons.inj same).1 minus
  · rename_i same
    exact absurd (List.cons.inj same).1 plus
  · cases signed
    rfl

theorem magnitude?_digits (negative : Bool) (number : Nat) :
    magnitude? negative ((digits number).map byte) = some (if negative then -(number : Int) else number) := by
  have writes := digits_writes number
  obtain ⟨first, rest, cons⟩ := List.exists_cons_of_ne_nil writes.nonempty
  have same := writes.value
  unfold magnitude?
  rw [spanDigits_digits]
  rw [cons] at same ⊢
  simp only [same]

theorem exponent?_render (exponent : Int) :
    exponent? ((if exponent < 0 then [45] else []) ++ (digits exponent.natAbs).map byte) = some exponent := by
  by_cases negative : exponent < 0
  · rw [if_pos negative]
    change magnitude? true ((digits exponent.natAbs).map byte) = _
    rw [magnitude?_digits]
    simp only [↓reduceIte, Option.some.injEq]
    omega
  · rw [if_neg negative, List.nil_append]
    obtain ⟨first, rest, cons⟩ := List.exists_cons_of_ne_nil (digits_writes exponent.natAbs).nonempty
    have unsigned : exponent? ((digits exponent.natAbs).map byte) =
        magnitude? false ((digits exponent.natAbs).map byte) := by
      rw [cons]
      exact exponent?_unsigned (byte_ne_sign first).1 (byte_ne_sign first).2
    rw [unsigned, magnitude?_digits]
    simp only [Bool.false_eq_true, ↓reduceIte, Option.some.injEq]
    omega

def unsigned? (negative : Bool) (bytes : Bytes) : Option Number :=
  match spanDigits bytes with
  | ([], _) => none
  | (digits, rest) =>
    if digits.head? = some 0 ∧ digits.length ≠ 1 then none
    else match rest with
      | 46 :: rest =>
        match spanDigits rest with
        | ([], _) => none
        | (fraction, rest) => tail? negative (value digits) fraction rest
      | rest => tail? negative (value digits) [] rest

theorem ofBytes?_unsigned {first : UInt8} {rest : Bytes} (minus : first ≠ 45) :
    ofBytes? (first :: rest) = unsigned? false (first :: rest) := by
  unfold ofBytes?
  split
  rename_i signed
  split at signed
  · rename_i same
    exact absurd (List.cons.inj same).1 minus
  · cases signed
    rfl

def exponentText : Option Int → Bytes
  | none => []
  | some exponent => exponentBytes exponent

theorem endsDigits_exponentText (exponent : Option Int) : EndsDigits (exponentText exponent) := by
  cases exponent with
  | none => exact endsDigits_nil
  | some exponent => exact endsDigits_cons (by decide)

theorem tail?_exponentText (negative : Bool) (whole : Nat) (fraction : List (Fin 10)) (exponent : Option Int) :
    tail? negative whole fraction (exponentText exponent) = some ⟨negative, whole, fraction, exponent⟩ := by
  cases exponent with
  | none => rfl
  | some exponent =>
    change (exponent? ((if exponent < 0 then [45] else []) ++ (digits exponent.natAbs).map byte)).map _ = _
    rw [exponent?_render]
    rfl

def fractionText (fraction : List (Fin 10)) : Bytes :=
  if fraction.isEmpty then [] else 46 :: fraction.map byte

theorem unsigned?_render (negative : Bool) (whole : Nat) (fraction : List (Fin 10)) (exponent : Option Int) :
    unsigned? negative ((digits whole).map byte ++ (fractionText fraction ++ exponentText exponent)) =
      some ⟨negative, whole, fraction, exponent⟩ := by
  have writes := digits_writes whole
  obtain ⟨first, rest, cons⟩ := List.exists_cons_of_ne_nil writes.nonempty
  have canonical : ¬((first :: rest).head? = some 0 ∧ (first :: rest).length ≠ 1) := by
    rw [← cons]
    exact fun leading => leading.2 (writes.canonical leading.1)
  have same := writes.value
  have ends : EndsDigits (fractionText fraction ++ exponentText exponent) := by
    cases fraction with
    | nil => exact endsDigits_exponentText exponent
    | cons digit fraction => exact endsDigits_cons (by decide)
  unfold unsigned?
  rw [spanDigits_append ends]
  rw [cons] at same ⊢
  simp only [canonical, ↓reduceIte, same]
  cases fraction with
  | nil =>
    change (match exponentText exponent with
      | 46 :: _ => _
      | rest => tail? negative whole [] rest) = _
    cases exponent with
    | none => rfl
    | some exponent => exact tail?_exponentText negative whole [] (some exponent)
  | cons digit fraction =>
    change (match spanDigits ((digit :: fraction).map byte ++ exponentText exponent) with
      | ([], _) => none
      | (fraction, rest) => tail? negative whole fraction rest) = _
    rw [spanDigits_append (endsDigits_exponentText exponent)]
    exact tail?_exponentText negative whole (digit :: fraction) exponent

theorem render_eq (number : Number) :
    number.render = (if number.negative then [45] else []) ++
      ((digits number.whole).map byte ++ (fractionText number.fraction ++ exponentText number.exponent)) := by
  unfold render
  rw [List.append_assoc, List.append_assoc]
  rfl

theorem ofBytes?_render (number : Number) : ofBytes? number.render = some number := by
  rw [render_eq]
  obtain ⟨negative, whole, fraction, exponent⟩ := number
  cases negative with
  | true => exact unsigned?_render true whole fraction exponent
  | false =>
    obtain ⟨first, rest, cons⟩ := List.exists_cons_of_ne_nil (digits_writes whole).nonempty
    have read := unsigned?_render false whole fraction exponent
    rw [cons] at read
    change ofBytes? ((digits whole).map byte ++ _) = _
    rw [cons, ← read]
    exact ofBytes?_unsigned (byte_ne_sign first).1

end Json.Number

end MasternodeBft
