import Mathlib.Data.List.TakeWhile
import MasternodeBft.CommandLine
import MasternodeBft.Proofs.DiagnosticAnswers
import MasternodeBft.Proofs.PlainHosts

/-!
Where nodes are asked. An address of a plain host is valid with every socket number of 16 bits; so whatever a node
is started with, there is a client for it, which gets its answers.
-/

namespace MasternodeBft

theorem Text.Decimal.digit?_char (digit : Fin 10) : digit? (char digit).toNat = some digit := by
  revert digit
  decide

theorem Text.Utf8.encode_of_ascii {chars : List Char} (ascii : ∀ char ∈ chars, char.toNat < 128) :
    encode chars = chars.map fun char => UInt8.ofNat char.toNat := by
  unfold encode
  induction chars with
  | nil => rfl
  | cons char rest ih =>
    obtain ⟨first, others⟩ := List.forall_mem_cons.mp ascii
    rw [List.flatMap_cons, ih others, List.map_cons]
    exact congrArg (· ++ _) (if_pos first)

theorem Text.Decimal.code_of_mem_chars {char : Char} {number : Nat} (listed : char ∈ chars number) :
    48 ≤ char.toNat ∧ char.toNat < 58 := by
  obtain ⟨digit, -, rfl⟩ := List.mem_map.mp listed
  have each : ∀ digit, 48 ≤ (char digit).toNat ∧ (char digit).toNat < 58 := by decide
  exact each digit

namespace Diagnostics.Url

open Text

variable {chars : List Char}

theorem trimmed_of_visible (visible : ∀ char ∈ chars, 0x20 < char.toNat) : trimmed chars = chars := by
  have stays {chars : List Char} (visible : ∀ char ∈ chars, 0x20 < char.toNat) :
      chars.dropWhile (fun char => char.toNat ≤ 0x20) = chars := by
    refine List.dropWhile_eq_self_iff.mpr fun nonempty blank => ?_
    exact Nat.not_le.mpr (visible _ (List.getElem_mem nonempty)) (of_decide_eq_true blank)
  have kept : chars.filter (fun char => char ≠ '\t' ∧ char ≠ '\n' ∧ char ≠ '\r') = chars := by
    refine List.filter_eq_self.mpr fun char listed => decide_eq_true ?_
    have code := visible char listed
    refine ⟨?_, ?_, ?_⟩ <;> rintro rfl <;> exact absurd code (by decide)
  unfold trimmed
  dsimp only
  rw [stays visible, stays fun char listed => visible char (List.mem_reverse.mp listed), List.reverse_reverse, kept]

theorem splitAt_of_absent {stop : Char → Bool} (absent : ∀ char ∈ chars, stop char = false) :
    splitAt stop chars = (chars, []) := by
  have passes : ∀ char ∈ chars, (!stop char) = true := fun char listed => by rw [absent char listed]; rfl
  unfold splitAt
  rw [List.takeWhile_eq_self_iff.mpr passes, List.dropWhile_eq_nil_iff.mpr passes]

theorem splitAt_append {stop : Char → Bool} (absent : ∀ char ∈ chars, stop char = false) {char : Char}
    (stops : stop char = true) (rest : List Char) : splitAt stop (chars ++ char :: rest) = (chars, char :: rest) := by
  have passes : ∀ char ∈ chars, (!stop char) = true := fun char listed => by rw [absent char listed]; rfl
  have ends : (!stop char) = false := by rw [stops]; rfl
  unfold splitAt
  rw [List.takeWhile_append_of_pos passes, List.dropWhile_append_of_pos passes, List.takeWhile_cons, ends,
    List.dropWhile_cons, ends]
  simp

theorem unescaped_of_plain {bytes : Bytes} (plain : ∀ byte ∈ bytes, byte ≠ 37) : unescaped bytes = bytes := by
  induction bytes with
  | nil => rfl
  | cons byte rest ih =>
    obtain ⟨first, others⟩ := List.forall_mem_cons.mp plain
    rw [unescaped.eq_3 _ _ (fun high low rest same => absurd same first), ih others]

theorem validSocket_chars (socket : Nat) : validSocket (Decimal.chars socket) = decide (socket < 65536) := by
  have digits : (Decimal.chars socket).mapM (fun char => Decimal.digit? char.toNat) = some (Decimal.digits socket) :=
    @Json.mapM_map_self _ _ Decimal.char _ Decimal.digit?_char _
  unfold validSocket
  rw [digits]
  dsimp only
  rw [(Decimal.digits_writes socket).value]

section Plain

open Host

variable {host : List Char}

theorem validName_of_plain (plain : Name.Plain host) :
    validName host = (!Address.isNumeric host || Address.validNumeric host) := by
  have ascii : ∀ char ∈ host, char.toNat < 128 := fun char listed => (plain.chars char listed).ascii
  have literal : unescaped (Utf8.encode host) = Utf8.encode host := by
    refine unescaped_of_plain fun byte listed => ?_
    rw [Utf8.encode_of_ascii ascii] at listed
    obtain ⟨char, present, rfl⟩ := List.mem_map.mp listed
    exact Json.Quoted.byte_ne (ascii char present) (plain.ne present (by decide : Name.forbidden '%' = true)) rfl
  have read : Utf8.decode? (Utf8.encode host) = some host := by
    rw [Utf8.encode_of_ascii ascii]
    exact Utf8.readAfter_of_ascii ascii []
  unfold validName
  rw [literal, read, Option.bind_some, plain.ofChars?_eq]

def address (host : List Char) (socket : Nat) : List Char := host ++ ':' :: Decimal.chars socket

theorem ne_of_mem_address (plain : Name.Plain host) {socket : Nat} {char : Char} (listed : char ∈ address host socket)
    {other : Char} (kept : Name.forbidden other = true) (apart : ':' ≠ other)
    (sign : other.toNat < 48 ∨ 58 ≤ other.toNat) : char ≠ other := by
  rcases List.mem_append.mp listed with named | rest
  · exact plain.ne named kept
  · rcases List.mem_cons.mp rest with rfl | digit
    · exact apart
    · have code := Decimal.code_of_mem_chars digit
      rintro rfl
      omega

theorem authority_of_plain (plain : Name.Plain host) (socket : Nat) :
    authority ('/' :: '/' :: address host socket) = address host socket := by
  have ne {char : Char} (listed : char ∈ address host socket) : char ≠ '/' ∧ char ≠ '\\' ∧ char ≠ '?' ∧ char ≠ '#' :=
    ⟨ne_of_mem_address plain listed (by decide) (by decide) (by decide),
      ne_of_mem_address plain listed (by decide) (by decide) (by decide),
      ne_of_mem_address plain listed (by decide) (by decide) (by decide),
      ne_of_mem_address plain listed (by decide) (by decide) (by decide)⟩
  have named : (address host socket).dropWhile (fun char => char = '/' ∨ char = '\\') = address host socket := by
    refine List.dropWhile_eq_self_iff.mpr fun nonempty slash => ?_
    have first := ne (List.getElem_mem nonempty)
    exact (of_decide_eq_true slash).elim first.1 first.2.1
  have whole : splitAt (fun char => decide (char = '/' ∨ char = '\\') || char = '?' || char = '#')
      (address host socket) = (address host socket, []) := by
    refine splitAt_of_absent fun char listed => ?_
    obtain ⟨slash, backslash, query, fragment⟩ := ne listed
    simp [slash, backslash, query, fragment]
  have anonymous : (address host socket).reverse.takeWhile (· ≠ '@') = (address host socket).reverse := by
    refine List.takeWhile_eq_self_iff.mpr fun char listed => decide_eq_true ?_
    exact ne_of_mem_address plain (List.mem_reverse.mp listed) (by decide) (by decide) (by decide)
  have behind : ('/' :: '/' :: address host socket).dropWhile (fun char => char = '/' ∨ char = '\\') =
      address host socket := named
  unfold authority
  dsimp only
  rw [behind, whole]
  dsimp only
  rw [anonymous, List.reverse_reverse]

theorem valid_of_plain {host : String} (plain : Name.Plain host.toList) (socket : Nat) :
    valid ("http://" ++ (host ++ ":" ++ Decimal.text socket)) =
      ((!Address.isNumeric host.toList || Address.validNumeric host.toList) && decide (socket < 65536)) := by
  have chars : ("http://" ++ (host ++ ":" ++ Decimal.text socket)).toList =
      'h' :: 't' :: 't' :: 'p' :: ':' :: '/' :: '/' :: address host.toList socket := by
    unfold address
    simp [Decimal.text]
  have visible : ∀ char ∈ address host.toList socket, 0x20 < char.toNat := by
    intro char listed
    rcases List.mem_append.mp listed with named | rest
    · exact (plain.chars char named).visible
    · rcases List.mem_cons.mp rest with rfl | digit
      · decide
      · exact Nat.lt_of_lt_of_le (by decide) (Decimal.code_of_mem_chars digit).1
  have parted : splitAt (· = ':') (address host.toList socket) = (host.toList, ':' :: Decimal.chars socket) :=
    splitAt_append (fun char listed => decide_eq_false (plain.ne listed (by decide))) (by decide) _
  have unbracketed : ∀ rest, address host.toList socket ≠ '[' :: rest := by
    intro rest same
    have first : '[' ∈ address host.toList socket := same ▸ List.mem_cons_self
    exact ne_of_mem_address plain first (by decide) (by decide) (by decide) rfl
  have scheme : afterScheme? ('h' :: 't' :: 't' :: 'p' :: ':' :: '/' :: '/' :: address host.toList socket) =
      some ('/' :: '/' :: address host.toList socket) := rfl
  unfold valid
  rw [chars, trimmed_of_visible (by simpa using visible), scheme]
  dsimp only
  rw [authority_of_plain plain]
  split
  · rename_i same
    exact absurd same (unbracketed _)
  · rw [parted]
    dsimp only
    rw [validName_of_plain plain, List.drop_one, List.tail_cons, validSocket_chars]

end Plain

end Diagnostics.Url

namespace CommandLine

variable {file : String → Except FileFault Bytes} {inUse : Nat → Bool} {arguments : List String} {plan : Plan}

theorem ok_of_bind {ε α β : Type} {first : Except ε α} {next : α → Except ε β} {result : β}
    (done : first >>= next = .ok result) : ∃ value, first = .ok value ∧ next value = .ok result := by
  cases first with
  | error => cases done
  | ok value => exact ⟨value, rfl, done⟩

theorem questionSocket_of_freeSocket {id : UInt64} {socket : Nat} (free : freeSocket inUse id = .ok socket) :
    questionSocket? id = some socket := by
  unfold freeSocket at free
  cases found : questionSocket? id with
  | none =>
    rw [found] at free
    cases free
  | some own =>
    rw [found] at free
    dsimp only at free
    split at free <;> cases free
    rfl

theorem questionSocket_of_plan (planned : CommandLine.plan file inUse arguments = .ok plan) :
    questionSocket? plan.id = some plan.questionSocket := by
  unfold CommandLine.plan at planned
  split at planned
  · obtain ⟨id, -, rest⟩ := ok_of_bind planned
    obtain ⟨config, -, rest⟩ := ok_of_bind rest
    obtain ⟨validators, -, rest⟩ := ok_of_bind rest
    obtain ⟨socket, free, rest⟩ := ok_of_bind rest
    cases rest
    exact questionSocket_of_freeSocket free
  · cases planned

theorem questionSocket_lt_of_plan (planned : CommandLine.plan file inUse arguments = .ok plan) :
    plan.questionSocket < 65536 := by
  have found := questionSocket_of_plan planned
  unfold questionSocket? at found
  dsimp only at found
  split at found
  · rename_i within
    rw [← Option.some.inj found]
    exact within
  · cases found

theorem questionHost_plain : Host.Name.Plain questionHost.toList where
  nonempty := by decide
  chars char listed := by
    have each : questionHost.toList.all (fun char =>
        0x20 < char.toNat ∧ char.toNat < 0x80 ∧ (char.toNat < 65 ∨ 91 ≤ char.toNat)) = true := by decide
    obtain ⟨visible, ascii, small⟩ := of_decide_eq_true (List.all_eq_true.mp each char listed)
    exact ⟨visible, ascii, small⟩
  allowed char listed := by
    have each : questionHost.toList.all (!Host.Name.forbidden ·) = true := by decide
    simpa using List.all_eq_true.mp each char listed
  unspelled label listed := by
    have each : (Host.Name.labels questionHost.toList).all (·.take 4 ≠ Host.Name.spelled) = true := by decide
    exact of_decide_eq_true (List.all_eq_true.mp each label listed)

open Diagnostics in
/-- Whatever a node is started with, one can ask it: there is a client for its address, and if the network carries
to it what the node answers, the client gets that. -/
theorem started_node_can_be_asked (planned : CommandLine.plan file inUse arguments = .ok plan) {state : EngineState}
    (keyed : state.Keyed) {network : String → Transport}
    (carries : (network ("http://" ++ plan.questionAddress)).Carries state) (method : Method) :
    ∃ client, Client.connect? ("http://" ++ plan.questionAddress) = some client ∧
      client.ask network method = .ok (answer state method).arrived := by
  have valid : Url.valid ("http://" ++ plan.questionAddress) = true := by
    have address := Url.valid_of_plain questionHost_plain plan.questionSocket
    rw [decide_eq_true (questionSocket_lt_of_plan planned), Bool.and_true] at address
    exact address.trans (by decide)
  exact ⟨⟨_, valid⟩, dif_pos valid, ask_of_carries keyed carries method⟩

example : (CommandLine.plan (fun _ => .error .missing) (fun _ => false) ["3"]).map Plan.questionAddress =
    .ok "127.0.0.1:8548" := by rfl

end CommandLine

end MasternodeBft
