import Mathlib.Data.List.Chain
import MasternodeBft.Proofs.Epochs

/-!
The blocks that open epochs along a path of headers. The first block after the switch block does, and after it
each block whose round is of a later epoch than that of its parent, no matter how many rounds have been left
without a block. So every epoch is opened by one block at most.
-/

namespace MasternodeBft

/-- A header comes after another one: the next block, in a later round. -/
structure Header.Succeeds (header parent : Header) : Prop where
  number : header.number.toNat = parent.number.toNat + 1
  round : parent.round < header.round

structure HeaderPath (first : UInt64) (headers : List Header) : Prop where
  begins : ∀ header ∈ headers.head?, header.number = first
  linked : headers.IsChain fun parent header => header.Succeeds parent

namespace HeaderPath

variable {first : UInt64} {headers : List Header} {i j : Nat}

theorem succeeds (path : HeaderPath first headers) (inside : i + 1 < headers.length) :
    headers[i + 1].Succeeds headers[i] := path.linked.getElem i inside

theorem number (path : HeaderPath first headers) (inside : i < headers.length) :
    headers[i].number.toNat = first.toNat + i := by
  induction i with
  | zero =>
    apply congrArg UInt64.toNat
    apply path.begins
    rw [Option.mem_def, List.head?_eq_getElem?, List.getElem?_eq_getElem inside]
  | succ i ih =>
    have before := ih (by omega)
    rw [(path.succeeds inside).number, before]
    omega

theorem number_eq_first_iff (path : HeaderPath first headers) (inside : i < headers.length) :
    headers[i].number = first ↔ i = 0 := by
  rw [← UInt64.toNat_inj, path.number inside]
  omega

theorem round_mono (path : HeaderPath first headers) (order : i ≤ j) (inside : j < headers.length) :
    headers[i].round ≤ headers[j].round := by
  induction j, order using Nat.le_induction with
  | base => exact UInt64.le_refl _
  | succ j order ih =>
    apply UInt64.le_trans (ih (by omega))
    exact UInt64.le_of_lt (path.succeeds inside).round

end HeaderPath

section Opening

variable {setting : Setting} {headers : List Header} {i j : Nat}

theorem opensEpoch_iff_of_path (positive : setting.config.epoch ≠ 0)
    (path : HeaderPath setting.config.upgrade.switchBlock headers) (inside : i + 1 < headers.length) :
    setting.config.opensEpoch headers[i + 1].round headers[i] = true ↔
      i = 0 ∨ setting.config.epochOf headers[i].round < setting.config.epochOf headers[i + 1].round := by
  rw [ConsensusConfig.opensEpoch_iff positive, path.number_eq_first_iff]

theorem epochOf_lt_of_opens (positive : setting.config.epoch ≠ 0)
    (path : HeaderPath setting.config.upgrade.switchBlock headers) (before : i < j) (inside : j + 1 < headers.length)
    (opens : setting.config.opensEpoch headers[j + 1].round headers[j] = true) :
    setting.config.epochOf headers[i + 1].round < setting.config.epochOf headers[j + 1].round := by
  rw [opensEpoch_iff_of_path positive path inside] at opens
  calc
    setting.config.epochOf headers[i + 1].round
    _ ≤ setting.config.epochOf headers[j].round := setting.config.epochOf_mono (path.round_mono before (by omega))
    _ < setting.config.epochOf headers[j + 1].round := opens.resolve_left (by omega)

/-- Along a path of headers from the switch block on, the blocks that are taken to open epochs are the one after
the switch block and those whose parents are of earlier epochs; and no two of them are of one epoch. -/
theorem each_epoch_opened_once (positive : setting.config.epoch ≠ 0)
    (path : HeaderPath setting.config.upgrade.switchBlock headers)
    (indexed : ∀ header ∈ headers.tail, setting.config.Indexes header.round) :
    let epochOf (header : Header) := setting.config.epochOf header.round
    (∀ i (inside : i + 1 < headers.length),
        (Engine.isEpochSwitch setting headers[i + 1].round headers[i]).ending =
          .done (decide (i = 0 ∨ epochOf headers[i] < epochOf headers[i + 1]))) ∧
      ∀ i j (inside : i + 1 < headers.length) (within : j + 1 < headers.length),
        (Engine.isEpochSwitch setting headers[i + 1].round headers[i]).ending = .done true →
          (Engine.isEpochSwitch setting headers[j + 1].round headers[j]).ending = .done true →
            epochOf headers[i + 1] = epochOf headers[j + 1] → i = j := by
  intro epochOf
  have judged {i : Nat} (inside : i + 1 < headers.length) :
      (Engine.isEpochSwitch setting headers[i + 1].round headers[i]).ending =
        .done (setting.config.opensEpoch headers[i + 1].round headers[i]) := by
    apply Engine.isEpochSwitch_of_indexes
    apply indexed
    rw [List.mem_iff_getElem]
    exact ⟨i, by rw [List.length_tail]; omega, List.getElem_tail _⟩
  constructor
  · intro i inside
    rw [judged inside, Ending.done.injEq, Bool.eq_iff_iff, decide_eq_true_iff]
    exact opensEpoch_iff_of_path positive path inside
  · intro i j inside within first second same
    rw [judged inside, Ending.done.injEq] at first
    rw [judged within, Ending.done.injEq] at second
    rcases Nat.lt_trichotomy i j with before | same | after
    · exact absurd same (Nat.ne_of_lt (epochOf_lt_of_opens positive path before within second))
    · exact same
    · exact absurd same.symm (Nat.ne_of_lt (epochOf_lt_of_opens positive path after inside first))

end Opening

/-! Blocks of three epochs, the second of which has none of them. -/

namespace Sample

def header (number round : UInt64) : Header := { Header.zero with number, round }

def skippingPath : List Header := [header 0 0, header 1 5, header 2 899, header 3 1900]

theorem skippingPath_path : HeaderPath setting.config.upgrade.switchBlock skippingPath where
  begins := by decide
  linked := by
    have first : (header 1 5).Succeeds (header 0 0) := ⟨rfl, by decide⟩
    have second : (header 2 899).Succeeds (header 1 5) := ⟨rfl, by decide⟩
    have third : (header 3 1900).Succeeds (header 2 899) := ⟨rfl, by decide⟩
    simp [skippingPath, first, second, third]

end Sample

theorem third_block_opens_third_epoch :
    Sample.setting.config.epoch ≠ 0 ∧ HeaderPath Sample.setting.config.upgrade.switchBlock Sample.skippingPath ∧
      (Engine.isEpochSwitch Sample.setting 899 (Sample.header 1 5)).ending = .done false ∧
      (Engine.isEpochSwitch Sample.setting 1900 (Sample.header 2 899)).ending = .done true := by
  have positive : Sample.setting.config.epoch ≠ 0 := by decide
  have indexed : ∀ header ∈ Sample.skippingPath.tail, Sample.setting.config.Indexes header.round := by decide
  obtain ⟨judged, -⟩ := each_epoch_opened_once positive Sample.skippingPath_path indexed
  refine ⟨positive, Sample.skippingPath_path, (judged 1 (by decide)).trans ?_, (judged 2 (by decide)).trans ?_⟩
  · rw [decide_eq_false (by decide)]
  · rw [decide_eq_true (by decide)]

end MasternodeBft
