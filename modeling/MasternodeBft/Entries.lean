/-! Finite maps held as lists of entries, in the order in which their keys came. -/

namespace MasternodeBft

abbrev Entries (κ α : Type) := List (κ × α)

namespace Entries

variable {κ α : Type} [DecidableEq κ]

def get? (entries : Entries κ α) (key : κ) : Option α :=
  (entries.find? fun entry => entry.1 = key).map Prod.snd

/-- Puts a value under a key: in place of an earlier one, or else at the end. -/
def put (key : κ) (value : α) : Entries κ α → Entries κ α
  | [] => [(key, value)]
  | entry :: rest => if entry.1 = key then (key, value) :: rest else entry :: put key value rest

def erase (entries : Entries κ α) (key : κ) : Entries κ α := entries.filter fun entry => entry.1 ≠ key

def keys (entries : Entries κ α) : List κ := entries.map Prod.fst

def values (entries : Entries κ α) : List α := entries.map Prod.snd

@[simp] theorem get?_nil (key : κ) : get? ([] : Entries κ α) key = none := rfl

theorem get?_cons (entry : κ × α) (rest : Entries κ α) (key : κ) :
    get? (entry :: rest) key = if entry.1 = key then some entry.2 else get? rest key := by
  by_cases same : entry.1 = key <;> simp [get?, same]

@[simp] theorem get?_put_self (entries : Entries κ α) (key : κ) (value : α) :
    (entries.put key value).get? key = some value := by
  induction entries with
  | nil => simp [put, get?_cons]
  | cons entry rest ih =>
    by_cases same : entry.1 = key
    · simp [put, same, get?_cons]
    · simp [put, same, get?_cons, ih]

theorem get?_put_of_ne (entries : Entries κ α) {key other : κ} (value : α) (different : key ≠ other) :
    (entries.put key value).get? other = entries.get? other := by
  induction entries with
  | nil => simp [put, get?_cons, different]
  | cons entry rest ih =>
    by_cases same : entry.1 = key
    · simp [put, same, get?_cons, different]
    · simp [put, same, get?_cons, ih]

@[simp] theorem get?_erase_self (entries : Entries κ α) (key : κ) : (entries.erase key).get? key = none := by
  simp [erase, get?]

theorem erase_cons (entry : κ × α) (rest : Entries κ α) (key : κ) :
    erase (entry :: rest) key = if entry.1 = key then erase rest key else entry :: erase rest key := by
  by_cases same : entry.1 = key <;> simp [erase, same]

theorem get?_erase_of_ne (entries : Entries κ α) {key other : κ} (different : key ≠ other) :
    (entries.erase key).get? other = entries.get? other := by
  induction entries with
  | nil => rfl
  | cons entry rest ih =>
    by_cases same : entry.1 = key
    · simp [erase_cons, same, get?_cons, different, ih]
    · simp [erase_cons, same, get?_cons, ih]

theorem keys_put (entries : Entries κ α) (key : κ) (value : α) :
    (entries.put key value).keys =
      if key ∈ entries.keys then entries.keys else entries.keys ++ [key] := by
  induction entries with
  | nil => simp [put, keys]
  | cons entry rest ih =>
    by_cases same : entry.1 = key
    · simp [put, keys, same]
    · have apart : ¬key = entry.1 := fun equal => same equal.symm
      have step : (put key value (entry :: rest)).keys = entry.1 :: (put key value rest).keys := by
        simp [put, same, keys]
      rw [step, ih]
      by_cases present : key ∈ keys rest <;> simp_all [keys]

theorem nodup_keys_put {entries : Entries κ α} (distinct : entries.keys.Nodup) (key : κ) (value : α) :
    (entries.put key value).keys.Nodup := by
  rw [keys_put]
  split
  · exact distinct
  · rename_i fresh
    exact List.nodup_append.mpr ⟨distinct, by simp, fun a present b single equal => by
      simp at single; exact fresh (single ▸ equal ▸ present)⟩

end Entries

end MasternodeBft
