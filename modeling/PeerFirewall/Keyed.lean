/-!
# Values by key

A keyed table holds a value for each of some keys, and what was put in last stands first.
`find?_insert` and `find?_erase` say what the operations do to the value of every key.
-/
namespace PeerFirewall

/-- Values by key, each key once. -/
structure Keyed (κ α : Type) where
  entries : List (κ × α)
  distinct : (entries.map (·.1)).Nodup
deriving DecidableEq, Repr

namespace Keyed

variable {κ α : Type}

/-- Nothing. -/
def empty : Keyed κ α := ⟨[], .nil⟩

/-- The keys, that of the value put in last first. -/
def keys (table : Keyed κ α) : List κ := table.entries.map (·.1)

/-- No key occurs twice. -/
theorem keys_nodup (table : Keyed κ α) : table.keys.Nodup := table.distinct

variable [DecidableEq κ]

/-- The value of a key. -/
def find? (table : Keyed κ α) (key : κ) : Option α :=
  (table.entries.find? (·.1 = key)).map (·.2)

/-- The table without a key. -/
def erase (table : Keyed κ α) (key : κ) : Keyed κ α where
  entries := table.entries.filter (·.1 ≠ key)
  distinct := table.distinct.sublist (List.filter_sublist.map _)

/-- An erased key is gone. -/
theorem key_notMem_erase (table : Keyed κ α) (key : κ) : key ∉ (table.erase key).keys := by
  simp [keys, erase]

/-- The table with a value for a key, in place of the one it had. -/
def insert (table : Keyed κ α) (key : κ) (value : α) : Keyed κ α where
  entries := (key, value) :: (table.erase key).entries
  distinct := List.nodup_cons.2 ⟨table.key_notMem_erase key, (table.erase key).distinct⟩

/-- The keys are those that have a value. -/
theorem mem_keys (table : Keyed κ α) (key : κ) :
    key ∈ table.keys ↔ ∃ value, table.find? key = some value := by
  simp only [keys, find?, List.mem_map, Option.map_eq_some_iff]
  constructor
  · rintro ⟨entry, member, rfl⟩
    obtain ⟨found, isFound⟩ : ∃ found, table.entries.find? (·.1 = entry.1) = some found :=
      Option.isSome_iff_exists.1 (List.find?_isSome.2 ⟨entry, member, by simp⟩)
    exact ⟨found.2, found, isFound, rfl⟩
  · rintro ⟨_, entry, found, _⟩
    exact ⟨entry, List.mem_of_find?_eq_some found, by simpa using List.find?_some found⟩

/-- No key has a value in the empty table. -/
@[simp] theorem find?_empty (key : κ) : (empty : Keyed κ α).find? key = none := rfl

/-- Erasing takes the value of that key only. -/
@[simp] theorem find?_erase (table : Keyed κ α) (key other : κ) :
    (table.erase key).find? other = if other = key then none else table.find? other := by
  simp only [find?, erase]
  induction table.entries with
  | nil => simp
  | cons entry rest ih => grind

/-- Inserting changes the value of that key only. -/
@[simp] theorem find?_insert (table : Keyed κ α) (key : κ) (value : α) (other : κ) :
    (table.insert key value).find? other =
      if other = key then some value else table.find? other := by
  have erased := table.find?_erase key other
  simp only [find?, insert] at *
  grind

/-- The keys after erasing one. -/
@[simp] theorem keys_erase (table : Keyed κ α) (key : κ) :
    (table.erase key).keys = table.keys.filter (· ≠ key) := by
  simp [keys, erase, List.filter_map, Function.comp_def]

/-- The keys after inserting one. -/
@[simp] theorem keys_insert (table : Keyed κ α) (key : κ) (value : α) :
    (table.insert key value).keys = key :: table.keys.filter (· ≠ key) := by
  rw [← keys_erase]
  rfl

end Keyed

end PeerFirewall
