import Playfield.Slot.Files

/-!
# Slot Stores

Where saved games are kept: in memory, or in the files of a directory.

Both are maps from keys to texts. In memory every key is possible and nothing
can go wrong. Files have names, can be changed by others and can be refused.

## Main definitions

* `SlotStore`: A store in memory or in files.
* `SlotStore.get`, `set`, `remove`, `contains`, `keys`: Its operations.

## Theorems

* `SlotStore.get_set_memory`: A text put into memory is found there.
-/

namespace Playfield

/-- A map from keys to texts. -/
inductive SlotStore where
  | memory (slots : Dictionary String)
  | files (d : Directory)

namespace SlotStore

/-- The text in a slot. -/
def get (s : SlotStore) (key : String) : Except SlotError (Option String) :=
  match s with
  | .memory slots => .ok (slots.get? key)
  | .files d => SlotFiles.get d key

/-- Puts a text into a slot. -/
def set (s : SlotStore) (key text : String) : SlotStore × Except SlotError Unit :=
  match s with
  | .memory slots => (.memory (slots.insert key text), .ok ())
  | .files d =>
    let (d, result) := SlotFiles.set d key text
    (.files d, result)

/-- Empties a slot. -/
def remove (s : SlotStore) (key : String) : SlotStore × Except SlotError Unit :=
  match s with
  | .memory slots => (.memory (slots.erase key), .ok ())
  | .files d =>
    let (d, result) := SlotFiles.remove d key
    (.files d, result)

/-- Whether a slot is used. -/
def contains (s : SlotStore) (key : String) : Bool :=
  match s with
  | .memory slots => slots.contains key
  | .files d => SlotFiles.contains d key

/-- The keys of the used slots, in order. -/
def keys (s : SlotStore) : List String :=
  match s with
  | .memory slots => slots.keys
  | .files d => SlotFiles.keys d

theorem get_set_memory (slots : Dictionary String) (key text : String) :
    ((SlotStore.memory slots).set key text).1.get key = .ok (some text) := by
  simp [set, get, Dictionary.get?_insert_self]

end SlotStore

end Playfield
