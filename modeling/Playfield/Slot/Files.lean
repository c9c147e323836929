import Playfield.Sha256
import Playfield.Slot.Directory
import Playfield.Slot.Error
import Playfield.Text.Affix

/-!
# Slots in Files

A directory as a store of texts by key.

A slot is a file, and next to it lies a second file with the digest of the
first. A slot whose digest does not fit is corrupt; one without a digest is
taken as it is. Both files are written in the same way: to a third file first,
which then takes the place of the old one, so that no reader finds half a text.

A key is part of a file name. It must not lead out of the directory, and it must
not be a hidden file; so it consists of letters, digits and four signs, and does
not begin with a point. Everything behind the last point of a name was added
here, which is why keys may contain points without being mixed up.

## Main definitions

* `SlotFiles.isKey`: A text that can be a key.
* `SlotFiles.get`, `set`, `remove`, `contains`, `keys`: The store.
* `SlotFiles.setSteps`: What writing a slot does to the directory, step by step.

## Theorems

* `SlotFiles.slotOf?_dataName`: The key of a slot can be read off its file.
* `SlotFiles.set_invalid`: An invalid key changes nothing.
-/

namespace Playfield

namespace SlotFiles

/-- A character that a key can contain. -/
def isKeyChar (c : Char) : Bool :=
  CharClass.alphanumeric.mem c || c == '_' || c == '-' || c == '.' || c == ' '

/-- A text that can be a key. -/
def isKey (key : String) : Bool :=
  match key.toList with
  | [] => false
  | c :: cs => c != '.' && (c :: cs).all isKeyChar

/-- The file of a slot. -/
def dataName (key : String) : String := key ++ ".json"

/-- The file with the digest of a slot. -/
def digestName (key : String) : String := key ++ ".sha256"

/-- The file to which a slot and its digest are written first. -/
def scratchName (key : String) : String := key ++ ".tmp"

/-- The key of the slot that lies in a file. -/
def slotOf? (name : String) : Option String :=
  match Text.before? ".json".toList name.toList with
  | none | some [] => none
  | some key => some (String.ofList key)

theorem slotOf?_dataName (key : String) (h : key ≠ "") : slotOf? (dataName key) = some key := by
  have hl : key.toList ≠ [] := by simpa using h
  simp only [slotOf?, dataName, String.toList_append, Text.before?_append]
  cases hk : key.toList with
  | nil => exact absurd hk hl
  | cons c cs => simp [← hk]

/-- What the file system refuses is an error of the store. -/
def ofFile {α : Type} : Except FileError α → Except SlotError α
  | .ok a => .ok a
  | .error _ => .error .storage

/-- A text in a file that may be missing. -/
def readText? (d : Directory) (name : String) : Except SlotError (Option String) :=
  match d.readText name with
  | .ok s => .ok (some s)
  | .error .notFound => .ok none
  | .error .refused => .error .storage

/-- The text in a slot. -/
def get (d : Directory) (key : String) : Except SlotError (Option String) :=
  if isKey key then
    match readText? d (dataName key) with
    | .error e => .error e
    | .ok none => .ok none
    | .ok (some text) =>
      match readText? d (digestName key) with
      | .error e => .error e
      | .ok none => .ok (some text)
      | .ok (some digest) =>
        let expected := String.ofList (Text.trim digest.toList)
        let actual := Sha256.hex text
        if expected = actual then .ok (some text) else .error (.corrupt key expected actual)
  else .error (.invalidKey key)

/-- The steps that put a text into a file, by way of another file. -/
def replaceSteps (name scratch text : String) : List FileStep :=
  [.create scratch, .write scratch text.toUTF8, .rename scratch name]

/-- The steps that put a text into a slot. -/
def setSteps (key text : String) : List FileStep :=
  replaceSteps (dataName key) (scratchName key) text ++
    replaceSteps (digestName key) (scratchName key) (Sha256.hex text)

/-- Puts a text into a slot. -/
def set (d : Directory) (key text : String) : Directory × Except SlotError Unit :=
  if isKey key then
    let (d, result) := d.run (setSteps key text)
    (d, ofFile result)
  else (d, .error (.invalidKey key))

theorem set_invalid (d : Directory) (key text : String) (h : isKey key = false) :
    set d key text = (d, .error (.invalidKey key)) := by
  simp [set, h]

/-- Removes a file if it is there. -/
def removeFile (d : Directory) (name : String) : Directory × Except SlotError Unit :=
  match d.step (.remove name) with
  | .ok d => (d, .ok ())
  | .error .notFound => (d, .ok ())
  | .error .refused => (d, .error .storage)

/-- Empties a slot. -/
def remove (d : Directory) (key : String) : Directory × Except SlotError Unit :=
  if isKey key then
    match removeFile d (dataName key) with
    | (d, .ok ()) => removeFile d (digestName key)
    | (d, .error e) => (d, .error e)
  else (d, .error (.invalidKey key))

/-- Whether there is a file for a slot. -/
def contains (d : Directory) (key : String) : Bool :=
  isKey key && (d.read (dataName key)).toBool

/-- The keys of the slots that there are, in order. -/
def keys (d : Directory) : List String :=
  ((d.keys.filterMap slotOf?).foldl Names.add .empty).keys

end SlotFiles

end Playfield
