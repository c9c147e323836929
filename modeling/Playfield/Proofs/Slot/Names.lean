import Mathlib
import Playfield.Slot.Store
import Playfield.Text.Fragment

/-!
# The Names of Slot Files

Which files a slot has, and that no two slots share one.

A slot has three files, and their names are its key with three endings. The last
characters of the endings differ, so a name tells which of the three files it is;
and what stands in front of the ending is the key, whatever points and endings
the key itself may have. So the names of two slots are different in all cases,
for all texts as keys (`SlotFiles.eq_of_mem_fileNames`).

A name that begins with a key is an ordinary entry of the directory: no part of it
separates directories, and it is not a hidden one.

## Main definitions

* `SlotFiles.fileNames`: The files of a slot.
* `SlotFiles.IsEntryName`: A name that stays in its directory.

## Theorems

* `SlotFiles.eq_of_mem_fileNames`: No two slots share a file.
* `SlotFiles.slotOf?_eq_some_iff`: The files in which slots lie.
* `SlotFiles.isEntryName_of_mem_fileNames`: Slots stay in their directory.
-/

namespace Playfield

namespace Text

theorem eq_append_of_before? {back cs front : List Char} (h : before? back cs = some front) :
    cs = front ++ back := by
  simp only [before?, Option.map_eq_some_iff] at h
  rcases h with ⟨rest, hrest, rfl⟩
  -- What stands behind a text stands in front of the reversed one.
  have hcs := Fragment.eq_append_of_after? hrest
  rw [List.reverse_eq_iff, List.reverse_append, List.reverse_reverse] at hcs
  exact hcs

end Text

namespace SlotFiles

/-- The files of a slot. -/
def fileNames (key : String) : List String := [dataName key, digestName key, scratchName key]

section Endings

variable {key key' name : String}

/-- Texts with different last characters are different. -/
theorem append_ne_append {back back' : String} (h : back.toList.getLast? ≠ none)
    (h' : back'.toList.getLast? ≠ none) (hne : back.toList.getLast? ≠ back'.toList.getLast?) :
    key ++ back ≠ key' ++ back' := by
  intro heq
  have hlast := congrArg (fun s => s.toList.getLast?) heq
  simp only [String.toList_append, List.getLast?_append] at hlast
  -- Both endings have a last character, so it is that of the whole.
  rw [Option.or_of_isSome (Option.isSome_iff_ne_none.2 h),
    Option.or_of_isSome (Option.isSome_iff_ne_none.2 h')] at hlast
  exact hne hlast

@[simp]
theorem dataName_ne_digestName : dataName key ≠ digestName key' :=
  append_ne_append (by decide) (by decide) (by decide)

@[simp]
theorem dataName_ne_scratchName : dataName key ≠ scratchName key' :=
  append_ne_append (by decide) (by decide) (by decide)

@[simp]
theorem digestName_ne_scratchName : digestName key ≠ scratchName key' :=
  append_ne_append (by decide) (by decide) (by decide)

@[simp]
theorem digestName_ne_dataName : digestName key ≠ dataName key' := Ne.symm dataName_ne_digestName

@[simp]
theorem scratchName_ne_dataName : scratchName key ≠ dataName key' := Ne.symm dataName_ne_scratchName

@[simp]
theorem scratchName_ne_digestName : scratchName key ≠ digestName key' :=
  Ne.symm digestName_ne_scratchName

@[simp]
theorem dataName_inj : dataName key = dataName key' ↔ key = key' := String.append_left_inj ".json"

@[simp]
theorem digestName_inj : digestName key = digestName key' ↔ key = key' :=
  String.append_left_inj ".sha256"

@[simp]
theorem scratchName_inj : scratchName key = scratchName key' ↔ key = key' :=
  String.append_left_inj ".tmp"

theorem mem_fileNames : name ∈ fileNames key ↔
    name = dataName key ∨ name = digestName key ∨ name = scratchName key := by
  simp [fileNames]

theorem dataName_mem (key : String) : dataName key ∈ fileNames key := by simp [fileNames]

theorem digestName_mem (key : String) : digestName key ∈ fileNames key := by simp [fileNames]

/-- No two slots share a file. -/
theorem eq_of_mem_fileNames (h : name ∈ fileNames key) (h' : name ∈ fileNames key') :
    key = key' := by
  rw [mem_fileNames] at h h'
  rcases h with rfl | rfl | rfl <;> rcases h' with h' | h' | h'
  · exact dataName_inj.1 h'
  · exact absurd h' dataName_ne_digestName
  · exact absurd h' dataName_ne_scratchName
  · exact absurd h' digestName_ne_dataName
  · exact digestName_inj.1 h'
  · exact absurd h' digestName_ne_scratchName
  · exact absurd h' scratchName_ne_dataName
  · exact absurd h' scratchName_ne_digestName
  · exact scratchName_inj.1 h'

theorem slotOf?_eq_some_iff : slotOf? name = some key ↔ name = dataName key ∧ key ≠ "" := by
  constructor
  · intro h
    unfold slotOf? at h
    split at h
    · cases h
    · cases h
    · next front hne hfront =>
      rw [Option.some.injEq] at h
      subst h
      have happ := Text.eq_append_of_before? hfront
      refine ⟨?_, ?_⟩
      · rw [← String.toList_inj, dataName, String.toList_append, String.toList_ofList]
        exact happ
      · intro hempty
        rw [← String.toList_inj, String.toList_ofList] at hempty
        exact hne hempty
  · rintro ⟨rfl, hne⟩
    exact slotOf?_dataName key hne

end Endings

section Entries

variable {key name : String}

/-- What separates the parts of a path, begins one elsewhere or ends it. -/
def separators : List Char := ['/', '\\', ':', '\x00']

theorem not_mem_separators {c : Char} (h : isKeyChar c = true) : c ∉ separators := by
  intro hc
  simp only [separators, List.mem_cons, List.not_mem_nil, or_false] at hc
  rcases hc with rfl | rfl | rfl | rfl <;> exact absurd h Bool.false_ne_true

/-- A name of an entry of a directory, and not of a hidden one. In particular it is
    neither the directory itself nor the one above. -/
structure IsEntryName (name : String) : Prop where
  single : ∀ c ∈ name.toList, c ∉ separators
  nonempty : name ≠ ""
  visible : name.toList.head? ≠ some '.'

theorem isKey_iff : isKey key = true ↔
    key ≠ "" ∧ key.toList.head? ≠ some '.' ∧ ∀ c ∈ key.toList, isKeyChar c = true := by
  rw [ne_eq, ← String.toList_eq_nil_iff]
  unfold isKey
  cases key.toList with
  | nil => simp
  | cons c cs => simp [bne_iff_ne]

theorem ne_empty_of_isKey (hkey : isKey key = true) : key ≠ "" := (isKey_iff.1 hkey).1

/-- A key with an ending is an entry of the directory. -/
theorem isEntryName_append {back : String} (hkey : isKey key = true)
    (hback : back.toList.all isKeyChar = true) : IsEntryName (key ++ back) := by
  rcases isKey_iff.1 hkey with ⟨hne, hhead, hchars⟩
  have htoList : key.toList ≠ [] := by simpa using hne
  refine ⟨?_, ?_, ?_⟩
  · intro c hc
    rw [String.toList_append, List.mem_append] at hc
    rcases hc with hc | hc
    · exact not_mem_separators (hchars c hc)
    · exact not_mem_separators (List.all_eq_true.1 hback c hc)
  · rw [ne_eq, ← String.toList_eq_nil_iff, String.toList_append, List.append_eq_nil_iff]
    exact fun h => htoList h.1
  · rwa [String.toList_append, List.head?_append_of_ne_nil _ htoList]

theorem isEntryName_of_mem_fileNames (hkey : isKey key = true) (h : name ∈ fileNames key) :
    IsEntryName name := by
  rw [mem_fileNames] at h
  rcases h with rfl | rfl | rfl
  · exact isEntryName_append hkey rfl
  · exact isEntryName_append hkey rfl
  · exact isEntryName_append hkey rfl

end Entries

end SlotFiles

end Playfield
