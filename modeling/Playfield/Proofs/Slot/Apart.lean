import Mathlib
import Playfield.Proofs.Slot.Names
import Playfield.Proofs.Slot.Steps

/-!
# Slots Apart

No operation on a slot has to do with another slot.

An operation on a slot mentions the files of the slot. Those of other slots are
other files, so it neither changes them nor depends on them. In memory this is
a property of dictionaries, and of both kinds of stores together it is
`SlotStore.SameBut`: after an operation on a slot the store is the same but for
that slot. What can be asked about other slots is answered as before.

What can be read in the slot itself afterwards is what has been put there or what
was there before, also if the operation failed half way.

## Main definitions

* `SlotFiles.verdict`: What becomes of a text with the digest that is there.
* `SlotFiles.interrupted`: What some of the steps of a write leave.
* `SlotStore.SameBut`: The stores are the same but for one slot.

## Theorems

* `SlotFiles.set_frame`, `SlotFiles.remove_frame`: Other files stay as they are.
* `SlotFiles.get_congr`, `SlotFiles.set_congr` and their like: Other files do not
  matter.
* `SlotFiles.get?_interrupted`: Data and digest while a text is put into a slot.
* `SlotStore.sameBut_set`, `SlotStore.sameBut_remove`: Other slots stay as they are.
* `SlotStore.get_of_set`, `SlotStore.get_of_remove`: What can be read in the slot.
-/

namespace Playfield

namespace SlotFiles

variable {d e : Directory} {key other text name : String}

section Reading

theorem readText?_congr (h : e.get? name = d.get? name) : readText? e name = readText? d name := by
  unfold readText?
  rw [Directory.readText_congr h]

theorem readText?_of_toUTF8 (hsize : name.utf8ByteSize ≤ Directory.nameLimit)
    (h : d.get? name = some (.file text.toUTF8)) : readText? d name = .ok (some text) := by
  unfold readText?
  rw [Directory.readText_of_toUTF8 hsize h]

theorem readText?_of_not_admits (h : ¬ d.admits name = true) :
    readText? d name = .error .storage := by
  have hread : d.read name = .error .refused := by
    rw [Directory.admits_eq_true_iff, not_and_or, not_not] at h
    by_cases hsize : name.utf8ByteSize ≤ Directory.nameLimit
    · have hdir := h.resolve_left (not_not.2 hsize)
      simp [Directory.read, Directory.entry?, hsize, hdir]
    · exact Directory.read_of_large hsize
  simp only [readText?, Directory.readText, hread]

/-- What becomes of the text in a slot with the digest that is there. -/
def verdict (d : Directory) (key text : String) : Except SlotError (Option String) :=
  match readText? d (digestName key) with
  | .error e => .error e
  | .ok none => .ok (some text)
  | .ok (some digest) =>
    let expected := String.ofList (Text.trim digest.toList)
    let actual := Sha256.hex text
    if expected = actual then .ok (some text) else .error (.corrupt key expected actual)

theorem get_eq (h : isKey key = true) (d : Directory) : get d key =
    match readText? d (dataName key) with
    | .error e => .error e
    | .ok none => .ok none
    | .ok (some text) => verdict d key text := by
  unfold get
  rw [if_pos h]
  rfl

theorem get_of_not_isKey (h : isKey key = false) (d : Directory) :
    get d key = .error (.invalidKey key) := by
  simp [get, h]

theorem verdict_congr (h : e.get? (digestName key) = d.get? (digestName key)) :
    verdict e key text = verdict d key text := by
  unfold verdict
  rw [readText?_congr h]

/-- A text is given out or not, but never changed. -/
theorem eq_of_verdict {found : Option String} (h : verdict d key text = .ok found) :
    found = some text := by
  unfold verdict at h
  split at h
  · cases h
  · cases h
    rfl
  · dsimp only at h
    split at h
    · cases h
      rfl
    · cases h

/-- A slot is read from its data and its digest. -/
theorem get_congr (hdata : e.get? (dataName key) = d.get? (dataName key))
    (hdigest : e.get? (digestName key) = d.get? (digestName key)) : get e key = get d key := by
  cases hkey : isKey key with
  | false => rw [get_of_not_isKey hkey, get_of_not_isKey hkey]
  | true =>
      rw [get_eq hkey, get_eq hkey, readText?_congr hdata]
      split
      · rfl
      · rfl
      · exact verdict_congr hdigest

theorem contains_congr (h : e.get? (dataName key) = d.get? (dataName key)) :
    contains e key = contains d key := by
  unfold contains
  rw [Directory.read_congr h]

/-- The keys are those of the data files that there are. -/
theorem mem_keys : key ∈ keys d ↔ key ≠ "" ∧ (d.get? (dataName key)).isSome := by
  rw [← Dictionary.mem_keys_iff]
  unfold keys
  rw [Names.mem_keys_foldl_add]
  simp only [Dictionary.empty, Dictionary.keys, List.map_nil, List.not_mem_nil, false_or,
    List.mem_filterMap, slotOf?_eq_some_iff]
  constructor
  · rintro ⟨name, hmem, rfl, hne⟩
    exact ⟨hne, hmem⟩
  · rintro ⟨hne, hmem⟩
    exact ⟨_, hmem, rfl, hne⟩

end Reading

section Writing

theorem names_setSteps {s : FileStep} (h : s ∈ setSteps key text) :
    ∀ name ∈ s.names, name ∈ fileNames key := by
  simp only [setSteps, replaceSteps, List.mem_append, List.mem_cons, List.not_mem_nil,
    or_false] at h
  rcases h with (rfl | rfl | rfl) | (rfl | rfl | rfl) <;> simp [FileStep.names, fileNames]

/-- What putting a text into a slot leaves in the directory, also if it is cut
    short. -/
def interrupted (d : Directory) (key text : String) (n : Nat) : Directory :=
  (d.run ((setSteps key text).take n)).1

theorem set_eq_interrupted (h : isKey key = true) :
    (set d key text).1 = interrupted d key text 6 := by
  simp only [set, if_pos h]
  rfl

theorem interrupted_frame (n : Nat) (hn : name ∉ fileNames key) :
    (interrupted d key text n).get? name = d.get? name :=
  Directory.run_frame d _ fun _ hs hname => hn (names_setSteps (List.mem_of_mem_take hs) _ hname)

theorem set_frame (hn : name ∉ fileNames key) : (set d key text).1.get? name = d.get? name := by
  cases hkey : isKey key with
  | false => rw [set_invalid d key text hkey]
  | true => rw [set_eq_interrupted hkey, interrupted_frame 6 hn]

theorem set_congr (text : String) (h : Directory.AgreeOn (fileNames key) d e) :
    (set e key text).2 = (set d key text).2 ∧
      Directory.AgreeOn (fileNames key) (set d key text).1 (set e key text).1 := by
  have hnames : ∀ s ∈ setSteps key text, ∀ name ∈ s.names, name ∈ fileNames key :=
    fun _ hs => names_setSteps hs
  have hrun := Directory.run_congr h hnames
  cases hkey : isKey key with
  | false =>
      rw [set_invalid d key text hkey, set_invalid e key text hkey]
      exact ⟨rfl, h⟩
  | true =>
      simp only [set, if_pos hkey]
      exact ⟨congrArg ofFile hrun.1, hrun.2⟩

/-- The directory with a text in its file and its digest not yet in the other. -/
def half (d : Directory) (key text : String) : Directory :=
  (d.erase (scratchName key)).insert (dataName key) (.file text.toUTF8)

theorem get?_half_dataName (d : Directory) (key text : String) :
    (half d key text).get? (dataName key) = some (.file text.toUTF8) :=
  Dictionary.get?_insert_self _ _ _

theorem get?_half_digestName (d : Directory) (key text : String) :
    (half d key text).get? (digestName key) = d.get? (digestName key) := by
  simp [half, Dictionary.get?_insert, Dictionary.get?_erase]

/-- The scratch file has become the data and can be made again. -/
theorem admits_half_scratchName (text : String) (h : d.admits (scratchName key) = true) :
    (half d key text).admits (scratchName key) = true := by
  rw [Directory.admits_eq_true_iff] at h ⊢
  simp [half, Dictionary.get?_insert, Dictionary.get?_erase, h.1]

/-- If the text can be written, what follows starts from there. -/
theorem run_half (text : String)
    (h : d.admits (scratchName key) = true ∧ d.admits (dataName key) = true)
    (ss : List FileStep) : d.run (replaceSteps (dataName key) (scratchName key) text ++ ss) =
      (half d key text).run ss := by
  have hrun := Directory.run_replaceSteps text scratchName_ne_dataName h.1 h.2
  rw [Directory.run_append _ _ _ (by rw [hrun]), hrun]
  rfl

/-- If it cannot be written, nothing follows, and only the scratch file has changed. -/
theorem run_of_refused (text : String)
    (h : ¬ (d.admits (scratchName key) = true ∧ d.admits (dataName key) = true))
    (ss : List FileStep) :
    (d.run (replaceSteps (dataName key) (scratchName key) text ++ ss)).2 = .error .refused ∧
      ∀ name, name ≠ scratchName key →
        (d.run (replaceSteps (dataName key) (scratchName key) text ++ ss)).1.get? name =
          d.get? name := by
  have hrun := Directory.run_replaceSteps_of_refused text scratchName_ne_dataName h
  rw [Directory.run_append_of_error hrun.1]
  exact hrun

/-- Data and digest while a text is put into the slot. The data is replaced by the
    third step and the digest by the sixth, if the names can be had. -/
theorem get?_interrupted (d : Directory) (key text : String) (n : Nat) :
    (interrupted d key text n).get? (dataName key) =
        (if 3 ≤ n ∧ d.admits (scratchName key) = true ∧ d.admits (dataName key) = true then
          some (.file text.toUTF8) else d.get? (dataName key)) ∧
      (interrupted d key text n).get? (digestName key) =
        (if 6 ≤ n ∧ d.admits (scratchName key) = true ∧ d.admits (dataName key) = true ∧
            d.admits (digestName key) = true then
          some (.file (Sha256.hex text).toUTF8) else d.get? (digestName key)) := by
  have hlen : (replaceSteps (dataName key) (scratchName key) text).length = 3 := rfl
  unfold interrupted setSteps
  rw [List.take_append, hlen]
  by_cases hn : 3 ≤ n
  · -- All steps for the data are there, and those for the digest may be cut short.
    rw [List.take_of_length_le (by rw [hlen]; exact hn)]
    by_cases ha : d.admits (scratchName key) = true ∧ d.admits (dataName key) = true
    · have h6 : 3 ≤ n - 3 ↔ 6 ≤ n := by omega
      rw [run_half text ha,
        Directory.get?_run_take_replaceSteps _ _ _ scratchName_ne_digestName
          dataName_ne_scratchName,
        Directory.get?_run_take_replaceSteps _ _ _ scratchName_ne_digestName
          digestName_ne_scratchName,
        admits_half_scratchName text ha.1, Directory.admits_congr (get?_half_digestName d key text),
        get?_half_digestName, get?_half_dataName]
      simp only [hn, ha, h6, dataName_ne_digestName, true_and, and_true, and_false, if_true,
        if_false, and_self]
    · rw [(run_of_refused text ha _).2 _ dataName_ne_scratchName,
        (run_of_refused text ha _).2 _ digestName_ne_scratchName]
      exact ⟨(if_neg fun h => ha h.2).symm, (if_neg fun h => ha ⟨h.2.1, h.2.2.1⟩).symm⟩
  · -- The digest has not been begun.
    have h0 : n - 3 = 0 := by omega
    have h6 : ¬ 6 ≤ n := by omega
    rw [h0, List.take_zero, List.append_nil,
      Directory.get?_run_take_replaceSteps _ _ _ scratchName_ne_dataName dataName_ne_scratchName,
      Directory.get?_run_take_replaceSteps _ _ _ scratchName_ne_dataName digestName_ne_scratchName]
    simp only [hn, h6, false_and, if_false, and_self]

/-- What can be read in a slot after a text has been put there. -/
theorem get_of_set {found : String} (h : get (set d key text).1 key = .ok (some found)) :
    found = text ∨ get d key = .ok (some found) := by
  cases hkey : isKey key with
  | false =>
      rw [set_invalid d key text hkey] at h
      exact Or.inr h
  | true =>
      rw [set_eq_interrupted hkey] at h
      rcases get?_interrupted d key text 6 with ⟨hdata, hdigest⟩
      by_cases hw : d.admits (scratchName key) = true ∧ d.admits (dataName key) = true
      · -- The data is the new text, so nothing else can be read.
        rw [if_pos ⟨by omega, hw⟩] at hdata
        rw [get_eq hkey, readText?_of_toUTF8 (Directory.admits_eq_true_iff.1 hw.2).1 hdata] at h
        exact Or.inl (Option.some.inj (eq_of_verdict h))
      · -- Neither of the two files has changed.
        rw [if_neg fun hc => hw hc.2] at hdata
        rw [if_neg fun hc => hw ⟨hc.2.1, hc.2.2.1⟩] at hdigest
        rw [get_congr hdata hdigest] at h
        exact Or.inr h

end Writing

section Removing

theorem removeFile_eq (d : Directory) (name : String) : removeFile d name =
    match d.read name with
    | .ok _ => (d.erase name, .ok ())
    | .error .notFound => (d, .ok ())
    | .error .refused => (d, .error .storage) := by
  simp only [removeFile, Directory.step]
  cases d.read name with
  | ok content => rfl
  | error x => cases x <;> rfl

theorem removeFile_frame (hn : other ≠ name) :
    (removeFile d name).1.get? other = d.get? other := by
  rw [removeFile_eq]
  split
  · exact Dictionary.get?_erase_ne d (Ne.symm hn)
  · rfl
  · rfl

/-- A slot is emptied by way of its data first and its digest then. -/
theorem remove_eq (h : isKey key = true) (d : Directory) : remove d key =
    match d.read (dataName key) with
    | .ok _ => removeFile (d.erase (dataName key)) (digestName key)
    | .error .notFound => removeFile d (digestName key)
    | .error .refused => (d, .error .storage) := by
  unfold remove
  rw [if_pos h, removeFile_eq]
  cases d.read (dataName key) with
  | ok content => rfl
  | error x => cases x <;> rfl

theorem remove_invalid (d : Directory) (h : isKey key = false) :
    remove d key = (d, .error (.invalidKey key)) := by
  simp [remove, h]

theorem remove_frame (hn : name ∉ fileNames key) : (remove d key).1.get? name = d.get? name := by
  rw [mem_fileNames, not_or, not_or] at hn
  cases hkey : isKey key with
  | false => rw [remove_invalid d hkey]
  | true =>
      rw [remove_eq hkey]
      split
      · exact (removeFile_frame hn.2.1).trans (Dictionary.get?_erase_ne d (Ne.symm hn.1))
      · exact removeFile_frame hn.2.1
      · rfl

theorem removeFile_congr {names : List String} (h : Directory.AgreeOn names d e)
    (hn : name ∈ names) : (removeFile e name).2 = (removeFile d name).2 ∧
      Directory.AgreeOn names (removeFile d name).1 (removeFile e name).1 := by
  rw [removeFile_eq, removeFile_eq, Directory.read_congr (h name hn)]
  split
  · exact ⟨rfl, h.erase name⟩
  · exact ⟨rfl, h⟩
  · exact ⟨rfl, h⟩

theorem remove_congr (h : Directory.AgreeOn (fileNames key) d e) :
    (remove e key).2 = (remove d key).2 ∧
      Directory.AgreeOn (fileNames key) (remove d key).1 (remove e key).1 := by
  cases hkey : isKey key with
  | false =>
      rw [remove_invalid d hkey, remove_invalid e hkey]
      exact ⟨rfl, h⟩
  | true =>
      have hdata := h (dataName key) (dataName_mem key)
      rw [remove_eq hkey, remove_eq hkey, Directory.read_congr hdata]
      split
      · exact removeFile_congr (h.erase _) (digestName_mem key)
      · exact removeFile_congr h (digestName_mem key)
      · exact ⟨rfl, h⟩

theorem get_of_notFound (hkey : isKey key = true)
    (h : d.read (dataName key) = .error .notFound) : get d key = .ok none := by
  rw [get_eq hkey]
  simp only [readText?, Directory.readText, h]

/-- Where data has been removed, there is nothing to read. -/
theorem get_removeFile_digestName (hkey : isKey key = true)
    (h : d.read (dataName key) = .error .notFound) :
    get (removeFile d (digestName key)).1 key = .ok none := by
  refine get_of_notFound hkey ?_
  rw [Directory.read_congr (removeFile_frame dataName_ne_digestName), h]

theorem read_erase {content : ByteArray} (h : d.read name = .ok content) :
    Directory.read (d.erase name) name = .error .notFound := by
  refine Directory.read_of_none ?_ (Dictionary.get?_erase_self d name)
  by_contra hsize
  rw [Directory.read_of_large hsize] at h
  cases h

/-- What can be read in a slot that has been emptied, or should have been. -/
theorem get_of_remove {found : String} (h : get (remove d key).1 key = .ok (some found)) :
    get d key = .ok (some found) := by
  cases hkey : isKey key with
  | false => rwa [remove_invalid d hkey] at h
  | true =>
      rw [remove_eq hkey] at h
      split at h
      · next content hread =>
        rw [get_removeFile_digestName hkey (read_erase hread)] at h
        cases h
      · next hread =>
        rw [get_removeFile_digestName hkey hread] at h
        cases h
      · exact h

end Removing

end SlotFiles

namespace SlotStore

/-- The stores are the same but for one slot. -/
def SameBut (key : String) : SlotStore → SlotStore → Prop
  | .memory m, .memory m' => ∀ other, other ≠ key → m'.get? other = m.get? other
  | .files d, .files e => ∀ name, name ∉ SlotFiles.fileNames key → e.get? name = d.get? name
  | _, _ => False

variable {s t : SlotStore} {key other text : String}

theorem sameBut_set (s : SlotStore) (key text : String) : SameBut key s (s.set key text).1 := by
  cases s with
  | memory m => exact fun other ho => Dictionary.get?_insert_ne m (Ne.symm ho) text
  | files d => exact fun name hn => SlotFiles.set_frame hn

theorem sameBut_remove (s : SlotStore) (key : String) : SameBut key s (s.remove key).1 := by
  cases s with
  | memory m => exact fun other ho => Dictionary.get?_erase_ne m (Ne.symm ho)
  | files d => exact fun name hn => SlotFiles.remove_frame hn

/-- What can be asked about other slots is answered as before. -/
theorem SameBut.answers (h : SameBut key s t) (ho : other ≠ key) :
    t.get other = s.get other ∧ t.contains other = s.contains other ∧
      (other ∈ t.keys ↔ other ∈ s.keys) := by
  cases s <;> cases t <;> try exact h.elim
  case memory.memory m m' =>
    have hget := h other ho
    refine ⟨?_, ?_, ?_⟩
    · simp only [get, hget]
    · simp only [contains, Dictionary.contains, hget]
    · simp only [keys, Dictionary.mem_keys_iff, hget]
  case files.files d e =>
    -- The files of the other slot are other files.
    have hfile : ∀ name ∈ SlotFiles.fileNames other, e.get? name = d.get? name := by
      intro name hn
      exact h name fun hk => ho (SlotFiles.eq_of_mem_fileNames hn hk)
    have hdata := hfile _ (SlotFiles.dataName_mem other)
    have hdigest := hfile _ (SlotFiles.digestName_mem other)
    refine ⟨SlotFiles.get_congr hdata hdigest, SlotFiles.contains_congr hdata, ?_⟩
    simp only [keys, SlotFiles.mem_keys, hdata]

/-- What can be read in a store after a text has been put somewhere. -/
theorem get_of_set {found : String} (h : (s.set key text).1.get other = .ok (some found)) :
    found = text ∨ s.get other = .ok (some found) := by
  by_cases ho : other = key
  · subst ho
    cases s with
    | memory m =>
        rw [get_set_memory] at h
        cases h
        exact Or.inl rfl
    | files d => exact SlotFiles.get_of_set h
  · rw [((sameBut_set s key text).answers ho).1] at h
    exact Or.inr h

/-- What can be read in a store after a slot has been emptied. -/
theorem get_of_remove {found : String} (h : (s.remove key).1.get other = .ok (some found)) :
    s.get other = .ok (some found) := by
  by_cases ho : other = key
  · subst ho
    cases s with
    | memory m =>
        simp only [remove, get, Dictionary.get?_erase_self] at h
        cases h
    | files d => exact SlotFiles.get_of_remove h
  · rwa [((sameBut_remove s key).answers ho).1] at h

end SlotStore

end Playfield
