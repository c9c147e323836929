import Mathlib
import Playfield.Slot.Store

/-!
# Steps in a Directory

What steps see and leave alone.

A step mentions one name or two. It changes nothing else, and it depends on
nothing else: in two directories that agree on what it mentions it does the same
(`Directory.run_congr`). Both carry over from one step to several.

Putting a text into a file by way of a scratch file is three steps. Until the
third the file is what it was, and with the third it has the new text. Nothing
between the two can be seen but the scratch file
(`Directory.get?_run_take_replaceSteps`).

## Main definitions

* `FileStep.names`: What a step mentions.
* `Directory.AgreeOn`: Two directories are the same under some names.

## Theorems

* `Directory.run_frame`: Steps leave alone what they do not mention.
* `Directory.run_congr`: Steps do not depend on what they do not mention.
* `Directory.get?_run_take_replaceSteps`: A replacement that is cut short.
* `Directory.readText_of_toUTF8`: A text that has been written is read back.
-/

namespace Playfield

/-- What a step mentions. -/
def FileStep.names : FileStep → List String
  | .create name | .write name _ | .remove name => [name]
  | .rename name target => [name, target]

namespace Directory

variable {d e : Directory} {name other scratch : String}

/-- The two directories are the same under some names. -/
def AgreeOn (names : List String) (d e : Directory) : Prop :=
  ∀ name ∈ names, e.get? name = d.get? name

section Reading

theorem entry?_congr (h : e.get? name = d.get? name) : e.entry? name = d.entry? name := by
  unfold entry?
  rw [h]

theorem read_congr (h : e.get? name = d.get? name) : e.read name = d.read name := by
  unfold read
  rw [entry?_congr h]

theorem readText_congr (h : e.get? name = d.get? name) : e.readText name = d.readText name := by
  unfold readText
  rw [read_congr h]

theorem admits_congr (h : e.get? name = d.get? name) : e.admits name = d.admits name := by
  unfold admits
  rw [entry?_congr h]

theorem admits_eq_true_iff : d.admits name = true ↔
    name.utf8ByteSize ≤ nameLimit ∧ d.get? name ≠ some .directory := by
  unfold admits entry?
  by_cases h : name.utf8ByteSize ≤ nameLimit
  · simp only [h, true_and]
    cases d.get? name with
    | none => simp
    | some f => cases f <;> simp
  · simp [h]

theorem read_of_file {content : ByteArray} (hsize : name.utf8ByteSize ≤ nameLimit)
    (h : d.get? name = some (.file content)) : d.read name = .ok content := by
  simp [read, entry?, hsize, h]

theorem read_of_none (hsize : name.utf8ByteSize ≤ nameLimit) (h : d.get? name = none) :
    d.read name = .error .notFound := by
  simp [read, entry?, hsize, h]

theorem read_of_large (hsize : ¬ name.utf8ByteSize ≤ nameLimit) :
    d.read name = .error .refused := by
  simp [read, entry?, hsize]

theorem fromUTF8?_toUTF8 (text : String) : String.fromUTF8? text.toUTF8 = some text := by
  simp only [String.fromUTF8?, String.toUTF8_eq_toByteArray, dif_pos text.isValidUTF8]
  rfl

/-- A text that has been written is read back. -/
theorem readText_of_toUTF8 {text : String} (hsize : name.utf8ByteSize ≤ nameLimit)
    (h : d.get? name = some (.file text.toUTF8)) : d.readText name = .ok text := by
  simp only [readText, read_of_file hsize h, fromUTF8?_toUTF8]

end Reading

section Steps

variable {s : FileStep} {ss ts : List FileStep} {names : List String}

theorem step_frame {d' : Directory} (h : d.step s = .ok d') (hn : name ∉ s.names) :
    d'.get? name = d.get? name := by
  cases s with
  | create file =>
    rw [FileStep.names, List.mem_singleton] at hn
    simp only [step] at h
    split at h
    · cases h
      exact Dictionary.get?_insert_ne d (Ne.symm hn) _
    · cases h
  | write file content =>
    rw [FileStep.names, List.mem_singleton] at hn
    simp only [step] at h
    split at h
    · cases h
      exact Dictionary.get?_insert_ne d (Ne.symm hn) _
    · cases h
  | rename file target =>
    rw [FileStep.names, List.mem_cons, List.mem_singleton, not_or] at hn
    simp only [step] at h
    split at h
    · cases h
    · split at h
      · cases h
        rw [Dictionary.get?_insert_ne _ (Ne.symm hn.2), Dictionary.get?_erase_ne d (Ne.symm hn.1)]
      · cases h
  | remove file =>
    rw [FileStep.names, List.mem_singleton] at hn
    simp only [step] at h
    split at h
    · cases h
      exact Dictionary.get?_erase_ne d (Ne.symm hn)
    · cases h

/-- Steps leave alone what they do not mention. -/
theorem run_frame (d : Directory) (ss : List FileStep) (hn : ∀ s ∈ ss, name ∉ s.names) :
    (d.run ss).1.get? name = d.get? name := by
  induction ss generalizing d with
  | nil => rfl
  | cons s ss ih =>
    rw [List.forall_mem_cons] at hn
    unfold run
    split
    · next d' h => rw [ih d' hn.2, step_frame h hn.1]
    · rfl

theorem AgreeOn.insert (h : AgreeOn names d e) (name : String) (f : FileEntry) :
    AgreeOn names (d.insert name f) (e.insert name f) := by
  intro other ho
  rw [Dictionary.get?_insert, Dictionary.get?_insert, h other ho]

theorem AgreeOn.erase (h : AgreeOn names d e) (name : String) :
    AgreeOn names (d.erase name) (e.erase name) := by
  intro other ho
  rw [Dictionary.get?_erase, Dictionary.get?_erase, h other ho]

/-- A step does the same in two directories that agree on what it mentions. -/
theorem step_congr (h : AgreeOn names d e) (hs : ∀ name ∈ s.names, name ∈ names) :
    match d.step s with
    | .ok d' => ∃ e', e.step s = .ok e' ∧ AgreeOn names d' e'
    | .error x => e.step s = .error x := by
  cases s with
  | create file =>
    have hfile := h file (hs file (by simp [FileStep.names]))
    simp only [step, admits_congr hfile]
    by_cases ha : d.admits file = true
    · rw [if_pos ha, if_pos ha]
      exact ⟨_, rfl, h.insert _ _⟩
    · rw [if_neg ha, if_neg ha]
  | write file content =>
    have hfile := h file (hs file (by simp [FileStep.names]))
    simp only [step, read_congr hfile]
    cases d.read file with
    | ok c => exact ⟨_, rfl, h.insert _ _⟩
    | error x => rfl
  | rename file target =>
    have hfile := h file (hs file (by simp [FileStep.names]))
    have htarget := h target (hs target (by simp [FileStep.names]))
    simp only [step, read_congr hfile, admits_congr htarget]
    cases d.read file with
    | error x => rfl
    | ok c =>
      by_cases ha : d.admits target = true
      · simp only [if_pos ha]
        exact ⟨_, rfl, (h.erase _).insert _ _⟩
      · simp only [if_neg ha]
  | remove file =>
    have hfile := h file (hs file (by simp [FileStep.names]))
    simp only [step, read_congr hfile]
    cases d.read file with
    | ok c => exact ⟨_, rfl, h.erase _⟩
    | error x => rfl

/-- Steps do the same in two directories that agree on what they mention. -/
theorem run_congr (h : AgreeOn names d e) (hs : ∀ s ∈ ss, ∀ name ∈ s.names, name ∈ names) :
    (e.run ss).2 = (d.run ss).2 ∧ AgreeOn names (d.run ss).1 (e.run ss).1 := by
  -- On the steps, for all directories that agree, because they still do after the first.
  induction ss generalizing d e with
  | nil => exact ⟨rfl, h⟩
  | cons s ss ih =>
    rw [List.forall_mem_cons] at hs
    have hstep := step_congr h hs.1
    unfold run
    cases hd : d.step s with
    | ok d' =>
      rw [hd] at hstep
      rcases hstep with ⟨e', he, h'⟩
      rw [he]
      exact ih h' hs.2
    | error x =>
      rw [hd] at hstep
      rw [hstep]
      exact ⟨rfl, h⟩

/-- Behind a step that is refused there are no others. -/
theorem run_append_of_error {x : FileError} (h : (d.run ss).2 = .error x) :
    d.run (ss ++ ts) = d.run ss := by
  induction ss generalizing d with
  | nil => cases h
  | cons s ss ih =>
    unfold run at h
    rw [List.cons_append, run, run]
    split
    · next d' hd =>
      rw [hd] at h
      exact ih h
    · rfl

end Steps

section Replacing

open SlotFiles (replaceSteps)

variable {text : String}

theorem run_create_write (content : ByteArray) (h : d.admits scratch = true) :
    d.run [.create scratch, .write scratch content] =
      (d.insert scratch (.file content), .ok ()) := by
  have hsize := (admits_eq_true_iff.1 h).1
  have hread : Directory.read (d.insert scratch (.file .empty)) scratch = .ok .empty :=
    read_of_file hsize (Dictionary.get?_insert_self d scratch _)
  have htwice : (d.insert scratch (.file .empty)).insert scratch (.file content) =
      d.insert scratch (.file content) := by
    refine Dictionary.ext_get? fun k => ?_
    simp only [Dictionary.get?_insert]
    split <;> rfl
  simp only [run, step, if_pos h, hread, htwice]

/-- A replacement that goes through. -/
theorem run_replaceSteps (text : String) (hne : scratch ≠ name) (hs : d.admits scratch = true)
    (hn : d.admits name = true) : d.run (replaceSteps name scratch text) =
      ((d.erase scratch).insert name (.file text.toUTF8), .ok ()) := by
  have hfirst := run_create_write text.toUTF8 hs
  have hread : Directory.read (d.insert scratch (.file text.toUTF8)) scratch = .ok text.toUTF8 :=
    read_of_file (admits_eq_true_iff.1 hs).1 (Dictionary.get?_insert_self d scratch _)
  have hadmits : Directory.admits (d.insert scratch (.file text.toUTF8)) name = true := by
    rw [admits_congr (Dictionary.get?_insert_ne d hne _), hn]
  have herase : (d.insert scratch (.file text.toUTF8)).erase scratch = d.erase scratch := by
    refine Dictionary.ext_get? fun k => ?_
    simp only [Dictionary.get?_erase, Dictionary.get?_insert]
    split <;> rfl
  -- The first two steps, and then the one that renames.
  have hrun := run_append d _ [.rename scratch name] (by rw [hfirst])
  rw [hfirst] at hrun
  refine hrun.trans ?_
  simp only [run, step, hread, if_pos hadmits, herase]

/-- A replacement that does not go through has changed nothing but the scratch file. -/
theorem run_replaceSteps_of_refused (text : String) (hne : scratch ≠ name)
    (h : ¬ (d.admits scratch = true ∧ d.admits name = true)) :
    (d.run (replaceSteps name scratch text)).2 = .error .refused ∧
      ∀ other, other ≠ scratch →
        (d.run (replaceSteps name scratch text)).1.get? other = d.get? other := by
  by_cases hs : d.admits scratch = true
  · -- The scratch file is written, and cannot get the other name.
    have hfirst := run_create_write text.toUTF8 hs
    have hrun := run_append d _ [.rename scratch name] (by rw [hfirst])
    rw [hfirst] at hrun
    have hread : Directory.read (d.insert scratch (.file text.toUTF8)) scratch = .ok text.toUTF8 :=
      read_of_file (admits_eq_true_iff.1 hs).1 (Dictionary.get?_insert_self d scratch _)
    have hadmits : ¬ Directory.admits (d.insert scratch (.file text.toUTF8)) name = true := by
      rw [admits_congr (Dictionary.get?_insert_ne d hne _)]
      exact fun hn => h ⟨hs, hn⟩
    have hall : d.run (replaceSteps name scratch text) =
        (d.insert scratch (.file text.toUTF8), .error .refused) := by
      refine hrun.trans ?_
      simp only [run, step, hread, if_neg hadmits]
    rw [hall]
    exact ⟨rfl, fun other ho => Dictionary.get?_insert_ne d (Ne.symm ho) _⟩
  · have hall : d.run (replaceSteps name scratch text) = (d, .error .refused) := by
      simp only [replaceSteps, run, step, if_neg hs]
    rw [hall]
    exact ⟨rfl, fun _ _ => rfl⟩

/-- A replacement that is cut short, or not. But for the scratch file there is what
    there was, and after the last step the new text. -/
theorem get?_run_take_replaceSteps (d : Directory) (n : Nat) (text : String) (hne : scratch ≠ name)
    (hother : other ≠ scratch) :
    (d.run ((replaceSteps name scratch text).take n)).1.get? other =
      if 3 ≤ n ∧ (d.admits scratch = true ∧ d.admits name = true) ∧ other = name then
        some (.file text.toUTF8)
      else d.get? other := by
  by_cases hn : 3 ≤ n
  · rw [List.take_of_length_le (by simpa [replaceSteps] using hn)]
    by_cases ha : d.admits scratch = true ∧ d.admits name = true
    · rw [run_replaceSteps text hne ha.1 ha.2, Dictionary.get?_insert,
        Dictionary.get?_erase_ne d (Ne.symm hother)]
      simp only [hn, ha, true_and, and_self, eq_comm]
    · rw [(run_replaceSteps_of_refused text hne ha).2 other hother]
      simp only [ha, false_and, and_false, if_false]
  · -- Only the third step mentions anything but the scratch file.
    have hcut : ∀ s ∈ (replaceSteps name scratch text).take n, other ∉ s.names := by
      intro s hs
      have hs' : s ∈ (replaceSteps name scratch text).take 2 :=
        List.take_subset_take_left _ (by omega) hs
      simp only [replaceSteps, List.take_succ_cons, List.take_zero, List.mem_cons, List.not_mem_nil,
        or_false] at hs'
      rcases hs' with rfl | rfl <;> simpa [FileStep.names] using hother
    rw [run_frame d _ hcut]
    simp only [hn, false_and, if_false]

end Replacing

end Directory

end Playfield
