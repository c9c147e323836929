import Mathlib
import Playfield.Proofs.Slot.Apart

/-!
# Calls of a Store

What can be asked of a store, one thing after the other, and what is answered.

A store in memory takes every key. One in files refuses a key that cannot be part
of a file name. To compare the two the store in memory is asked only what the
other one does not refuse (`SlotStore.checkedCall`). It is the simplest store that
there is: what is in a slot is what has been put there last, unless the slot has
been emptied since (`lastText`).

A call to a store in files stays within the files of its slot, whichever files
there are (`SlotCall.IsContained`).

## Main definitions

* `SlotCall`, `SlotAnswer`: Calls and answers.
* `SlotCall.refusal?`: The answer to a call with an invalid key.
* `SlotStore.call`, `SlotStore.answers`, `SlotStore.after`: What calls do.
* `SlotAnswer.isFailure`: The file system has refused.
* `lastText`: What calls have left in a slot.
* `SlotCall.files`: What a call may touch.
* `SlotCall.IsContained`: A call touches nothing else.

## Theorems

* `SlotStore.call_of_refusal`: A call that is refused changes nothing.
* `get?_checkedCall`: What a call leaves in memory.
* `SlotCall.isContained`: All calls are contained.
-/

namespace Playfield

/-- What can be asked of a store. -/
inductive SlotCall where
  | set (key text : String)
  | get (key : String)
  | remove (key : String)
  | contains (key : String)
  | keys
  /-- Opens the store again. -/
  | reopen

/-- What a store answers. -/
inductive SlotAnswer where
  | done (result : Except SlotError Unit)
  | text (result : Except SlotError (Option String))
  | truth (result : Bool)
  | keys (result : List String)
  deriving DecidableEq

/-- The file system has refused something. -/
def SlotAnswer.isFailure : SlotAnswer → Bool
  | .done (.error .storage) | .text (.error .storage) => true
  | _ => false

namespace SlotCall

/-- The key that a call is about. -/
def key? : SlotCall → Option String
  | .set key _ | .get key | .remove key | .contains key => some key
  | .keys | .reopen => none

/-- The answer to a call with an invalid key. -/
def refusal? : SlotCall → Option SlotAnswer
  | .set key _ | .remove key =>
    if SlotFiles.isKey key then none else some (.done (.error (.invalidKey key)))
  | .get key => if SlotFiles.isKey key then none else some (.text (.error (.invalidKey key)))
  | .contains key => if SlotFiles.isKey key then none else some (.truth false)
  | .keys | .reopen => none

/-- The files that a call may touch. -/
def files (c : SlotCall) : List String :=
  match c.key? with
  | some key => if SlotFiles.isKey key then SlotFiles.fileNames key else []
  | none => []

end SlotCall

namespace SlotStore

/-- A call and its answer. A store that is opened again is what it has been. -/
def call (s : SlotStore) : SlotCall → SlotStore × SlotAnswer
  | .set key text => ((s.set key text).1, .done (s.set key text).2)
  | .get key => (s, .text (s.get key))
  | .remove key => ((s.remove key).1, .done (s.remove key).2)
  | .contains key => (s, .truth (s.contains key))
  | .keys => (s, .keys s.keys)
  | .reopen => (s, .done (.ok ()))

/-- A call that is refused if its key is invalid. -/
def checkedCall (s : SlotStore) (c : SlotCall) : SlotStore × SlotAnswer :=
  match c.refusal? with
  | some a => (s, a)
  | none => s.call c

/-- The answers to calls one after the other. -/
def answersBy (call : SlotStore → SlotCall → SlotStore × SlotAnswer) :
    SlotStore → List SlotCall → List SlotAnswer
  | _, [] => []
  | s, c :: cs => (call s c).2 :: answersBy call (call s c).1 cs

/-- The answers of a store. -/
def answers (s : SlotStore) (cs : List SlotCall) : List SlotAnswer := answersBy call s cs

/-- The answers of a store that refuses invalid keys. -/
def checkedAnswers (s : SlotStore) (cs : List SlotCall) : List SlotAnswer :=
  answersBy checkedCall s cs

/-- The store after calls. -/
def after (s : SlotStore) (cs : List SlotCall) : SlotStore := cs.foldl (fun s c => (s.call c).1) s

/-- A call that is refused changes nothing. -/
theorem call_of_refusal {c : SlotCall} {a : SlotAnswer} (h : c.refusal? = some a) (d : Directory) :
    (files d).call c = (files d, a) := by
  cases c <;> simp only [SlotCall.refusal?, Option.ite_none_left_eq_some, Option.some.injEq,
    reduceCtorEq, Bool.not_eq_true] at h
  case set key text =>
    rcases h with ⟨hkey, rfl⟩
    simp only [call, SlotStore.set, SlotFiles.set_invalid d key text hkey]
  case get key =>
    rcases h with ⟨hkey, rfl⟩
    simp only [call, SlotStore.get, SlotFiles.get_of_not_isKey hkey]
  case remove key =>
    rcases h with ⟨hkey, rfl⟩
    simp only [call, SlotStore.remove, SlotFiles.remove_invalid d hkey]
  case contains key =>
    rcases h with ⟨hkey, rfl⟩
    simp only [call, SlotStore.contains, SlotFiles.contains, hkey, Bool.false_and]

/-- Calls with valid keys are answered by a store as they are if it refuses the
    others. -/
theorem checkedAnswers_of_valid {s : SlotStore} {cs : List SlotCall}
    (h : ∀ c ∈ cs, c.refusal? = none) : s.checkedAnswers cs = s.answers cs := by
  unfold checkedAnswers answers
  induction cs generalizing s with
  | nil => rfl
  | cons c cs ih =>
      rw [List.forall_mem_cons] at h
      have hc : s.checkedCall c = s.call c := by
        unfold checkedCall
        rw [h.1]
      rw [answersBy, answersBy, hc, ih h.2]

end SlotStore

section Memory

/-- What is in a slot after a call, if the call is not refused. -/
def textAfter (key : String) (found : Option String) : SlotCall → Option String
  | .set key' text => if key' = key then some text else found
  | .remove key' => if key' = key then none else found
  | .get _ | .contains _ | .keys | .reopen => found

/-- What calls have left in a slot: the text that has been put there last, unless the
    slot has been emptied since. -/
def lastText (key : String) (cs : List SlotCall) : Option String := cs.foldl (textAfter key) none

/-- A call to memory that is refused if its key is invalid, and the slots of valid
    keys. -/
theorem get?_checkedCall {key : String} (hkey : SlotFiles.isKey key = true)
    (m : Dictionary String) (c : SlotCall) :
    ∃ m', ((SlotStore.memory m).checkedCall c).1 = .memory m' ∧
      m'.get? key = textAfter key (m.get? key) c := by
  unfold SlotStore.checkedCall
  cases hr : c.refusal? with
  | some a =>
      refine ⟨m, rfl, ?_⟩
      -- The call is about another key, because this one is valid.
      cases c <;> simp only [SlotCall.refusal?, Option.ite_none_left_eq_some, Bool.not_eq_true,
        reduceCtorEq] at hr <;> try rfl
      case set key' text =>
        have hne : key' ≠ key := fun h => by rw [h, hkey] at hr; exact absurd hr.1 (by simp)
        rw [textAfter, if_neg hne]
      case remove key' =>
        have hne : key' ≠ key := fun h => by rw [h, hkey] at hr; exact absurd hr.1 (by simp)
        rw [textAfter, if_neg hne]
  | none =>
      cases c with
      | set key' text => exact ⟨_, rfl, Dictionary.get?_insert m key' key text⟩
      | remove key' => exact ⟨_, rfl, Dictionary.get?_erase m key' key⟩
      | _ => exact ⟨m, rfl, rfl⟩

end Memory

namespace SlotCall

/-- A call touches the files of its own slot and nothing else. These are entries of
    the directory, and no files of other slots. The others stay as they are, and do
    not matter unless the keys are asked for. -/
structure IsContained (d : Directory) (c : SlotCall) : Prop where
  entries : ∀ name ∈ c.files, SlotFiles.IsEntryName name
  others : ∀ key, c.key? ≠ some key → ∀ name ∈ c.files, name ∉ SlotFiles.fileNames key
  writes : ∃ e, ((SlotStore.files d).call c).1 = .files e ∧
    ∀ name, name ∉ c.files → e.get? name = d.get? name
  reads : c ≠ .keys → ∀ d', Directory.AgreeOn c.files d d' →
    ((SlotStore.files d').call c).2 = ((SlotStore.files d).call c).2 ∧
      ∃ e e', ((SlotStore.files d).call c).1 = .files e ∧
        ((SlotStore.files d').call c).1 = .files e' ∧ Directory.AgreeOn c.files e e'

theorem files_of_valid {c : SlotCall} {key : String} (hc : c.key? = some key)
    (hkey : SlotFiles.isKey key = true) : c.files = SlotFiles.fileNames key := by
  unfold files
  rw [hc]
  exact if_pos hkey

theorem isEntryName_of_mem_files {c : SlotCall} {name : String} (h : name ∈ c.files) :
    SlotFiles.IsEntryName name := by
  unfold files at h
  split at h
  · split at h
    · next hkey => exact SlotFiles.isEntryName_of_mem_fileNames hkey h
    · cases h
  · cases h

theorem not_mem_fileNames_of_mem_files {c : SlotCall} {name key : String} (hc : c.key? ≠ some key)
    (h : name ∈ c.files) : name ∉ SlotFiles.fileNames key := by
  unfold files at h
  split at h
  · next key' hkey' =>
    split at h
    · intro hn
      exact hc (hkey'.trans (congrArg some (SlotFiles.eq_of_mem_fileNames h hn)))
    · cases h
  · cases h

theorem isKey_of_not_refused {c : SlotCall} {key : String} (hc : c.key? = some key)
    (h : c.refusal? = none) : SlotFiles.isKey key = true := by
  cases c <;> simp_all [refusal?, key?]

/-- A call with a valid key in two directories that agree on the files of its slot. -/
theorem call_congr {c : SlotCall} {d d' : Directory} (hc : c ≠ .keys) (h : c.refusal? = none)
    (hd : Directory.AgreeOn c.files d d') :
    ((SlotStore.files d').call c).2 = ((SlotStore.files d).call c).2 ∧
      ∃ e e', ((SlotStore.files d).call c).1 = .files e ∧
        ((SlotStore.files d').call c).1 = .files e' ∧ Directory.AgreeOn c.files e e' := by
  cases c with
  | keys => exact absurd rfl hc
  | reopen => exact ⟨rfl, d, d', rfl, rfl, hd⟩
  | set key text =>
      rw [files_of_valid rfl (isKey_of_not_refused rfl h)] at hd ⊢
      have hset := SlotFiles.set_congr text hd
      exact ⟨congrArg SlotAnswer.done hset.1, _, _, rfl, rfl, hset.2⟩
  | remove key =>
      rw [files_of_valid rfl (isKey_of_not_refused rfl h)] at hd ⊢
      have hremove := SlotFiles.remove_congr hd
      exact ⟨congrArg SlotAnswer.done hremove.1, _, _, rfl, rfl, hremove.2⟩
  | get key =>
      rw [files_of_valid rfl (isKey_of_not_refused rfl h)] at hd ⊢
      have hget := SlotFiles.get_congr (hd _ (SlotFiles.dataName_mem key))
        (hd _ (SlotFiles.digestName_mem key))
      exact ⟨congrArg SlotAnswer.text hget, _, _, rfl, rfl, hd⟩
  | contains key =>
      rw [files_of_valid rfl (isKey_of_not_refused rfl h)] at hd ⊢
      have hcontains := SlotFiles.contains_congr (hd _ (SlotFiles.dataName_mem key))
      exact ⟨congrArg SlotAnswer.truth hcontains, _, _, rfl, rfl, hd⟩

theorem call_frame {c : SlotCall} (d : Directory) (h : c.refusal? = none) :
    ∃ e, ((SlotStore.files d).call c).1 = .files e ∧
      ∀ name, name ∉ c.files → e.get? name = d.get? name := by
  cases c with
  | set key text =>
      refine ⟨_, rfl, fun name hn => SlotFiles.set_frame ?_⟩
      rwa [files_of_valid rfl (isKey_of_not_refused rfl h)] at hn
  | remove key =>
      refine ⟨_, rfl, fun name hn => SlotFiles.remove_frame ?_⟩
      rwa [files_of_valid rfl (isKey_of_not_refused rfl h)] at hn
  | _ => exact ⟨d, rfl, fun _ _ => rfl⟩

/-- All calls are contained, in all directories. -/
theorem isContained (d : Directory) (c : SlotCall) : c.IsContained d := by
  refine ⟨fun _ => isEntryName_of_mem_files, fun _ hc _ => not_mem_fileNames_of_mem_files hc, ?_,
    ?_⟩
  · cases h : c.refusal? with
    | none => exact call_frame d h
    | some a =>
        rw [SlotStore.call_of_refusal h]
        exact ⟨d, rfl, fun _ _ => rfl⟩
  · intro hc d' hd
    cases h : c.refusal? with
    | none => exact call_congr hc h hd
    | some a =>
        rw [SlotStore.call_of_refusal h, SlotStore.call_of_refusal h]
        exact ⟨rfl, d, d', rfl, rfl, hd⟩

end SlotCall

end Playfield
