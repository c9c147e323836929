import Mathlib
import Playfield.Proofs.Slot.Calls
import Playfield.Proofs.Slot.Interrupted

/-!
# Files as a Map

A store in files is a map from keys to texts.

A directory that a store has had to itself since it was empty mirrors a map in
memory: each slot has its text and its digest in files, and there are no files of
slots otherwise (`SlotFiles.Mirrors`). Every call leads from such a pair to such a
pair and is answered alike on both sides, or else the file system has refused
something. So any sequence of calls is answered as by the map, and this is so for
all keys, because no two slots share a file.

The file system refuses nothing in such a directory but names that are too long.
A slot whose digest has a name of the right length never meets with a refusal
(`SlotFiles.Fits`).

## Main definitions

* `SlotFiles.Fits`: A key whose files have names that are not too long.
* `SlotFiles.Mirrors`: A directory that holds the slots of a map.
* `SlotFiles.IsMap`: Calls to an empty directory are answered as by a map.

## Theorems

* `SlotFiles.run_setSteps`: A write that goes through.
* `SlotFiles.Mirrors.call`: A call to a directory and to the map that it mirrors.
* `SlotFiles.Mirrors.answers`: All calls.
* `SlotFiles.files_are_map`: A store in files is a map, and stays within its files.
-/

namespace Playfield

namespace SlotFiles

variable {d : Directory} {m : Dictionary String} {key text : String}

/-- The names of the files of a key are not too long. That of the digest is the
    longest. -/
def Fits (key : String) : Prop := (digestName key).utf8ByteSize ≤ Directory.nameLimit

instance (key : String) : Decidable (Fits key) :=
  inferInstanceAs (Decidable ((digestName key).utf8ByteSize ≤ Directory.nameLimit))

theorem Fits.dataName (h : Fits key) : (dataName key).utf8ByteSize ≤ Directory.nameLimit := by
  have hdata : (SlotFiles.dataName key).utf8ByteSize = key.utf8ByteSize + 5 :=
    String.utf8ByteSize_append
  have hdigest : (digestName key).utf8ByteSize = key.utf8ByteSize + 7 := String.utf8ByteSize_append
  unfold Fits at h
  omega

theorem Fits.scratchName (h : Fits key) :
    (scratchName key).utf8ByteSize ≤ Directory.nameLimit := by
  have hscratch : (SlotFiles.scratchName key).utf8ByteSize = key.utf8ByteSize + 4 :=
    String.utf8ByteSize_append
  have hdigest : (digestName key).utf8ByteSize = key.utf8ByteSize + 7 := String.utf8ByteSize_append
  unfold Fits at h
  omega

section Writes

/-- The directory with a text and its digest in their files. -/
def written (d : Directory) (key text : String) : Directory :=
  ((half d key text).erase (scratchName key)).insert (digestName key)
    (.file (Sha256.hex text).toUTF8)

/-- A write that goes through. -/
theorem run_setSteps (text : String) (hs : d.admits (scratchName key) = true)
    (hd : d.admits (dataName key) = true) (hg : d.admits (digestName key) = true) :
    d.run (setSteps key text) = (written d key text, .ok ()) := by
  unfold setSteps
  rw [run_half text ⟨hs, hd⟩]
  refine Directory.run_replaceSteps _ scratchName_ne_digestName (admits_half_scratchName text hs) ?_
  rw [Directory.admits_congr (get?_half_digestName d key text), hg]

/-- A write that the file system refuses since a name is too long. -/
theorem run_setSteps_of_large (text : String) (h : ¬ Fits key) :
    (d.run (setSteps key text)).2 = .error .refused := by
  unfold setSteps
  by_cases ha : d.admits (scratchName key) = true ∧ d.admits (dataName key) = true
  · rw [run_half text ha]
    exact (Directory.run_replaceSteps_of_refused _ scratchName_ne_digestName
      fun hg => h (Directory.admits_eq_true_iff.1 hg.2).1).1
  · exact (run_of_refused text ha _).1

end Writes

/-- A directory that holds the slots of a map and no other ones. -/
structure Mirrors (d : Directory) (m : Dictionary String) : Prop where
  data : ∀ key, d.get? (dataName key) = (m.get? key).map fun text => .file text.toUTF8
  digest : ∀ key, d.get? (digestName key) =
    (m.get? key).map fun text => .file (Sha256.hex text).toUTF8
  scratch : ∀ key, d.get? (scratchName key) = none
  keys : ∀ key, (m.get? key).isSome → isKey key = true ∧ Fits key

theorem mirrors_empty : Mirrors .empty .empty := by
  refine ⟨fun _ => rfl, fun _ => rfl, fun _ => rfl, ?_⟩
  intro key h
  cases h

namespace Mirrors

theorem admits (h : Mirrors d m) (hfit : Fits key) : d.admits (scratchName key) = true ∧
    d.admits (dataName key) = true ∧ d.admits (digestName key) = true := by
  simp only [Directory.admits_eq_true_iff, h.scratch, h.data, h.digest]
  refine ⟨⟨hfit.scratchName, by simp⟩, ⟨hfit.dataName, ?_⟩, ⟨hfit, ?_⟩⟩
  · cases m.get? key <;> simp
  · cases m.get? key <;> simp

/-- A text that is put into a slot on both sides. -/
theorem insert (h : Mirrors d m) (hkey : isKey key = true) (hfit : Fits key) (text : String) :
    Mirrors (written d key text) (m.insert key text) := by
  -- A file that has been touched is one of this key, as no other key has files of that name.
  refine ⟨?_, ?_, ?_, ?_⟩
  · intro k
    simp only [written, half, Dictionary.get?_insert, Dictionary.get?_erase, h.data]
    by_cases hk : key = k <;> simp [hk]
  · intro k
    simp only [written, half, Dictionary.get?_insert, Dictionary.get?_erase, h.digest]
    by_cases hk : key = k <;> simp [hk]
  · intro k
    simp [written, half, Dictionary.get?_insert, Dictionary.get?_erase, h.scratch]
  · intro k hk
    rw [Dictionary.get?_insert] at hk
    by_cases heq : key = k
    · rw [← heq]
      exact ⟨hkey, hfit⟩
    · rw [if_neg heq] at hk
      exact h.keys k hk

/-- A slot that is emptied on both sides. -/
theorem erase (h : Mirrors d m) (key : String) :
    Mirrors ((d.erase (dataName key)).erase (digestName key)) (m.erase key) := by
  refine ⟨?_, ?_, ?_, ?_⟩
  · intro k
    simp only [Dictionary.get?_erase, h.data]
    by_cases hk : key = k <;> simp [hk]
  · intro k
    simp only [Dictionary.get?_erase, h.digest]
    by_cases hk : key = k <;> simp [hk]
  · intro k
    simp [Dictionary.get?_erase, h.scratch]
  · intro k hk
    rw [Dictionary.get?_erase] at hk
    by_cases heq : key = k
    · rw [if_pos heq] at hk
      cases hk
    · rw [if_neg heq] at hk
      exact h.keys k hk

section Calls

theorem read_of_some (h : Mirrors d m) (hfound : m.get? key = some text) :
    d.read (dataName key) = .ok text.toUTF8 ∧
      d.read (digestName key) = .ok (Sha256.hex text).toUTF8 := by
  have hfit := (h.keys key (by rw [hfound]; rfl)).2
  exact ⟨Directory.read_of_file hfit.dataName (by rw [h.data, hfound]; rfl),
    Directory.read_of_file hfit (by rw [h.digest, hfound]; rfl)⟩

theorem read_of_none (h : Mirrors d m) (hnone : m.get? key = none) :
    d.read (dataName key) = .error .notFound ∨
      d.read (dataName key) = .error .refused ∧ ¬ Fits key := by
  by_cases hsize : (dataName key).utf8ByteSize ≤ Directory.nameLimit
  · exact Or.inl (Directory.read_of_none hsize (by rw [h.data, hnone]; rfl))
  · exact Or.inr ⟨Directory.read_of_large hsize, fun hfit => hsize hfit.dataName⟩

theorem set (h : Mirrors d m) (hkey : isKey key = true) (text : String) :
    SlotFiles.set d key text = (written d key text, .ok ()) ∧
        Mirrors (written d key text) (m.insert key text) ∨
      (SlotFiles.set d key text).2 = .error .storage ∧ ¬ Fits key := by
  by_cases hfit : Fits key
  · rcases h.admits hfit with ⟨hs, hd, hg⟩
    have hset : SlotFiles.set d key text = (written d key text, .ok ()) := by
      simp only [SlotFiles.set, if_pos hkey, run_setSteps text hs hd hg, ofFile]
    exact Or.inl ⟨hset, h.insert hkey hfit text⟩
  · refine Or.inr ⟨?_, hfit⟩
    simp only [SlotFiles.set, if_pos hkey, run_setSteps_of_large text hfit, ofFile]

theorem get (h : Mirrors d m) (hkey : isKey key = true) :
    SlotFiles.get d key = .ok (m.get? key) ∨
      SlotFiles.get d key = .error .storage ∧ ¬ Fits key := by
  cases hfound : m.get? key with
  | some text =>
      -- The text is there, and its own digest beside it.
      have hfit := (h.keys key (by rw [hfound]; rfl)).2
      have hdata : readText? d (dataName key) = .ok (some text) :=
        readText?_of_toUTF8 hfit.dataName (by rw [h.data, hfound]; rfl)
      have hdigest : readText? d (digestName key) = .ok (some (Sha256.hex text)) :=
        readText?_of_toUTF8 hfit (by rw [h.digest, hfound]; rfl)
      rw [get_eq hkey, hdata]
      exact Or.inl (verdict_of_hex hdigest)
  | none =>
      rcases h.read_of_none hfound with hread | ⟨hread, hfit⟩
      · exact Or.inl (get_of_notFound hkey hread)
      · refine Or.inr ⟨?_, hfit⟩
        rw [get_eq hkey]
        simp only [readText?, Directory.readText, hread]

theorem remove (h : Mirrors d m) (hkey : isKey key = true) :
    (∃ d', SlotFiles.remove d key = (d', .ok ()) ∧ Mirrors d' (m.erase key)) ∨
      (SlotFiles.remove d key).2 = .error .storage ∧ ¬ Fits key := by
  cases hfound : m.get? key with
  | some text =>
      rcases h.read_of_some hfound with ⟨hdata, hdigest⟩
      have hdigest' : Directory.read (d.erase (dataName key)) (digestName key) =
          .ok (Sha256.hex text).toUTF8 := by
        rw [Directory.read_congr (Dictionary.get?_erase_ne d dataName_ne_digestName), hdigest]
      refine Or.inl ⟨_, ?_, h.erase key⟩
      rw [remove_eq hkey, hdata]
      dsimp only
      rw [removeFile_eq, hdigest']
  | none =>
      -- Nothing is there to be taken out, on either side.
      rw [Dictionary.erase_of_get?_eq_none hfound]
      by_cases hfit : Fits key
      · have hdata : d.read (dataName key) = .error .notFound :=
          Directory.read_of_none hfit.dataName (by rw [h.data, hfound]; rfl)
        have hdigest : d.read (digestName key) = .error .notFound :=
          Directory.read_of_none hfit (by rw [h.digest, hfound]; rfl)
        refine Or.inl ⟨d, ?_, h⟩
        rw [remove_eq hkey, hdata]
        dsimp only
        rw [removeFile_eq, hdigest]
      · refine Or.inr ⟨?_, hfit⟩
        rw [remove_eq hkey]
        rcases h.read_of_none hfound with hread | ⟨hread, _⟩
        · rw [hread]
          dsimp only
          rw [removeFile_eq, Directory.read_of_large hfit]
        · rw [hread]

theorem contains (h : Mirrors d m) (hkey : isKey key = true) :
    SlotFiles.contains d key = m.contains key := by
  unfold SlotFiles.contains Dictionary.contains
  rw [hkey, Bool.true_and]
  cases hfound : m.get? key with
  | some text =>
      rw [(h.read_of_some hfound).1]
      rfl
  | none =>
      rcases h.read_of_none hfound with hread | ⟨hread, _⟩
      · rw [hread]
        rfl
      · rw [hread]
        rfl

theorem keys_eq (h : Mirrors d m) : SlotFiles.keys d = m.keys := by
  unfold SlotFiles.keys
  refine Dictionary.keys_congr fun k => ?_
  have hmem : k ∈ SlotFiles.keys d ↔ k ∈ m.keys := by
    rw [mem_keys, h.data, Option.isSome_map, Dictionary.mem_keys_iff]
    exact ⟨And.right, fun hk => ⟨ne_empty_of_isKey (h.keys k hk).1, hk⟩⟩
  exact hmem

end Calls

theorem isFailure_of_refusal {c : SlotCall} {a : SlotAnswer} (h : c.refusal? = some a) :
    a.isFailure = false := by
  cases c <;> simp only [SlotCall.refusal?, Option.ite_none_left_eq_some, Option.some.injEq,
    reduceCtorEq] at h
  all_goals
    rcases h with ⟨_, rfl⟩
    rfl

/-- A call to a directory and to the map that it mirrors is answered alike, and the
    directory mirrors the map again; or a name is too long, and the call fails. -/
theorem call (h : Mirrors d m) (c : SlotCall) :
    (∃ d' m' a, (SlotStore.files d).call c = (.files d', a) ∧
        (SlotStore.memory m).checkedCall c = (.memory m', a) ∧ a.isFailure = false ∧
        Mirrors d' m') ∨
      ((SlotStore.files d).call c).2.isFailure = true ∧
        ∃ key, c.key? = some key ∧ isKey key = true ∧ ¬ Fits key := by
  unfold SlotStore.checkedCall
  cases hr : c.refusal? with
  | some a =>
      exact Or.inl ⟨d, m, a, SlotStore.call_of_refusal hr d, rfl, isFailure_of_refusal hr, h⟩
  | none =>
      cases c with
      | set key text =>
          have hkey : isKey key = true := SlotCall.isKey_of_not_refused rfl hr
          rcases h.set hkey text with ⟨hset, h'⟩ | ⟨hset, hfit⟩
          · refine Or.inl ⟨_, _, .done (.ok ()), ?_, rfl, rfl, h'⟩
            simp only [SlotStore.call, SlotStore.set, hset]
          · refine Or.inr ⟨?_, key, rfl, hkey, hfit⟩
            simp only [SlotStore.call, SlotStore.set, hset, SlotAnswer.isFailure]
      | get key =>
          have hkey : isKey key = true := SlotCall.isKey_of_not_refused rfl hr
          rcases h.get hkey with hget | ⟨hget, hfit⟩
          · refine Or.inl ⟨_, _, .text (.ok (m.get? key)), ?_, rfl, rfl, h⟩
            simp only [SlotStore.call, SlotStore.get, hget]
          · refine Or.inr ⟨?_, key, rfl, hkey, hfit⟩
            simp only [SlotStore.call, SlotStore.get, hget, SlotAnswer.isFailure]
      | remove key =>
          have hkey : isKey key = true := SlotCall.isKey_of_not_refused rfl hr
          rcases h.remove hkey with ⟨d', hremove, h'⟩ | ⟨hremove, hfit⟩
          · refine Or.inl ⟨_, _, .done (.ok ()), ?_, rfl, rfl, h'⟩
            simp only [SlotStore.call, SlotStore.remove, hremove]
          · refine Or.inr ⟨?_, key, rfl, hkey, hfit⟩
            simp only [SlotStore.call, SlotStore.remove, hremove, SlotAnswer.isFailure]
      | contains key =>
          have hkey : isKey key = true := SlotCall.isKey_of_not_refused rfl hr
          refine Or.inl ⟨_, _, .truth (m.contains key), ?_, rfl, rfl, h⟩
          simp only [SlotStore.call, SlotStore.contains, h.contains hkey]
      | keys =>
          refine Or.inl ⟨_, _, .keys m.keys, ?_, rfl, rfl, h⟩
          simp only [SlotStore.call, SlotStore.keys, h.keys_eq]
      | reopen => exact Or.inl ⟨_, _, _, rfl, rfl, rfl, h⟩

/-- Calls with names that are not too long do not fail. -/
theorem no_failure (h : Mirrors d m) {cs : List SlotCall}
    (hfit : ∀ c ∈ cs, ∀ key, c.key? = some key → isKey key = true → Fits key) :
    ∀ a ∈ (SlotStore.files d).answers cs, a.isFailure = false := by
  induction cs generalizing d m with
  | nil => simp [SlotStore.answers, SlotStore.answersBy]
  | cons c cs ih =>
      rw [List.forall_mem_cons] at hfit
      rcases h.call c with ⟨d', m', a, hc, _, ha, h'⟩ | ⟨_, key, hc, hkey, hlong⟩
      · rw [SlotStore.answers, SlotStore.answersBy, hc, List.forall_mem_cons]
        exact ⟨ha, ih h' hfit.2⟩
      · exact absurd (hfit.1 key hc hkey) hlong

/-- Calls that do not fail are answered alike by a directory and the map that it
    mirrors, and leave it so that it mirrors what they leave in the map. -/
theorem answers (h : Mirrors d m) {cs : List SlotCall}
    (hok : ∀ a ∈ (SlotStore.files d).answers cs, a.isFailure = false) :
    (SlotStore.files d).answers cs = (SlotStore.memory m).checkedAnswers cs ∧
      ∃ d' m', (SlotStore.files d).after cs = .files d' ∧ Mirrors d' m' ∧
        ∀ key, isKey key = true → m'.get? key = cs.foldl (textAfter key) (m.get? key) := by
  -- Both sides go on from where the first call has left them.
  induction cs generalizing d m with
  | nil => exact ⟨rfl, d, m, rfl, h, fun _ _ => rfl⟩
  | cons c cs ih =>
      rw [SlotStore.answers, SlotStore.answersBy, List.forall_mem_cons] at hok
      rcases h.call c with ⟨d', m', a, hc, hm, _, h'⟩ | ⟨hfail, _⟩
      · rw [hc] at hok
        rcases ih h' hok.2 with ⟨hanswers, d'', m'', hafter, h'', htext⟩
        refine ⟨?_, d'', m'', ?_, h'', ?_⟩
        · rw [SlotStore.answers, SlotStore.checkedAnswers, SlotStore.answersBy, SlotStore.answersBy,
            hc, hm]
          exact congrArg (a :: ·) hanswers
        · rw [SlotStore.after, List.foldl_cons, hc]
          exact hafter
        · intro key hkey
          rcases get?_checkedCall hkey m c with ⟨n, hn, hget⟩
          rw [hm] at hn
          cases hn
          rw [htext key hkey, hget, List.foldl_cons]
      · rw [hfail] at hok
        exact absurd hok.1 (by simp)

end Mirrors

/-- Calls to an empty directory are answered as by a map. -/
structure IsMap (cs : List SlotCall) : Prop where
  answers : (SlotStore.files .empty).answers cs = (SlotStore.memory .empty).checkedAnswers cs
  valid : (∀ c ∈ cs, c.refusal? = none) →
    (SlotStore.files .empty).answers cs = (SlotStore.memory .empty).answers cs
  get : ∀ key, isKey key = true → Fits key →
    ((SlotStore.files .empty).after cs).get key = .ok (lastText key cs)
  contains : ∀ key, isKey key = true →
    ((SlotStore.files .empty).after cs).contains key = (lastText key cs).isSome
  sorted : ((SlotStore.files .empty).after cs).keys.Pairwise (· < ·)
  keys : ∀ key, key ∈ ((SlotStore.files .empty).after cs).keys ↔
    isKey key = true ∧ (lastText key cs).isSome

theorem isMap_of_no_failure {cs : List SlotCall}
    (hok : ∀ a ∈ (SlotStore.files .empty).answers cs, a.isFailure = false) : IsMap cs := by
  rcases mirrors_empty.answers hok with ⟨hanswers, d, m, hafter, h, htext⟩
  refine ⟨hanswers, ?_, ?_, ?_, ?_, ?_⟩
  · intro hvalid
    rw [hanswers, SlotStore.checkedAnswers_of_valid hvalid]
  · intro key hkey hfit
    rw [hafter]
    rcases h.get hkey with hget | ⟨_, hlong⟩
    · rw [SlotStore.get, hget, htext key hkey]
      rfl
    · exact absurd hfit hlong
  · intro key hkey
    rw [hafter, SlotStore.contains, h.contains hkey, Dictionary.contains, htext key hkey]
    rfl
  · rw [hafter, SlotStore.keys, h.keys_eq, Dictionary.keys, List.pairwise_map]
    exact m.sorted
  · intro key
    rw [hafter, SlotStore.keys, h.keys_eq, Dictionary.mem_keys_iff]
    constructor
    · intro hs
      have hkey := (h.keys key hs).1
      rw [htext key hkey] at hs
      exact ⟨hkey, hs⟩
    · rintro ⟨hkey, hs⟩
      rw [htext key hkey]
      exact hs

/-- A store in files is a map. Calls to a directory that was empty at first do not
    fail unless a name is too long, and as long as none has failed, all are answered
    as by a map. In any directory at all, a call with an invalid key is refused and
    changes nothing, and every call stays within the files of its slot. -/
theorem files_are_map (cs : List SlotCall) :
    ((∀ c ∈ cs, ∀ key, c.key? = some key → isKey key = true → Fits key) →
        ∀ a ∈ (SlotStore.files .empty).answers cs, a.isFailure = false) ∧
      ((∀ a ∈ (SlotStore.files .empty).answers cs, a.isFailure = false) → IsMap cs) ∧
      ∀ (d : Directory) (c : SlotCall),
        (∀ a, c.refusal? = some a → (SlotStore.files d).call c = (.files d, a)) ∧
          c.IsContained d := by
  refine ⟨mirrors_empty.no_failure, isMap_of_no_failure, ?_⟩
  intro d c
  exact ⟨fun a ha => SlotStore.call_of_refusal ha d, c.isContained d⟩

/-- Slots with endings in their keys. -/
theorem files_are_map_endings :
    IsMap [.set "a" "1", .set "a.json" "2", .set "a.sha256" "3", .set "a.tmp" "4", .set "../a" "5",
      .remove "a.json", .reopen, .get "a", .contains "a.json", .keys] := by
  have hmap := files_are_map [.set "a" "1", .set "a.json" "2", .set "a.sha256" "3",
    .set "a.tmp" "4", .set "../a" "5", .remove "a.json", .reopen, .get "a", .contains "a.json",
    .keys]
  refine hmap.2.1 (hmap.1 ?_)
  intro c hc key hk _
  simp only [List.mem_cons, List.not_mem_nil, or_false] at hc
  rcases hc with rfl | rfl | rfl | rfl | rfl | rfl | rfl | rfl | rfl | rfl <;> cases hk <;>
    decide

end SlotFiles

end Playfield
