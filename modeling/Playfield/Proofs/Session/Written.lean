import Mathlib
import Playfield.Proofs.Session.Invariant
import Playfield.Proofs.Slot.Mirror

/-!
# What a Save Leaves

What can be read in a slot, told by whether writing to it has succeeded.

A write that succeeds leaves its text, whatever has been in the slot before. A write that fails
half way leaves the new text beside a digest that cannot be had, or nothing new at all. In both
cases there is no text in the slot that has not been there before. So what can be read in a slot
is what the last save that succeeded has written there, or has been there from the beginning.

## Theorems

* `SlotFiles.set_ok_iff`: When a write to files succeeds.
* `SlotStore.get_of_set_ok`, `SlotStore.get_of_set_error`: What can be read after a write.
* `Session.get_of_save`: What can be read after a save.
* `Session.get_of_clearSave`: What can be read after a slot has been emptied.
-/

namespace Playfield

namespace SlotFiles

variable {d : Directory} {key text : String}

/-- A write succeeds if a file can be put under each of the three names. -/
theorem set_ok_iff (hkey : isKey key = true) : (set d key text).2 = .ok () ↔
    d.admits (scratchName key) = true ∧ d.admits (dataName key) = true ∧
      d.admits (digestName key) = true := by
  simp only [set, if_pos hkey]
  by_cases hdata : d.admits (scratchName key) = true ∧ d.admits (dataName key) = true
  · by_cases hdigest : d.admits (digestName key) = true
    · rw [run_setSteps text hdata.1 hdata.2 hdigest]
      exact ⟨fun _ => ⟨hdata.1, hdata.2, hdigest⟩, fun _ => rfl⟩
    · have hrun : (d.run (setSteps key text)).2 = .error .refused := by
        rw [setSteps, run_half text hdata]
        refine (Directory.run_replaceSteps_of_refused _ scratchName_ne_digestName fun h => ?_).1
        rw [Directory.admits_congr (get?_half_digestName d key text)] at h
        exact hdigest h.2
      rw [hrun]
      refine iff_of_false (fun h => ?_) fun h => hdigest h.2.2
      cases h
  · rw [setSteps, (run_of_refused text hdata _).1]
    refine iff_of_false (fun h => ?_) fun h => hdata ⟨h.1, h.2.1⟩
    cases h

theorem isKey_of_set_ok (h : (set d key text).2 = .ok ()) : isKey key = true := by
  by_contra hkey
  rw [set_invalid d key text (Bool.not_eq_true _ ▸ hkey)] at h
  cases h

/-- A write that succeeds leaves its text. -/
theorem get_of_set_ok (h : (set d key text).2 = .ok ()) :
    get (set d key text).1 key = .ok (some text) := by
  have hkey := isKey_of_set_ok h
  have hadmits := (set_ok_iff hkey).1 h
  rw [set_eq_interrupted hkey]
  rcases get?_interrupted d key text 6 with ⟨hdata, hdigest⟩
  rw [if_pos ⟨by omega, hadmits.1, hadmits.2.1⟩] at hdata
  rw [if_pos ⟨by omega, hadmits⟩] at hdigest
  rw [get_eq hkey, readText?_of_toUTF8 (Directory.admits_eq_true_iff.1 hadmits.2.1).1 hdata]
  exact verdict_of_hex
    (readText?_of_toUTF8 (Directory.admits_eq_true_iff.1 hadmits.2.2).1 hdigest)

/-- After a write that fails nothing can be read that could not be read before. -/
theorem get_of_set_error {e : SlotError} {found : String} (h : (set d key text).2 = .error e)
    (hget : get (set d key text).1 key = .ok (some found)) : get d key = .ok (some found) := by
  cases hkey : isKey key with
  | false => rwa [set_invalid d key text hkey] at hget
  | true =>
      have hadmits : ¬ _ := fun hall => by
        rw [(set_ok_iff hkey).2 hall] at h
        cases h
      rw [set_eq_interrupted hkey] at hget
      rcases get?_interrupted d key text 6 with ⟨hdata, hdigest⟩
      rw [if_neg fun hall => hadmits hall.2] at hdigest
      by_cases hw : d.admits (scratchName key) = true ∧ d.admits (dataName key) = true
      · -- The text is there, but no digest can be.
        rw [if_pos ⟨by omega, hw⟩] at hdata
        have hrefused : ¬ Directory.admits (interrupted d key text 6) (digestName key) = true := by
          rw [Directory.admits_congr hdigest]
          exact fun hall => hadmits ⟨hw.1, hw.2, hall⟩
        rw [get_eq hkey, readText?_of_toUTF8 (Directory.admits_eq_true_iff.1 hw.2).1 hdata] at hget
        dsimp only at hget
        rw [verdict, readText?_of_not_admits hrefused] at hget
        cases hget
      · -- Neither of the two files has changed.
        rw [if_neg fun hall => hw hall.2] at hdata
        rwa [get_congr hdata hdigest] at hget

end SlotFiles

namespace SlotStore

variable {s : SlotStore} {key text : String}

theorem get_of_set_ok (h : (s.set key text).2 = .ok ()) :
    (s.set key text).1.get key = .ok (some text) := by
  cases s with
  | memory m => exact get_set_memory m key text
  | files d => exact SlotFiles.get_of_set_ok h

theorem get_of_set_error {e : SlotError} {found : String} (h : (s.set key text).2 = .error e)
    (hget : (s.set key text).1.get key = .ok (some found)) : s.get key = .ok (some found) := by
  cases s with
  | memory m => cases h
  | files d => exact SlotFiles.get_of_set_error h hget

end SlotStore

namespace Session

variable {R B : Type} {s : Session R B} {slot other text : String}

/-- After a slot has been emptied nothing can be read that could not be read before. -/
theorem get_of_clearSave
    (h : (s.clearSave slot).1.slots.get (s.slotKey other) = .ok (some text)) :
    s.slots.get (s.slotKey other) = .ok (some text) := by
  rw [slots_clearSave] at h
  exact SlotStore.get_of_remove h

variable [Scalar R] [Numeral R] [DecidableEq R]

/-- After a save its slot holds the session, if the save has succeeded. Otherwise, and in any
    other slot, nothing can be read that could not be read before. -/
theorem get_of_save (h : (s.save slot).1.slots.get (s.slotKey other) = .ok (some text)) :
    ((s.save slot).2 = .ok () ∧ other = slot ∧
        SaveState.codec.parse text = .ok (s.snapshot s.supply.now.1)) ∨
      (((s.save slot).2 = .ok () → other ≠ slot) ∧
        s.slots.get (s.slotKey other) = .ok (some text)) := by
  cases henc : encode slot (s.snapshot s.supply.now.1) with
  | error e =>
      rw [save_of_refused henc] at h ⊢
      exact .inr ⟨nofun, h⟩
  | ok written =>
      have hslots : (s.save slot).1.slots = (s.slots.set (s.slotKey slot) written).1 := by
        rw [save_of_encoded henc]
      have hresult : (s.save slot).2 =
          (s.slots.set (s.slotKey slot) written).2.mapError SaveError.store := by
        rw [save_of_encoded henc]
      rw [hslots] at h
      rw [hresult]
      by_cases hother : other = slot
      · subst hother
        cases hset : (s.slots.set (s.slotKey other) written).2 with
        | ok u =>
            have hget := SlotStore.get_of_set_ok hset
            rw [h] at hget
            obtain rfl : text = written := by simpa using hget
            exact .inl ⟨rfl, rfl, (encode_eq_ok_iff.1 henc).2⟩
        | error e => exact .inr ⟨nofun, SlotStore.get_of_set_error hset h⟩
      · refine .inr ⟨fun _ => hother, ?_⟩
        have hkey : s.slotKey other ≠ s.slotKey slot := fun hkey => hother (slotKey_inj hkey)
        have hframe := SlotStore.sameBut_set s.slots (s.slotKey slot) written
        rw [(hframe.answers hkey).1] at h
        exact h

end Session

end Playfield
