import Mathlib
import Playfield.Session.Save

/-!
# Sessions and Their Slots

What writing and emptying a slot does to a session.

Both change the slots and nothing else, except that a save takes a time from the
supply, also when it is then refused. In memory nothing can go wrong with the
slots themselves, so whether a save succeeds there is a question about its text
alone (`Session.encode`).

## Main definitions

* `Session.Keeps`: At most the listed slots have changed.
* `Session.savedSlots`: What a save writes.

## Theorems

* `Session.slotKey_inj`: Two slots do not share a key.
* `Session.save_of_refused`, `Session.save_of_encoded`: A save is refused and writes
  nothing, or its text is put into its slot.
* `Session.save_of_memory`, `Session.clearSave_of_memory`: Slots in memory.
* `Session.exists_save`, `Session.exists_clearSave`: Slots anywhere.
* `Session.keeps_save`, `Session.keeps_clearSave`: Other slots stay as they are.
* `Session.load_snd_congr`: What comes of a load depends on slot and project only.
* `Session.load_of_parsed`, `Session.exists_of_load_ok`: A load succeeds with a text
  that is a save of a scene of the project.
* `Session.encode_eq_ok_iff`: The text of a save is the one that is read back.
-/

namespace Playfield

namespace Session

variable {R B : Type} {s : Session R B} {slot : String}

theorem slotKey_inj {slot' : String} (h : s.slotKey slot = s.slotKey slot') : slot = slot' :=
  (String.append_right_inj s.config.savePrefix).1 h

/-- At most the listed slots have changed, if they are in memory. -/
structure Keeps (s : Session R B) (written : List String) (t : Session R B) : Prop where
  project : t.project = s.project
  config : t.config = s.config
  slots : ∀ slots, s.slots = .memory slots → ∃ slots', t.slots = .memory slots' ∧
    ∀ slot, slot ∉ written → slots'.get? (s.slotKey slot) = slots.get? (s.slotKey slot)

/-- Other parts of a session do not matter. -/
theorem keeps_of_eq {t : Session R B} (written : List String) (hproject : t.project = s.project)
    (hconfig : t.config = s.config) (hslots : t.slots = s.slots) : Keeps s written t :=
  ⟨hproject, hconfig, fun slots hs => ⟨slots, hslots.trans hs, fun _ _ => rfl⟩⟩

theorem Keeps.append {t u : Session R B} {written written' : List String} (h : Keeps s written t)
    (h' : Keeps t written' u) : Keeps s (written ++ written') u := by
  refine ⟨h'.project.trans h.project, h'.config.trans h.config, ?_⟩
  intro slots hs
  rcases h.slots slots hs with ⟨slots', hs', hkeep⟩
  rcases h'.slots slots' hs' with ⟨slots'', hs'', hkeep'⟩
  refine ⟨slots'', hs'', ?_⟩
  intro slot hslot
  rw [List.mem_append, not_or] at hslot
  -- The prefix has not changed, so the key of a slot is the same throughout.
  have hkey : t.slotKey slot = s.slotKey slot := by rw [slotKey, h.config, slotKey]
  rw [← hkeep slot hslot.1, ← hkey]
  exact hkeep' slot hslot.2

theorem clearSave_of_memory {slots : Dictionary String} (hs : s.slots = .memory slots) :
    s.clearSave slot = ({ s with slots := .memory (slots.erase (s.slotKey slot)) }, .ok ()) := by
  unfold clearSave
  rw [hs]
  rfl

theorem exists_clearSave (s : Session R B) (slot : String) :
    ∃ store, (s.clearSave slot).1 = { s with slots := store } := by
  unfold clearSave
  split
  · exact ⟨_, rfl⟩
  · exact ⟨_, rfl⟩

theorem keeps_clearSave (s : Session R B) (slot : String) :
    Keeps s [slot] (s.clearSave slot).1 := by
  rcases exists_clearSave s slot with ⟨store, hstore⟩
  have hfst : (s.clearSave slot).1.slots = store := by rw [hstore]
  rw [hstore]
  refine ⟨rfl, rfl, ?_⟩
  intro slots hs
  -- Another slot has another key, and erasing does not touch it.
  have herase : store = .memory (slots.erase (s.slotKey slot)) := by
    rw [← hfst, clearSave_of_memory hs]
  refine ⟨_, herase, ?_⟩
  intro slot' hslot'
  rw [List.mem_singleton] at hslot'
  exact Dictionary.get?_erase_ne slots fun h => hslot' (slotKey_inj h).symm

variable [Scalar R] [Numeral R]

/-- What comes of a load is a matter of the text in the slot and of the project. -/
theorem load_snd_congr (s t : Session R B)
    (hslot : t.slots.get (t.slotKey slot) = s.slots.get (s.slotKey slot))
    (hproject : t.project = s.project) : (t.load slot).2 = (s.load slot).2 := by
  unfold load
  rw [hslot, hproject]
  split
  · rfl
  · rfl
  · split
    · rfl
    · split <;> rfl

theorem load_of_parsed {text : String} {save : SaveState R} {scene : Scene R}
    (hget : s.slots.get (s.slotKey slot) = .ok (some text))
    (hparse : SaveState.codec.parse text = .ok save)
    (hscene : s.project.scene? save.scene = some scene) :
    s.load slot = (s.restore save scene, .ok ()) := by
  unfold load
  rw [hget]
  dsimp only
  rw [hparse]
  dsimp only
  rw [hscene]

theorem exists_of_load_ok (h : (s.load slot).2 = .ok ()) :
    ∃ text, ∃ save : SaveState R, ∃ scene, s.slots.get (s.slotKey slot) = .ok (some text) ∧
      SaveState.codec.parse text = .ok save ∧ s.project.scene? save.scene = some scene := by
  unfold load at h
  split at h
  · cases h
  · cases h
  · next text hget =>
    split at h
    · cases h
    · next save hparse =>
      split at h
      · cases h
      · next scene hscene => exact ⟨text, save, scene, hget, hparse, hscene⟩

variable [DecidableEq R]

theorem encode_eq_ok_iff {save : SaveState R} {text : String} :
    encode slot save = .ok text ↔
      (SaveState.codec.write save).compact = text ∧ SaveState.codec.parse text = .ok save := by
  unfold encode
  constructor
  · intro h
    dsimp only at h
    split at h
    · cases h
    · next reread hread =>
      split at h
      · next heq =>
        rw [Except.ok.injEq] at h
        rw [h, heq] at hread
        exact ⟨h, hread⟩
      · cases h
  · rintro ⟨rfl, hread⟩
    dsimp only
    rw [hread]
    exact if_pos rfl

theorem save_of_refused {e : SaveError} (h : encode slot (s.snapshot s.supply.now.1) = .error e) :
    s.save slot = ({ s with supply := s.supply.now.2 }, .error e) := by
  have h' : encode slot ({ s with supply := s.supply.now.2 }.snapshot s.supply.now.1) =
      .error e := h
  unfold save
  dsimp only
  rw [h']

theorem save_of_encoded {text : String} (h : encode slot (s.snapshot s.supply.now.1) = .ok text) :
    s.save slot = ({ s with
      supply := s.supply.now.2
      slots := (s.slots.set (s.slotKey slot) text).1 },
      (s.slots.set (s.slotKey slot) text).2.mapError SaveError.store) := by
  have h' : encode slot ({ s with supply := s.supply.now.2 }.snapshot s.supply.now.1) =
      .ok text := h
  have hkey : slotKey { s with supply := s.supply.now.2 } slot = s.slotKey slot := rfl
  unfold save
  dsimp only
  rw [h', hkey]
  dsimp only
  generalize s.slots.set (s.slotKey slot) text = result
  rcases result with ⟨store, e | _⟩
  · rfl
  · rfl

theorem save_of_memory {slots : Dictionary String} {text : String} (hs : s.slots = .memory slots)
    (h : encode slot (s.snapshot s.supply.now.1) = .ok text) :
    s.save slot = ({ s with
      supply := s.supply.now.2
      slots := .memory (slots.insert (s.slotKey slot) text) }, .ok ()) := by
  rw [save_of_encoded h, hs]
  rfl

/-- The slot that a save writes. A save that is refused writes none. -/
def savedSlots (s : Session R B) (slot : String) : List String :=
  match (s.save slot).2 with
  | .ok () => [slot]
  | .error _ => []

theorem savedSlots_of_ok (h : (s.save slot).2 = .ok ()) : s.savedSlots slot = [slot] := by
  unfold savedSlots
  rw [h]

theorem exists_save (s : Session R B) (slot : String) :
    ∃ store, (s.save slot).1 = { s with supply := s.supply.now.2, slots := store } := by
  cases h : encode slot (s.snapshot s.supply.now.1) with
  | error e =>
      rw [save_of_refused h]
      exact ⟨s.slots, rfl⟩
  | ok text =>
      rw [save_of_encoded h]
      exact ⟨_, rfl⟩

theorem keeps_save (s : Session R B) (slot : String) :
    Keeps s (s.savedSlots slot) (s.save slot).1 := by
  rcases exists_save s slot with ⟨store, hstore⟩
  have hfst : (s.save slot).1.slots = store := by rw [hstore]
  rw [hstore]
  refine ⟨rfl, rfl, ?_⟩
  intro slots hs
  cases henc : encode slot (s.snapshot s.supply.now.1) with
  | error e =>
      -- A save that is refused has written nothing.
      have hstay : s.slots = store := by rw [← hfst, save_of_refused henc]
      exact ⟨slots, hstay.symm.trans hs, fun _ _ => rfl⟩
  | ok text =>
      have hsave := save_of_memory hs henc
      have hok : (s.save slot).2 = .ok () := by rw [hsave]
      have hset : store = .memory (slots.insert (s.slotKey slot) text) := by rw [← hfst, hsave]
      refine ⟨_, hset, ?_⟩
      intro slot' hslot'
      rw [savedSlots_of_ok hok, List.mem_singleton] at hslot'
      exact Dictionary.get?_insert_ne slots (fun h => hslot' (slotKey_inj h).symm) text

end Session

end Playfield
