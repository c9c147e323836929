import Mathlib
import Playfield.Proofs.Camera.Finite
import Playfield.Proofs.Double.Decimals
import Playfield.Proofs.Instance.Finite
import Playfield.Proofs.Session.Load
import Playfield.Proofs.Session.Slots

/-!
# Finite Sessions

Which sessions can be saved.

A save reads its own text again and is refused if that does not give what was
written. So what can be saved is what documents hold, and by the laws of the codecs
on the way to a save these are the states all of whose numbers are finite. One
number that is not finite is enough: what comes back instead is refused or has a
finite number or a missing value in its place, and what comes back is always finite.

## Main definitions

* `SaveState.IsFinite`: All numbers of a save are finite.

## Theorems

* `SaveState.holds_codec`: Saves come back if they are finite.
* `SaveState.isFinite_of_parse`: What is read is finite.
* `Session.save_of_finite`, `Session.save_of_not_finite`: What a save does.
* `Session.save_accepts_finite`: Saved is what is finite, and nothing else is written.
-/

namespace Playfield

section

variable {R : Type} [Scalar R]

/-- All numbers of a save are finite. -/
structure SaveState.IsFinite (save : SaveState R) : Prop where
  instances : ∀ i ∈ save.instances, i.IsFinite
  globals : ∀ e ∈ save.globals.entries, e.2.IsFinite
  view : save.view.IsFinite
  timers : ∀ e ∈ save.timers.entries, Scalar.isFinite e.2 = true

variable [Numeral R] [Numeral.Lawful R]

namespace SaveState

/-- Saves come back if they are finite. -/
theorem holds_codec : (codec : Codec (SaveState R)).Holds 7 SaveState.IsFinite := by
  refine Codec.holds_record (by decide : ["timestamp", "currentSceneId", "instances",
    "globalVariables", "camera", "timers"].Nodup) (fun _ => rfl) ?_
  refine .field (.defaulting (Codec.holds_dictionary (Codec.holds_number 5))
    (List.forall_mem_nil _)) (fun _ h => h.timers) ?_
  refine .field (.required (View.holds_codec 4)) (fun _ h => h.view) ?_
  refine .field (.defaulting (Variables.holds_codec 5) (List.forall_mem_nil _))
    (fun _ h => h.globals) ?_
  refine .field (.required (Codec.holds_list (Instance.holds_codec 0)))
    (fun _ h => h.instances) ?_
  refine .free (.required (Codec.holds_text 6)) ?_
  refine .free (.required (Codec.holds_count 6)) ?_
  refine .start ?_
  intro timestamp scene instances hinstances globals hglobals view hview timers htimers
  exact ⟨hinstances, hglobals, hview, htimers⟩

/-- A save is read back as it was exactly if it is finite. -/
theorem parse_write_iff (save : SaveState R) :
    codec.parse (codec.write save).compact = .ok save ↔ save.IsFinite :=
  holds_codec.parse_write_iff (by decide) save

/-- Whatever is read is finite. -/
theorem isFinite_of_parse {text : String} {save : SaveState R} (h : codec.parse text = .ok save) :
    save.IsFinite :=
  holds_codec.of_read .text _ save (Json.inRange_read text) (Codec.read_of_parse h)

/-- So a save that is not finite comes back as another. -/
theorem isFinite_of_parse_write {save reread : SaveState R}
    (h : codec.parse (codec.write save).compact = .ok reread) : reread.IsFinite :=
  isFinite_of_parse h

end SaveState

namespace Session

variable [DecidableEq R] {B : Type} {s : Session R B} {slot : String}

theorem encode_of_finite {save : SaveState R} (h : save.IsFinite) :
    encode slot save = .ok (SaveState.codec.write save).compact :=
  encode_eq_ok_iff.2 ⟨rfl, (SaveState.parse_write_iff save).2 h⟩

theorem isFinite_of_encode {save : SaveState R} {text : String} (h : encode slot save = .ok text) :
    save.IsFinite := by
  rcases encode_eq_ok_iff.1 h with ⟨rfl, hparse⟩
  exact (SaveState.parse_write_iff save).1 hparse

/-- A finite state is put into its slot. -/
theorem save_of_finite {slots : Dictionary String} (hs : s.slots = .memory slots)
    (h : (s.snapshot s.supply.now.1).IsFinite) :
    s.save slot = ({ s with
      supply := s.supply.now.2
      slots := .memory (slots.insert (s.slotKey slot)
        (SaveState.codec.write (s.snapshot s.supply.now.1)).compact) }, .ok ()) :=
  save_of_memory hs (encode_of_finite h)

/-- Another one is refused, and nothing is written. -/
theorem save_of_not_finite (h : ¬ (s.snapshot s.supply.now.1).IsFinite) :
    ∃ e, s.save slot = ({ s with supply := s.supply.now.2 }, .error e) := by
  cases henc : encode slot (s.snapshot s.supply.now.1) with
  | error e => exact ⟨e, save_of_refused henc⟩
  | ok text => exact absurd (isFinite_of_encode henc) h

end Session

end

namespace Session

variable {B : Type}

/-- With slots in memory a save is accepted exactly if all numbers of the state are
    finite. These are the states that are read back as they were, and what is read
    back of another one is finite and so not that state. A refused save changes
    neither slots nor session, apart from the time that it has taken from the supply,
    and an accepted one changes its own slot only. -/
theorem save_accepts_finite (s : Session Float B) (slot : String) (slots : Dictionary String)
    (hs : s.slots = .memory slots) :
    ((s.save slot).2 = .ok () ↔ (s.snapshot s.supply.now.1).IsFinite) ∧
      (∀ save : SaveState Float,
        (SaveState.codec.parse (SaveState.codec.write save).compact = .ok save ↔ save.IsFinite) ∧
        ∀ reread : SaveState Float,
          SaveState.codec.parse (SaveState.codec.write save).compact = .ok reread →
            reread.IsFinite) ∧
      (∀ e, (s.save slot).2 = .error e → (s.save slot).1 = { s with supply := s.supply.now.2 }) ∧
      ((s.save slot).2 = .ok () → ∃ slots',
        (s.save slot).1 = { s with supply := s.supply.now.2, slots := .memory slots' } ∧
        slots'.get? (s.slotKey slot) =
          some (SaveState.codec.write (s.snapshot s.supply.now.1)).compact ∧
        ∀ key, key ≠ s.slotKey slot → slots'.get? key = slots.get? key) := by
  refine ⟨?_, ?_, ?_⟩
  · constructor
    · intro hok
      by_contra hnot
      obtain ⟨e, he⟩ : ∃ e, s.save slot = ({ s with supply := s.supply.now.2 }, .error e) :=
        save_of_not_finite hnot
      rw [he] at hok
      cases hok
    · intro hfin
      rw [save_of_finite hs hfin]
  · intro save
    exact ⟨SaveState.parse_write_iff save, fun _ h => SaveState.isFinite_of_parse_write h⟩
  -- Either all numbers are finite and the slot is written, or the save is refused.
  by_cases hfin : (s.snapshot s.supply.now.1).IsFinite
  · rw [save_of_finite hs hfin]
    refine ⟨fun e he => ?_, fun _ => ⟨_, rfl, Dictionary.get?_insert_self _ _ _, ?_⟩⟩
    · cases he
    · intro key hkey
      exact Dictionary.get?_insert_ne slots (Ne.symm hkey) _
  · obtain ⟨e, he⟩ : ∃ e, s.save slot = ({ s with supply := s.supply.now.2 }, .error e) :=
      save_of_not_finite hfin
    rw [he]
    refine ⟨fun _ _ => rfl, fun hok => ?_⟩
    cases hok

theorem save_accepts_finite_of_infinite :
    let s : Session Float (SilentOutput Float) := .ofActions []
    let t := { s with globals := Dictionary.empty.insert "x" (.number Numeral.infinity) }
    s.slots = .memory .empty ∧ t.slots = .memory .empty ∧ (s.save "a").2 = .ok () ∧
      (t.save "a").2 ≠ .ok () := by
  refine ⟨rfl, rfl, ?_, ?_⟩
  · refine ((save_accepts_finite (.ofActions [] : Session Float (SilentOutput Float)) "a" .empty
      rfl).1).2 ⟨List.forall_mem_nil _, List.forall_mem_nil _, ?_, List.forall_mem_nil _⟩
    refine ⟨⟨by decide, by decide⟩, by decide, ?_, ?_, ⟨by decide, by decide⟩⟩
    · intro b hb
      cases hb
    · intro g hg
      cases hg
  · intro hok
    have hfin := ((save_accepts_finite { (.ofActions [] : Session Float (SilentOutput Float)) with
      globals := Dictionary.empty.insert "x" (.number Numeral.infinity) } "a" .empty rfl).1).1 hok
    have hinf : Scalar.isFinite (Numeral.infinity : Float) = true :=
      hfin.globals ("x", .number Numeral.infinity) List.mem_cons_self
    exact absurd hinf (by decide)

end Session

end Playfield
