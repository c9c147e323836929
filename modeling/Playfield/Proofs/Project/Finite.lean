import Mathlib
import Playfield.Project
import Playfield.Proofs.Double.Decimals
import Playfield.Proofs.Event.Nodes

/-!
# Finite Projects

The projects that come back from a document.

A project is finite if all its numbers are: those of its settings, of the layers, objects
and events of its scenes, of its sounds and of its variables. By the laws of the codecs
on the way, these are the projects that come back, whatever the forms of their objects,
conditions and actions are and however their events are nested. A tree has no limit of
nesting, unlike a text.

Nearly all of a project is nested only so deep. The events of a scene are not, so the
bounds on the rest are given up where they meet the events, and what is said about the
growth of a document is said of the events alone.

## Main definitions

* `Scene.IsFinite`, `Project.IsFinite`: All numbers are finite.

## Theorems

* `Scene.carries_codec`, `Project.carries_codec`: Scenes and projects come back if they are
  finite.
* `Project.parseTree_write_iff`: What comes back from the tree of a project.
-/

namespace Playfield

section

variable {R : Type} [Scalar R]

/-- The numbers of a layer are finite. -/
def Layer.IsFinite (l : Layer R) : Prop := l.parallax.IsFinite

/-- All numbers of a scene are finite. -/
structure Scene.IsFinite (s : Scene R) : Prop where
  layers : ∀ l ∈ s.layers, l.IsFinite
  objects : ∀ o ∈ s.objects, o.IsFinite
  events : ∀ n ∈ s.events, n.IsFinite

/-- The numbers of a sound are finite. -/
def Sound.IsFinite (s : Sound R) : Prop := ∀ x ∈ s.defaultVolume, Scalar.isFinite x = true

/-- All numbers of a project are finite. -/
structure Project.IsFinite (p : Project R) : Prop where
  resolution : p.settings.resolution.IsFinite
  scenes : ∀ s ∈ p.scenes, s.IsFinite
  sounds : ∀ s ∈ p.sounds, s.IsFinite
  globals : ∀ e ∈ p.globals.entries, e.2.IsFinite

variable [Numeral R] [Numeral.Lawful R]

theorem Layer.holds_codec (k : Nat) : (Layer.codec : Codec (Layer R)).Holds (k + 1)
    Layer.IsFinite := by
  refine Codec.holds_record (by decide : ["name", "visibleInEditor", "parallaxX",
    "parallaxY"].Nodup) (fun _ => rfl) ?_
  refine .field (.defaulting (Codec.holds_number k) (Numeral.isFinite_ofNat (by decide)))
    (fun _ h => h.y) ?_
  refine .field (.defaulting (Codec.holds_number k) (Numeral.isFinite_ofNat (by decide)))
    (fun _ h => h.x) ?_
  refine .free (.defaulting (Codec.holds_bool k) trivial) ?_
  refine .free (.required (Codec.holds_text k)) ?_
  refine .start ?_
  intro name visibleInEditor x hx y hy
  exact ⟨hx, hy⟩

/-- Scenes come back if they are finite, and their events are written at most one level
    deeper than they were read. -/
theorem Scene.carries_codec (D : Nat) : (Scene.codec : Codec (Scene R)).Carries ⊤
    Scene.IsFinite (Json.Below D)
    fun s => s.IsFinite ∧ (EventNode.listCodec.write s.events).depth + 1 ≤ D := by
  refine Codec.carries_record_below
    (Q := fun D (s : Scene R) => s.IsFinite ∧ (EventNode.listCodec.write s.events).depth + 1 ≤ D)
    (by decide : ["id", "name", "layers", "objects", "events"].Nodup) (fun _ => rfl)
    (fun D => ?_) D
  refine .field (.defaulting (EventNode.carries_listCodec (D + 1))
    ⟨List.forall_mem_nil _, Nat.succ_le_succ (Nat.zero_le D)⟩) (fun _ h => h.events) ?_
  refine .field (.defaulting ((Codec.holds_list (Object.holds_codec 0)).within
    fun _ h => h.inRange) (List.forall_mem_nil _)) (fun _ h => h.objects) ?_
  refine .field (.defaulting ((Codec.holds_list (Layer.holds_codec 0)).within
    fun _ h => h.inRange) (List.forall_mem_nil _)) (fun _ h => h.layers) ?_
  refine .free (.defaulting Codec.carries_text trivial) ?_
  refine .free (.required Codec.carries_text) ?_
  refine .start ?_
  intro id name layers hlayers objects hobjects events hevents
  exact ⟨⟨hlayers, hobjects, hevents.1⟩, Nat.succ_le_succ hevents.2⟩

theorem Orientation.holds_codec (k : Nat) : Orientation.codec.Holds k fun _ => True := by
  refine Codec.holds_named k fun o => ?_
  cases o <;> decide

theorem Settings.holds_codec (k : Nat) : (Settings.codec : Codec (Settings R)).Holds (k + 2)
    fun s => s.resolution.IsFinite := by
  have hsize : (⟨800, 600⟩ : Size R).IsFinite :=
    ⟨Numeral.isFinite_ofNat (by decide), Numeral.isFinite_ofNat (by decide)⟩
  refine Codec.holds_record (by decide : ["title", "description", "version", "icon",
    "loadingScreenImage", "resolution", "orientation"].Nodup) (fun _ => rfl) ?_
  refine .free (.defaulting (Orientation.holds_codec _) trivial) ?_
  refine .field (.defaulting (Size.holds_codec k) hsize) (fun _ h => h) ?_
  refine .free .optionalText ?_
  refine .free .optionalText ?_
  refine .free (.defaulting (Codec.holds_text _) trivial) ?_
  refine .free (.defaulting (Codec.holds_text _) trivial) ?_
  refine .free (.defaulting (Codec.holds_text _) trivial) ?_
  refine .start ?_
  intro title description version icon loadingScreenImage resolution hresolution orientation
  exact hresolution

theorem Sound.holds_codec (k : Nat) : (Sound.codec : Codec (Sound R)).Holds (k + 1)
    Sound.IsFinite := by
  refine Codec.holds_record (by decide : ["name", "dataUrl", "defaultVolume", "isMusic"].Nodup)
    (fun _ => rfl) ?_
  refine .field (.optional (Codec.holds_bool k) fun _ => ⟨_, rfl⟩) (fun _ _ _ _ => trivial) ?_
  refine .field (.optional (Codec.holds_number k) fun _ => ⟨_, rfl⟩) (fun _ h => h) ?_
  refine .free (.required (Codec.holds_text k)) ?_
  refine .free (.required (Codec.holds_text k)) ?_
  refine .start ?_
  intro name source defaultVolume hdefaultVolume isMusic _
  exact hdefaultVolume

namespace Project

theorem holds_assetsCodec (k : Nat) : (assetsCodec : Codec (List (Sound R))).Holds (k + 3)
    fun ss => ∀ s ∈ ss, s.IsFinite := by
  refine Codec.holds_record (by decide : ["sounds"].Nodup) (fun _ => rfl) ?_
  refine .field (.defaulting (Codec.holds_list (Sound.holds_codec k)) (List.forall_mem_nil _))
    (fun _ h => h) ?_
  exact .start fun _ h => h

/-- Projects come back if they are finite, and the events of their scenes are written at most
    one level deeper than they were read. -/
theorem carries_codec (D : Nat) : (codec : Codec (Project R)).Carries ⊤ IsFinite (Json.Below D)
    fun p => p.IsFinite ∧
      ∀ s ∈ p.scenes, (EventNode.listCodec.write s.events).depth + 3 ≤ D := by
  refine Codec.carries_record_below
    (Q := fun D (p : Project R) => p.IsFinite ∧
      ∀ s ∈ p.scenes, (EventNode.listCodec.write s.events).depth + 3 ≤ D)
    (by decide : ["settings", "scenes", "assets", "globalVariables"].Nodup) (fun _ => rfl)
    (fun D => ?_) D
  have hsize : (Settings.initial : Settings R).resolution.IsFinite :=
    ⟨Numeral.isFinite_ofNat (by decide), Numeral.isFinite_ofNat (by decide)⟩
  refine .field (.defaulting ((Variables.holds_codec 0).within fun _ h => h.inRange)
    (List.forall_mem_nil _)) (fun _ h => h.globals) ?_
  refine .field (.defaulting ((holds_assetsCodec 0).within fun _ h => h.inRange)
    (List.forall_mem_nil _)) (fun _ h => h.sounds) ?_
  refine .field (.defaulting (Codec.carries_list (Json.descends_below D)
    (Scene.carries_codec D)).unbounded (List.forall_mem_nil _)) (fun _ h => h.scenes) ?_
  refine .field (.defaulting ((Settings.holds_codec 0).within fun _ h => h.inRange) hsize)
    (fun _ h => h.resolution) ?_
  refine .start ?_
  intro settings hsettings scenes hscenes sounds hsounds globals hglobals
  refine ⟨⟨hsettings, fun s hs => (hscenes s hs).1, hsounds, hglobals⟩, fun s hs => ?_⟩
  exact Nat.add_le_add_right (hscenes s hs).2 2

end Project

end

/-- What is read from the tree that a project is written as is the project, exactly if all
    its numbers are finite. There is no bound on how deep its events are nested. -/
theorem Project.parseTree_write_iff (p : Project Float) :
    codec.parseTree (codec.write p).held = .ok p ↔ p.IsFinite := by
  have hlaw := carries_codec (R := Float) ((codec.write p).held.depth + 1)
  rw [Codec.parseTree_eq_ok_iff]
  constructor
  · intro h
    have hplain := Json.isPlain_held (hlaw.plain p).isPlain
    exact (hlaw.of_read .tree _ p ⟨hplain.inRange, Nat.lt_succ_self _⟩ h).1
  · exact hlaw.read_write .tree p

end Playfield
