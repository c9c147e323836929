import Mathlib
import Playfield.Frame.Basic
import Playfield.Proofs.Session.Lasting

/-!
# Cursors

Where the animations of live instances stand.

The cursor of an instance is kept apart from the animation that it points into. Actions
change the one or the other, a tick moves the cursor, and a renderer puts up with a
cursor beyond the end by showing the last frame. It never has to: the cursor stands on a
frame of the animation that is playing, if that has any, at any time
(`Session.run_cursors`). Starting an animation begins with its first frame, and one that
is over is not playing any more, so no cursor is left from another animation.

## Main definitions

* `Instance.ShowsFrame`: An instance shows the frame at which its cursor stands.

## Theorems

* `Instance.lasting_isOnFrame`: Cursors stay on frames.
* `Instance.IsOnFrame.showsFrame`: Such a frame is what is shown.
* `Session.run_cursors`: At any time live instances show the frames of their cursors.
-/

namespace Playfield

namespace Instance

variable {R : Type}

/-- The cursor of an instance stands on a frame of an animation. Nothing is clamped when
    that is looked up, and the frame is the picture that the instance shows, if it is a
    picture at all. -/
structure ShowsFrame (i : Instance R) (a : Animation R) : Prop where
  frame : i.cursor.frame.toNat < a.frames.length
  unclamped : min i.cursor.frame.toNat (a.frames.length - 1) = i.cursor.frame.toNat
  shown : ∀ s, i.object.appearance = .sprite s →
    i.picture? = (a.frames[i.cursor.frame.toNat]?).filter (· != "")

theorem IsOnFrame.showsFrame {i : Instance R} (h : i.IsOnFrame) {s : Sprite R} {a : Animation R}
    (hs : i.object.appearance.sprite? = some s) (ha : s.currentAnimation? = some a)
    (hframes : a.frames ≠ []) : i.ShowsFrame a := by
  have hplaying : i.frames? = some a.frames := by
    rw [frames?, hs, Option.bind_some, ha, Option.map_some]
  have hframe := h a.frames hplaying hframes
  have hunclamped : min i.cursor.frame.toNat (a.frames.length - 1) = i.cursor.frame.toNat := by
    omega
  refine ⟨hframe, hunclamped, fun s' hs' => ?_⟩
  rw [hs', Appearance.sprite?, Option.some.injEq] at hs
  subst hs
  -- While an animation is playing, the still picture does not matter.
  have hfound : s'.current.bind s'.animation? = some a := ha
  rw [picture?, hs']
  dsimp only [Sprite.picture?]
  rw [hfound, Option.bind_some, Animation.frameAt?, hunclamped, List.getElem?_eq_getElem hframe,
    Option.some_or]

/-- Cursors stay on frames. -/
theorem lasting_isOnFrame [Scalar R] : Lasting (R := R) IsOnFrame where
  ofTemplate := fun _ => isOnFrame_of_start rfl
  evolves := fun hij => hij.frame
  ensureStates := fun h => h.congr rfl rfl

end Instance

namespace Session

variable {R B : Type} [Scalar R] [Numeral R] [Planar R] [AudioOutput R B] [DecidableEq R]
  {s : Session R B}

/-- On slots that hold what sessions have written, the live instances show the frames of
    their cursors at any time: between two calls and at each stage of a tick. -/
theorem run_cursors {project : Project R} {config : Config R} {slots : SlotStore} {output : B}
    {supply : Supply} (hstart : start project config slots output supply = .ok s)
    (hslots : ∀ key text, slots.get key = .ok (some text) → Written R text)
    (calls : List (HostCall R B)) (dt : R) :
    ∀ t ∈ s.run calls :: (s.run calls).stages dt, ∀ i ∈ t.roster.live, ∀ sprite,
      i.object.appearance.sprite? = some sprite → ∀ a, sprite.currentAnimation? = some a →
        a.frames ≠ [] → i.ShowsFrame a := by
  have hupholds := upholds_run Instance.lasting_isOnFrame hstart hslots calls dt
  intro t ht i hi sprite hsprite a ha hframes
  exact ((hupholds t ht).live i hi).showsFrame hsprite ha hframes

/-- A tower that has been loaded goes on with the frame at which it has been saved. -/
theorem run_cursors_guarded :
    ∃ slots : SlotStore, (∀ key text, slots.get key = .ok (some text) → Written Float text) ∧
      ((guarded slots).run [.enter none, .load "a"]).roster.live = [turned] ∧
      turned.cursor.frame = 1 ∧ turned.ShowsFrame ⟨"turn", "Turn", ["east", "west"], 1, true⟩ := by
  rcases exists_written_guarding with ⟨slots, text, time, hwritten, hget, hparse⟩
  have hlive := load_guarded hget hparse
  refine ⟨slots, hwritten, hlive, rfl, ?_⟩
  refine run_cursors (start_guarded slots) hwritten [.enter none, .load "a"] 1 _ List.mem_cons_self
    turned ?_ _ rfl _ rfl (List.cons_ne_nil _ _)
  rw [hlive]
  exact List.mem_singleton_self _

end Session

end Playfield
