import Mathlib
import Playfield.Proofs.Instance.Evolves

/-!
# The Last Word

What happens to a cursor that stands at the largest number of a frame.

The number of a frame is a word. A tick adds one to it before it is compared with the number
of frames, so a cursor that stands at the last word cannot go on, and the tick comes to no
end. No animation has that many frames. But a save can hold any word, and a cursor that has
been loaded stands where it has been saved.

What matters is whether an instance plays an animation while its cursor stands at the last
word (`Instance.IsFull`). Nothing that happens to an instance makes it full. Behaviors and
bars touch neither the cursor nor the animation. An action changes an animation without its
frames, stops it, or starts one, and that puts the cursor on the first frame. And a cursor
that goes on stays below the number of frames. So an instance overflows only if it has come
into the game full, and one that does not overflow goes on as it should.

## Main definitions

* `Instance.reel?`: The frames that the cursor of an instance goes through.
* `Instance.IsFull`: The cursor stands at the last word while an animation is playing.
* `Instance.PlaysOn`: Cursor and animation of an instance are untouched.
* `Instance.CountsOn`: The frame that follows is the one that should.
* `Stepped.Leaves`: What behaviors leave of an instance, and what they spawn.

## Theorems

* `Instance.Overflows.isFull`: Only a full cursor overflows.
* `Instance.isFull_of_animate`: An animation does not fill a cursor.
* `Instance.countsOn_animate`: Without an overflow frames are counted without a limit.
* `Order.isFull_of_result?`: Actions do not fill a cursor.
* `Instance.leaves_step`, `Instance.playsOn_syncBar`: Behaviors and bars leave it alone.
-/

namespace Playfield

namespace Instance

variable {R : Type} {i j k : Instance R}

/-- The frames that the cursor of an instance goes through. -/
def reel? (i : Instance R) : Option (List String) := i.playing?.map (·.frames)

/-- The cursor of an instance that plays an animation stands at the last word. -/
structure IsFull (i : Instance R) : Prop where
  reel : ∃ frames, i.reel? = some frames ∧ frames ≠ []
  frame : 2 ^ 64 ≤ i.cursor.frame.toNat + 1

theorem IsFull.congr (h : i.IsFull) (hcursor : j.cursor = i.cursor) (hreel : j.reel? = i.reel?) :
    j.IsFull :=
  ⟨hreel ▸ h.reel, hcursor ▸ h.frame⟩

theorem not_isFull_of_reel? (h : i.reel? = none) : ¬ i.IsFull := by
  rintro ⟨⟨frames, hframes, -⟩, -⟩
  exact absurd (h.symm.trans hframes) nofun

theorem not_isFull_of_sprite? (h : i.object.appearance.sprite? = none) : ¬ i.IsFull := by
  refine not_isFull_of_reel? ?_
  rw [reel?, playing?]
  split
  · next s hs =>
    rw [hs] at h
    cases h
  · rfl

theorem not_isFull_of_start [Scalar R] (h : i.cursor = startCursor) : ¬ i.IsFull := by
  intro hfull
  have hframe : 2 ^ 64 ≤ (0 : UInt64).toNat + 1 := by
    simpa only [h, startCursor] using hfull.frame
  exact absurd hframe (by decide)

/-- Cursor and animation of an instance are untouched. -/
structure PlaysOn (i j : Instance R) : Prop where
  cursor : j.cursor = i.cursor
  playing : j.playing? = i.playing?

theorem PlaysOn.refl (i : Instance R) : i.PlaysOn i := ⟨rfl, rfl⟩

theorem PlaysOn.trans (h : i.PlaysOn j) (h' : j.PlaysOn k) : i.PlaysOn k :=
  ⟨h'.cursor.trans h.cursor, h'.playing.trans h.playing⟩

theorem playsOn_of_eq (hcursor : j.cursor = i.cursor)
    (happearance : j.object.appearance = i.object.appearance) : i.PlaysOn j :=
  ⟨hcursor, by rw [playing?, happearance, playing?]⟩

theorem PlaysOn.isFull (h : i.PlaysOn j) (hj : j.IsFull) : i.IsFull :=
  hj.congr h.cursor.symm (by rw [reel?, reel?, h.playing])

variable [Scalar R] {dt : R}

theorem PlaysOn.overflows_iff (h : i.PlaysOn j) : j.Overflows dt ↔ i.Overflows dt := by
  rw [Overflows, Overflows, h.playing, h.cursor]

/-- Only a full cursor overflows. -/
theorem Overflows.isFull (h : i.Overflows dt) : i.IsFull := by
  rcases h with ⟨a, ha, hruns, -, hframe⟩
  exact ⟨⟨a.frames, by rw [reel?, ha, Option.map_some], Animation.frames_ne_nil hruns⟩, hframe⟩

/-- An instance that is full after a tick has been full before. -/
theorem isFull_of_animate (h : (i.animate dt).IsFull) : i.IsFull := by
  rcases animate_cases dt i with hsame | ⟨s, a, cursor, isOver, hs, ha, hruns, hadvance, hmoved⟩
  · rwa [hsame] at h
  · have hplaying : i.playing? = some a := by rw [playing?, hs]; exact ha
    have hfull := h.frame
    rw [hmoved] at h hfull
    cases isOver with
    | true => exact absurd h (not_isFull_of_reel? rfl)
    | false =>
        refine ⟨⟨a.frames, by rw [reel?, hplaying]; rfl, Animation.frames_ne_nil hruns⟩, ?_⟩
        by_cases hdue : a.frameTime ≤ i.cursor.time + dt
        · -- A cursor that has been counted on is below the number of frames.
          rw [Cursor.advance?, if_pos hdue, Option.map_eq_some_iff] at hadvance
          obtain ⟨⟨next, _⟩, hnext, hcursor⟩ := hadvance
          cases hcursor
          exact absurd (Cursor.nextFrame?_lt_last hnext) hfull.not_gt
        · rw [Cursor.advance?_of_unfinished a dt i.cursor hdue] at hadvance
          cases hadvance
          exact hfull

/-- A frame that is over is followed as if frames were counted without a limit. -/
def CountsOn (dt : R) (i j : Instance R) : Prop :=
  ∀ a, i.playing? = some a → a.frames.length < 2 ^ 64 → a.isRunning = true →
    a.frameTime ≤ i.cursor.time + dt →
    (j.cursor.frame.toNat, j.playing?) = ((Cursor.following a i.cursor.frame.toNat).1,
      if (Cursor.following a i.cursor.frame.toNat).2 then none else some a)

theorem PlaysOn.countsOn (h : i.PlaysOn j) (hj : j.CountsOn dt k) : i.CountsOn dt k := by
  rwa [CountsOn, h.playing, h.cursor] at hj

/-- An instance that does not overflow goes on as if frames were counted without a limit. -/
theorem countsOn_animate (h : ¬ i.Overflows dt) : i.CountsOn dt (i.animate dt) := by
  intro a ha hcount hruns hdue
  have hframe : i.cursor.frame.toNat + 1 < 2 ^ 64 :=
    not_le.1 fun hfull => h ⟨a, ha, hruns, hdue, hfull⟩
  obtain ⟨⟨next, isOver⟩, hnext, hfollowing⟩ := Option.map_eq_some_iff.1
    (Cursor.nextFrame?_eq_following (Animation.frames_ne_nil hruns) hcount hframe)
  have hmoved := animate?_of_running dt ha hruns
  rw [Cursor.advance?, if_pos hdue, hnext, Option.map_some, Option.map_some,
    Option.map_eq_some_iff] at hmoved
  obtain ⟨j, hj, hmoved⟩ := hmoved
  rw [animate, hj, Option.getD_some, ← hfollowing, (Prod.mk.inj hmoved).1, (Prod.mk.inj hmoved).2]

end Instance

/-! ## What else happens to instances -/

namespace Order

variable {R : Type} {i j : Instance R}

/-- A started animation begins with its first frame, and none is playing that is stopped. -/
theorem not_isFull_of_animate? [Scalar R] {animation : Option String}
    (h : animate? i animation = some j) : ¬ j.IsFull := by
  unfold animate? at h
  split at h
  · cases h
    cases animation with
    | none => exact Instance.not_isFull_of_reel? rfl
    | some name => exact Instance.not_isFull_of_start rfl
  · cases h

/-- A sprite with another still picture, or with an animation of another speed. -/
theorem isFull_of_updateSprite? {f : Sprite R → Option (Sprite R)} {a : Appearance R}
    (hf : ∀ s t, f s = some t →
      t.currentAnimation?.map (·.frames) = s.currentAnimation?.map (·.frames))
    (h : i.object.appearance.updateSprite? f = some a)
    (hj : ({ i with object := reshape i.object a } : Instance R).IsFull) : i.IsFull := by
  refine hj.congr rfl ?_
  rw [Instance.reel?, Instance.reel?, Instance.playing?, Instance.playing?, reshape]
  cases ha : i.object.appearance with
  | sprite s =>
      rw [ha] at h
      obtain ⟨t, ht, rfl⟩ := Option.map_eq_some_iff.1 h
      exact (hf s t ht).symm
  | tiledSprite s =>
      rw [ha] at h
      obtain ⟨t, -, rfl⟩ := Option.map_eq_some_iff.1 h
      rfl
  | text t =>
      rw [ha] at h
      cases h
  | bar b =>
      rw [ha] at h
      cases h

variable [Scalar R] [Numeral R]

theorem isFull_of_setProperty? {o : Object R} {value : Value R} {p : Settable}
    (h : setProperty? i.object value p = some o)
    (hj : ({ i with object := o } : Instance R).IsFull) : i.IsFull := by
  cases p <;> simp only [setProperty?, Option.map_eq_some_iff, Option.bind_eq_some_iff] at h
  case scale =>
    rcases h with ⟨x, _, rfl⟩
    exact hj.congr rfl rfl
  case rotation =>
    rcases h with ⟨x, _, rfl⟩
    exact hj.congr rfl rfl
  case color =>
    rcases h with ⟨a, ha, rfl⟩
    exact absurd hj (Instance.not_isFull_of_sprite? (Appearance.sprite?_of_updateText? ha))
  case fontSize =>
    rcases h with ⟨x, _, a, ha, rfl⟩
    exact absurd hj (Instance.not_isFull_of_sprite? (Appearance.sprite?_of_updateText? ha))

variable [Planar R]

/-- An action does not make an instance full. -/
theorem isFull_of_result? {dt : R} {order : Order R} (h : order.result? dt i = some j)
    (hj : j.IsFull) : i.IsFull := by
  cases order <;> simp only [result?, Option.map_eq_some_iff, Option.some.injEq] at h
  case setPicture source =>
    rcases h with ⟨a, ha, rfl⟩
    refine isFull_of_updateSprite? (fun s t ht => ?_) ha hj
    cases ht
    rfl
  case setAnimationSpeed name speed =>
    rcases h with ⟨a, ha, rfl⟩
    refine isFull_of_updateSprite? (fun s t ht => ?_) ha hj
    exact Sprite.frames_of_updateAnimation? (by exact fun _ => rfl) (by exact fun _ => rfl) ht
  case animate name => exact absurd hj (not_isFull_of_animate? h)
  case setText text =>
    rcases h with ⟨a, ha, rfl⟩
    exact absurd hj (Instance.not_isFull_of_sprite? (Appearance.sprite?_of_updateText? ha))
  case setBar x =>
    rcases h with ⟨a, ha, rfl⟩
    exact absurd hj (Instance.not_isFull_of_sprite? (Appearance.sprite?_of_updateBar? ha))
  case setProperty p value =>
    rcases h with ⟨o, ho, rfl⟩
    exact isFull_of_setProperty? ho hj
  -- The others touch neither the cursor nor the appearance.
  all_goals
    first
      | (subst h; exact hj.congr rfl rfl)
      | (obtain ⟨x, _, rfl⟩ := h; exact hj.congr rfl rfl)

end Order

/-- What behaviors leave of an instance, and what they spawn: its cursor and animation are
    untouched, and the new ones begin with the first frame. -/
structure Stepped.Leaves {R : Type} [Scalar R] (i : Instance R) (s : Stepped R) : Prop where
  subject : i.PlaysOn s.subject
  spawns : ∀ j ∈ s.spawns, j.cursor = Instance.startCursor

namespace Instance

variable {R : Type} [Scalar R]

theorem leaves_step [Planar R] (scene : Scene R) (input : Input R) (dt : R) (i : Instance R) :
    Stepped.Leaves i (i.step scene input dt) where
  subject := by
    have hstep := differsIn_step scene input dt i
    exact playsOn_of_eq hstep.cursor hstep.appearance
  spawns := by
    intro j hj
    rcases exists_projectile_of_mem_spawns scene input dt hj with ⟨_, template, _, _, _, rfl⟩
    rfl

theorem playsOn_syncBar [Numeral R] (r : Roster R) (globals : Variables R) (i : Instance R) :
    i.PlaysOn (r.syncBar globals i) := by
  unfold Roster.syncBar
  split
  · next b hb =>
    split
    · exact PlaysOn.refl i
    · exact ⟨rfl, by rw [playing?, playing?, hb]⟩
  · exact PlaysOn.refl i

theorem playsOn_ensureStates (i : Instance R) : i.PlaysOn i.ensureStates := playsOn_of_eq rfl rfl

end Instance

end Playfield
