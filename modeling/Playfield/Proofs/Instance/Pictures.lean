import Mathlib
import Playfield.Frame.Basic
import Playfield.Proofs.Instance.Animated
import Playfield.Proofs.Instance.Confined
import Playfield.Session.Tick

/-!
# Pictures of Instances

Which pictures an instance can come to show.

An instance shows its still picture or a frame of one of its animations. Which of them
it is changes all the time: animations are started and stopped, and their cursors move.
But the pictures from which it is taken come with the template, and of everything that
happens to an instance only one thing brings another picture in, an action that sets the
still one (`Instance.within_of_result?`). So it is enough to know of a set of pictures
that all of an instance are among them (`Instance.Within`).

## Main definitions

* `Instance.pictures`: The pictures of an instance.
* `Instance.Within`: All pictures of an instance are among some.

## Theorems

* `Instance.mem_pictures_of_picture?`: What is shown is one of the pictures.
* `Instance.within_of_result?`: What actions do to the pictures.
* `Stepped.within_step`: Behaviors leave them alone, and what they spawn is a copy.
-/

namespace Playfield

section Sprites

variable {R : Type}

theorem Sprite.animations_of_go {name : String} {f : Animation R → Animation R}
    (hf : ∀ a, (f a).frames = a.frames) {as bs : List (Animation R)}
    (h : Sprite.updateAnimation?.go name f as = some bs) :
    bs.flatMap (·.frames) = as.flatMap (·.frames) := by
  induction as generalizing bs with
  | nil => cases h
  | cons a as ih =>
      unfold updateAnimation?.go at h
      split at h
      · cases h
        simp [hf]
      · rw [Option.map_eq_some_iff] at h
        rcases h with ⟨cs, hcs, rfl⟩
        rw [List.flatMap_cons, List.flatMap_cons, ih hcs]

/-- A change of an animation that keeps its frames keeps the pictures. -/
theorem Sprite.pictures_of_updateAnimation? {s t : Sprite R} {name : String}
    {f : Animation R → Animation R} (hf : ∀ a, (f a).frames = a.frames)
    (h : s.updateAnimation? name f = some t) :
    Project.spritePictures t = Project.spritePictures s := by
  unfold updateAnimation? at h
  rw [Option.map_eq_some_iff] at h
  rcases h with ⟨as, has, rfl⟩
  rw [Project.spritePictures, Project.spritePictures, animations_of_go hf has]

theorem Appearance.sprite?_of_updateSprite? {f : Sprite R → Option (Sprite R)}
    {a b : Appearance R} (h : a.updateSprite? f = some b) :
    ∃ s t, a.sprite? = some s ∧ f s = some t ∧ b.sprite? = some t := by
  cases a <;> simp only [updateSprite?, Option.map_eq_some_iff, reduceCtorEq] at h
  all_goals
    rcases h with ⟨t, ht, rfl⟩
    exact ⟨_, t, rfl, ht, rfl⟩

theorem Appearance.sprite?_of_updateText? {f : Label R → Label R} {a b : Appearance R}
    (h : a.updateText? f = some b) : b.sprite? = none := by
  cases a <;> simp only [updateText?, reduceCtorEq] at h
  cases h
  rfl

theorem Appearance.sprite?_of_updateBar? {f : Bar R → Bar R} {a b : Appearance R}
    (h : a.updateBar? f = some b) : b.sprite? = none := by
  cases a <;> simp only [updateBar?, reduceCtorEq] at h
  cases h
  rfl

end Sprites

namespace Instance

variable {R : Type} {K : String → Prop} {i j : Instance R}

/-- The pictures of an instance. -/
def pictures (i : Instance R) : List String := Project.objectPictures i.object

/-- All pictures of an instance are among some. -/
def Within (K : String → Prop) (i : Instance R) : Prop := ∀ p ∈ i.pictures, K p

theorem pictures_of_sprite? {s : Sprite R} (h : i.object.appearance.sprite? = some s) :
    i.pictures = Project.spritePictures s := by
  rw [pictures, Project.objectPictures, h]

theorem mem_spritePictures_of_still {s : Sprite R} {p : String}
    (h : s.still.filter (· != "") = some p) : p ∈ Project.spritePictures s := by
  rw [Project.spritePictures, h]
  exact List.mem_append_left _ (by simp)

/-- What is shown is one of the pictures. -/
theorem mem_pictures_of_picture? {p : String} (h : i.picture? = some p) : p ∈ i.pictures := by
  unfold picture? at h
  split at h
  · next s hs =>
    rw [pictures_of_sprite? (s := s) (by rw [hs]; rfl)]
    unfold Sprite.picture? at h
    dsimp only at h
    cases hframe : (s.current.bind s.animation?).bind (·.frameAt? i.cursor) with
    | none =>
        rw [hframe, Option.none_or] at h
        exact mem_spritePictures_of_still h
    | some q =>
        -- A frame of an animation that the sprite has.
        rw [hframe, Option.some_or, Option.filter_eq_some_iff] at h
        cases h.1
        rw [Option.bind_eq_some_iff] at hframe
        rcases hframe with ⟨a, ha, hq⟩
        rw [Option.bind_eq_some_iff] at ha
        rcases ha with ⟨name, _, hfind⟩
        refine List.mem_append_right _ (List.mem_flatMap.2 ⟨a, ?_, List.mem_of_getElem? hq⟩)
        exact List.mem_of_find?_eq_some hfind
  · next s hs =>
    rw [pictures_of_sprite? (s := s) (by rw [hs]; rfl)]
    exact mem_spritePictures_of_still h
  · cases h

/-- Only the appearance matters. -/
theorem Within.congr (h : i.Within K) (ha : j.object.appearance = i.object.appearance) :
    j.Within K := by
  have hpictures : j.pictures = i.pictures := by
    rw [pictures, pictures, Project.objectPictures, Project.objectPictures, ha]
  rwa [Within, hpictures]

theorem within_of_sprite? (h : i.object.appearance.sprite? = none) : i.Within K := by
  intro p hp
  rw [pictures, Project.objectPictures, h] at hp
  cases hp

/-- The still picture of a sprite is set. -/
theorem Within.setStill (h : i.Within K) {source : String} (hsource : K source)
    {s : Sprite R} (hs : i.object.appearance.sprite? = some s)
    (hj : j.object.appearance.sprite? = some { s with still := some source }) : j.Within K := by
  intro p hp
  rw [pictures_of_sprite? hj, Project.spritePictures, List.mem_append] at hp
  rcases hp with hstill | hframe
  · rw [Option.mem_toList, Option.filter_eq_some_iff] at hstill
    cases hstill.1
    exact hsource
  · refine h p ?_
    rw [pictures_of_sprite? hs]
    exact List.mem_append_right _ hframe

variable [Scalar R]

theorem Within.animate (h : i.Within K) (dt : R) : (i.animate dt).Within K := by
  rcases animate_cases dt i with hsame | ⟨s, a, cursor, isOver, hs, -, -, -, hmoved⟩
  · rw [hsame]
    exact h
  · -- An animation that is over is still one of the sprite.
    intro p hp
    refine h p ?_
    rw [pictures_of_sprite? (s := s) (by rw [hs]; rfl)]
    rw [hmoved] at hp
    dsimp only [pictures, Project.objectPictures, Appearance.sprite?] at hp
    split at hp <;> exact hp

theorem within_of_animate? {animation : Option String} (h : i.Within K)
    (ho : Order.animate? i animation = some j) : j.Within K := by
  unfold Order.animate? at ho
  split at ho
  · next s hs =>
    cases ho
    intro p hp
    refine h p ?_
    rw [pictures_of_sprite? (s := s) (by rw [hs]; rfl)]
    exact hp
  · cases ho

variable [Numeral R]

theorem Within.syncBar (h : i.Within K) (r : Roster R) (globals : Variables R) :
    (r.syncBar globals i).Within K := by
  unfold Roster.syncBar
  split
  · split
    · exact h
    · exact within_of_sprite? rfl
  · exact h

theorem within_of_setProperty? {o : Object R} {value : Value R} {p : Settable}
    (h : i.Within K) (ho : Order.setProperty? i.object value p = some o) :
    ({ i with object := o } : Instance R).Within K := by
  cases p <;> simp only [Order.setProperty?, Option.map_eq_some_iff, Option.bind_eq_some_iff] at ho
  case scale =>
    rcases ho with ⟨x, _, rfl⟩
    exact h.congr rfl
  case rotation =>
    rcases ho with ⟨x, _, rfl⟩
    exact h.congr rfl
  case color =>
    rcases ho with ⟨a, ha, rfl⟩
    exact within_of_sprite? (Appearance.sprite?_of_updateText? ha)
  case fontSize =>
    rcases ho with ⟨x, _, a, ha, rfl⟩
    exact within_of_sprite? (Appearance.sprite?_of_updateText? ha)

variable [Planar R]

/-- Of what actions do to an instance, only setting its picture brings one in. -/
theorem within_of_result? {dt : R} {order : Order R} (h : i.Within K)
    (hpicture : ∀ source, order = .setPicture source → K source)
    (ho : order.result? dt i = some j) : j.Within K := by
  cases order <;> simp only [Order.result?, Option.map_eq_some_iff, Option.some.injEq] at ho
  case setPicture source =>
    rcases ho with ⟨a, ha, rfl⟩
    rcases Appearance.sprite?_of_updateSprite? ha with ⟨s, t, hs, ht, hat⟩
    cases ht
    exact h.setStill (hpicture source rfl) hs hat
  case setAnimationSpeed name speed =>
    rcases ho with ⟨a, ha, rfl⟩
    rcases Appearance.sprite?_of_updateSprite? ha with ⟨s, t, hs, ht, hat⟩
    have hpictures := Sprite.pictures_of_updateAnimation? (by exact fun _ => rfl) ht
    intro p hp
    refine h p ?_
    rw [pictures_of_sprite? hs, ← hpictures]
    rwa [pictures_of_sprite? hat] at hp
  case animate name => exact within_of_animate? h ho
  case setText text =>
    rcases ho with ⟨a, ha, rfl⟩
    exact within_of_sprite? (Appearance.sprite?_of_updateText? ha)
  case setBar x =>
    rcases ho with ⟨a, ha, rfl⟩
    exact within_of_sprite? (Appearance.sprite?_of_updateBar? ha)
  case setProperty p value =>
    rcases ho with ⟨o, ho, rfl⟩
    exact within_of_setProperty? h ho
  -- The others have to do with place, variables, health and the like.
  all_goals
    first
      | (subst ho; exact h.congr rfl)
      | (obtain ⟨x, _, rfl⟩ := ho; exact h.congr rfl)

end Instance

namespace Stepped

variable {R : Type} {K : String → Prop}

/-- The pictures of an instance on its way through a tick, and of what it has asked
    for. -/
structure Within (K : String → Prop) (s : Stepped R) : Prop where
  subject : s.subject.Within K
  spawns : ∀ i ∈ s.spawns, i.Within K

variable [Scalar R] [Planar R] {scene : Scene R}

/-- Behaviors leave the pictures alone, and what a turret fires is a copy of a template of the
    scene. -/
theorem within_step (hscene : ∀ o ∈ scene.objects, (Instance.ofTemplate o).Within K)
    {i : Instance R} (hi : i.Within K) (input : Input R) (dt : R) :
    (i.step scene input dt).Within K where
  subject := hi.congr (Instance.differsIn_step scene input dt i).appearance
  spawns := by
    intro j hj
    rcases Instance.exists_projectile_of_mem_spawns scene input dt hj with
      ⟨_, template, _, _, ht, rfl⟩
    exact (hscene template (List.mem_of_find?_eq_some ht)).congr rfl

end Stepped

end Playfield
