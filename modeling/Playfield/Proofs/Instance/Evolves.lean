import Mathlib
import Playfield.Proofs.Instance.Equipped
import Playfield.Proofs.Instance.Pictures

/-!
# What Play Makes of Instances

What an instance keeps through everything that can happen to it while a game runs.

Behaviors, bars, animations and actions change an instance, each in its own way, and a
statement about all instances of a game would have to go through all of them. Here this
is done once. Whatever happens, an instance keeps its behaviors, and each slot keeps the
kind of state that it holds: a state is only ever replaced by another one of its kind,
because what replaces it has found it there. And if the cursor has stood on a frame of
the animation that is playing, it does so afterwards. Other animations than before can
be playing then, but starting one puts the cursor on the first frame.

So `Instance.Evolves` is what a game has to be asked for to know of a property of
instances that it lasts.

## Main definitions

* `BehaviorState.kind`, `BehaviorStates.kind?`: Which kind of state a slot holds.
* `Instance.frames?`: The frames of the animation that is playing.
* `Instance.IsOnFrame`: The cursor stands on one of them.
* `Instance.Evolves`: One instance is another one later on.
* `Instance.IsFreshCopy`: An instance has just been copied from a template of a scene.

## Theorems

* `Order.evolves_of_result?`: Actions change instances in no other way.
* `Stepped.evolves_foldl_act`: Nor do behaviors, of which each finds the states as the
  instance had them.
* `Instance.evolves_syncBar`, `Instance.evolves_animate`: Nor do bars and animations.
-/

namespace Playfield

/-- Which kind of behavior a state belongs to. -/
def BehaviorState.kind {R : Type} : BehaviorState R → Behavior.Kind
  | .mover _ => .mover
  | .bullet _ => .bullet
  | .turret _ => .turret
  | .health _ => .health

namespace BehaviorStates

variable {R : Type}

/-- Which kind of state is in the slot of a kind. -/
def kind? (s : BehaviorStates R) (k : Behavior.Kind) : Option Behavior.Kind :=
  (s.get k).map (·.kind)

theorem kind?_set (s : BehaviorStates R) (k l : Behavior.Kind) (v : BehaviorState R) :
    (s.set k (some v)).kind? l = if k = l then some v.kind else s.kind? l := by
  rw [kind?, get_set]
  split <;> rfl

/-- A state that replaces one of its kind leaves the kinds as they are. -/
theorem kind?_set_of_kind {s : BehaviorStates R} {k : Behavior.Kind} {v : BehaviorState R}
    (h : s.kind? k = some v.kind) (l : Behavior.Kind) :
    (s.set k (some v)).kind? l = s.kind? l := by
  rw [kind?_set]
  split
  · next hkl => rw [← hkl, h]
  · rfl

end BehaviorStates

namespace Sprite

variable {R : Type}

/-- The animation of a name after a change of one animation. -/
theorem find?_of_go (other : String) {name : String} {f : Animation R → Animation R}
    (hname : ∀ a, (f a).name = a.name) {as bs : List (Animation R)}
    (h : updateAnimation?.go name f as = some bs) :
    (bs.find? (·.name == other) = as.find? (·.name == other)) ∨
      ∃ a, as.find? (·.name == other) = some a ∧ bs.find? (·.name == other) = some (f a) := by
  induction as generalizing bs with
  | nil => cases h
  | cons a as ih =>
      unfold updateAnimation?.go at h
      split at h
      · cases h
        by_cases hother : (a.name == other) = true
        · exact .inr ⟨a, by simp [hother], by simp [hname, hother]⟩
        · exact .inl (by simp [hname, hother])
      · rw [Option.map_eq_some_iff] at h
        rcases h with ⟨cs, hcs, rfl⟩
        by_cases hother : (a.name == other) = true
        · exact .inl (by simp [hother])
        · simpa [hother] using ih hcs

/-- A change of an animation that keeps names and frames keeps the frames that are
    shown. -/
theorem frames_of_updateAnimation? {s t : Sprite R} {name : String}
    {f : Animation R → Animation R} (hname : ∀ a, (f a).name = a.name)
    (hframes : ∀ a, (f a).frames = a.frames) (h : s.updateAnimation? name f = some t) :
    t.currentAnimation?.map (·.frames) = s.currentAnimation?.map (·.frames) := by
  unfold updateAnimation? at h
  rw [Option.map_eq_some_iff] at h
  rcases h with ⟨as, has, rfl⟩
  unfold currentAnimation?
  cases s.current with
  | none => rfl
  | some current =>
      simp only [Option.bind_some, animation?]
      rcases find?_of_go current hname has with heq | ⟨a, ha, hfa⟩
      · rw [heq]
      · rw [ha, hfa, Option.map_some, Option.map_some, hframes]

end Sprite

namespace Instance

variable {R : Type} {i j k : Instance R}

/-- The frames of the animation that a sprite is playing. -/
def frames? (i : Instance R) : Option (List String) :=
  (i.object.appearance.sprite?.bind (·.currentAnimation?)).map (·.frames)

/-- The cursor stands on a frame of the animation that is playing, if that has any. -/
def IsOnFrame (i : Instance R) : Prop :=
  ∀ frames, i.frames? = some frames → frames ≠ [] → i.cursor.frame.toNat < frames.length

/-- One instance is another one later on, as far as its behaviors and its animation go. -/
structure Evolves (i j : Instance R) : Prop where
  behaviors : j.object.behaviors = i.object.behaviors
  kinds : ∀ k, j.states.kind? k = i.states.kind? k
  frame : i.IsOnFrame → j.IsOnFrame

theorem Evolves.refl (i : Instance R) : i.Evolves i := ⟨rfl, fun _ => rfl, fun h => h⟩

theorem Evolves.trans (h : i.Evolves j) (h' : j.Evolves k) : i.Evolves k :=
  ⟨h'.behaviors.trans h.behaviors, fun l => (h'.kinds l).trans (h.kinds l),
    fun hi => h'.frame (h.frame hi)⟩

theorem IsOnFrame.congr (h : i.IsOnFrame) (hcursor : j.cursor = i.cursor)
    (hframes : j.frames? = i.frames?) : j.IsOnFrame := by
  intro frames hf hne
  rw [hframes] at hf
  rw [hcursor]
  exact h frames hf hne

theorem isOnFrame_of_none (h : j.frames? = none) : j.IsOnFrame := by
  intro frames hf
  rw [h] at hf
  cases hf

/-- On the first frame is on a frame. -/
theorem isOnFrame_of_start [Scalar R] (h : j.cursor = startCursor) : j.IsOnFrame := by
  intro frames _ hne
  rw [h]
  exact List.length_pos_iff.2 hne

/-- A change of what neither behaviors nor animations are about. -/
theorem evolves_of_eq (hb : j.object.behaviors = i.object.behaviors) (hs : j.states = i.states)
    (hcursor : j.cursor = i.cursor) (hframes : j.frames? = i.frames?) : i.Evolves j :=
  ⟨hb, fun _ => by rw [hs], fun h => h.congr hcursor hframes⟩

/-- A change after which no animation is playing. -/
theorem evolves_of_none (hb : j.object.behaviors = i.object.behaviors) (hs : j.states = i.states)
    (hframes : j.frames? = none) : i.Evolves j :=
  ⟨hb, fun _ => by rw [hs], fun _ => isOnFrame_of_none hframes⟩

theorem frames?_of_sprite? (h : i.object.appearance.sprite? = none) : i.frames? = none := by
  rw [frames?, h]
  rfl

theorem evolves_mirrorHealth (i : Instance R) : i.Evolves i.mirrorHealth := by
  unfold mirrorHealth
  split
  · exact Evolves.refl i
  · exact evolves_of_eq rfl rfl rfl rfl

/-- Health is only set where there is health. -/
theorem evolves_setHealth {x : R} (h : i.health? = some x) (y : R) : i.Evolves (i.setHealth y) := by
  have hkind : i.states.kind? .health = some .health := by
    unfold health? at h
    split at h
    · next z hz =>
      rw [BehaviorStates.kind?, BehaviorStates.get, hz]
      rfl
    · cases h
  exact ⟨rfl, BehaviorStates.kind?_set_of_kind (v := .health y) hkind,
    fun hi => hi.congr rfl rfl⟩

variable [Scalar R]

/-- A cursor that goes on stays on the frames of its animation, or the animation is
    over. -/
theorem frame_of_advance? {a : Animation R} {dt : R} {c d : Cursor R} (hframes : a.frames ≠ [])
    (hc : c.frame.toNat < a.frames.length) (hgoes : c.advance? a dt = some (d, false)) :
    d.frame.toNat < a.frames.length := by
  unfold Cursor.advance? at hgoes
  dsimp only at hgoes
  by_cases htime : a.frameTime ≤ c.time + dt
  · rw [if_pos htime, Cursor.nextFrame?, Option.map_map] at hgoes
    obtain ⟨next, -, hnext⟩ := Option.map_eq_some_iff.1 hgoes
    rw [Function.comp_apply] at hnext
    by_cases hlt : next < a.frameCount
    · rw [if_pos hlt] at hnext
      cases hnext
      -- The number of frames is counted in words, which can only make it smaller.
      have hcount : a.frameCount.toNat ≤ a.frames.length := by
        rw [Animation.frameCount, UInt64.toNat_ofNat']
        exact Nat.mod_le _ _
      exact Nat.lt_of_lt_of_le (UInt64.lt_iff_toNat_lt.1 hlt) hcount
    · rw [if_neg hlt] at hnext
      by_cases hloops : a.loops = true
      · rw [if_pos hloops] at hnext
        cases hnext
        exact List.length_pos_iff.2 hframes
      · rw [if_neg hloops] at hnext
        cases hnext
  · rw [if_neg htime] at hgoes
    cases hgoes
    exact hc

theorem evolves_animate (dt : R) (i : Instance R) : i.Evolves (i.animate dt) := by
  rcases animate_cases dt i with h | ⟨s, a, cursor, isOver, hs, ha, hruns, hadvance, h⟩
  · rw [h]
    exact Evolves.refl i
  · have hne := Animation.frames_ne_nil hruns
    have hshown : i.frames? = some a.frames := by
      rw [frames?, hs, Appearance.sprite?, Option.bind_some, ha, Option.map_some]
    rw [h]
    refine ⟨rfl, fun _ => rfl, fun hi => ?_⟩
    cases isOver with
    | true => exact isOnFrame_of_none rfl
    | false =>
        intro frames hf _
        have hsame : some a.frames = some frames := by
          rw [← hf, ← hshown, frames?, frames?, hs]
          rfl
        cases hsame
        exact frame_of_advance? hne (hi a.frames hshown hne) hadvance

end Instance

namespace Order

variable {R : Type} {i j : Instance R}

/-- An animation that is started begins with its first frame, and none is playing that is
    stopped. -/
theorem evolves_of_animate? [Scalar R] {animation : Option String}
    (h : animate? i animation = some j) : i.Evolves j := by
  unfold animate? at h
  split at h
  · cases h
    refine ⟨rfl, fun _ => rfl, fun _ => ?_⟩
    cases animation with
    | none => exact Instance.isOnFrame_of_none rfl
    | some name => exact Instance.isOnFrame_of_start rfl
  · cases h

/-- A sprite with another still picture, or with an animation of another speed. -/
theorem evolves_of_updateSprite? {f : Sprite R → Option (Sprite R)} {a : Appearance R}
    (hf : ∀ s t, f s = some t →
      t.currentAnimation?.map (·.frames) = s.currentAnimation?.map (·.frames))
    (h : i.object.appearance.updateSprite? f = some a) :
    i.Evolves { i with object := reshape i.object a } := by
  rcases Appearance.sprite?_of_updateSprite? h with ⟨s, t, hs, ht, ha⟩
  refine Instance.evolves_of_eq rfl rfl rfl ?_
  rw [Instance.frames?, Instance.frames?, hs, reshape, ha]
  exact hf s t ht

theorem evolves_of_updateText? {f : Label R → Label R} {a : Appearance R}
    (h : i.object.appearance.updateText? f = some a) :
    i.Evolves { i with object := reshape i.object a } :=
  Instance.evolves_of_none rfl rfl
    (Instance.frames?_of_sprite? (Appearance.sprite?_of_updateText? h))

theorem evolves_of_updateBar? {f : Bar R → Bar R} {a : Appearance R}
    (h : i.object.appearance.updateBar? f = some a) :
    i.Evolves { i with object := reshape i.object a } :=
  Instance.evolves_of_none rfl rfl
    (Instance.frames?_of_sprite? (Appearance.sprite?_of_updateBar? h))

variable [Scalar R] [Numeral R]

theorem evolves_of_setProperty? {o : Object R} {value : Value R} {p : Settable}
    (h : setProperty? i.object value p = some o) : i.Evolves { i with object := o } := by
  cases p <;> simp only [setProperty?, Option.map_eq_some_iff, Option.bind_eq_some_iff] at h
  case scale =>
    rcases h with ⟨x, _, rfl⟩
    exact Instance.evolves_of_eq rfl rfl rfl rfl
  case rotation =>
    rcases h with ⟨x, _, rfl⟩
    exact Instance.evolves_of_eq rfl rfl rfl rfl
  case color =>
    rcases h with ⟨a, ha, rfl⟩
    exact evolves_of_updateText? ha
  case fontSize =>
    rcases h with ⟨x, _, a, ha, rfl⟩
    exact evolves_of_updateText? ha

variable [Planar R]

/-- What an action does to an instance. -/
theorem evolves_of_result? {dt : R} {order : Order R} (h : order.result? dt i = some j) :
    i.Evolves j := by
  cases order <;> simp only [result?, Option.map_eq_some_iff, Option.some.injEq] at h
  case setPicture source =>
    rcases h with ⟨a, ha, rfl⟩
    refine evolves_of_updateSprite? (fun s t ht => ?_) ha
    cases ht
    rfl
  case setAnimationSpeed name speed =>
    rcases h with ⟨a, ha, rfl⟩
    refine evolves_of_updateSprite? (fun s t ht => ?_) ha
    exact Sprite.frames_of_updateAnimation? (by exact fun _ => rfl) (by exact fun _ => rfl) ht
  case animate name => exact evolves_of_animate? h
  case damage x =>
    rcases h with ⟨y, hy, rfl⟩
    exact Instance.evolves_setHealth hy _
  case setHealth x =>
    rcases h with ⟨y, hy, rfl⟩
    exact Instance.evolves_setHealth hy _
  case setText text =>
    rcases h with ⟨a, ha, rfl⟩
    exact evolves_of_updateText? ha
  case setBar x =>
    rcases h with ⟨a, ha, rfl⟩
    exact evolves_of_updateBar? ha
  case setProperty p value =>
    rcases h with ⟨o, ho, rfl⟩
    exact evolves_of_setProperty? ho
  -- The others have to do with place, variables and the like.
  all_goals
    first
      | (subst h; exact Instance.evolves_of_eq rfl rfl rfl rfl)
      | (obtain ⟨x, _, rfl⟩ := h; exact Instance.evolves_of_eq rfl rfl rfl rfl)

end Order

namespace Stepped

variable {R : Type} {s : Stepped R}

/-- A behavior that has found its state leaves another one of the same kind. -/
theorem evolves_remember {k : Behavior.Kind} {v w : BehaviorState R}
    (h : s.subject.states.get k = some v) (hkind : w.kind = v.kind) :
    s.subject.Evolves (s.remember k w).subject := by
  have hfound : s.subject.states.kind? k = some w.kind := by
    rw [BehaviorStates.kind?, h, hkind]
    rfl
  exact ⟨rfl, BehaviorStates.kind?_set_of_kind hfound, fun hi => hi.congr rfl rfl⟩

variable [Scalar R]

theorem evolves_move (s : Stepped R) (way : Point R) : s.subject.Evolves (s.move way).subject :=
  Instance.evolves_of_eq rfl rfl rfl rfl

variable [Planar R]

/-- What a behavior does to an instance. -/
theorem evolves_act (s : Stepped R) (scene : Scene R) (input : Input R) (dt : R)
    (b : Behavior R) : s.subject.Evolves (s.act scene input dt b).subject := by
  unfold act
  split
  · next m v h =>
    have hremember := evolves_remember h (w := .mover (m.accelerate input dt v)) rfl
    exact hremember.trans (evolves_move _ _)
  · exact Instance.evolves_of_eq rfl rfl rfl rfl
  · next speed destroys lifespan elapsed h =>
    have hremember := evolves_remember h (w := .bullet (elapsed + dt)) rfl
    unfold fly
    dsimp only
    split
    · exact hremember
    · exact hremember.trans (evolves_move _ _)
  · next t cooldown h =>
    unfold aimAndFire
    dsimp only
    split
    · split
      · exact evolves_remember h rfl
      · exact evolves_remember h rfl
    · exact evolves_remember h rfl
  · exact Instance.Evolves.refl _

theorem evolves_foldl_act (scene : Scene R) (input : Input R) (dt : R) (bs : List (Behavior R))
    (s : Stepped R) : s.subject.Evolves (bs.foldl (act scene input dt) s).subject := by
  induction bs generalizing s with
  | nil => exact Instance.Evolves.refl _
  | cons b bs ih => exact (evolves_act s scene input dt b).trans (ih _)

end Stepped

namespace Instance

variable {R : Type} [Scalar R]

theorem evolves_step [Planar R] (scene : Scene R) (input : Input R) (dt : R) (i : Instance R) :
    i.Evolves (i.step scene input dt).subject :=
  (evolves_mirrorHealth i).trans
    (Stepped.evolves_foldl_act scene input dt i.object.behaviors ⟨i.mirrorHealth, [], []⟩)

theorem evolves_syncBar [Numeral R] (r : Roster R) (globals : Variables R) (i : Instance R) :
    i.Evolves (r.syncBar globals i) := by
  unfold Roster.syncBar
  split
  · split
    · exact Evolves.refl i
    · exact evolves_of_none rfl rfl rfl
  · exact Evolves.refl i

/-- An instance that has just been copied from a template of a scene, the one that has
    its name. -/
def IsFreshCopy (scene : Scene R) (i : Instance R) : Prop :=
  ∃ o, scene.template? i.name = some o ∧ (ofTemplate o).Evolves i

theorem isFreshCopy_of_template? {scene : Scene R} {name : String} {o : Object R} {i : Instance R}
    (h : scene.template? name = some o) (hname : i.name = o.name)
    (hi : (ofTemplate o).Evolves i) : i.IsFreshCopy scene := by
  have hfound : o.name = name := by
    have hp := List.find?_some h
    rwa [beq_iff_eq] at hp
  refine ⟨o, ?_, hi⟩
  rw [hname, hfound]
  exact h

theorem IsFreshCopy.evolves {scene : Scene R} {i j : Instance R} (h : i.IsFreshCopy scene)
    (hname : j.name = i.name) (hij : i.Evolves j) : j.IsFreshCopy scene := by
  rcases h with ⟨o, ho, hi⟩
  exact ⟨o, by rwa [hname], hi.trans hij⟩

end Instance

end Playfield
