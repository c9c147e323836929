import Mathlib
import Playfield.Object.Codec
import Playfield.Proofs.Json.Variants

/-!
# Finite Objects

The objects that come back from a document.

An object is finite if all its numbers are: those of its place and shape, of its
variables and points, of the configuration of its behaviors and of its kind. Each
type on the way to an object has its own predicate, and its codec holds exactly the
values with it. A number that is not finite is written as `null`, and a `null` in
its place is refused or, for a variable, read as the missing value. There is no
field of a number that would read it as the default.

## Main definitions

* `Value.IsFinite`, `Behavior.IsFinite`, `Appearance.IsFinite`: Types with forms.
* `Object.IsFinite`: Objects all of whose numbers are finite.

## Theorems

* `Value.holds_codec`: Variables come back if they are finite.
* `Behavior.holds_codec`: So do behaviors.
* `Object.holds_codec`: So do objects.
-/

namespace Playfield

variable {R : Type} [Scalar R]

/-- A value that is no number, or one that is finite. -/
def Value.IsFinite : Value R → Prop
  | .number x => Scalar.isFinite x = true
  | .null | .bool _ | .text _ => True

/-- Both coordinates are finite. -/
structure Point.IsFinite (p : Point R) : Prop where
  x : Scalar.isFinite p.x = true
  y : Scalar.isFinite p.y = true

/-- Width and height are finite. -/
structure Size.IsFinite (s : Size R) : Prop where
  width : Scalar.isFinite s.width = true
  height : Scalar.isFinite s.height = true

/-- The numbers of a mover are finite. -/
structure Mover.IsFinite (m : Mover R) : Prop where
  speed : Scalar.isFinite m.speed = true
  acceleration : Scalar.isFinite m.acceleration = true
  deceleration : Scalar.isFinite m.deceleration = true

/-- The numbers of a behavior are finite. -/
def Behavior.IsFinite : Behavior R → Prop
  | .mover m => m.IsFinite
  | .bullet speed _ lifespan => Scalar.isFinite speed = true ∧ Scalar.isFinite lifespan = true
  | .turret t => Scalar.isFinite t.fireRate = true
  | .facePointer rotationSpeed offset =>
    Scalar.isFinite rotationSpeed = true ∧ Scalar.isFinite offset = true
  | .health most start => Scalar.isFinite most = true ∧ Scalar.isFinite start = true
  | .button => True

/-- The speeds of all animations are finite. -/
def Sprite.IsFinite (s : Sprite R) : Prop :=
  ∀ a ∈ s.animations, Scalar.isFinite a.speed = true

/-- The numbers of a bar are finite. -/
structure Bar.IsFinite (b : Bar R) : Prop where
  most : Scalar.isFinite b.most = true
  current : Scalar.isFinite b.current = true
  borderWidth : Scalar.isFinite b.borderWidth = true
  labelSize : Scalar.isFinite b.labelSize = true

/-- The numbers of a kind of object are finite. -/
def Appearance.IsFinite : Appearance R → Prop
  | .sprite s | .tiledSprite s => s.IsFinite
  | .text t => Scalar.isFinite t.fontSize = true
  | .bar b => b.IsFinite

/-- All numbers of an object are finite. -/
structure Object.IsFinite (o : Object R) : Prop where
  position : o.position.IsFinite
  size : o.size.IsFinite
  scale : Scalar.isFinite o.scale = true
  rotation : Scalar.isFinite o.rotation = true
  vars : ∀ e ∈ o.vars.entries, e.2.IsFinite
  points : ∀ e ∈ o.points.entries, e.2.IsFinite
  collisionMask : ∀ p ∈ o.collisionMask, p.IsFinite
  behaviors : ∀ b ∈ o.behaviors, b.IsFinite
  appearance : o.appearance.IsFinite

variable [Numeral R] [Numeral.Lawful R]

/-- Values come back if they are finite. A number that is not comes back as the
    missing value. -/
theorem Value.holds_codec (k : Nat) : (Value.codec : Codec (Value R)).Holds k Value.IsFinite := by
  refine ⟨?_, ?_, ?_⟩
  · intro v
    cases v with
    | null => exact .null
    | bool b => exact .bool b
    | number x => exact Codec.plain_ofNumber k x
    | text s => exact .text s
  · intro src v hv
    cases v with
    | null => rfl
    | bool b => rfl
    | number x =>
        rcases Codec.exists_held_ofNumber hv with ⟨d, hd, hread⟩
        change Value.ofJson (Codec.ofNumber x).held = _
        rw [hd]
        exact congrArg (fun y => Except.ok (Value.number y)) hread
    | text s => rfl
  · intro src j v hj hread
    change Value.ofJson j = _ at hread
    unfold Value.ofJson at hread
    split at hread
    · cases hread
    · cases hread
      exact trivial
    · cases hread
      exact trivial
    · cases hread
      exact trivial
    · cases hread
      cases hj with
      | int h => exact Numeral.isFinite_ofInt h
    · cases hread
      cases hj with
      | real h => exact Codec.isFinite_ofReal h
    · cases hread

theorem Variables.holds_codec (k : Nat) :
    (Variables.codec : Codec (Variables R)).Holds (k + 1) fun d => ∀ e ∈ d.entries, e.2.IsFinite :=
  Codec.holds_dictionary (Value.holds_codec k)

theorem Point.holds_codec (k : Nat) :
    (Point.codec : Codec (Point R)).Holds (k + 1) Point.IsFinite := by
  refine Codec.holds_record (by decide : ["x", "y"].Nodup) (fun _ => rfl) ?_
  refine .field (.required (Codec.holds_number k)) (fun _ h => h.y) ?_
  refine .field (.required (Codec.holds_number k)) (fun _ h => h.x) ?_
  refine .start ?_
  intro x hx y hy
  exact ⟨hx, hy⟩

theorem Point.isFinite_zero : (Point.zero : Point R).IsFinite :=
  ⟨Numeral.isFinite_zero, Numeral.isFinite_zero⟩

theorem Size.holds_codec (k : Nat) :
    (Size.codec : Codec (Size R)).Holds (k + 1) Size.IsFinite := by
  refine Codec.holds_record (by decide : ["width", "height"].Nodup) (fun _ => rfl) ?_
  refine .field (.required (Codec.holds_number k)) (fun _ h => h.height) ?_
  refine .field (.required (Codec.holds_number k)) (fun _ h => h.width) ?_
  refine .start ?_
  intro width hwidth height hheight
  exact ⟨hwidth, hheight⟩

theorem ControlScheme.holds_codec (k : Nat) : ControlScheme.codec.Holds k fun _ => True := by
  refine Codec.holds_named k fun c => ?_
  cases c <;> decide

namespace Behavior

theorem holds_moverFields (k : Nat) :
    (moverFields : Fields (Mover R) (Mover R)).Holds k Mover.IsFinite Mover.IsFinite := by
  refine .free (.defaulting (ControlScheme.holds_codec k) trivial) ?_
  refine .free (.defaulting (Codec.holds_bool k) trivial) ?_
  refine .field (.defaulting (Codec.holds_number k) Numeral.isFinite_zero)
    (fun _ h => h.deceleration) ?_
  refine .field (.defaulting (Codec.holds_number k) Numeral.isFinite_zero)
    (fun _ h => h.acceleration) ?_
  refine .field (.required (Codec.holds_number k)) (fun _ h => h.speed) ?_
  refine .start ?_
  intro speed hspeed acceleration hacceleration deceleration hdeceleration diagonals controls
  exact ⟨hspeed, hacceleration, hdeceleration⟩

theorem holds_turretFields (k : Nat) : (turretFields : Fields (Turret R) (Turret R)).Holds k
    (fun t => Scalar.isFinite t.fireRate = true) fun t => Scalar.isFinite t.fireRate = true := by
  refine .free (.defaulting (Codec.holds_bool k) trivial) ?_
  refine .free (.defaulting (Codec.holds_text k) trivial) ?_
  refine .free (.required (Codec.holds_text k)) ?_
  refine .field (.required (Codec.holds_number k)) (fun _ h => h) ?_
  refine .start ?_
  intro fireRate hfireRate bullet spawnPoint automatic
  exact hfireRate

theorem cover_variants (k : Nat) :
    Variant.Cover (variants : List (Variant (Behavior R))) ["type"] k Behavior.IsFinite := by
  refine ⟨(by decide : ["top_down_movement", "bullet", "turret", "rotate_towards_mouse", "health",
    "button"].Nodup), ?_, ?_⟩
  · intro b
    cases b <;> rfl
  simp only [variants, List.forall_mem_cons]
  refine ⟨?mover, ?bullet, ?turret, ?facePointer, ?health, ?button, List.forall_mem_nil _⟩
  case mover =>
    exact .of (by decide : ["speed", "acceleration", "deceleration", "allowDiagonals",
      "controlScheme", "type"].Nodup) (fun _ h => h) (.map (holds_moverFields k))
  case bullet =>
    refine .of (by decide : ["speed", "destroyOnCollision", "lifespan", "type"].Nodup)
      (fun _ h => h) ?_
    refine .field (.required (Codec.holds_number k)) (fun _ h => h.2) ?_
    refine .free (.defaulting (Codec.holds_bool k) trivial) ?_
    refine .field (.required (Codec.holds_number k)) (fun _ h => h.1) ?_
    exact .start fun _ hspeed _ _ hlifespan => ⟨hspeed, hlifespan⟩
  case turret =>
    exact .of (by decide : ["fireRate", "bulletObjectName", "spawnPoint", "autoFire",
      "type"].Nodup) (fun _ h => h) (.map (holds_turretFields k))
  case facePointer =>
    refine .of (by decide : ["rotationSpeed", "offset", "type"].Nodup) (fun _ h => h) ?_
    refine .field (.defaulting (Codec.holds_number k) Numeral.isFinite_zero) (fun _ h => h.2) ?_
    refine .field (.defaulting (Codec.holds_number k) Numeral.isFinite_zero) (fun _ h => h.1) ?_
    exact .start fun _ hrotationSpeed _ hoffset => ⟨hrotationSpeed, hoffset⟩
  case health =>
    refine .of (by decide : ["maxHealth", "currentHealth", "type"].Nodup) (fun _ h => h) ?_
    refine .field (.defaulting (Codec.holds_number k) Numeral.isFinite_zero) (fun _ h => h.2) ?_
    refine .field (.required (Codec.holds_number k)) (fun _ h => h.1) ?_
    exact .start fun _ hmost _ hstart => ⟨hmost, hstart⟩
  case button => exact .ofNothing (by decide : ["type"].Nodup) trivial

/-- Behaviors come back if they are finite. -/
theorem holds_codec (k : Nat) :
    (codec : Codec (Behavior R)).Holds (k + 1) Behavior.IsFinite :=
  Codec.holds_tagged (cover_variants k)

end Behavior

theorem Animation.holds_fields (k : Nat) :
    (Animation.fields : Fields (Animation R) (Animation R)).Holds (k + 1)
      (fun a => Scalar.isFinite a.speed = true) fun a => Scalar.isFinite a.speed = true := by
  refine .free (.defaulting (Codec.holds_bool _) trivial) ?_
  refine .field (.defaulting (Codec.holds_number _) Numeral.isFinite_zero) (fun _ h => h) ?_
  refine .field (.defaulting (Codec.holds_list (Codec.holds_text k)) (fun _ _ => trivial))
    (fun _ _ _ _ => trivial) ?_
  refine .free (.required (Codec.holds_text _)) ?_
  refine .free (.defaulting (Codec.holds_text _) trivial) ?_
  refine .start ?_
  intro id name frames _ speed hspeed loops
  exact hspeed

theorem Animation.holds_codec (k : Nat) :
    (Codec.record Animation.fields : Codec (Animation R)).Holds (k + 2)
      fun a => Scalar.isFinite a.speed = true :=
  Codec.holds_record (by decide : ["id", "name", "frames", "speed", "loop"].Nodup) (fun _ => rfl)
    (Animation.holds_fields k)

theorem Sprite.holds_fields (k : Nat) : (Sprite.fields : Fields (Sprite R) (Sprite R)).Holds (k + 3)
    Sprite.IsFinite Sprite.IsFinite := by
  refine .free .optionalText ?_
  refine .field (.defaulting (Codec.holds_list (Animation.holds_codec k)) (List.forall_mem_nil _))
    (fun _ h => h) ?_
  refine .free .optionalText ?_
  refine .start ?_
  intro still animations hanimations current
  exact hanimations

theorem Align.holds_codec (k : Nat) : Align.codec.Holds k fun _ => True := by
  refine Codec.holds_named k fun a => ?_
  cases a <;> decide

theorem Baseline.holds_codec (k : Nat) : Baseline.codec.Holds k fun _ => True := by
  refine Codec.holds_named k fun b => ?_
  cases b <;> decide

theorem Label.holds_fields (k : Nat) : (Label.fields : Fields (Label R) (Label R)).Holds k
    (fun t => Scalar.isFinite t.fontSize = true) fun t => Scalar.isFinite t.fontSize = true := by
  refine .free (.defaulting (Baseline.holds_codec k) trivial) ?_
  refine .free (.defaulting (Align.holds_codec k) trivial) ?_
  refine .free (.defaulting (Codec.holds_text k) trivial) ?_
  refine .field (.defaulting (Codec.holds_number k) (Numeral.isFinite_ofNat (by decide)))
    (fun _ h => h) ?_
  refine .free (.defaulting (Codec.holds_text k) trivial) ?_
  refine .free (.defaulting (Codec.holds_text k) trivial) ?_
  refine .start ?_
  intro text font fontSize hfontSize color align baseline
  exact hfontSize

theorem BarSource.holds_codec (k : Nat) : BarSource.codec.Holds k fun _ => True := by
  refine Codec.holds_named k fun s => ?_
  cases s <;> decide

theorem BarReading.holds_codec (k : Nat) : BarReading.codec.Holds (k + 1) fun _ => True := by
  refine Codec.holds_record (by decide : ["source", "variableName", "objectId"].Nodup)
    (fun _ => rfl) ?_
  refine .free .optionalText ?_
  refine .free (.defaulting (Codec.holds_text k) trivial) ?_
  refine .free (.defaulting (BarSource.holds_codec k) trivial) ?_
  refine .start ?_
  intro source variableName owner
  trivial

theorem Bar.holds_fields (k : Nat) :
    (Bar.fields : Fields (Bar R) (Bar R)).Holds (k + 1) Bar.IsFinite Bar.IsFinite := by
  refine .field (.defaulting (Codec.holds_number _) (Numeral.isFinite_ofNat (by decide)))
    (fun _ h => h.labelSize) ?_
  refine .free (.defaulting (Codec.holds_text _) trivial) ?_
  refine .free (.defaulting (Codec.holds_text _) trivial) ?_
  refine .free (.defaulting (Codec.holds_bool _) trivial) ?_
  refine .field (.defaulting (Codec.holds_number _) Numeral.isFinite_zero)
    (fun _ h => h.borderWidth) ?_
  refine .free (.defaulting (Codec.holds_text _) trivial) ?_
  refine .free (.defaulting (Codec.holds_text _) trivial) ?_
  refine .free (.defaulting (Codec.holds_text _) trivial) ?_
  refine .field (.optional (BarReading.holds_codec k) fun _ => ⟨_, rfl⟩)
    (fun _ _ _ _ => trivial) ?_
  refine .field (.defaulting (Codec.holds_number _) Numeral.isFinite_zero) (fun _ h => h.current) ?_
  refine .field (.defaulting (Codec.holds_number _) (Numeral.isFinite_ofNat (by decide)))
    (fun _ h => h.most) ?_
  refine .start ?_
  intro most hmost current hcurrent reading _ foregroundColor backgroundColor borderColor
    borderWidth hborderWidth showsLabel labelFont labelColor labelSize hlabelSize
  exact ⟨hmost, hcurrent, hborderWidth, hlabelSize⟩

/-- The names around the data of a kind are taken, and the kinds avoid them. -/
theorem Appearance.cover_variants (k : Nat) :
    Variant.Cover (Appearance.variants : List (Variant (Appearance R)))
      ["type", "id", "name", "position", "size", "scale", "rotation", "variables", "layer",
        "visible", "points", "collisionMask", "behaviors"] (k + 3) Appearance.IsFinite := by
  refine ⟨(by decide : ["sprite", "tiled_sprite", "text", "bar"].Nodup), ?_, ?_⟩
  · intro a
    cases a <;> rfl
  simp only [Appearance.variants, List.forall_mem_cons]
  refine ⟨?sprite, ?tiledSprite, ?text, ?bar, List.forall_mem_nil _⟩
  case sprite =>
    exact .of (by decide : (["sprite", "animations", "currentAnimation"] ++ _).Nodup)
      (fun _ h => h) (.map (Sprite.holds_fields k))
  case tiledSprite =>
    exact .of (by decide : (["sprite", "animations", "currentAnimation"] ++ _).Nodup)
      (fun _ h => h) (.map (Sprite.holds_fields k))
  case text =>
    exact .of (by decide : (["text", "font", "fontSize", "color", "align", "baseline"] ++
      _).Nodup) (fun _ h => h) (.map (Label.holds_fields (k + 3)))
  case bar =>
    exact .of (by decide : (["maxValue", "currentValue", "valueFromVariable", "foregroundColor",
      "backgroundColor", "borderColor", "borderWidth", "showLabel", "labelFont", "labelColor",
      "labelSize"] ++ _).Nodup) (fun _ h => h) (.map (Bar.holds_fields (k + 2)))

theorem Object.holds_fields (k : Nat) :
    (Object.fields : Fields (Object R) (Appearance R → Object R)).Holds (k + 2) Object.IsFinite
      fun f => ∀ a, a.IsFinite → (f a).IsFinite := by
  refine .field (.defaulting (Codec.holds_list (Behavior.holds_codec k)) (List.forall_mem_nil _))
    (fun _ h => h.behaviors) ?_
  refine .field (.unlessEmpty (Codec.holds_list (Point.holds_codec k)) (List.forall_mem_nil _))
    (fun _ h => h.collisionMask) ?_
  refine .field (.defaulting (Codec.holds_dictionary (Point.holds_codec k))
    (List.forall_mem_nil _)) (fun _ h => h.points) ?_
  refine .free (.defaulting (Codec.holds_bool _) trivial) ?_
  refine .free (.defaulting (Codec.holds_text _) trivial) ?_
  refine .field (.defaulting (Variables.holds_codec (k + 1)) (List.forall_mem_nil _))
    (fun _ h => h.vars) ?_
  refine .field (.defaulting (Codec.holds_number _) Numeral.isFinite_zero)
    (fun _ h => h.rotation) ?_
  refine .field (.defaulting (Codec.holds_number _) (Numeral.isFinite_ofNat (by decide)))
    (fun _ h => h.scale) ?_
  refine .field (.defaulting (Size.holds_codec (k + 1))
    ⟨Numeral.isFinite_zero, Numeral.isFinite_zero⟩)
    (fun _ h => h.size) ?_
  refine .field (.defaulting (Point.holds_codec (k + 1)) Point.isFinite_zero)
    (fun _ h => h.position) ?_
  refine .free (.required (Codec.holds_text _)) ?_
  refine .free (.required (Codec.holds_text _)) ?_
  refine .start ?_
  intro id name position hposition size hsize scale hscale rotation hrotation vars hvars
    layer visible points hpoints collisionMask hcollisionMask behaviors hbehaviors
    appearance happearance
  exact ⟨hposition, hsize, hscale, hrotation, hvars, hpoints, hcollisionMask, hbehaviors,
    happearance⟩

/-- Objects come back if they are finite. -/
theorem Object.holds_codec (k : Nat) :
    (Object.codec : Codec (Object R)).Holds (k + 4) Object.IsFinite :=
  Codec.holds_flattened (by decide : ["id", "name", "position", "size", "scale", "rotation",
      "variables", "layer", "visible", "points", "collisionMask", "behaviors"].Nodup)
    (by decide : "type" ∉ ["id", "name", "position", "size", "scale", "rotation", "variables",
      "layer", "visible", "points", "collisionMask", "behaviors"])
    (fun _ => rfl) (Object.holds_fields (k + 1)) (fun _ h => h.appearance)
    (Appearance.cover_variants k)

end Playfield
