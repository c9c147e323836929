import Playfield.Scalar.Basic

/-!
# The Plane

Points, sizes and boxes of a scene.

A point doubles as a displacement: positions are added to, scaled and turned.
The `y` axis points down the screen, which no definition here needs to know.

Boxes are closed for points and open for each other: a point on an edge is in
the box, and two boxes that only touch do not overlap. That is why `overlaps`
is strict on all four sides and `contains` on none.

## Main definitions

* `Point`: A place or a displacement.
* `Size`: A width and a height.
* `Box`: An axis-aligned rectangle between two corners.
* `Box.overlaps`, `Box.contains`, `Box.hull`: Boxes and what is in them.

## Theorems

* `Point.add_x`, `Point.sub_x`, `Point.scale_x` and the like: The coordinates of a result.
* `Box.contains_iff`: A box holds what lies between its corners.
-/

namespace Playfield

/-- A place in the plane, or the way from one place to another. -/
@[ext]
structure Point (R : Type) where
  x : R
  y : R
  deriving DecidableEq

/-- The extent of something that lies along the axes. -/
structure Size (R : Type) where
  width : R
  height : R
  deriving DecidableEq

/-- The rectangle between two corners, `low` at the top left. -/
structure Box (R : Type) where
  low : Point R
  high : Point R
  deriving DecidableEq

variable {R : Type} [Scalar R]

namespace Point

/-- The origin. -/
def zero : Point R := ⟨0, 0⟩

instance : Inhabited (Point R) := ⟨zero⟩

instance : Add (Point R) := ⟨fun p q => ⟨p.x + q.x, p.y + q.y⟩⟩

instance : Sub (Point R) := ⟨fun p q => ⟨p.x - q.x, p.y - q.y⟩⟩

/-- The displacement lengthened by a factor. -/
def scale (p : Point R) (k : R) : Point R := ⟨p.x * k, p.y * k⟩

/-- The displacement shortened by a divisor. -/
def divide (p : Point R) (k : R) : Point R := ⟨p.x / k, p.y / k⟩

/-- Each coordinate lengthened by a factor of its own. -/
def stretch (p k : Point R) : Point R := ⟨p.x * k.x, p.y * k.y⟩

section Coordinates

variable (p q : Point R) (k : R)

@[simp] theorem zero_x : (zero : Point R).x = 0 := rfl

@[simp] theorem zero_y : (zero : Point R).y = 0 := rfl

@[simp] theorem add_x : (p + q).x = p.x + q.x := rfl

@[simp] theorem add_y : (p + q).y = p.y + q.y := rfl

@[simp] theorem sub_x : (p - q).x = p.x - q.x := rfl

@[simp] theorem sub_y : (p - q).y = p.y - q.y := rfl

@[simp] theorem scale_x : (p.scale k).x = p.x * k := rfl

@[simp] theorem scale_y : (p.scale k).y = p.y * k := rfl

@[simp] theorem divide_x : (p.divide k).x = p.x / k := rfl

@[simp] theorem divide_y : (p.divide k).y = p.y / k := rfl

@[simp] theorem stretch_x : (p.stretch q).x = p.x * q.x := rfl

@[simp] theorem stretch_y : (p.stretch q).y = p.y * q.y := rfl

end Coordinates

section Turns

variable [Planar R]

/-- The length of a displacement. -/
def length (p : Point R) : R := Planar.sqrt (p.x * p.x + p.y * p.y)

/-- How far two places are apart. -/
def distance (p q : Point R) : R := (p - q).length

/-- The displacement of length one at an angle in degrees. -/
def ofAngle (degrees : R) : Point R := ⟨Planar.cosine degrees, Planar.sine degrees⟩

/-- The displacement turned by the angle at which `turn` points. -/
def rotate (turn p : Point R) : Point R :=
  ⟨turn.x * p.x - turn.y * p.y, turn.y * p.x + turn.x * p.y⟩

end Turns

end Point

namespace Size

/-- The diagonal of the extent. -/
def toPoint (s : Size R) : Point R := ⟨s.width, s.height⟩

/-- Half the diagonal. -/
def half (s : Size R) : Point R := s.toPoint.scale 0.5

/-- Both sides lengthened by a factor. -/
def scale (s : Size R) (k : R) : Size R := ⟨s.width * k, s.height * k⟩

end Size

namespace Box

/-- The box of a size with its top left corner at a place. -/
def ofOrigin (origin : Point R) (size : Size R) : Box R := ⟨origin, origin + size.toPoint⟩

/-- The width of the box. -/
def width (b : Box R) : R := b.high.x - b.low.x

/-- The height of the box. -/
def height (b : Box R) : R := b.high.y - b.low.y

/-- The middle of the box. -/
def center (b : Box R) : Point R := (b.low + b.high).scale 0.5

/-- Two boxes share more than an edge. -/
def overlaps (a b : Box R) : Bool :=
  decide (a.low.x < b.high.x) && decide (b.low.x < a.high.x) &&
    decide (a.low.y < b.high.y) && decide (b.low.y < a.high.y)

/-- A place is in the box or on its edge. -/
def contains (b : Box R) (p : Point R) : Bool :=
  decide (b.low.x ≤ p.x) && decide (p.x ≤ b.high.x) &&
    decide (b.low.y ≤ p.y) && decide (p.y ≤ b.high.y)

/-- The smallest box around two boxes. -/
def hull (a b : Box R) : Box R :=
  ⟨⟨Scalar.least a.low.x b.low.x, Scalar.least a.low.y b.low.y⟩,
    ⟨Scalar.most a.high.x b.high.x, Scalar.most a.high.y b.high.y⟩⟩

theorem contains_iff {b : Box R} {p : Point R} : b.contains p = true ↔
    (b.low.x ≤ p.x ∧ p.x ≤ b.high.x) ∧ b.low.y ≤ p.y ∧ p.y ≤ b.high.y := by
  simp only [contains, Bool.and_eq_true, decide_eq_true_eq, and_assoc]

end Box

end Playfield
