import Mathlib
import Playfield.Proofs.Frame.Hit
import Playfield.Scalar.Rational
import Playfield.Session.Actions

/-!
# Pointing at What Is Drawn

Where a drawable is on the screen, and where it is hit.

There are two mappings between pixels and places of the scene. One is for drawing: it takes a
place on a layer to a pixel, and it depends on how far the layer follows the camera. The other one
is for the pointer: it takes a pixel to a place, and knows nothing of layers, since there is one
pointer and it has one place in the scene. Parallax is a matter of drawing only.

For a layer that follows the camera fully the two are inverse to each other. For any other layer
they differ by a displacement that depends on how far the camera is from where it is at first, and
on neither pixel nor zoom (`Lens.drift`). So what is seen at a pixel is hit at the place under the
pointer, moved by the drift of the layer. A drawable is hit exactly where it is seen if its layer
does not drift, that is, if in each direction the layer follows the camera or the camera is at
home; and only then, unless nothing is seen of it at all.

Numbers are read as rationals here, so that nothing is rounded.

## Main definitions

* `Drawable.Covers`: A drawable is seen at a pixel.
* `Lens.drift`: How far what is seen at a pixel is from the place under the pointer.

## Theorems

* `Session.worldToScreen_eq_iff`: Which place is seen at a pixel.
* `Session.drift_eq_zero_iff`: When a layer does not drift.
* `Box.contains_add_iff`: A box that is moved is another one.
* `Session.covers_iff_contains_drifted`: A drawable is seen where it is hit, up to the drift.
* `Session.covers_iff_contains`: When it is seen exactly where it is hit.
* `Session.covers_where_not_hit`: A drawable on a fixed layer that is seen where it is not hit.
-/

namespace Playfield

/-- A drawable is seen at a pixel: the pixel shows a place that the drawable covers. -/
def Drawable.Covers {R : Type} [Scalar R] (d : Drawable R) (l : Lens R) (pixel : Point R) : Prop :=
  ∃ place, d.box.contains place = true ∧ l.worldToScreen d.parallax place = pixel

/-- How far the place of a layer that is seen at a pixel is from the place of the scene under the
    pixel. -/
def Lens.drift {R : Type} [Scalar R] (l : Lens R) (parallax : Point R) : Point R :=
  (l.center + l.shake - l.viewport.half).stretch parallax - (l.center - l.viewport.half)

/-- Places are moved into the box by a displacement if and only if they are there before, only
    for no displacement at all or for a box in which there is nothing. -/
theorem Box.contains_add_iff {b : Box Rat} {t : Point Rat} :
    (∀ p, b.contains (p + t) = true ↔ b.contains p = true) ↔
      t = .zero ∨ ∀ p, b.contains p = false := by
  constructor
  · intro h
    by_cases hempty : ∀ p, b.contains p = false
    · exact .inr hempty
    -- The corner at the top left is in the box. So is the place to which it is moved, and the
    -- place from which something is moved to it.
    simp only [not_forall, Bool.not_eq_false] at hempty
    rcases hempty with ⟨p, hp⟩
    rw [contains_iff] at hp
    have hlow : b.contains b.low = true :=
      contains_iff.2 ⟨⟨le_rfl, hp.1.1.trans hp.1.2⟩, le_rfl, hp.2.1.trans hp.2.2⟩
    have hback : b.low - t + t = b.low := by
      ext <;> simp only [Point.add_x, Point.sub_x, Point.add_y, Point.sub_y, sub_add_cancel]
    have hto := contains_iff.1 ((h b.low).2 hlow)
    have hfrom := contains_iff.1 ((h (b.low - t)).1 (by rwa [hback]))
    simp only [Point.add_x, Point.add_y, Point.sub_x, Point.sub_y] at hto hfrom
    left
    ext
    · rw [Point.zero_x, Rational.ofNat_eq, Nat.cast_zero]
      linarith
    · rw [Point.zero_y, Rational.ofNat_eq, Nat.cast_zero]
      linarith
  · rintro (rfl | hempty) p
    · have hp : p + .zero = p := by
        ext <;> simp [Rational.ofNat_eq]
      rw [hp]
    · rw [hempty, hempty]

namespace Session

variable {B : Type} {s : Session Rat B}

/-- A place of a layer is seen at a pixel if and only if it is the place under the pixel, moved
    by the drift of the layer. -/
theorem worldToScreen_eq_iff (hzoom : s.camera.view.zoom ≠ 0) {parallax place pixel : Point Rat} :
    s.lens.worldToScreen parallax place = pixel ↔
      place = s.camera.screenToWorld s.config.viewport pixel + s.lens.drift parallax := by
  have hcoordinate (x home center shake p q : Rat) :
      (x - (home + (center + shake - home) * p)) * s.camera.view.zoom + home = q ↔
        x = (q - home) / s.camera.view.zoom + center +
          ((center + shake - home) * p - (center - home)) := by
    rw [← eq_sub_iff_add_eq, ← eq_div_iff hzoom]
    constructor <;> intro h <;> linarith
  simp only [Lens.worldToScreen, Lens.drift, Camera.screenToWorld, lens, Point.ext_iff,
    Point.add_x, Point.add_y, Point.sub_x, Point.sub_y, Point.scale_x, Point.scale_y,
    Point.divide_x, Point.divide_y, Point.stretch_x, Point.stretch_y, hcoordinate]

/-- Every place is under some pixel. -/
theorem exists_screenToWorld_eq (hzoom : s.camera.view.zoom ≠ 0) (place : Point Rat) :
    ∃ pixel, s.camera.screenToWorld s.config.viewport pixel = place := by
  refine ⟨(place - s.camera.view.position).scale s.camera.view.zoom + s.config.viewport.half, ?_⟩
  ext <;> simp [Camera.screenToWorld, mul_div_cancel_right₀ _ hzoom]

/-- While nothing is shaken, a layer does not drift if and only if in each direction it follows
    the camera or the camera is at home. -/
theorem drift_eq_zero_iff (hstill : s.camera.offset = .zero) {parallax : Point Rat} :
    s.lens.drift parallax = .zero ↔
      (parallax.x = 1 ∨ s.camera.view.position.x = s.config.viewport.half.x) ∧
        (parallax.y = 1 ∨ s.camera.view.position.y = s.config.viewport.half.y) := by
  have hcoordinate (center home p : Rat) :
      (center + 0 - home) * p - (center - home) = 0 ↔ p = 1 ∨ center = home := by
    have hfactor : (center + 0 - home) * p - (center - home) = (p - 1) * (center - home) := by ring
    rw [hfactor, mul_eq_zero, sub_eq_zero, sub_eq_zero]
  simp only [Lens.drift, lens, hstill, Point.ext_iff, Point.add_x, Point.add_y, Point.sub_x,
    Point.sub_y, Point.stretch_x, Point.stretch_y, Point.zero_x, Point.zero_y, Rational.ofNat_eq,
    Nat.cast_zero, hcoordinate]

variable [Numeral Rat]

/-- A drawable shows a visible instance on one of the layers. -/
theorem exists_of_mem_drawables {d : Drawable Rat} (h : d ∈ s.frame.drawables) :
    ∃ index layer i, s.scene.layers[index]? = some layer ∧ i ∈ s.drawn layer ∧
      d = s.drawable index layer i := by
  rcases List.mem_flatMap.1 h with ⟨l, hl, hd⟩
  rcases List.mem_map.1 hd with ⟨i, hi, rfl⟩
  exact ⟨l.2, l.1, i, List.mk_mem_zipIdx_iff_getElem?.1 hl, hi, rfl⟩

/-- An instance is seen at a pixel if and only if it covers the place under the pixel, moved by
    the drift of its layer. -/
theorem covers_iff_contains_drifted (hzoom : s.camera.view.zoom ≠ 0) {index : Nat}
    {layer : Layer Rat} {i : Instance Rat} {pixel : Point Rat} :
    (s.drawable index layer i).Covers s.lens pixel ↔
      i.object.box.contains
        (s.camera.screenToWorld s.config.viewport pixel + s.lens.drift layer.parallax) = true := by
  constructor
  · rintro ⟨place, hbox, hpixel⟩
    rw [(worldToScreen_eq_iff hzoom).1 hpixel] at hbox
    exact hbox
  · intro hbox
    exact ⟨_, hbox, (worldToScreen_eq_iff hzoom).2 rfl⟩

/-- A drawable is seen at a pixel if and only if the place under the pixel, moved by the drift of
    its layer, lies in the box in which its instance is hit. So it is seen exactly where it is
    hit if and only if in each direction its layer follows the camera or the camera is at home,
    or there is nothing in the box. -/
theorem covers_iff_contains (hzoom : Camera.zoomFloor ≤ s.camera.view.zoom)
    (hstill : s.camera.offset = .zero) {d : Drawable Rat} (hd : d ∈ s.frame.drawables) :
    ∃ index layer i, s.scene.layers[index]? = some layer ∧ i ∈ s.drawn layer ∧
      d = s.drawable index layer i ∧
      (∀ pixel, d.Covers s.lens pixel ↔
        i.object.box.contains
          (s.camera.screenToWorld s.config.viewport pixel + s.lens.drift d.parallax) = true) ∧
      ((∀ pixel, d.Covers s.lens pixel ↔
          i.object.box.contains (s.camera.screenToWorld s.config.viewport pixel) = true) ↔
        ((d.parallax.x = 1 ∨ s.camera.view.position.x = s.config.viewport.half.x) ∧
            (d.parallax.y = 1 ∨ s.camera.view.position.y = s.config.viewport.half.y)) ∨
          ∀ place, i.object.box.contains place = false) := by
  have hfloor : (0 : Rat) < Camera.zoomFloor := by norm_num [Camera.zoomFloor]
  have hzoom : s.camera.view.zoom ≠ 0 := (hfloor.trans_le hzoom).ne'
  rcases exists_of_mem_drawables hd with ⟨index, layer, i, hlayer, hi, rfl⟩
  refine ⟨index, layer, i, hlayer, hi, rfl, fun pixel => covers_iff_contains_drifted hzoom, ?_⟩
  -- What is seen everywhere is told by all places, since each of them is under a pixel.
  rw [← drift_eq_zero_iff hstill, ← Box.contains_add_iff]
  simp only [covers_iff_contains_drifted hzoom]
  constructor
  · intro h place
    rcases exists_screenToWorld_eq hzoom place with ⟨pixel, rfl⟩
    exact h pixel
  · exact fun h pixel => h _

end Session

/-- Rationals as numerals, of which only the whole ones have a text. -/
@[reducible]
def Rational.numeral : Numeral Rat where
  ofDecimal d := (if d.negative then -(d.digits : Rat) else d.digits) * 10 ^ d.exponent
  toDecimal? _ x := if x.isInt then some (Decimal.ofInt x.num) else none
  infinity := 0

/-- A project with a button on a layer that stays on the screen. -/
def Project.fixed : Project Rat :=
  ⟨.initial, [⟨"main", "Main", [⟨"Hud", true, .zero⟩],
    [⟨"button", "Button", .zero, ⟨100, 100⟩, 1, 0, .empty, "Hud", true, .empty, [], [],
      .sprite ⟨none, [], none⟩⟩], []⟩], [], .empty⟩

/-- A session of that project in which the camera has been moved. -/
def Session.panned : Session Rat (SilentOutput Rat) :=
  let s := (Session.start .fixed (.ofSettings .initial) (.memory .empty) .initial
    ⟨fun _ => "", fun _ => 0, 0, 0⟩).toOption.get rfl
  (s.enter none).1.steer none (.moveTo ⟨1400, 300⟩)

namespace Session

theorem covers_iff_contains_panned :
    letI := Rational.numeral
    Camera.zoomFloor ≤ panned.camera.view.zoom ∧ panned.camera.offset = .zero ∧
      ∃ d ∈ panned.frame.drawables, panned.lens.drift d.parallax = ⟨-1000, 0⟩ ∧
        ∃ i ∈ panned.roster.live, ∀ pixel, d.Covers panned.lens pixel ↔
          i.object.box.contains
            (panned.camera.screenToWorld panned.config.viewport pixel + ⟨-1000, 0⟩) = true := by
  let _ : Numeral Rat := Rational.numeral
  have hfloor : Camera.zoomFloor ≤ panned.camera.view.zoom := by decide +kernel
  have hd : panned.drawable 0 ⟨"Hud", true, .zero⟩
      (.ofTemplate Project.fixed.scenes[0].objects[0]) ∈ panned.frame.drawables :=
    List.mem_singleton_self _
  have hdrift : panned.lens.drift .zero = ⟨-1000, 0⟩ := by decide +kernel
  rcases covers_iff_contains hfloor rfl hd with ⟨index, layer, i, -, hi, -, hcovers, -⟩
  refine ⟨hfloor, rfl, _, hd, hdrift, i, List.mem_of_mem_filter hi, fun pixel => ?_⟩
  rw [← hdrift]
  exact hcovers pixel

/-- The button is seen in the corner of the screen, but the place under the pointer there is not
    in its box, and a click does not hit it. -/
theorem covers_where_not_hit :
    letI := Rational.numeral
    Camera.zoomFloor ≤ panned.camera.view.zoom ∧ panned.camera.offset = .zero ∧
      ∃ d ∈ panned.frame.drawables, d.Covers panned.lens ⟨50, 50⟩ ∧
        (∀ i ∈ panned.roster.live, i.object.box.contains
          (panned.camera.screenToWorld panned.config.viewport ⟨50, 50⟩) = false) ∧
        (panned.click ⟨50, 50⟩).input.clicked = none := by
  let _ : Numeral Rat := Rational.numeral
  have hfloor : Camera.zoomFloor ≤ panned.camera.view.zoom := by decide +kernel
  refine ⟨hfloor, rfl, _, List.mem_singleton_self _, ⟨⟨50, 50⟩, ?_, ?_⟩, ?_, ?_⟩
  · decide +kernel
  · decide +kernel
  · decide +kernel
  · decide +kernel

end Session

end Playfield
