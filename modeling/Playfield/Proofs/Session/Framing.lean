import Mathlib
import Playfield.Proofs.Camera.Glides
import Playfield.Proofs.Frame.Pointer
import Playfield.Proofs.Roster.Turrets
import Playfield.Proofs.Session.Idle

/-!
# Framing

An action that fits objects into the view shows all of them, as large as it can.

The action gets ids, any of which may stand for nothing. The boxes of the objects that are
there are united one after the other, and a union of boxes has each of its sides from the box
that reaches farthest. So it is told by which boxes there are: not by their order, and not by
how often one is named.

The zoom is the smaller one of two quotients, for each direction the extent of the viewport by
that of the padded union. In the direction of the smaller one the view is filled exactly, and
in the other there is room left. As the camera is on the middle of the union, the room is the
same on both sides, and every box lies in the view with the padding around it.

All this is said of rational numbers, for which a quotient can be multiplied back.

## Main definitions

* `Box.padded`, `Box.Within`: A box with a padding, and a box that lies in another.
* `Box.IsHull`: A box reaches on each side as far as the farthest of some boxes.
* `Camera.visible`: The part of the scene that is in the view.
* `Session.boxes`: The boxes of the objects that ids stand for.

## Theorems

* `Box.IsHull.hull`: What uniting one more box makes of the hull.
* `Box.IsHull.unique`: Boxes have one hull.
* `Session.area?_eq_some_iff`: The area that is shown is the hull.
* `Camera.fit_shows`: What a camera shows after it is fitted.
* `Session.fit_frames_boxes`: The action that fits objects into the view.
-/

namespace Playfield

namespace Box

/-- A box with a padding on every side. -/
def padded {R : Type} [Scalar R] (b : Box R) (padding : R) : Box R :=
  ⟨b.low - ⟨padding, padding⟩, b.high + ⟨padding, padding⟩⟩

/-- A box lies in another one. They may share edges. -/
structure Within {R : Type} [Scalar R] (a b : Box R) : Prop where
  left : b.low.x ≤ a.low.x
  top : b.low.y ≤ a.low.y
  right : a.high.x ≤ b.high.x
  bottom : a.high.y ≤ b.high.y

/-- A box reaches on each side as far as the one of some boxes that reaches farthest. -/
structure IsHull (b : Box Rat) (bs : Set (Box Rat)) : Prop where
  left : IsLeast ((·.low.x) '' bs) b.low.x
  top : IsLeast ((·.low.y) '' bs) b.low.y
  right : IsGreatest ((·.high.x) '' bs) b.high.x
  bottom : IsGreatest ((·.high.y) '' bs) b.high.y

variable {a b c : Box Rat} {bs : Set (Box Rat)} {padding : Rat}

theorem padded_width : (b.padded padding).width = b.width + padding * 2 := by
  simp only [width, padded, Point.add_x, Point.sub_x]
  ring

theorem padded_height : (b.padded padding).height = b.height + padding * 2 := by
  simp only [height, padded, Point.add_y, Point.sub_y]
  ring

theorem Within.trans (hab : a.Within b) (hbc : b.Within c) : a.Within c :=
  ⟨hbc.left.trans hab.left, hbc.top.trans hab.top, hab.right.trans hbc.right,
    hab.bottom.trans hbc.bottom⟩

theorem Within.padded (h : a.Within b) (padding : Rat) :
    (a.padded padding).Within (b.padded padding) :=
  ⟨sub_le_sub_right h.left _, sub_le_sub_right h.top _, add_le_add_left h.right _,
    add_le_add_left h.bottom _⟩

theorem isHull_singleton (b : Box Rat) : b.IsHull {b} := by
  constructor <;> simp

/-- Each side of the hull is from the one of the boxes that reaches farthest. -/
theorem IsHull.hull (h : b.IsHull bs) (a : Box Rat) : (b.hull a).IsHull (insert a bs) := by
  constructor <;> simp only [Set.image_insert_eq, Box.hull, Rational.least_eq_min,
    Rational.most_eq_max]
  · rw [min_comm]
    exact h.left.insert _
  · rw [min_comm]
    exact h.top.insert _
  · rw [max_comm]
    exact h.right.insert _
  · rw [max_comm]
    exact h.bottom.insert _

theorem IsHull.unique (hb : b.IsHull bs) (hc : c.IsHull bs) : b = c := by
  rcases b with ⟨⟨left, top⟩, right, bottom⟩
  rcases c with ⟨⟨left', top'⟩, right', bottom'⟩
  obtain rfl : left = left' := hb.left.unique hc.left
  obtain rfl : top = top' := hb.top.unique hc.top
  obtain rfl : right = right' := hb.right.unique hc.right
  obtain rfl : bottom = bottom' := hb.bottom.unique hc.bottom
  rfl

theorem IsHull.nonempty (h : b.IsHull bs) : bs.Nonempty := Set.image_nonempty.1 h.left.nonempty

theorem IsHull.within (h : b.IsHull bs) (ha : a ∈ bs) : a.Within b where
  left := h.left.2 (Set.mem_image_of_mem _ ha)
  top := h.top.2 (Set.mem_image_of_mem _ ha)
  right := h.right.2 (Set.mem_image_of_mem _ ha)
  bottom := h.bottom.2 (Set.mem_image_of_mem _ ha)

end Box

namespace Camera

/-- The part of the scene that is in the view. -/
def visible {R : Type} [Scalar R] (c : Camera R) (viewport : Size R) : Box R :=
  let half := (c.viewSize viewport).scale 0.5
  ⟨c.view.position - half, c.view.position + half⟩

section Fitting

variable {c : Camera Rat} {area : Box Rat} {padding : Rat} {viewport : Size Rat}

/-- The zoom with which an area with a padding fits into the viewport. -/
def fitting (area : Box Rat) (padding : Rat) (viewport : Size Rat) : Rat :=
  min (viewport.width / (area.padded padding).width)
    (viewport.height / (area.padded padding).height)

theorem zoom_fit (hfloor : zoomFloor ≤ fitting area padding viewport) :
    (c.fit area padding viewport).view.zoom = fitting area padding viewport := by
  have hzoom : (c.fit area padding viewport).view.zoom =
      usableZoom (fitting area padding viewport) := by
    simp only [fit, fitting, Box.padded_width, Box.padded_height, Rational.least_eq_min,
      Rational.ofNat_eq, Nat.cast_ofNat]
  rw [hzoom, usableZoom, Rational.most_eq_max, max_eq_left hfloor]
  exact if_pos rfl

/-- A view whose middle is the middle of an area reaches beyond opposite sides of it by the
    same amount. -/
theorem visible_of_centered (h : c.view.position = area.center) (padding : Rat) :
    let room := c.viewSize viewport - ⟨(area.padded padding).width, (area.padded padding).height⟩
    c.visible viewport = ⟨(area.padded padding).low - room.scale (1 / 2),
      (area.padded padding).high + room.scale (1 / 2)⟩ := by
  intro room
  have hside (low high extent : Rat) :
      (low + high) * 0.5 - extent * 0.5 =
          low - padding - (extent - (high + padding - (low - padding))) * (1 / 2) ∧
        (low + high) * 0.5 + extent * 0.5 =
          high + padding + (extent - (high + padding - (low - padding))) * (1 / 2) := by
    constructor <;> ring
  rw [visible, h, Box.center]
  exact congrArg₂ Box.mk (Point.ext (hside _ _ _).1 (hside _ _ _).1)
    (Point.ext (hside _ _ _).2 (hside _ _ _).2)

/-- What of the view is beyond the area: in each direction there is room or none, and in one
    of them there is none. -/
theorem room_fit (hwidth : 0 < (area.padded padding).width)
    (hheight : 0 < (area.padded padding).height)
    (hfloor : zoomFloor ≤ fitting area padding viewport) :
    let room := (c.fit area padding viewport).viewSize viewport -
      ⟨(area.padded padding).width, (area.padded padding).height⟩
    0 ≤ room.x ∧ 0 ≤ room.y ∧ (room.x = 0 ∨ room.y = 0) := by
  have hpos : 0 < fitting area padding viewport := by
    refine lt_of_lt_of_le ?_ hfloor
    norm_num [zoomFloor]
  have hroom (side extent : Rat) (hside : 0 < side)
      (hle : fitting area padding viewport ≤ extent / side) :
      0 ≤ extent / fitting area padding viewport - side := by
    rw [sub_nonneg, le_div_iff₀ hpos, mul_comm]
    exact (le_div_iff₀ hside).1 hle
  have hfull (side extent : Rat) (heq : fitting area padding viewport = extent / side) :
      extent / fitting area padding viewport - side = 0 := by
    rw [heq] at hpos ⊢
    rw [div_div_cancel₀ fun hzero => ?_, sub_self]
    rw [hzero, zero_div] at hpos
    exact hpos.false
  rw [viewSize, zoom_fit hfloor]
  exact ⟨hroom _ _ hwidth (min_le_left _ _), hroom _ _ hheight (min_le_right _ _),
    (min_choice _ _).imp (hfull _ _) (hfull _ _)⟩

theorem fit_shows (hwidth : 0 < (area.padded padding).width)
    (hheight : 0 < (area.padded padding).height)
    (hfloor : zoomFloor ≤ fitting area padding viewport) :
    let visible := (c.fit area padding viewport).visible viewport
    (area.padded padding).Within visible ∧
      (visible.low.x = (area.padded padding).low.x ∧
          visible.high.x = (area.padded padding).high.x ∨
        visible.low.y = (area.padded padding).low.y ∧
          visible.high.y = (area.padded padding).high.y) := by
  have hroom := room_fit (c := c) hwidth hheight hfloor
  rw [visible_of_centered rfl padding]
  -- From here on it does not matter what the room is computed from.
  revert hroom
  generalize (c.fit area padding viewport).viewSize viewport - _ = room
  rintro ⟨hx, hy, hnone⟩
  have hhalf : (0 : Rat) ≤ 1 / 2 := by norm_num
  have hleft := mul_nonneg hx hhalf
  have htop := mul_nonneg hy hhalf
  refine ⟨⟨sub_le_self _ hleft, sub_le_self _ htop, le_add_of_nonneg_right hleft,
    le_add_of_nonneg_right htop⟩, ?_⟩
  simp only [Point.sub_x, Point.sub_y, Point.add_x, Point.add_y, Point.scale_x, Point.scale_y]
  refine hnone.imp (fun hzero => ?_) fun hzero => ?_
  · rw [hzero, zero_mul, sub_zero, add_zero]
    exact ⟨rfl, rfl⟩
  · rw [hzero, zero_mul, sub_zero, add_zero]
    exact ⟨rfl, rfl⟩

end Fitting

end Camera

namespace Session

variable {B : Type} {s : Session Rat B} {binding : Option Binding} {ids others : List String}

/-- The boxes of the objects that ids stand for. -/
def boxes {R : Type} [Scalar R] (s : Session R B) (binding : Option Binding) (ids : List String) :
    Set (Box R) :=
  {b | ∃ id ∈ ids, ∃ i, s.roster.get? (Binding.resolve binding id) = some i ∧ i.object.box = b}

theorem isHull_foldl (i : Instance Rat) (is : List (Instance Rat)) :
    (is.foldl (fun b i => b.hull i.object.box) i.object.box).IsHull
      ((·.object.box) '' {j | j ∈ i :: is}) := by
  induction is using List.reverseRecOn with
  | nil =>
      have hset : {j | j ∈ [i]} = {i} := by
        ext
        simp
      rw [hset, Set.image_singleton]
      exact Box.isHull_singleton _
  | append_singleton is j ih =>
      have hset : {k | k ∈ i :: (is ++ [j])} = insert j {k | k ∈ i :: is} := by
        ext
        simp [or_left_comm, or_comm]
      rw [hset, Set.image_insert_eq, List.foldl_concat]
      exact ih.hull _

theorem boxes_congr (h : ∀ id, (s.roster.get? (Binding.resolve binding id)).isSome →
    (id ∈ others ↔ id ∈ ids)) : s.boxes binding others = s.boxes binding ids := by
  ext b
  refine exists_congr fun id => ?_
  constructor
  · rintro ⟨hid, i, hi, hbox⟩
    exact ⟨(h id (Option.isSome_of_mem hi)).1 hid, i, hi, hbox⟩
  · rintro ⟨hid, i, hi, hbox⟩
    exact ⟨(h id (Option.isSome_of_mem hi)).2 hid, i, hi, hbox⟩

/-- The area that is shown is the hull of the boxes. -/
theorem area?_eq_some_iff {b : Box Rat} :
    s.area? binding ids = some b ↔ b.IsHull (s.boxes binding ids) := by
  have hboxes : s.boxes binding ids = (·.object.box) ''
      {i | i ∈ ids.filterMap fun id => s.roster.get? (Binding.resolve binding id)} := by
    ext b
    simp only [boxes, Set.mem_ofPred_eq, Set.mem_image, List.mem_filterMap]
    constructor
    · rintro ⟨id, hid, i, hi, hbox⟩
      exact ⟨i, ⟨id, hid, hi⟩, hbox⟩
    · rintro ⟨i, ⟨id, hid, hi⟩, hbox⟩
      exact ⟨id, hid, i, hi, hbox⟩
  rw [hboxes, area?]
  cases ids.filterMap fun id => s.roster.get? (Binding.resolve binding id) with
  | nil =>
      refine ⟨nofun, fun h => absurd h.nonempty ?_⟩
      simp
  | cons i is =>
      have hull := isHull_foldl i is
      exact ⟨fun h => Option.some.inj h ▸ hull, fun h => congrArg some (hull.unique h)⟩

section Actions

variable [Numeral Rat] [Planar Rat] [AudioOutput Rat B]

/-- The action that fits objects into the view. If one of them is there, the hull of those that
    are there is shown, nothing is followed any more and no glide goes on. The box of each of
    them is in the view with the padding around it, and from left to right or from top to bottom
    there is nothing else in the view, provided that the padded hull is not empty and need not
    be made smaller than the floor of the zoom allows. Ids that stand for nothing do not matter,
    nor does the order of the ids, nor how often one stands there. -/
theorem fit_frames_boxes (s : Session Rat B) (binding : Option Binding) (dt : Rat) (name : String)
    (ids : List String) (padding : Rat) :
    let fitted := fun ids => perform binding dt s ⟨name, .camera (.fit ids padding)⟩
    ((∃ id ∈ ids, (s.roster.get? (Binding.resolve binding id)).isSome) →
      ∃ area, Box.IsHull area (s.boxes binding ids) ∧
        (fitted ids).camera.view.glide = none ∧ (fitted ids).camera.view.follow = none ∧
        let padded := area.padded padding
        let visible := (fitted ids).camera.visible s.config.viewport
        (0 < padded.width → 0 < padded.height →
          Camera.zoomFloor ≤ Camera.fitting area padding s.config.viewport →
            (∀ b ∈ s.boxes binding ids, (b.padded padding).Within visible) ∧
              (visible.low.x = padded.low.x ∧ visible.high.x = padded.high.x ∨
                visible.low.y = padded.low.y ∧ visible.high.y = padded.high.y))) ∧
      ∀ others : List String, (∀ id, (s.roster.get? (Binding.resolve binding id)).isSome →
        (id ∈ others ↔ id ∈ ids)) → fitted others = fitted ids := by
  intro fitted
  refine ⟨?_, fun others hothers => ?_⟩
  · rintro ⟨id, hid, hlive⟩
    cases harea : s.area? binding ids with
    | none =>
        -- There is no area only if nothing is there that could be shown.
        rw [area?_eq_none_iff.1 harea id hid] at hlive
        cases hlive
    | some area =>
        have hull := area?_eq_some_iff.1 harea
        have hcamera : (fitted ids).camera = s.camera.fit area padding s.config.viewport := by
          simp only [fitted, perform, steer, harea]
        rw [hcamera]
        refine ⟨area, hull, rfl, rfl, fun hwidth hheight hfloor => ?_⟩
        have hshows := Camera.fit_shows (c := s.camera) hwidth hheight hfloor
        exact ⟨fun b hb => ((hull.within hb).padded padding).trans hshows.1, hshows.2⟩
  · -- Of the ids the action reads nothing but the area.
    have harea : s.area? binding others = s.area? binding ids := by
      ext b
      rw [area?_eq_some_iff, area?_eq_some_iff, boxes_congr hothers]
    simp only [fitted, perform, steer, harea]

end Actions

/-- The button is framed, whatever else is named, and as often as one likes. -/
theorem fit_frames_boxes_panned :
    letI := Rational.numeral
    letI := Rational.upright
    let fitted := fun ids => perform none 0 panned ⟨"1", .camera (.fit ids 50)⟩
    let area : Box Rat := ⟨⟨0, 0⟩, ⟨100, 100⟩⟩
    area.IsHull (panned.boxes none ["button"]) ∧
      0 < (area.padded 50).width ∧ 0 < (area.padded 50).height ∧
      Camera.zoomFloor ≤ Camera.fitting area 50 panned.config.viewport ∧
      (∀ b ∈ panned.boxes none ["button"],
        (b.padded 50).Within ((fitted ["button"]).camera.visible panned.config.viewport)) ∧
      fitted ["gone", "button", "button"] = fitted ["button"] := by
  let _ : Numeral Rat := Rational.numeral
  let _ : Planar Rat := Rational.upright
  intro fitted area
  have hlive : (panned.roster.get? (Binding.resolve none "button")).isSome := by decide +kernel
  have hframes := fit_frames_boxes panned none 0 "1" ["button"] 50
  rcases hframes.1 ⟨"button", List.mem_singleton_self _, hlive⟩ with ⟨b, hull, -, -, hshows⟩
  have harea : area.IsHull (panned.boxes none ["button"]) :=
    area?_eq_some_iff.1 (by decide +kernel)
  obtain rfl : b = area := hull.unique harea
  have hwidth : 0 < (area.padded 50).width := by decide +kernel
  have hheight : 0 < (area.padded 50).height := by decide +kernel
  have hfloor : Camera.zoomFloor ≤ Camera.fitting area 50 panned.config.viewport := by
    decide +kernel
  refine ⟨harea, hwidth, hheight, hfloor, (hshows hwidth hheight hfloor).1,
    hframes.2 _ fun id hid => ?_⟩
  have hgone : id ≠ "gone" := by
    rintro rfl
    revert hid
    decide +kernel
  simp [hgone]

end Session

end Playfield
