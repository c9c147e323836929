import Mathlib
import Playfield.Proofs.Camera.Zoom
import Playfield.Proofs.Double.Division

/-!
# Calls to a Camera

What can be done to a camera, one thing after the other, and that its zoom stays usable.

Whoever looks through a camera divides by its zoom: the visible extent is the viewport divided
by it, and so is the way from the middle of the screen to a pixel. The zoom is set in four
places, from numbers that may be anything, quotients by nothing among them. In each of the
four the floor is applied, and where a zoom is computed, one that is not finite is replaced
before. A view that is restored is only raised to the floor, so it must have been finite when
it was saved.

## Main definitions

* `CameraCall`, `Camera.call`, `Camera.run`: What can be done to a camera.
* `Camera.HasUsableZoom`: The zoom is finite and not below the floor.
* `Point.IsNumber`: Both coordinates are numbers.

## Theorems

* `Camera.run_append`: Calls can be made in portions.
* `Camera.HasUsableZoom.call`, `Camera.HasUsableZoom.run`: A usable zoom stays usable.
* `Camera.HasUsableZoom.isNumber_divide_iff`: By a usable zoom everything can be divided.
* `Camera.zoom_stays_usable`: The zoom is usable after every call.
-/

namespace Playfield

/-- What can be done to a camera. -/
inductive CameraCall (R : Type) where
  | reset (center : Point R)
  | restore (v : View R)
  | follow (target : Option String)
  | moveTo (place : Point R)
  | startShake (intensity duration : R)
  | changeZoom (op : ZoomOp) (amount : R)
  | fit (area : Box R) (padding : R) (viewport : Size R)
  | glideTo (goal : Point R) (duration : R)
  | confine (bounds : Option (Box R))
  | beginTick
  | update (dt : R) (viewport : Size R) (smoothing : R) (centerOf : String → Option (Point R))

/-- Both coordinates are numbers. -/
def Point.IsNumber {R : Type} [Scalar R] (p : Point R) : Prop :=
  Scalar.isNumber p.x = true ∧ Scalar.isNumber p.y = true

namespace Camera

section Runs

variable {R : Type} [Scalar R]

/-- What a call does. -/
def call (c : Camera R) : CameraCall R → Camera R
  | .reset center => c.reset center
  | .restore v => c.restore v
  | .follow target => c.follow target
  | .moveTo place => c.moveTo place
  | .startShake intensity duration => c.startShake intensity duration
  | .changeZoom op amount => c.changeZoom op amount
  | .fit area padding viewport => c.fit area padding viewport
  | .glideTo goal duration => c.glideTo goal duration
  | .confine bounds => c.confine bounds
  | .beginTick => c.beginTick
  | .update dt viewport smoothing centerOf => c.update dt viewport smoothing centerOf

/-- What calls do one after the other. -/
def run (c : Camera R) (calls : List (CameraCall R)) : Camera R := calls.foldl call c

theorem run_append (c : Camera R) (first later : List (CameraCall R)) :
    c.run (first ++ later) = (c.run first).run later :=
  List.foldl_append

theorem run_concat (c : Camera R) (calls : List (CameraCall R)) (k : CameraCall R) :
    c.run (calls ++ [k]) = (c.run calls).call k :=
  List.foldl_concat _ _ _ _

end Runs

/-- The zoom is finite and not below the floor. -/
structure HasUsableZoom (c : Camera Float) : Prop where
  finite : Scalar.isFinite c.view.zoom = true
  floor : zoomFloor ≤ c.view.zoom

theorem zoomFloor_le_most (zoom : Float) : zoomFloor ≤ Scalar.most zoom zoomFloor := by
  have hself : (zoomFloor : Float) ≤ zoomFloor := by decide
  unfold Scalar.most
  split
  · next hnumber =>
    split
    · exact hself
    · next hlt => exact Double.le_of_not_lt hself (of_decide_eq_true hnumber) hlt
  · exact hself

theorem isFinite_most_zoomFloor {zoom : Float} (h : Scalar.isFinite zoom = true) :
    Scalar.isFinite (Scalar.most zoom zoomFloor) = true := by
  have hfloor : Scalar.isFinite (zoomFloor : Float) = true := by decide
  unfold Scalar.most
  split
  · split
    · exact hfloor
    · exact h
  · exact hfloor

/-- Whatever a zoom is computed from, it is usable. -/
theorem usableZoom_spec (zoom : Float) :
    Scalar.isFinite (usableZoom zoom) = true ∧ zoomFloor ≤ usableZoom zoom := by
  unfold usableZoom
  split
  · next h => exact ⟨isFinite_most_zoomFloor h, zoomFloor_le_most zoom⟩
  · exact ⟨by decide, by decide⟩

theorem hasUsableZoom_of_centered {c : Camera Float} {center : Point Float}
    (h : c.view = .centered center) : c.HasUsableZoom := by
  constructor <;> rw [h]
  · exact (by decide : Scalar.isFinite (1 : Float) = true)
  · exact (by decide : (zoomFloor : Float) ≤ 1)

namespace HasUsableZoom

variable {c : Camera Float}

theorem congr {d : Camera Float} (h : c.HasUsableZoom) (hzoom : d.view.zoom = c.view.zoom) :
    d.HasUsableZoom := by
  constructor <;> rw [hzoom]
  · exact h.finite
  · exact h.floor

/-- A usable zoom stays usable, if what is restored is finite. -/
theorem call (h : c.HasUsableZoom) {k : CameraCall Float}
    (hk : ∀ v, k = .restore v → Scalar.isFinite v.zoom = true) : (c.call k).HasUsableZoom := by
  cases k <;> simp only [Camera.call]
  case reset center => exact hasUsableZoom_of_centered rfl
  case restore v => exact ⟨isFinite_most_zoomFloor (hk v rfl), zoomFloor_le_most v.zoom⟩
  case changeZoom op amount => exact ⟨(usableZoom_spec _).1, (usableZoom_spec _).2⟩
  case fit area padding viewport => exact ⟨(usableZoom_spec _).1, (usableZoom_spec _).2⟩
  case update dt viewport smoothing centerOf => exact h.congr (zoom_update c _ _ _ _)
  -- The others leave the zoom alone.
  all_goals exact h.congr rfl

theorem run (h : c.HasUsableZoom) {calls : List (CameraCall Float)}
    (hcalls : ∀ v, .restore v ∈ calls → Scalar.isFinite v.zoom = true) :
    (c.run calls).HasUsableZoom := by
  induction calls using List.reverseRecOn with
  | nil => exact h
  | append_singleton calls k ih =>
      rw [run_concat]
      have hbefore := ih fun v hv => hcalls v (List.mem_append_left _ hv)
      exact hbefore.call fun v hv => hcalls v (by rw [hv]; exact List.mem_concat_self)

theorem pos (h : c.HasUsableZoom) : 0 < c.view.zoom := by
  have hfloor : (0 : Float) < zoomFloor := by decide
  rw [Double.lt_iff] at hfloor ⊢
  have hle := (Double.le_iff _ _).1 h.floor
  exact ⟨hfloor.1, hle.2.1, hfloor.2.2.trans_le hle.2.2⟩

/-- By a usable zoom everything can be divided. -/
theorem isNumber_divide_iff (h : c.HasUsableZoom) (p : Point Float) :
    (p.divide c.view.zoom).IsNumber ↔ p.IsNumber :=
  and_congr (Double.isNumber_div_iff h.pos h.finite) (Double.isNumber_div_iff h.pos h.finite)

end HasUsableZoom

/-- After every call the zoom is finite and not below the floor, whatever numbers the calls are
    made with, and so there is no division by zero: the visible extent is a number wherever the
    viewport is, and so is the way from the middle of the view to the place under a pixel
    wherever the way on the screen is. -/
theorem zoom_stays_usable (center : Point Float) (seed : UInt64) (calls : List (CameraCall Float))
    (h : ∀ v, .restore v ∈ calls → Scalar.isFinite v.zoom = true) :
    ∀ before, before <+: calls →
      let c := (initial center seed).run before
      Scalar.isFinite c.view.zoom = true ∧ zoomFloor ≤ c.view.zoom ∧ 0 < c.view.zoom ∧
        (∀ viewport, (c.viewSize viewport).IsNumber ↔ viewport.toPoint.IsNumber) ∧
        ∀ viewport pixel, ∃ way : Point Float,
          c.screenToWorld viewport pixel = way + c.view.position ∧
            (way.IsNumber ↔ (pixel - viewport.half).IsNumber) := by
  intro before hbefore c
  have hinitial : (initial center seed : Camera Float).HasUsableZoom :=
    hasUsableZoom_of_centered rfl
  have hc : c.HasUsableZoom := hinitial.run fun v hv => h v (hbefore.subset hv)
  exact ⟨hc.finite, hc.floor, hc.pos, fun viewport => hc.isNumber_divide_iff _,
    fun viewport pixel => ⟨_, rfl, hc.isNumber_divide_iff _⟩⟩

/-- Calls with numbers that are none, an infinity, an empty box, and a view that has been saved
    with a zoom below zero. -/
def wild : List (CameraCall Float) :=
  [.changeZoom .set (0 / 0), .changeZoom .add (1 / 0), .fit ⟨.zero, .zero⟩ 0 ⟨800, 600⟩,
    .restore { View.centered .zero with zoom := -5 }, .update (0 / 0) ⟨0, 0⟩ (1 / 0) fun _ => none]

theorem zoom_stays_usable_wild :
    (∀ v, .restore v ∈ wild → Scalar.isFinite v.zoom = true) ∧
      (∀ before, before <+: wild → zoomFloor ≤ ((initial .zero 1).run before).view.zoom) ∧
        ((initial .zero 1).run wild).view.zoom = 0.01 := by
  have hfinite : ∀ v, .restore v ∈ wild → Scalar.isFinite v.zoom = true := by
    intro v hv
    simp only [wild, List.mem_cons, List.not_mem_nil, or_false, reduceCtorEq, false_or,
      CameraCall.restore.injEq] at hv
    subst hv
    decide
  exact ⟨hfinite, fun before hbefore => (zoom_stays_usable .zero 1 wild hfinite before hbefore).2.1,
    by decide +kernel⟩

end Camera

end Playfield
