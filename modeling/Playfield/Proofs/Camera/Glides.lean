import Mathlib
import Playfield.Proofs.Camera.Calls
import Playfield.Proofs.Scalar.Exact

/-!
# Glides

A glide takes the same way however its time is cut into ticks.

A glide knows where it began, where it leads to, how long it lasts and how much of that is
over. At the end of each tick the camera is put on the place that belongs to the part of the
time that is over, and not moved on from where it is. So neither the number of ticks nor their
lengths leave a trace, and nothing else moves the camera while the glide lasts: an object that
is followed has to wait, and is not even looked up.

In the tick in which the time is over the camera is put on the goal, and the glide is dropped.
From then on the camera stays there, until an object is followed.

All this is said of rational numbers: of doubles the sum of the ticks does depend on how they
are cut.

## Main definitions

* `CameraCall.IsGentle`: A call that leaves a glide to itself.
* `Camera.spent`, `Camera.lastFollowed`: The time of some calls, and what they ask to be followed.
* `Camera.Lasts`: The time of a glide is not over.
* `Point.eased`: The place that belongs to a part of the time.
* `Camera.IsGliding`: The camera is where its glide has got to.
* `Camera.GlidesTo`: What becomes of a glide.

## Theorems

* `Glide.progress_of_lt`, `Glide.progress_of_le`: How far a glide has got.
* `Camera.IsGliding.call`: A call while the glide lasts.
* `Camera.IsGliding.arrive`: The call with which it ends.
* `Camera.isGliding_run`, `Camera.glide_run_eq_none_iff`: How long it lasts.
* `Camera.glide_keeps_pace`: A glide leads to its goal, and its way depends on the time alone.
-/

namespace Playfield

namespace CameraCall

/-- The time that a call lets pass. -/
def time : CameraCall Rat → Rat
  | .update dt _ _ _ => dt
  | _ => 0

/-- The call is the end of a tick. -/
def isUpdate : CameraCall Rat → Bool
  | .update _ _ _ _ => true
  | _ => false

/-- What a call asks to be followed. -/
def followed? : CameraCall Rat → Option (Option String)
  | .follow target => some target
  | _ => none

/-- A call that leaves a glide to itself: the begin or the end of a tick whose time is not
    negative, or a call to follow an object or none. -/
def IsGentle : CameraCall Rat → Prop
  | .update dt _ _ _ => 0 ≤ dt
  | .beginTick | .follow _ => True
  | _ => False

variable {k : CameraCall Rat}

theorem time_of_not_isUpdate (h : k.isUpdate = false) : k.time = 0 := by
  cases k
  case update => cases h
  all_goals rfl

theorem IsGentle.time_nonneg (h : k.IsGentle) : 0 ≤ k.time := by
  cases k
  case update => exact h
  all_goals exact le_rfl

end CameraCall

/-- The place that belongs to a part of the time on the way from one place to another. The
    first half of the time is good for three quarters of the way. -/
def Point.eased (start goal : Point Rat) (p : Rat) : Point Rat :=
  ⟨start.x + (goal.x - start.x) * p * (2 - p), start.y + (goal.y - start.y) * p * (2 - p)⟩

theorem Point.eased_zero (start goal : Point Rat) : eased start goal 0 = start := by
  simp [eased]

namespace Glide

variable {g : Glide Rat}

theorem progress_of_lt (hzero : 0 ≤ g.elapsed) (h : g.elapsed < g.duration) :
    g.progress = g.elapsed / g.duration ∧ g.isDone = false := by
  have hpos : 0 < g.duration := hzero.trans_lt h
  have hlt : g.elapsed / g.duration < 1 := (div_lt_one hpos).2 h
  have hprogress : g.progress = g.elapsed / g.duration := by
    rw [progress, Rational.ofNat_eq, Rational.ofNat_eq, Nat.cast_zero, Nat.cast_one, if_pos hpos,
      Rational.least_eq_min, min_eq_left hlt.le]
  rw [isDone, hprogress, Rational.ofNat_eq, Nat.cast_one]
  exact ⟨rfl, decide_eq_false (not_le.2 hlt)⟩

theorem progress_of_le (h : g.duration ≤ g.elapsed) : g.progress = 1 ∧ g.isDone = true := by
  have hprogress : g.progress = 1 := by
    rw [progress, Rational.ofNat_eq, Rational.ofNat_eq, Nat.cast_zero, Nat.cast_one]
    split
    · next hpos => rw [Rational.least_eq_min, min_eq_right ((one_le_div hpos).2 h)]
    · rfl
  rw [isDone, hprogress, Rational.ofNat_eq, Nat.cast_one]
  exact ⟨rfl, decide_eq_true le_rfl⟩

theorem position_eq (g : Glide Rat) : g.position = Point.eased g.start g.goal g.progress := by
  ext <;> simp [position, Point.eased, Rational.ofNat_eq, mul_assoc]

theorem position_of_le (h : g.duration ≤ g.elapsed) : g.position = g.goal := by
  rw [position_eq, (progress_of_le h).1]
  ext <;> simp only [Point.eased] <;> ring

end Glide

namespace Camera

/-- The time of some calls. -/
def spent (calls : List (CameraCall Rat)) : Rat := (calls.map (·.time)).sum

/-- What some calls have asked to be followed at last. -/
def lastFollowed (calls : List (CameraCall Rat)) : Option String :=
  (calls.filterMap (·.followed?)).getLast?.join

theorem spent_concat (calls : List (CameraCall Rat)) (k : CameraCall Rat) :
    spent (calls ++ [k]) = spent calls + k.time := by
  simp [spent]

theorem spent_nonneg {calls : List (CameraCall Rat)} (h : ∀ k ∈ calls, k.IsGentle) :
    0 ≤ spent calls := by
  refine List.sum_nonneg fun x hx => ?_
  rcases List.mem_map.1 hx with ⟨k, hk, rfl⟩
  exact (h k hk).time_nonneg

/-- The time of a glide is not over, or no tick has ended yet. -/
def Lasts (duration : Rat) (calls : List (CameraCall Rat)) : Prop :=
  (∀ k ∈ calls, k.isUpdate = false) ∨ spent calls < duration

theorem not_lasts_iff {duration : Rat} {calls : List (CameraCall Rat)} :
    ¬ Lasts duration calls ↔ (∃ k ∈ calls, k.isUpdate = true) ∧ duration ≤ spent calls := by
  simp [Lasts]

theorem Lasts.of_concat {duration : Rat} {calls : List (CameraCall Rat)} {k : CameraCall Rat}
    (h : Lasts duration (calls ++ [k])) (hk : k.IsGentle) : Lasts duration calls := by
  have hnonneg := hk.time_nonneg
  refine h.imp (fun hnone j hj => hnone j (List.mem_append_left _ hj)) fun hlt => ?_
  rw [spent_concat] at hlt
  linarith

/-- A glide ends with a tick, whose time makes its own time over. -/
theorem isUpdate_of_lasts {duration : Rat} {calls : List (CameraCall Rat)} {k : CameraCall Rat}
    (h : Lasts duration calls) (hover : ¬ Lasts duration (calls ++ [k])) :
    k.isUpdate = true ∧ duration ≤ spent calls + k.time := by
  rw [not_lasts_iff, spent_concat] at hover
  refine ⟨?_, hover.2⟩
  by_contra hk
  rw [Bool.not_eq_true] at hk
  rw [CameraCall.time_of_not_isUpdate hk, add_zero] at hover
  rcases hover with ⟨⟨j, hj, hupdate⟩, hle⟩
  rcases List.mem_append.1 hj with hj | hj
  · exact not_lasts_iff.2 ⟨⟨j, hj, hupdate⟩, hle⟩ h
  · rw [List.mem_singleton.1 hj, hk] at hupdate
    cases hupdate

theorem lastFollowed_concat (calls : List (CameraCall Rat)) (k : CameraCall Rat) :
    lastFollowed (calls ++ [k]) = k.followed?.getD (lastFollowed calls) := by
  rw [lastFollowed, List.filterMap_append, List.getLast?_append]
  cases hk : k.followed? with
  | none => simp [hk, lastFollowed]
  | some target => simp [hk]

/-- The camera has no bounds, and it is where its glide has got to. -/
structure IsGliding (c : Camera Rat) (g : Glide Rat) (target : Option String) : Prop where
  bounds : c.view.bounds = none
  glide : c.view.glide = some g
  position : c.view.position = Point.eased g.start g.goal (g.elapsed / g.duration)
  follow : c.view.follow = target

/-- The camera has no bounds and does not glide. -/
structure IsFree (c : Camera Rat) : Prop where
  bounds : c.view.bounds = none
  glide : c.view.glide = none

section Calls

variable {c : Camera Rat} {g : Glide Rat} {target : Option String} {dt smoothing : Rat}
  {centerOf : String → Option (Point Rat)} {k : CameraCall Rat}

/-- At the end of a tick a camera without bounds is where it has been moved to. -/
theorem view_update (hbounds : (c.move dt smoothing centerOf).view.bounds = none)
    (viewport : Size Rat) : ∃ moving, (c.update dt viewport smoothing centerOf).view =
      { (c.move dt smoothing centerOf).view with isMoving := moving } := by
  have hfree : (c.move dt smoothing centerOf).applyBounds viewport =
      c.move dt smoothing centerOf := by
    rw [applyBounds, hbounds]
  unfold update
  rw [hfree, advanceShake]
  split
  · exact ⟨_, rfl⟩
  · exact ⟨_, rfl⟩

/-- A camera that glides is put on the place that its glide has got to. -/
theorem exists_view_update (h : c.IsGliding g target) (dt : Rat) (viewport : Size Rat)
    (smoothing : Rat) (centerOf : String → Option (Point Rat)) :
    ∃ moving, (c.update dt viewport smoothing centerOf).view = { c.view with
      position := { g with elapsed := g.elapsed + dt }.position
      glide := if { g with elapsed := g.elapsed + dt }.isDone then none
        else some { g with elapsed := g.elapsed + dt }
      isMoving := moving } := by
  have hmove : (c.move dt smoothing centerOf).view = { c.view with
      position := { g with elapsed := g.elapsed + dt }.position
      glide := if { g with elapsed := g.elapsed + dt }.isDone then none
        else some { g with elapsed := g.elapsed + dt } } := by
    simp only [move, h.glide]
  have hbounds : (c.move dt smoothing centerOf).view.bounds = none := by
    rw [hmove]
    exact h.bounds
  have hview := view_update hbounds viewport
  rwa [hmove] at hview

/-- While the time is not over, the camera goes on with its glide. -/
theorem IsGliding.call (h : c.IsGliding g target) (hzero : 0 ≤ g.elapsed) (hk : k.IsGentle)
    (hlt : k.isUpdate = true → g.elapsed + k.time < g.duration) :
    (c.call k).IsGliding { g with elapsed := g.elapsed + k.time } (k.followed?.getD target) := by
  cases k
  case beginTick =>
    rw [CameraCall.time_of_not_isUpdate rfl, add_zero]
    exact ⟨h.bounds, h.glide, h.position, h.follow⟩
  case follow other =>
    rw [CameraCall.time_of_not_isUpdate rfl, add_zero]
    exact ⟨h.bounds, h.glide, h.position, rfl⟩
  case update dt viewport smoothing centerOf =>
    rcases exists_view_update h dt viewport smoothing centerOf with ⟨moving, hview⟩
    have hprogress := Glide.progress_of_lt (g := { g with elapsed := g.elapsed + dt })
      (add_nonneg hzero hk) (hlt rfl)
    constructor <;> rw [Camera.call, hview]
    · exact h.bounds
    · rw [hprogress.2]
      rfl
    · rw [Glide.position_eq, hprogress.1]
      rfl
    · exact h.follow
  -- The others are not gentle.
  all_goals exact hk.elim

/-- In the tick in which the time is over the camera gets to the goal. What is followed is
    not forgotten. -/
theorem IsGliding.arrive (h : c.IsGliding g target) (hk : k.isUpdate = true)
    (hle : g.duration ≤ g.elapsed + k.time) :
    (c.call k).IsFree ∧ (c.call k).view.position = g.goal ∧ (c.call k).view.follow = target := by
  cases k
  case update dt viewport smoothing centerOf =>
    rcases exists_view_update h dt viewport smoothing centerOf with ⟨moving, hview⟩
    have hdone := Glide.progress_of_le (g := { g with elapsed := g.elapsed + dt }) hle
    have hgoal := Glide.position_of_le (g := { g with elapsed := g.elapsed + dt }) hle
    refine ⟨⟨?_, ?_⟩, ?_, ?_⟩ <;> rw [Camera.call, hview]
    · exact h.bounds
    · rw [hdone.2]
      rfl
    · exact hgoal
    · exact h.follow
  all_goals cases hk

/-- Without a glide the camera stays where it is, unless an object is followed. -/
theorem IsFree.call (h : c.IsFree) (hk : k.IsGentle) :
    (c.call k).IsFree ∧ ((k.isUpdate = true → c.view.follow = none) →
      (c.call k).view.position = c.view.position) := by
  cases k
  case beginTick => exact ⟨⟨h.bounds, h.glide⟩, fun _ => rfl⟩
  case follow other => exact ⟨⟨h.bounds, h.glide⟩, fun _ => rfl⟩
  case update dt viewport smoothing centerOf =>
    have hmove : (c.move dt smoothing centerOf).IsFree ∧ (c.view.follow = none →
        (c.move dt smoothing centerOf).view.position = c.view.position) := by
      unfold move
      simp only [h.glide]
      split
      · next hg => cases hg
      · next id hid =>
        rw [hid]
        split
        · exact ⟨⟨h.bounds, h.glide⟩, nofun⟩
        · exact ⟨⟨h.bounds, h.glide⟩, nofun⟩
      · exact ⟨⟨h.bounds, h.glide⟩, fun _ => rfl⟩
    rcases view_update hmove.1.bounds viewport with ⟨moving, hview⟩
    refine ⟨⟨?_, ?_⟩, fun hfollow => ?_⟩
    · rw [Camera.call, hview]
      exact hmove.1.bounds
    · rw [Camera.call, hview]
      exact hmove.1.glide
    · rw [Camera.call, hview]
      exact hmove.2 (hfollow rfl)
  all_goals exact hk.elim

end Calls

section Runs

variable {c : Camera Rat} {goal : Point Rat} {duration : Rat} {calls : List (CameraCall Rat)}

/-- A glide lasts until a tick ends after its time is over. -/
theorem isGliding_run (hbounds : c.view.bounds = none) (goal : Point Rat)
    (hcalls : ∀ k ∈ calls, k.IsGentle) (h : Lasts duration calls) :
    ((c.glideTo goal duration).run calls).IsGliding
      ⟨c.view.position, goal, duration, spent calls⟩ (lastFollowed calls) := by
  induction calls using List.reverseRecOn with
  | nil =>
      refine ⟨hbounds, ?_, ?_, rfl⟩
      · simp [run, glideTo, spent, Rational.ofNat_eq]
      · simp [run, glideTo, spent, Point.eased_zero]
  | append_singleton calls k ih =>
      rw [List.forall_mem_append, List.forall_mem_singleton] at hcalls
      -- A glide that lasts has lasted before the last call.
      have hbefore := ih hcalls.1 (h.of_concat hcalls.2)
      rw [run_concat, lastFollowed_concat, spent_concat]
      refine hbefore.call (spent_nonneg hcalls.1) hcalls.2 fun hk => ?_
      rcases h with hnone | hlt
      · rw [hnone k List.mem_concat_self] at hk
        cases hk
      · rwa [spent_concat] at hlt

/-- And no longer. -/
theorem isFree_run (hbounds : c.view.bounds = none) (hcalls : ∀ k ∈ calls, k.IsGentle)
    (h : ¬ Lasts duration calls) : ((c.glideTo goal duration).run calls).IsFree := by
  induction calls using List.reverseRecOn with
  | nil => exact absurd (.inl (List.forall_mem_nil _)) h
  | append_singleton calls k ih =>
      rw [List.forall_mem_append, List.forall_mem_singleton] at hcalls
      rw [run_concat]
      by_cases hlasts : Lasts duration calls
      · -- This is the tick in which the glide ends.
        have hk := isUpdate_of_lasts hlasts h
        exact ((isGliding_run hbounds goal hcalls.1 hlasts).arrive hk.1 hk.2).1
      · exact ((ih hcalls.1 hlasts).call hcalls.2).1

theorem glide_run_eq_none_iff (hbounds : c.view.bounds = none)
    (hcalls : ∀ k ∈ calls, k.IsGentle) :
    ((c.glideTo goal duration).run calls).view.glide = none ↔ ¬ Lasts duration calls := by
  refine ⟨fun hnone hlasts => ?_, fun h => (isFree_run hbounds hcalls h).glide⟩
  have hsome := (isGliding_run hbounds goal hcalls hlasts).glide
  rw [hnone] at hsome
  cases hsome

/-- A camera that does not glide stays where it is, as long as nothing is followed when a tick
    ends. -/
theorem IsFree.run (h : c.IsFree) (hcalls : ∀ k ∈ calls, k.IsGentle)
    (hfollow : ∀ before u after, calls = before ++ u :: after → u.isUpdate = true →
      (c.run before).view.follow = none) :
    (c.run calls).IsFree ∧ (c.run calls).view.position = c.view.position := by
  induction calls using List.reverseRecOn with
  | nil => exact ⟨h, rfl⟩
  | append_singleton calls k ih =>
      rw [List.forall_mem_append, List.forall_mem_singleton] at hcalls
      have hbefore := ih hcalls.1 fun before u after heq hu =>
        hfollow before u (after ++ [k]) (by rw [heq, List.append_assoc, List.cons_append]) hu
      have hstep := hbefore.1.call hcalls.2
      rw [run_concat]
      exact ⟨hstep.1, (hstep.2 fun hk => hfollow calls k [] rfl hk).trans hbefore.2⟩

end Runs

/-- What becomes of a glide of a camera over some calls. -/
structure GlidesTo (c : Camera Rat) (goal : Point Rat) (duration : Rat)
    (calls : List (CameraCall Rat)) : Prop where
  /-- While the glide lasts, the camera is on the place that belongs to the time that has
      passed, and what is followed is what has last been asked for. -/
  underway : Lasts duration calls →
    ((c.glideTo goal duration).run calls).view.position =
        Point.eased c.view.position goal (spent calls / duration) ∧
      ((c.glideTo goal duration).run calls).view.follow = lastFollowed calls
  /-- It lasts until the end of the tick with which its time is over. -/
  dropped_iff : ((c.glideTo goal duration).run calls).view.glide = none ↔
    (∃ k ∈ calls, k.isUpdate = true) ∧ duration ≤ spent calls
  /-- With that tick the camera is on the goal, and what is followed has not been forgotten.
      There the camera stays as long as nothing is followed when a tick ends. -/
  arrives : ∀ before k after, calls = before ++ k :: after →
    ((c.glideTo goal duration).run before).view.glide ≠ none →
      ((c.glideTo goal duration).run (before ++ [k])).view.glide = none →
        ((c.glideTo goal duration).run (before ++ [k])).view.position = goal ∧
          ((c.glideTo goal duration).run (before ++ [k])).view.follow = lastFollowed before ∧
          ((∀ mid u rest, after = mid ++ u :: rest → u.isUpdate = true →
              ((c.glideTo goal duration).run (before ++ k :: mid)).view.follow = none) →
            ((c.glideTo goal duration).run calls).view.position = goal)
  /-- Other calls that take the same time lead to the same place. -/
  unsplit : ∀ others : List (CameraCall Rat), (∀ k ∈ others, k.IsGentle) →
    spent others = spent calls → spent calls < duration →
      ((c.glideTo goal duration).run others).view.position =
        ((c.glideTo goal duration).run calls).view.position

/-- A glide of a camera without bounds leads to its goal, and its way depends on the time
    alone. -/
theorem glide_keeps_pace (c : Camera Rat) (hbounds : c.view.bounds = none) (goal : Point Rat)
    (duration : Rat) (calls : List (CameraCall Rat)) (hcalls : ∀ k ∈ calls, k.IsGentle) :
    c.GlidesTo goal duration calls where
  underway h :=
    have hgliding := isGliding_run hbounds goal hcalls h
    ⟨hgliding.position, hgliding.follow⟩
  dropped_iff := (glide_run_eq_none_iff hbounds hcalls).trans not_lasts_iff
  arrives := by
    rintro before k after rfl hlasts hdropped
    rw [List.append_cons, List.forall_mem_append] at hcalls
    have hfirst := List.forall_mem_append.1 hcalls.1
    rw [ne_eq, glide_run_eq_none_iff hbounds hfirst.1, not_not] at hlasts
    have hk := isUpdate_of_lasts hlasts ((glide_run_eq_none_iff hbounds hcalls.1).1 hdropped)
    have harrive := (isGliding_run hbounds goal hfirst.1 hlasts).arrive hk.1 hk.2
    rw [← run_concat] at harrive
    -- What follows is a run of a camera that does not glide.
    refine ⟨harrive.2.1, harrive.2.2, fun hfollow => ?_⟩
    rw [List.append_cons, run_append]
    refine (harrive.1.run hcalls.2 fun mid u rest heq hu => ?_).2.trans harrive.2.1
    rw [← run_append, ← List.append_cons]
    exact hfollow mid u rest heq hu
  unsplit others hothers hsame hlt := by
    rw [(isGliding_run hbounds goal hothers (.inr (hsame ▸ hlt))).position,
      (isGliding_run hbounds goal hcalls (.inr hlt)).position, hsame]

/-- A second that is cut into two halves, in which an object comes to be followed, and the half
    of another second. -/
def halves : List (CameraCall Rat) :=
  [.beginTick, .update (1 / 2) ⟨800, 600⟩ (1 / 10) fun _ => none, .follow (some "player"),
    .update (1 / 2) ⟨800, 600⟩ (1 / 10) fun _ => none, .follow none,
    .update (1 / 2) ⟨800, 600⟩ (1 / 10) fun _ => none]

/-- The camera has gone three quarters of its way after the first half, and is on its goal after
    the second, where it stays. -/
theorem glide_keeps_pace_halves :
    let c : Camera Rat := initial .zero 1
    c.view.bounds = none ∧ (∀ k ∈ halves, k.IsGentle) ∧
      ((c.glideTo ⟨100, 0⟩ 1).run (halves.take 3)).view.position = ⟨75, 0⟩ ∧
      ((c.glideTo ⟨100, 0⟩ 1).run (halves.take 3)).view.follow = some "player" ∧
      ((c.glideTo ⟨100, 0⟩ 1).run halves).view.glide = none ∧
      ((c.glideTo ⟨100, 0⟩ 1).run halves).view.position = ⟨100, 0⟩ := by
  intro c
  have hgentle : ∀ k ∈ halves, k.IsGentle := by
    simp only [halves, List.forall_mem_cons, CameraCall.IsGentle]
    norm_num
  have hpart : ∀ n, c.GlidesTo ⟨100, 0⟩ 1 (halves.take n) := fun n =>
    glide_keeps_pace c rfl ⟨100, 0⟩ 1 _ fun k hk => hgentle k (List.mem_of_mem_take hk)
  have hspent : spent (halves.take 3) = 1 / 2 ∧ spent (halves.take 4) = 1 ∧
      spent (halves.take 6) = 3 / 2 := by
    norm_num [spent, halves, CameraCall.time]
  have hunderway := (hpart 3).underway (.inr (by rw [hspent.1]; norm_num))
  have hlasts : ((c.glideTo ⟨100, 0⟩ 1).run (halves.take 3)).view.glide ≠ none := by
    rw [ne_eq, (hpart 3).dropped_iff, hspent.1]
    norm_num
  have hdropped : ((c.glideTo ⟨100, 0⟩ 1).run (halves.take 4)).view.glide = none :=
    (hpart 4).dropped_iff.2 ⟨⟨_, List.mem_cons_of_mem _ List.mem_cons_self, rfl⟩, hspent.2.1.ge⟩
  refine ⟨rfl, hgentle, ?_, hunderway.2, ?_, ?_⟩
  · rw [hunderway.1, hspent.1]
    decide +kernel
  · refine (hpart 6).dropped_iff.2 ⟨⟨_, List.mem_cons_of_mem _ List.mem_cons_self, rfl⟩, ?_⟩
    rw [hspent.2.2]
    norm_num
  · refine ((hpart 6).arrives (halves.take 3) _ _ rfl hlasts hdropped).2.2
      fun mid u rest heq hu => ?_
    rcases mid with _ | ⟨k, _ | ⟨j, mid⟩⟩
    · rw [← (List.cons.inj heq).1] at hu
      cases hu
    · rw [← (List.cons.inj heq).1]
      rfl
    · exact absurd (List.cons.inj (List.cons.inj heq).2).2 (by simp)

end Camera

end Playfield
