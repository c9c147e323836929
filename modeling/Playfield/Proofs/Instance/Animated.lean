import Mathlib
import Playfield.Simulation.Animate

/-!
# Animated Instances

Which animations can be moved on, and what becomes of them.

The number of a frame is a word, and the number behind it is counted before it is compared
with the number of frames. No animation has as many frames as there are words, so what is
counted is what should be, except behind the last word, where nothing is. An instance whose
animation comes to that in a tick overflows, and then nothing comes of the whole tick.

So moving animations is a partial function. What is proved about it is often proved of each
instance by itself, and most of it holds of an instance that stays as it is. `Instance.animate`
makes the function total in that way, and `Roster.animate?_eq` says that the total one gives
what the partial one gives, where that gives anything.

## Main definitions

* `Cursor.following`: The frame that follows if frames are counted without a limit.
* `Instance.playing?`: The animation that the cursor of an instance goes through.
* `Instance.Overflows`: In a tick no number is left for the next frame.
* `Instance.animate`, `Roster.animate`: Animations moved on where they can be.

## Theorems

* `Cursor.count?_eq_none_iff`: Only behind the last word there is no number.
* `Cursor.nextFrame?_eq_following`: Below it, frames follow as they should.
* `Instance.animate?_eq_none_iff`: What overflows is what cannot be moved on.
* `Instance.animate_cases`: What moves is a cursor and the end of an animation.
* `Roster.animate?_eq`: All are moved on, or there is one that cannot be.
-/

namespace Playfield

/-! ## Counting frames -/

namespace Cursor

variable {R : Type} {a : Animation R} {frame : UInt64}

theorem lt_add_one_iff : frame < frame + 1 ↔ frame.toNat + 1 < 2 ^ 64 := by
  have hword : frame.toNat + 1 ≤ 2 ^ 64 := frame.toNat_lt
  have hnext : (frame + 1).toNat = (frame.toNat + 1) % 2 ^ 64 := UInt64.toNat_add frame 1
  rw [UInt64.lt_iff_toNat_lt, hnext]
  rcases hword.lt_or_eq with hlt | heq
  · rw [Nat.mod_eq_of_lt hlt]
    exact iff_of_true (Nat.lt_succ_self _) hlt
  · rw [heq, Nat.mod_self]
    exact iff_of_false (Nat.not_lt_zero _) (lt_irrefl _)

/-- Only behind the last word there is no number. -/
theorem count?_eq_none_iff : count? frame = none ↔ 2 ^ 64 ≤ frame.toNat + 1 := by
  rw [count?, ite_eq_right_iff, lt_add_one_iff, ← not_lt]
  exact ⟨fun h hlt => absurd (h hlt) nofun, fun h hlt => absurd hlt h⟩

theorem count?_of_lt (h : frame.toNat + 1 < 2 ^ 64) : count? frame = some (frame + 1) :=
  if_pos (lt_add_one_iff.2 h)

/-- The frame that follows if frames are counted without a limit, and whether the animation
    is over. -/
def following (a : Animation R) (frame : Nat) : Nat × Bool :=
  if frame + 1 < a.frames.length then (frame + 1, false)
  else if a.loops then (0, false)
  else (a.frames.length - 1, true)

theorem toNat_frameCount (h : a.frames.length < 2 ^ 64) :
    a.frameCount.toNat = a.frames.length := by
  rw [Animation.frameCount, UInt64.toNat_ofNat', Nat.mod_eq_of_lt h]

/-- Below the last word the frame that follows is the one that should. -/
theorem nextFrame?_eq_following (hframes : a.frames ≠ []) (hcount : a.frames.length < 2 ^ 64)
    (hframe : frame.toNat + 1 < 2 ^ 64) :
    (nextFrame? a frame).map (fun n => (n.1.toNat, n.2)) = some (following a frame.toNat) := by
  have hnext : (frame + 1).toNat = frame.toNat + 1 := by
    rw [UInt64.toNat_add]
    exact Nat.mod_eq_of_lt hframe
  have hlt : frame + 1 < a.frameCount ↔ frame.toNat + 1 < a.frames.length := by
    rw [UInt64.lt_iff_toNat_lt, hnext, toNat_frameCount hcount]
  have hlast : (a.frameCount - 1).toNat = a.frames.length - 1 := by
    have hpos : 1 ≤ a.frameCount := by
      rw [UInt64.le_iff_toNat_le, toNat_frameCount hcount]
      exact List.length_pos_iff.2 hframes
    rw [UInt64.toNat_sub_of_le _ _ hpos, toNat_frameCount hcount]
    rfl
  rw [nextFrame?, count?_of_lt hframe, Option.map_some, Option.map_some, Option.some.injEq]
  unfold following
  by_cases h : frame.toNat + 1 < a.frames.length
  · rw [if_pos (hlt.2 h), if_pos h, hnext]
  · rw [if_neg (mt hlt.1 h), if_neg h]
    cases a.loops with
    | true => rfl
    | false => exact congrArg (·, true) hlast

/-- While an animation is not over, its next frame does not stand at the last word. -/
theorem nextFrame?_lt_last {next : UInt64} (h : nextFrame? a frame = some (next, false)) :
    next.toNat + 1 < 2 ^ 64 := by
  obtain ⟨n, -, hn⟩ := Option.map_eq_some_iff.1 h
  by_cases hnext : n < a.frameCount
  · rw [if_pos hnext, Prod.mk.injEq] at hn
    rw [← hn.1]
    exact (Nat.succ_le_of_lt (UInt64.lt_iff_toNat_lt.1 hnext)).trans_lt a.frameCount.toNat_lt
  · rw [if_neg hnext] at hn
    cases hloops : a.loops with
    | true =>
        rw [hloops, if_pos rfl, Prod.mk.injEq] at hn
        rw [← hn.1]
        decide
    | false =>
        rw [hloops, if_neg Bool.false_ne_true, Prod.mk.injEq] at hn
        cases hn.2

end Cursor

/-! ## Instances -/

/-- What is running has frames. -/
theorem Animation.frames_ne_nil {R : Type} [Scalar R] {a : Animation R}
    (h : a.isRunning = true) : a.frames ≠ [] := by
  rw [isRunning, Bool.and_eq_true, Bool.not_eq_true', List.isEmpty_eq_false_iff] at h
  exact h.1

namespace Instance

variable {R : Type} {i : Instance R}

/-- The animation that the cursor of an instance goes through. A tiled sprite does not
    move. -/
def playing? (i : Instance R) : Option (Animation R) :=
  match i.object.appearance with
  | .sprite s => s.currentAnimation?
  | _ => none

variable [Scalar R] {dt : R}

/-- In a tick the number of a frame is counted beyond the last word: the animation is
    running, the time of the frame is over, and one more does not fit. -/
def Overflows (dt : R) (i : Instance R) : Prop :=
  ∃ a, i.playing? = some a ∧ a.isRunning = true ∧ a.frameTime ≤ i.cursor.time + dt ∧
    2 ^ 64 ≤ i.cursor.frame.toNat + 1

/-- The instance with its animation moved on, if that can be done. -/
def animate (dt : R) (i : Instance R) : Instance R := (i.animate? dt).getD i

/-- Without a running animation nothing moves. -/
theorem animate?_of_idle (h : ∀ a, i.playing? = some a → a.isRunning = false) :
    i.animate? dt = some i := by
  unfold animate?
  split
  · next s hs =>
    split
    · rfl
    · next a ha =>
      have hidle : a.isRunning = false := h a (by rw [playing?, hs]; exact ha)
      rw [if_neg (by rw [hidle]; exact Bool.false_ne_true)]
  · rfl

/-- A running animation moves the cursor, and is not playing any more when it is over. -/
theorem animate?_of_running (dt : R) {a : Animation R} (ha : i.playing? = some a)
    (hruns : a.isRunning = true) : (i.animate? dt).map (fun j => (j.cursor, j.playing?)) =
      (i.cursor.advance? a dt).map fun (cursor, isOver) =>
        (cursor, if isOver then none else some a) := by
  unfold playing? at ha
  split at ha
  · next s hs =>
    unfold animate?
    rw [hs]
    dsimp only
    rw [ha]
    dsimp only
    rw [if_pos hruns, Option.map_map]
    refine congrArg (Option.map · _) (funext fun (cursor, isOver) => ?_)
    cases isOver with
    | true => rfl
    | false => exact congrArg (Prod.mk cursor) ha
  · cases ha

/-- What overflows is what cannot be moved on. -/
theorem animate?_eq_none_iff : i.animate? dt = none ↔ i.Overflows dt := by
  by_cases hruns : ∃ a, i.playing? = some a ∧ a.isRunning = true
  · obtain ⟨a, ha, hruns⟩ := hruns
    have hsame := congrArg Option.isNone (animate?_of_running dt ha hruns)
    rw [Option.isNone_map, Option.isNone_map] at hsame
    rw [← Option.isNone_iff_eq_none, hsame, Option.isNone_iff_eq_none]
    by_cases hdue : a.frameTime ≤ i.cursor.time + dt
    · rw [Cursor.advance?, if_pos hdue, Option.map_eq_none_iff, Cursor.nextFrame?,
        Option.map_eq_none_iff, Cursor.count?_eq_none_iff]
      refine ⟨fun hframe => ⟨a, ha, hruns, hdue, hframe⟩, ?_⟩
      rintro ⟨b, -, -, -, hframe⟩
      exact hframe
    · rw [Cursor.advance?_of_unfinished a dt i.cursor hdue]
      refine iff_of_false (Option.some_ne_none _) ?_
      rintro ⟨b, hb, -, hdue', -⟩
      cases ha.symm.trans hb
      exact hdue hdue'
  · have hidle : i.animate? dt = some i :=
      animate?_of_idle fun a ha => Bool.eq_false_iff.2 fun hruns' => hruns ⟨a, ha, hruns'⟩
    rw [hidle]
    refine iff_of_false (Option.some_ne_none _) ?_
    rintro ⟨a, ha, hruns', -⟩
    exact hruns ⟨a, ha, hruns'⟩

/-- Nothing moves, or a running animation goes on and perhaps comes to its end. -/
theorem animate_cases (dt : R) (i : Instance R) : i.animate dt = i ∨
    ∃ s a cursor isOver, i.object.appearance = .sprite s ∧ s.currentAnimation? = some a ∧
      a.isRunning = true ∧ i.cursor.advance? a dt = some (cursor, isOver) ∧
      i.animate dt =
        { i with
          object := { i.object with
            appearance := .sprite (if isOver then { s with current := none } else s) }
          cursor := cursor } := by
  rw [animate]
  cases hmoved : i.animate? dt with
  | none => exact .inl rfl
  | some j =>
      unfold animate? at hmoved
      split at hmoved
      · next s hs =>
        split at hmoved
        · cases hmoved
          exact .inl rfl
        · next a ha =>
          split at hmoved
          · next hruns =>
            obtain ⟨⟨cursor, isOver⟩, hadvance, rfl⟩ := Option.map_eq_some_iff.1 hmoved
            exact .inr ⟨s, a, cursor, isOver, hs, ha, hruns, hadvance, rfl⟩
          · cases hmoved
            exact .inl rfl
      · cases hmoved
        exact .inl rfl

end Instance

/-! ## Rosters -/

namespace Roster

variable {R : Type} [Scalar R] {dt : R}

/-- The animations moved on that can be. -/
def animate (r : Roster R) (dt : R) : Roster R :=
  { r with live := r.live.map (Instance.animate dt) }

/-- The animations of all are moved on, or there is one that cannot be. -/
theorem animate?_eq (r : Roster R) (dt : R) : r.animate? dt =
    if r.live.all (fun i => (i.animate? dt).isSome) then some (r.animate dt) else none := by
  have hmapM : ∀ live : List (Instance R), live.mapM (Instance.animate? dt) =
      if live.all (fun i => (i.animate? dt).isSome) then some (live.map (Instance.animate dt))
      else none := by
    intro live
    -- Along the roster: the first that cannot be moved on decides.
    induction live with
    | nil => rfl
    | cons i live ih =>
        rw [List.mapM_cons, ih, List.all_cons, List.map_cons, Instance.animate]
        cases i.animate? dt with
        | none => rfl
        | some j => split <;> simp_all
  rw [animate?, hmapM, apply_ite (Option.map _)]
  rfl

end Roster

end Playfield
