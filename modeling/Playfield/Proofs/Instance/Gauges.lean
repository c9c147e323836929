import Mathlib
import Playfield.Proofs.Double.Division
import Playfield.Proofs.Instance.Animated
import Playfield.Proofs.Instance.Confined
import Playfield.Proofs.Object.Finite
import Playfield.Proofs.Roster.Bars
import Playfield.Session.Actions

/-!
# Bars and What They Show

What becomes of the bar of an instance, and when it can be drawn.

Steps and animations leave bars alone. There are two things that set what a bar shows: a bar
that is bound to a variable is set to it in every tick, and an action sets a bar to a number.
Nothing sets the upper end.

How full a bar is drawn is a quotient moved between zero and one. Whatever arithmetic has
made of a variable, it is one of the numbers between zero and one as long as what is shown is a
number, be it infinite. The only thing that clamping does not put in its place is what is no
number (`Bar.fillRatio_mem_iff`). So bars are traced by whether they show a number
(`Instance.IsGauged`), and for those that do not, by the variable that they are bound to.

## Main definitions

* `Order.barAfter`: What a change of an instance makes of its bar.
* `Bar.IsGauged`, `Instance.IsGauged`: A bar shows a number, or it is bound to a variable of
  which this is not known.

## Theorems

* `Instance.bar?_step`, `Instance.bar?_animate`: What leaves bars alone.
* `Instance.bar?_syncBar`, `Order.bar?_of_result?`: What sets them.
* `Instance.IsGauged.syncBar`, `Instance.IsGauged.of_result?`: What keeps them gauged.
* `Bar.fillRatio_mem_iff`: When a ratio is between zero and one.
* `Bar.isNumber_fillRatio_iff`: What it is otherwise.
-/

namespace Playfield

namespace Appearance

variable {R : Type} {a b : Appearance R}

theorem bar?_of_updateSprite? {f : Sprite R → Option (Sprite R)}
    (h : a.updateSprite? f = some b) : b.bar? = a.bar? := by
  cases a <;> simp only [updateSprite?, Option.map_eq_some_iff, reduceCtorEq] at h
  all_goals
    rcases h with ⟨s, _, rfl⟩
    rfl

theorem bar?_of_updateText? {f : Label R → Label R} (h : a.updateText? f = some b) :
    b.bar? = a.bar? := by
  cases a <;> cases h
  rfl

theorem bar?_of_updateBar? {f : Bar R → Bar R} (h : a.updateBar? f = some b) :
    b.bar? = a.bar?.map f := by
  cases a <;> cases h
  rfl

theorem bar?_eq_some_iff {bar : Bar R} : a.bar? = some bar ↔ a = .bar bar := by
  cases a <;> simp [bar?]

end Appearance

namespace Instance

variable {R : Type} [Scalar R] (dt : R) (i : Instance R)

theorem bar?_animate :
    (i.animate dt).object.appearance.bar? = i.object.appearance.bar? := by
  rcases animate_cases dt i with h | ⟨s, a, cursor, isOver, hs, -, -, -, h⟩
  · rw [h]
  · rw [h, hs]
    rfl

theorem bar?_step [Planar R] (scene : Scene R) (input : Input R) :
    (i.step scene input dt).subject.object.appearance.bar? = i.object.appearance.bar? :=
  congrArg Appearance.bar? (differsIn_step scene input dt i).appearance

/-- A bar that has something to show is set to it. -/
theorem bar?_syncBar [Numeral R] (r : Roster R) (globals : Variables R) :
    (r.syncBar globals i).object.appearance.bar? = i.object.appearance.bar?.map fun b =>
      { b with current := (b.reading.bind (r.reading? globals)).getD b.current } := by
  rcases Roster.syncBar_cases r globals i with ⟨b, x, hb, hx, hsync⟩ | ⟨hsync, hnone⟩
  · rw [hsync, hb, Appearance.bar?, Option.map_some, hx]
    rfl
  · rw [hsync]
    cases hb : i.object.appearance.bar? with
    | none => rfl
    | some b =>
        rw [Option.map_some, hnone b (Appearance.bar?_eq_some_iff.1 hb)]
        rfl

end Instance

namespace Order

variable {R : Type}

/-- What a change of an instance makes of its bar. -/
def barAfter (b : Option (Bar R)) : Order R → Option (Bar R)
  | .setBar x => b.map fun b => { b with current := x }
  | _ => b

variable [Scalar R] [Numeral R] {i j : Instance R}

theorem bar?_of_setProperty? {o p : Object R} {value : Value R} {field : Settable}
    (h : setProperty? o value field = some p) : p.appearance.bar? = o.appearance.bar? := by
  cases field <;> simp only [setProperty?, Option.map_eq_some_iff, Option.bind_eq_some_iff] at h
  case scale =>
    rcases h with ⟨x, _, rfl⟩
    rfl
  case rotation =>
    rcases h with ⟨x, _, rfl⟩
    rfl
  case color =>
    rcases h with ⟨a, ha, rfl⟩
    exact Appearance.bar?_of_updateText? ha
  case fontSize =>
    rcases h with ⟨x, _, a, ha, rfl⟩
    exact Appearance.bar?_of_updateText? ha

variable [Planar R]

/-- Of all changes of an instance one sets what its bar shows. -/
theorem bar?_of_result? {dt : R} {order : Order R} (h : order.result? dt i = some j) :
    j.object.appearance.bar? = order.barAfter i.object.appearance.bar? := by
  cases order <;> simp only [result?, Option.map_eq_some_iff, Option.some.injEq] at h
  case setBar x =>
    rcases h with ⟨a, ha, rfl⟩
    exact Appearance.bar?_of_updateBar? ha
  case setPicture source =>
    rcases h with ⟨a, ha, rfl⟩
    exact Appearance.bar?_of_updateSprite? ha
  case setAnimationSpeed name speed =>
    rcases h with ⟨a, ha, rfl⟩
    exact Appearance.bar?_of_updateSprite? ha
  case setText text =>
    rcases h with ⟨a, ha, rfl⟩
    exact Appearance.bar?_of_updateText? ha
  case setProperty p value =>
    rcases h with ⟨o, ho, rfl⟩
    exact bar?_of_setProperty? ho
  case animate name =>
    unfold animate? at h
    split at h
    · next s hs =>
      cases h
      rw [hs]
      rfl
    · cases h
  -- The others leave the appearance alone.
  all_goals
    first
      | (subst h; rfl)
      | (obtain ⟨x, _, rfl⟩ := h; rfl)

end Order

/-- A bar has a finite upper end, and it shows a number or else is bound to one of some
    variables. -/
structure Bar.IsGauged (K : BarReading → Prop) (b : Bar Float) : Prop where
  most : b.most.isFinite = true
  current : Scalar.isNumber b.current = true ∨ ∃ reading, b.reading = some reading ∧ K reading

/-- A bar is drawn between empty and full exactly if it can hold nothing or shows a number. -/
theorem Bar.fillRatio_mem_iff {b : Bar Float} (h : b.most.isFinite = true) :
    0 ≤ b.fillRatio ∧ b.fillRatio ≤ 1 ↔ b.most ≤ 0 ∨ Scalar.isNumber b.current = true := by
  by_cases hempty : b.most ≤ 0
  · rw [fillRatio_of_empty b hempty]
    exact iff_of_true ⟨by decide, by decide⟩ (.inl hempty)
  · have hmost : 0 < b.most := by
      by_contra hlt
      have hnumber := Double.isNumber_of_isFinite h
      exact hempty (Double.le_of_not_lt (of_decide_eq_true hnumber) (by decide) hlt)
    have hratio : b.fillRatio = Scalar.clamp (b.current / b.most) 0 1 := if_neg hempty
    rw [or_iff_right hempty, hratio, Double.clamp_mem_iff (by decide)]
    exact Double.isNumber_div_iff hmost h

/-- A ratio that is not between zero and one is no number. -/
theorem Bar.isNumber_fillRatio_iff (b : Bar Float) :
    Scalar.isNumber b.fillRatio = true ↔ 0 ≤ b.fillRatio ∧ b.fillRatio ≤ 1 := by
  by_cases hempty : b.most ≤ 0
  · rw [fillRatio_of_empty b hempty]
    decide
  · have hratio : b.fillRatio = Scalar.clamp (b.current / b.most) 0 1 := if_neg hempty
    rw [hratio, Double.clamp_mem_iff (by decide)]
    exact Double.isNumber_clamp_iff (by decide)

namespace Instance

variable {K : BarReading → Prop} {i j : Instance Float}

/-- The bar of an instance is gauged, if it has one. -/
def IsGauged (K : BarReading → Prop) (i : Instance Float) : Prop :=
  ∀ b, i.object.appearance.bar? = some b → b.IsGauged K

theorem IsGauged.congr (h : i.IsGauged K)
    (hbar : j.object.appearance.bar? = i.object.appearance.bar?) : j.IsGauged K := by
  rwa [IsGauged, hbar]

/-- Bars show numbers where all numbers are finite. -/
theorem isGauged_of_isFinite (h : i.object.IsFinite) : i.IsGauged K := by
  intro b hb
  have happearance := h.appearance
  rw [Appearance.bar?_eq_some_iff.1 hb] at happearance
  exact ⟨happearance.most, .inl (Double.isNumber_of_isFinite happearance.current)⟩

/-- A bar that is set to a variable shows a number if the variable does. -/
theorem IsGauged.syncBar (h : i.IsGauged K) {r : Roster Float} {globals : Variables Float}
    (hK : ∀ reading x, r.reading? globals reading = some x → Scalar.isNumber x = false →
      K reading) : (r.syncBar globals i).IsGauged K := by
  intro b hb
  rw [bar?_syncBar, Option.map_eq_some_iff] at hb
  rcases hb with ⟨c, hc, rfl⟩
  refine ⟨(h c hc).most, ?_⟩
  cases hx : c.reading.bind (r.reading? globals) with
  | none => exact (h c hc).current
  | some x =>
      rcases Option.bind_eq_some_iff.1 hx with ⟨reading, hreading, hx⟩
      cases hnumber : Scalar.isNumber x with
      | true => exact .inl hnumber
      | false => exact .inr ⟨reading, hreading, hK reading x hx hnumber⟩

/-- An action sets bars to the numbers that it has been given. -/
theorem IsGauged.of_result? (h : i.IsGauged K) {dt : Float} {order : Order Float}
    (horder : ∀ x, order = .setBar x → Scalar.isNumber x = true)
    (hj : order.result? dt i = some j) : j.IsGauged K := by
  intro b hb
  rw [Order.bar?_of_result? hj] at hb
  unfold Order.barAfter at hb
  split at hb
  · next x =>
    rcases Option.map_eq_some_iff.1 hb with ⟨c, hc, rfl⟩
    exact ⟨(h c hc).most, .inl (horder x rfl)⟩
  · exact h b hb

end Instance

end Playfield
