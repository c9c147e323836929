import Mathlib
import Playfield.Proofs.Instance.Animated
import Playfield.Session.Host

/-!
# Ticks That Are Played

Which ticks come to their events, and what a tick is that does.

Most ticks are played: first everything steps that moves by itself, then the events run, and
then the tick is concluded. There are three that are not. The session is closed, or a message
is open, or an animation has no number for its next frame. All of them leave a session that
differs from the one before in its input and its count of ticks only (`Session.tick_cases`).

What a tick does before its events is a partial function, for the sake of the third case.
Nearly all that is to be said of it is about the first two steps, or about instances one by
one. So it is made total (`Session.begun`), as `Instance.animate` is, and is what the events
find in every tick that is played (`Session.begun?_eq`).

## Main definitions

* `Session.begun?`, `Session.begun`, `Session.passed`: A tick before and after its events.
* `Session.moving`: The instances whose animations a tick moves.
* `Session.idles`: A tick does not come to its events.
* `Session.Overflows`: A tick comes to no end.

## Theorems

* `Session.begun?_eq`: What the events find.
* `Session.tick_eq_conclude`: What is left of a tick after its events.
* `Session.tick_of_idles`, `Session.tick_cases`: A tick that is not played changes next to
  nothing.
* `Session.idles_eq_false_iff`: Which ticks are played.
-/

namespace Playfield

namespace Session

variable {R B : Type} [Scalar R] [Numeral R] [Planar R]

/-- The instances whose animations a tick moves: their behaviors have acted, and their bars
    show what they have to. -/
def moving (s : Session R B) (dt : R) : List (Instance R) :=
  ((s.roster.step s.scene s.input dt s.supply).1.syncBars s.globals).live

section Conclusions

variable {t : Session R B} {dt : R}

omit [Planar R] in
/-- What follows the events comes to an end. -/
theorem conclude_ne_overflowed (dt : R) (t : Session R B) : (conclude dt t).2 ≠ .overflowed := by
  have hsettle : ∀ u : Session R B, u.settle.2 ≠ .overflowed := by
    intro u
    unfold settle
    dsimp only
    split <;> exact nofun
  have hreconcile : t.reconcile.2 ≠ .overflowed := by
    unfold reconcile
    dsimp only
    split
    · exact hsettle _
    · split
      · exact nofun
      · exact hsettle _
  exact hreconcile

end Conclusions

variable [AudioOutput R B]

/-- The session when the events of a tick begin, if the tick comes so far. -/
def begun? (s : Session R B) (dt : R) : Option (Session R B) :=
  simulate? (elapsedTime dt) { s with tickCount := s.tickCount + 1 }

/-- That session, where an animation that cannot be moved on stays as it is. -/
def begun (s : Session R B) (dt : R) : Session R B :=
  let (roster, supply) := s.roster.step s.scene s.input (elapsedTime dt) s.supply
  { s with
    tickCount := s.tickCount + 1
    clock := s.clock + elapsedTime dt
    mixer := s.mixer.reap
    camera := s.camera.beginTick
    roster := (roster.syncBars s.globals).animate (elapsedTime dt)
    supply := supply }

/-- What the events find, if no animation overflows. -/
theorem begun?_eq (s : Session R B) (dt : R) : s.begun? dt =
    if (s.moving (elapsedTime dt)).all (fun i => (i.animate? (elapsedTime dt)).isSome) then
      some (s.begun dt)
    else none := by
  have hroster := ((s.roster.step s.scene s.input (elapsedTime dt) s.supply).1.syncBars
    s.globals).animate?_eq (elapsedTime dt)
  rw [begun?, simulate?]
  dsimp only
  rw [hroster, apply_ite (Option.map _)]
  rfl

variable [DecidableEq R]

/-- A tick that does not come to its events: the session is closed, a message is open, or an
    animation overflows. -/
def idles (s : Session R B) (dt : R) : Bool :=
  s.closed || s.popup.isSome || (s.begun? dt).isNone

/-- The session when the events of a tick have run. -/
def passed (s : Session R B) (dt : R) : Session R B := runEvents (elapsedTime dt) (s.begun dt)

/-- The number of a frame overflows in a tick, and the tick comes to no end. -/
def Overflows (s : Session R B) (dt : R) : Prop := (s.tick dt).2 = .overflowed

variable {s : Session R B} {dt : R}

/-- An open session without a message is played. -/
theorem tick_of_open (hc : s.closed = false) (hp : s.popup = none) :
    s.tick dt = play (elapsedTime dt) { s with tickCount := s.tickCount + 1 } := by
  unfold tick
  rw [if_neg (by rw [hc]; exact Bool.false_ne_true)]
  dsimp only
  rw [if_neg (by rw [hp]; exact Bool.false_ne_true)]

/-- Of a tick that comes to no end only the count is known. -/
theorem tick_of_begun?_none (hc : s.closed = false) (hp : s.popup = none)
    (h : s.begun? dt = none) :
    s.tick dt = ({ s with tickCount := s.tickCount + 1 }, .overflowed) := by
  rw [begun?] at h
  rw [tick_of_open hc hp, play, h]

/-- A tick that comes to its events is concluded. -/
theorem tick_of_begun?_some (hc : s.closed = false) (hp : s.popup = none)
    (h : (s.begun? dt).isSome = true) : s.tick dt = conclude (elapsedTime dt) (s.passed dt) := by
  have hbegun : s.begun? dt = some (s.begun dt) := by
    rw [begun?_eq] at h ⊢
    split at h
    · next hall => exact if_pos hall
    · cases h
  rw [passed, tick_of_open hc hp, play, ← begun?, hbegun]

theorem overflows_iff_begun? :
    s.Overflows dt ↔ s.closed = false ∧ s.popup = none ∧ s.begun? dt = none := by
  unfold Overflows
  cases hc : s.closed with
  | true => simp [tick_closed s dt hc]
  | false =>
      cases hp : s.popup with
      | some p => simp [tick_popup s dt hc (by rw [hp]; rfl)]
      | none =>
          cases hb : s.begun? dt with
          | none => simp [tick_of_begun?_none hc hp hb]
          | some t =>
              rw [tick_of_begun?_some hc hp (by rw [hb]; rfl)]
              exact iff_of_false (conclude_ne_overflowed _ _) nofun

/-- A tick is played if the session is open, no message is shown and nothing overflows. -/
theorem idles_eq_false_iff :
    s.idles dt = false ↔ s.closed = false ∧ s.popup = none ∧ ¬ s.Overflows dt := by
  rw [overflows_iff_begun?, idles, Bool.or_eq_false_iff, Bool.or_eq_false_iff, and_assoc,
    Option.isSome_eq_false_iff, Option.isNone_iff_eq_none, Option.isNone_eq_false_iff,
    Option.isSome_iff_ne_none]
  tauto

/-- What is left of a tick that is played is its end. -/
theorem tick_eq_conclude (h : s.idles dt = false) :
    s.tick dt = conclude (elapsedTime dt) (s.passed dt) := by
  obtain ⟨hc, hp, hover⟩ := idles_eq_false_iff.1 h
  refine tick_of_begun?_some hc hp (Option.isSome_iff_ne_none.2 fun hb => ?_)
  exact hover (overflows_iff_begun?.2 ⟨hc, hp, hb⟩)

/-- A tick that is not played lets at most the input go on. -/
theorem tick_of_idles (h : s.idles dt = true) : ∃ input count,
    (input = s.input ∨ input = s.input.rotate) ∧
      (s.tick dt).1 = { s with input := input, tickCount := count } := by
  by_cases hc : s.closed = true
  · exact ⟨s.input, s.tickCount, .inl rfl, by rw [tick_closed s dt hc]⟩
  rw [Bool.not_eq_true] at hc
  by_cases hp : s.popup.isSome = true
  · exact ⟨_, _, .inr rfl, by rw [tick_popup s dt hc hp]⟩
  rw [Bool.not_eq_true, Option.isSome_eq_false_iff, Option.isNone_iff_eq_none] at hp
  have hb : s.begun? dt = none := by simpa [idles, hc, hp] using h
  exact ⟨_, _, .inl rfl, by rw [tick_of_begun?_none hc hp hb]⟩

/-- A tick is played, or it only lets the input go on. -/
theorem tick_cases (s : Session R B) (dt : R) :
    (s.idles dt = true ∧
      ∃ input count, (s.tick dt).1 = { s with input := input, tickCount := count }) ∨
    (¬ s.idles dt = true ∧ s.tick dt = conclude (elapsedTime dt) (s.passed dt)) := by
  cases h : s.idles dt with
  | false => exact .inr ⟨Bool.false_ne_true, tick_eq_conclude h⟩
  | true =>
      obtain ⟨input, count, -, htick⟩ := tick_of_idles h
      exact .inl ⟨rfl, input, count, htick⟩

end Session

end Playfield
