import Playfield.Session.Tick

/-!
# Hosts

What a host can do to a session.

A host calls a session as often as it likes and in any order, and between two
calls other things go on: a decoder in the background gets done, and an audio
output plays on by itself. All of this is a call here. Which sessions there can
be is then the question which sessions a list of calls can lead to.

A call that is refused, like a save that would not be read back, is a call like
any other. What the host is told about it does not matter to the session.

## Main definitions

* `HostCall`: What a host can do.
* `HostCall.isPassive`: A call that is not about a scene, time or slots.
* `Session.call`: What a call does.
* `Session.run`: What calls do one after the other.

## Theorems

* `Session.exists_call_of_isPassive`: What such calls leave alone.
* `Session.run_append`: Calls can be made in portions.
-/

namespace Playfield

/-- What a host can do, or what goes on while it does nothing. -/
inductive HostCall (R B : Type) where
  | enter (scene : Option String)
  | input (e : InputEvent)
  | pointer (pixel : Point R)
  | click (pixel : Point R)
  | dismissPopup
  | tick (dt : R)
  | save (slot : String)
  | load (slot : String)
  | clearSave (slot : String)
  | teardown
  /-- A decoder in the background is done. -/
  | decoded (d : Decoding)
  /-- The audio output has gone on by itself. -/
  | played (output : B)

/-- A call that is not about a scene, time or slots. -/
def HostCall.isPassive {R B : Type} : HostCall R B → Bool
  | .enter _ | .tick _ | .save _ | .load _ | .clearSave _ => false
  | .input _ | .pointer _ | .click _ | .dismissPopup | .teardown | .decoded _ | .played _ => true

namespace Session

variable {R B : Type} [Scalar R] [Numeral R] [Planar R] [AudioOutput R B] [DecidableEq R]

/-- What a call does. -/
def call (s : Session R B) : HostCall R B → Session R B
  | .enter scene => (s.enter scene).1
  | .input e => s.handleInput e
  | .pointer pixel => s.pointerMoved pixel
  | .click pixel => s.click pixel
  | .dismissPopup => s.dismissPopup
  | .tick dt => (s.tick dt).1
  | .save slot => (s.save slot).1
  | .load slot => (s.load slot).1
  | .clearSave slot => (s.clearSave slot).1
  | .teardown => s.teardown
  | .decoded d => { s with assets := s.assets.finish DataUrl.decode d }
  | .played output => { s with mixer := { s.mixer with output := output } }

/-- A passive call is about input, messages, assets and sound, or closes the session. -/
theorem exists_call_of_isPassive (s : Session R B) {c : HostCall R B} (h : c.isPassive = true) :
    ∃ input assets mixer popup closed, s.call c = { s with
      input := input, assets := assets, mixer := mixer, popup := popup, closed := closed } := by
  cases c <;> dsimp only [call]
  case input e => exact ⟨_, _, _, _, _, rfl⟩
  case pointer pixel => exact ⟨_, _, _, _, _, rfl⟩
  case click pixel =>
    unfold click
    split
    · exact ⟨_, _, _, _, _, rfl⟩
    · exact ⟨_, _, _, _, _, rfl⟩
  case dismissPopup => exact ⟨_, _, _, _, _, rfl⟩
  case teardown =>
    unfold teardown
    split
    · exact ⟨_, _, _, _, _, rfl⟩
    · exact ⟨_, _, _, _, _, rfl⟩
  case decoded d => exact ⟨_, _, _, _, _, rfl⟩
  case played output => exact ⟨_, _, _, _, _, rfl⟩
  all_goals cases h

/-- What calls do one after the other. -/
def run (s : Session R B) (calls : List (HostCall R B)) : Session R B := calls.foldl call s

theorem run_append (s : Session R B) (first later : List (HostCall R B)) :
    s.run (first ++ later) = (s.run first).run later :=
  List.foldl_append

end Session

end Playfield
