import Mathlib
import Playfield.Proofs.Session.Sound

/-!
# Open Messages and Closed Sessions

When a session stands still.

A message holds up the game until it is dismissed. The host goes on to report keys, buttons
and the pointer, and goes on to call for ticks. Each of these calls is about the input or the
count of ticks and nothing else, so a game that has been held up for any time is the game
from before (`Session.StandsStill`). What becomes of the input is told by the same calls,
read as calls to an input (`Session.inputUnder`). A click is not among those that change it:
a message lies over everything that could be clicked.

A message is opened by an action, and a closed session does no actions. Its end takes the
message along. So no session is closed and shows a message, and a tick of a session that
shows one is always a pause.

A closed session stands still in a stronger sense. A tick does nothing at all to it, and
that lasts until a scene is entered.

## Main definitions

* `HostCall.isInputOrTick`, `HostCall.isEntry`: Kinds of calls.
* `Session.inputUnder`: What a call does to the input while a message is open.
* `Session.StandsStill`: What calls have done to a session with an open message.

## Theorems

* `Session.call_of_message`, `Session.run_of_message`: Only the input and the count of
  ticks go on.
* `Session.closed_tick`: A tick neither closes nor opens a session.
* `Session.message_of_closed_run`: A closed session shows no message.
* `Session.closed_run`: A session stays closed until a scene is entered.
* `Session.message_pauses`: An open message holds up the game, and a closed session is over.
-/

namespace Playfield

namespace HostCall

variable {R B : Type}

/-- The call is about the input, or it is a tick. -/
def isInputOrTick : HostCall R B → Bool
  | .input _ | .pointer _ | .click _ | .tick _ => true
  | .enter _ | .dismissPopup | .save _ | .load _ | .clearSave _ | .teardown | .decoded _
  | .played _ => false

/-- The call is a tick. -/
def isTick : HostCall R B → Bool
  | .tick _ => true
  | _ => false

/-- The call enters a scene. -/
def isEntry : HostCall R B → Bool
  | .enter _ => true
  | _ => false

end HostCall

namespace Session

variable {R B : Type} {s : Session R B}

theorem closed_teardown [AudioOutput R B] (s : Session R B) : s.teardown.closed = true := by
  unfold teardown
  split
  · next h => exact h
  · rfl

variable [Scalar R]

section Messages

/-- What a call does to the input while a message is open. A click is ignored. -/
def inputUnder (s : Session R B) (i : Input R) : HostCall R B → Input R
  | .input e => i.apply e
  | .pointer pixel => { i with pointer := s.camera.screenToWorld s.config.viewport pixel }
  | .tick _ => i.rotate
  | _ => i

theorem click_of_message (h : s.popup.isSome = true) (pixel : Point R) : s.click pixel = s := by
  unfold click
  rw [if_pos h]

/-- Under a message no object comes to be clicked, and a tick forgets the one that was. -/
theorem clicked_foldl_inputUnder (s : Session R B) (i : Input R) (calls : List (HostCall R B)) :
    (calls.foldl s.inputUnder i).clicked =
      if calls.any HostCall.isTick then none else i.clicked := by
  induction calls generalizing i with
  | nil => rfl
  | cons c calls ih =>
      rw [List.foldl_cons, ih, List.any_cons]
      cases c <;> try rfl
      case input e => cases e <;> rfl
      case tick dt => exact ite_self none

variable [Numeral R] [Planar R] [AudioOutput R B] [DecidableEq R]

/-- Every call that is about the input or a tick changes the input and the count of ticks and
    nothing else. -/
theorem call_of_message (hclosed : s.closed = false) (h : s.popup.isSome = true)
    {c : HostCall R B} (hc : c.isInputOrTick = true) :
    s.call c = { s with
      tickCount := s.tickCount + [c].countP HostCall.isTick
      input := s.inputUnder s.input c } := by
  cases c <;> dsimp only [call]
  case input e => rfl
  case pointer pixel => rfl
  case click pixel => exact click_of_message h pixel
  case tick dt => rw [tick_popup s dt hclosed h]; rfl
  all_goals cases hc

/-- However many there are of such calls, it is the input and the count of ticks. -/
theorem run_of_message (hclosed : s.closed = false) (h : s.popup.isSome = true)
    {calls : List (HostCall R B)} (hcalls : ∀ c ∈ calls, c.isInputOrTick = true) :
    s.run calls = { s with
      tickCount := s.tickCount + calls.countP HostCall.isTick
      input := calls.foldl s.inputUnder s.input } := by
  -- The message is still open after the first call, and input is tracked in the same way.
  induction calls generalizing s with
  | nil => rfl
  | cons c calls ih =>
      rw [List.forall_mem_cons] at hcalls
      have hrun : s.run (c :: calls) = (s.call c).run calls := rfl
      have hcount : (c :: calls).countP HostCall.isTick =
          [c].countP HostCall.isTick + calls.countP HostCall.isTick := by
        rw [← List.countP_append, List.singleton_append]
      have hcall := call_of_message hclosed h hcalls.1
      have hrest := ih (s := s.call c) (by rw [hcall]; exact hclosed) (by rw [hcall]; exact h)
        hcalls.2
      rw [hrun, hrest, hcall, hcount, ← Nat.add_assoc]
      rfl

/-- What calls about the input and ticks have done to a session with an open message. -/
structure StandsStill (s : Session R B) (calls : List (HostCall R B)) : Prop where
  run : s.run calls = { s with
    tickCount := s.tickCount + calls.countP HostCall.isTick
    input := calls.foldl s.inputUnder s.input }
  tick : ∀ dt, ((s.run calls).tick dt).2 = .paused
  click : ∀ pixel, (s.run calls).click pixel = s.run calls
  clicked : (s.run calls).input.clicked =
    if calls.any HostCall.isTick then none else s.input.clicked

theorem standsStill (hclosed : s.closed = false) (h : s.popup.isSome = true)
    {calls : List (HostCall R B)} (hcalls : ∀ c ∈ calls, c.isInputOrTick = true) :
    s.StandsStill calls := by
  have hrun := run_of_message hclosed h hcalls
  have hclosed' : (s.run calls).closed = false := by rw [hrun]; exact hclosed
  have h' : (s.run calls).popup.isSome = true := by rw [hrun]; exact h
  refine ⟨hrun, fun dt => ?_, click_of_message h', ?_⟩
  · rw [tick_popup _ dt hclosed' h']
  · rw [hrun]
    exact clicked_foldl_inputUnder s s.input calls

end Messages

section Ends

variable [Numeral R] [Planar R] [AudioOutput R B] [DecidableEq R]

/-- A tick neither closes nor opens a session. -/
theorem closed_tick (s : Session R B) (dt : R) : (s.tick dt).1.closed = s.closed :=
  -- Whatever a mixer does, it is of no account here.
  (sounds_tick (P := fun _ => True) ⟨fun _ _ _ => trivial, fun _ _ => trivial,
    fun _ _ _ => trivial, fun _ => trivial, fun _ _ => trivial, fun _ => trivial,
    fun _ => trivial⟩ s dt).closed

/-- A session that is closed stays so unless a scene is entered. -/
theorem closed_call (h : s.closed = true) {c : HostCall R B} (hc : c.isEntry = false) :
    (s.call c).closed = true := by
  cases c <;> dsimp only [call]
  case enter id => cases hc
  case tick dt => rw [closed_tick, h]
  case click pixel =>
    unfold click
    split <;> exact h
  case save slot => rw [(unheard_save s slot).closed, h]
  case load slot => rw [(unheard_load s slot).closed, h]
  case clearSave slot => rw [(unheard_clearSave s slot).closed, h]
  case teardown => exact closed_teardown s
  all_goals exact h

theorem closed_run (h : s.closed = true) {calls : List (HostCall R B)}
    (hcalls : ∀ c ∈ calls, c.isEntry = false) : (s.run calls).closed = true := by
  induction calls generalizing s with
  | nil => exact h
  | cons c calls ih =>
      rw [List.forall_mem_cons] at hcalls
      exact ih (closed_call h hcalls.1) hcalls.2

/-- Whatever is done to a session that shows no message when it is closed, it shows none
    when it is closed afterwards. -/
theorem message_of_closed_call (h : s.closed = true → s.popup = none) (c : HostCall R B) :
    (s.call c).closed = true → (s.call c).popup = none := by
  cases c <;> dsimp only [call]
  case enter id =>
    rcases exists_registerAssets s with ⟨assets, sounds, done, hr⟩
    cases hscene : s.registerAssets.findScene id with
    | error e =>
        rw [enter_of_error hscene, hr]
        exact h
    | ok scene =>
        rw [enter_of_ok hscene]
        intro hclosed
        cases hclosed
  case click pixel =>
    unfold click
    split <;> exact h
  case dismissPopup => exact fun _ => rfl
  case tick dt =>
    -- A message can be opened by a tick, but not by one of a closed session.
    intro hclosed
    rw [closed_tick] at hclosed
    rw [tick_closed s dt hclosed]
    exact h hclosed
  case save slot =>
    rcases exists_save s slot with ⟨store, hstore⟩
    rw [hstore]
    exact h
  case load slot =>
    rcases load_cases s slot with ⟨e, hload⟩ | ⟨text, save, scene, _, _, _, hload⟩
    · rw [hload]
      exact h
    · rw [hload]
      exact h
  case clearSave slot =>
    rcases exists_clearSave s slot with ⟨store, hstore⟩
    rw [hstore]
    exact h
  case teardown =>
    unfold teardown
    split
    · exact h
    · exact fun _ => rfl
  all_goals exact h

theorem message_of_closed_run {project : Project R} {config : Config R} {slots : SlotStore}
    {output : B} {supply : Supply} (hstart : start project config slots output supply = .ok s)
    (calls : List (HostCall R B)) : (s.run calls).closed = true → (s.run calls).popup = none := by
  have hlater (calls : List (HostCall R B)) (t : Session R B)
      (h : t.closed = true → t.popup = none) :
      (t.run calls).closed = true → (t.run calls).popup = none := by
    induction calls generalizing t with
    | nil => exact h
    | cons c calls ih => exact ih _ (message_of_closed_call h c)
  refine hlater calls s ?_
  unfold start at hstart
  split at hstart
  · cases hstart
  · cases hstart
    exact fun _ => rfl

end Ends

variable [Numeral R] [Planar R] [AudioOutput R B] [DecidableEq R]

/-- An open message holds up the game: as long as there is nothing but input and ticks, each
    tick is a pause, only the input and the count of ticks go on, and no object is clicked.
    No session that shows a message is closed. And after its end a session stays as it is
    in every tick until a scene is entered. -/
theorem message_pauses :
    (∀ s : Session R B, s.closed = false → s.popup.isSome = true →
      ∀ calls : List (HostCall R B), (∀ c ∈ calls, c.isInputOrTick = true) →
        s.StandsStill calls) ∧
    (∀ (project : Project R) (config : Config R) (slots : SlotStore) (output : B)
      (supply : Supply) (s : Session R B) (calls : List (HostCall R B)),
      start project config slots output supply = .ok s →
        (s.run calls).popup.isSome = true → (s.run calls).closed = false) ∧
    ∀ (s : Session R B) (calls : List (HostCall R B)), (∀ c ∈ calls, c.isEntry = false) →
      ∀ dt, (s.teardown.run calls).tick dt = (s.teardown.run calls, .closed) := by
  refine ⟨fun s hclosed h calls hcalls => standsStill hclosed h hcalls, ?_, ?_⟩
  · intro project config slots output supply s calls hstart h
    rw [← Bool.not_eq_true]
    intro hclosed
    rw [message_of_closed_run hstart calls hclosed] at h
    cases h
  · intro s calls hcalls dt
    exact tick_closed _ dt (closed_run (closed_teardown s) hcalls)

/-- A tick opens a message. While it is read, a click is ignored and a key is tracked, and
    the session is over when it is closed. -/
theorem message_pauses_reading :
    let s : Session Float (SilentOutput Float) := .ofActions [⟨"1", .showPopup ⟨"", "Hi", "OK"⟩⟩]
    let t := s.run [.tick 1]
    let reading : List (HostCall Float (SilentOutput Float)) :=
      [.click ⟨1, 1⟩, .input (.keyDown "a"), .tick 1]
    t.popup.isSome = true ∧ t.closed = false ∧ t.StandsStill reading ∧
      (t.teardown.run reading).tick 1 = (t.teardown.run reading, .closed) := by
  intro s t reading
  have hopen : t.popup.isSome = true := by decide +kernel
  have hclosed : t.closed = false := message_pauses.2.1 (.ofActions
    [⟨"1", .showPopup ⟨"", "Hi", "OK"⟩⟩]) _ _ _ _ s [.tick 1] rfl hopen
  refine ⟨hopen, hclosed, ?_, ?_⟩
  · exact message_pauses.1 t hclosed hopen reading (by decide)
  · exact message_pauses.2.2 t reading (by decide) 1

end Session

end Playfield
