import Mathlib
import Playfield.Proofs.Audio.Ledger
import Playfield.Proofs.Session.Reachable

/-!
# Sessions and Sounds

A session loses no playback and stops none twice, and none outlives it.

Of all that a session does, a tick reaps its mixer, a sound action passes a command on, and
the end of the session stops everything. Everything else leaves the mixer alone
(`Session.Unheard`). So what calls to a mixer keep, calls to a session keep, and the ledger
of a mixer is the ledger of its session.

The end of a session that is closed already does nothing. That is enough: a session
is closed only by its end, and nothing can be started before it is entered again. So a
closed session is a silent one at any time, and this goes along with what is kept
(`Session.Keeping`).

## Main definitions

* `Session.Unheard`: The mixer and whether the session is closed are the same.
* `Session.Sounds`: What a part of a tick does to the mixer.
* `Session.Keeping`: A property of mixers, and silence when the session is closed.
* `Session.hear`: A call to a session whose output keeps a log.
* `Mixer.IsDone`: Everything has been stopped or has ended.

## Theorems

* `Session.sounds_perform`, `Session.sounds_tick`: Events do to a mixer only what can be
  done to it.
* `Session.Keeping.call`, `Session.Keeping.hearAll`: What is kept by mixers is kept by sessions.
* `Session.playbacks_accounted`: No playback is lost or stopped twice.
-/

namespace Playfield

namespace Session

variable {R B : Type} {P : Mixer B → Prop} {s t u : Session R B}

/-- The mixer and whether the session is closed are the same. -/
structure Unheard (s t : Session R B) : Prop where
  mixer : t.mixer = s.mixer
  closed : t.closed = s.closed

/-- What a part of a tick does to the mixer keeps a property. -/
structure Sounds (P : Mixer B → Prop) (s t : Session R B) : Prop where
  mixer : P s.mixer → P t.mixer
  closed : t.closed = s.closed

theorem Unheard.sounds (h : Unheard s t) : Sounds P s t :=
  ⟨fun hs => by rwa [h.mixer], h.closed⟩

theorem Sounds.trans (h : Sounds P s t) (h' : Sounds P t u) : Sounds P s u :=
  ⟨fun hs => h'.mixer (h.mixer hs), h'.closed.trans h.closed⟩

/-- A property of mixers, and silence when the session is closed. -/
structure Keeping (P : Mixer B → Prop) (s : Session R B) : Prop where
  mixer : P s.mixer
  silent : s.closed = true → s.mixer.IsSilent

theorem Keeping.unheard (h : Keeping P s) (hst : Unheard s t) : Keeping P t :=
  ⟨by rw [hst.mixer]; exact h.mixer, by rw [hst.mixer, hst.closed]; exact h.silent⟩

theorem unheard_withPicture (s : Session R B) (source : String) (i : Instance R) :
    Unheard s (s.withPicture source i).1 := by
  unfold withPicture
  split
  · exact ⟨rfl, rfl⟩
  · split <;> exact ⟨rfl, rfl⟩

theorem unheard_clearSave (s : Session R B) (slot : String) : Unheard s (s.clearSave slot).1 := by
  rcases exists_clearSave s slot with ⟨store, hstore⟩
  rw [hstore]
  exact ⟨rfl, rfl⟩

theorem unheard_registerAssets (s : Session R B) : Unheard s s.registerAssets := by
  rcases exists_registerAssets s with ⟨assets, sounds, done, hr⟩
  rw [hr]
  exact ⟨rfl, rfl⟩

section Mixers

variable [AudioOutput R B]

/-- When a session has ended, it is silent, whether it has been closed before or not. -/
theorem Keeping.silent_teardown (h : Keeping P s) : s.teardown.mixer.IsSilent := by
  unfold teardown
  split
  · next hclosed => exact h.silent hclosed
  · exact Mixer.isSilent_stopAll s.mixer

theorem Keeping.teardown (hP : Mixer.IsKept P) (h : Keeping P s) : Keeping P s.teardown := by
  refine ⟨?_, fun _ => h.silent_teardown⟩
  unfold Session.teardown
  split
  · exact h.mixer
  · exact hP.stopAll h.mixer

end Mixers

variable [Scalar R]

theorem Keeping.enter (h : Keeping P s) (id : Option String) : Keeping P (s.enter id).1 := by
  have hregistered := h.unheard (unheard_registerAssets s)
  cases hscene : s.registerAssets.findScene id with
  | error e =>
      rw [enter_of_error hscene]
      exact hregistered
  | ok scene =>
      rw [enter_of_ok hscene]
      refine ⟨hregistered.mixer, fun hclosed => ?_⟩
      cases hclosed

theorem sounds_sound [AudioOutput R B] (hP : Mixer.IsKept P) (s : Session R B)
    (c : SoundCommand R) : Sounds P s (s.sound c) := by
  refine ⟨fun hs => ?_, rfl⟩
  cases c
  case play name => exact hP.play hs name _
  case stop name => exact hP.stop hs name
  case music name => exact hP.playMusic hs name _
  case stopMusic => exact hP.stopMusic hs
  case volume v => exact hP.setVolume hs _

variable [Numeral R]

theorem unheard_save [DecidableEq R] (s : Session R B) (slot : String) :
    Unheard s (s.save slot).1 := by
  rcases exists_save s slot with ⟨store, hstore⟩
  rw [hstore]
  exact ⟨rfl, rfl⟩

theorem unheard_load (s : Session R B) (slot : String) : Unheard s (s.load slot).1 := by
  rcases load_cases s slot with ⟨e, hload⟩ | ⟨text, save, scene, _, _, _, hload⟩
  · rw [hload]
    exact ⟨rfl, rfl⟩
  · rw [hload]
    exact ⟨rfl, rfl⟩

theorem unheard_conclude (s : Session R B) (dt : R) : Unheard s (conclude dt s).1 := by
  rcases request_cases s with ⟨slot, hl, hload⟩ | ⟨hl, ⟨id, scene, hs, hscene⟩ | hs⟩
  · rw [conclude_of_loaded _ hl hload]
    exact ⟨(unheard_load s slot).mixer, (unheard_load s slot).closed⟩
  · rw [conclude_of_changed _ hl hs hscene]
    exact ⟨rfl, rfl⟩
  · rw [conclude_of_advanced _ hl hs]
    exact ⟨rfl, rfl⟩

variable [Planar R]

theorem unheard_change? {s t : Session R B} {id : String} {dt : R} {order : Order R}
    (h : s.change? id dt order = some t) : Unheard s t := by
  simp only [change?, Option.map_eq_some_iff] at h
  rcases h with ⟨j, _, rfl⟩
  exact ⟨rfl, rfl⟩

theorem unheard_change (s : Session R B) (id : String) (dt : R) (order : Order R) :
    Unheard s (s.change id dt order) := by
  unfold change
  cases h : s.change? id dt order with
  | none => exact ⟨rfl, rfl⟩
  | some t => exact unheard_change? h

theorem unheard_affect (s : Session R B) (binding : Option Binding) (dt : R) (id : String)
    (e : Effect R) : Unheard s (s.affect binding dt id e) := by
  cases e
  case destroy =>
    simp only [affect, destroy]
    split <;> exact ⟨rfl, rfl⟩
  case setSprite source =>
    simp only [affect, setPicture]
    split
    · next t h => exact ⟨(unheard_change? h).mixer, (unheard_change? h).closed⟩
    · exact ⟨rfl, rfl⟩
  case fire bullet point =>
    simp only [affect, fire]
    split <;> exact ⟨rfl, rfl⟩
  -- The other effects change one instance, or nothing.
  all_goals
    simp only [affect]
    split
    · exact unheard_change s id dt _
    · exact ⟨rfl, rfl⟩

variable [AudioOutput R B] [DecidableEq R]

/-- Only a sound action does something to the mixer. -/
theorem sounds_perform (hP : Mixer.IsKept P) (s : Session R B) (binding : Option Binding) (dt : R)
    (a : Action R) : Sounds P s (perform binding dt s a) := by
  rcases a with ⟨id, kind⟩
  cases kind <;> simp only [perform]
  case object target e => exact (unheard_affect s binding dt _ e).sounds
  case create c =>
    unfold create
    split
    · have hpicture := unheard_withPicture s c.sprite
      exact Unheard.sounds ⟨(hpicture _).mixer, (hpicture _).closed⟩
    · exact Unheard.sounds ⟨rfl, rfl⟩
  case sound c => exact sounds_sound hP s c
  case changeGlobal name op value =>
    unfold changeGlobal
    split <;> exact Unheard.sounds ⟨rfl, rfl⟩
  case save slot => exact (unheard_save s slot).sounds
  case clearSave slot => exact (unheard_clearSave s slot).sounds
  all_goals exact Unheard.sounds ⟨rfl, rfl⟩

theorem sounds_runEvents (hP : Mixer.IsKept P) (s : Session R B) (dt : R) :
    Sounds P s (runEvents dt s) := by
  have haccount : Account fun (s : Session R B) (_ : List (Deed R B)) t => Sounds P s t :=
    ⟨fun _ => ⟨id, rfl⟩, Sounds.trans⟩
  exact runEvents_account haccount (fun _ _ => ⟨id, rfl⟩)
    (fun s binding a => sounds_perform hP s binding dt a) s

/-- A tick reaps the mixer, and then the events use it. -/
theorem sounds_tick (hP : Mixer.IsKept P) (s : Session R B) (dt : R) :
    Sounds P s (s.tick dt).1 := by
  rcases tick_cases s dt with ⟨_, input, count, htick⟩ | ⟨_, htick⟩
  · rw [htick]
    exact Unheard.sounds ⟨rfl, rfl⟩
  · have hbegun : Sounds P s (s.begun dt) := ⟨hP.reap, rfl⟩
    rw [htick]
    exact (hbegun.trans (sounds_runEvents hP (s.begun dt) _)).trans
      (unheard_conclude (s.passed dt) _).sounds

theorem Keeping.tick (hP : Mixer.IsKept P) (h : Keeping P s) (dt : R) :
    Keeping P (s.tick dt).1 := by
  refine ⟨(sounds_tick hP s dt).mixer h.mixer, fun hclosed => ?_⟩
  -- A closed session does not change.
  rw [(sounds_tick hP s dt).closed] at hclosed
  rw [tick_closed s dt hclosed]
  exact h.silent hclosed

/-- What is kept by mixers is kept by calls to a session, if the output keeps it when it
    goes on by itself. -/
theorem Keeping.call (hP : Mixer.IsKept P) (h : Keeping P s) (c : HostCall R B)
    (hplayed : ∀ output, c = .played output → P { s.mixer with output := output }) :
    Keeping P (s.call c) := by
  cases c
  case enter scene => exact h.enter scene
  case tick dt => exact h.tick hP dt
  case save slot => exact h.unheard (unheard_save s slot)
  case load slot => exact h.unheard (unheard_load s slot)
  case clearSave slot => exact h.unheard (unheard_clearSave s slot)
  case teardown => exact h.teardown hP
  case click pixel =>
    have hclick : Unheard s (s.click pixel) := by
      unfold click
      split <;> exact ⟨rfl, rfl⟩
    exact h.unheard hclick
  case played output => exact ⟨hplayed output rfl, h.silent⟩
  -- Input, messages and decoders have nothing to do with sound.
  all_goals exact h.unheard ⟨rfl, rfl⟩

end Session

/-- The same call for an output with a log, which nothing but the mixer writes. -/
def HostCall.recorded {R B : Type} (log : AudioLog) : HostCall R B → HostCall R (Recorded B)
  | .enter scene => .enter scene
  | .input e => .input e
  | .pointer pixel => .pointer pixel
  | .click pixel => .click pixel
  | .dismissPopup => .dismissPopup
  | .tick dt => .tick dt
  | .save slot => .save slot
  | .load slot => .load slot
  | .clearSave slot => .clearSave slot
  | .teardown => .teardown
  | .decoded d => .decoded d
  | .played output => .played ⟨output, log⟩

/-- Everything that has been started has been stopped or has ended, and nothing is heard. -/
structure Mixer.IsDone {B : Type} (m : Mixer (Recorded B)) : Prop where
  settled : AudioLog.Settled m.output.log
  silent : ∀ name, m.isPlaying name = false
  music : m.music = none

theorem Mixer.Balanced.isDone {B : Type} {m : Mixer (Recorded B)} (h : m.Balanced)
    (hsilent : m.IsSilent) (hfresh : AudioLog.Fresh m.output.log) : m.IsDone :=
  ⟨h.settled hsilent hfresh, hsilent.spec.1, hsilent.spec.2⟩

namespace Session

/-- A session that starts is open, and nothing has been started. -/
theorem keeping_start {R B : Type} [Scalar R] {s : Session R (Recorded B)}
    {project : Project R} {config : Config R} {slots : SlotStore} {output : B}
    {supply : Supply} (h : start project config slots (⟨output, []⟩ : Recorded B) supply = .ok s) :
    Keeping Mixer.Balanced s := by
  unfold start at h
  split at h
  · cases h
  · cases h
    refine ⟨Mixer.balanced_initial output, fun hclosed => ?_⟩
    cases hclosed

variable {R B : Type} [Scalar R] [Numeral R] [Planar R] [AudioOutput R B] [DecidableEq R]

/-- A call to a session whose output keeps a log. -/
def hear (s : Session R (Recorded B)) (c : HostCall R B) : Session R (Recorded B) :=
  s.call (c.recorded s.mixer.output.log)

/-- Calls to a session whose output keeps a log. -/
def hearAll (s : Session R (Recorded B)) (calls : List (HostCall R B)) :
    Session R (Recorded B) :=
  calls.foldl hear s

variable {s : Session R (Recorded B)}

theorem Keeping.hear (h : Keeping Mixer.Balanced s) (c : HostCall R B) :
    Keeping Mixer.Balanced (s.hear c) := by
  refine h.call Mixer.isKept_balanced _ fun output hc => ?_
  -- An output that goes on by itself writes nothing.
  cases c <;> cases hc
  exact h.mixer

theorem Keeping.hearAll (h : Keeping Mixer.Balanced s) (calls : List (HostCall R B)) :
    Keeping Mixer.Balanced (s.hearAll calls) := by
  induction calls generalizing s with
  | nil => exact h
  | cons c calls ih => exact ih (h.hear c)

/-- No playback is lost or stopped twice, as long as the output gives new numbers: only
    what has been started is stopped, and only once, a looped playback is started only when
    all the earlier ones have been stopped, and when everything has been stopped or the
    session has ended, nothing is left. The log from which this is read off changes nothing
    for the mixer. -/
theorem playbacks_accounted :
    (∀ (output : B) (calls : List (MixerCall R B)),
      let m := (Mixer.initial (⟨output, []⟩ : Recorded B)).hearAll calls
      m.plain = (Mixer.initial output).run calls ∧
        (AudioLog.Fresh m.output.log → AudioLog.Orderly m.output.log ∧
          (calls.getLast? = some .stopAll → m.IsDone))) ∧
    ∀ (project : Project R) (config : Config R) (slots : SlotStore) (output : B) (supply : Supply)
      (s : Session R (Recorded B)) (calls : List (HostCall R B)),
      start project config slots ⟨output, []⟩ supply = .ok s →
      let t := s.hearAll calls
      AudioLog.Fresh t.mixer.output.log → AudioLog.Orderly t.mixer.output.log ∧
        (calls.getLast? = some .teardown → t.mixer.IsDone) := by
  refine ⟨?_, ?_⟩
  · intro output calls m
    refine ⟨Mixer.plain_hearAll _ calls, fun hfresh => ?_⟩
    have hbalanced : m.Balanced := (Mixer.balanced_initial output).hearAll calls
    refine ⟨(hbalanced hfresh).orderly, fun hlast => hbalanced.isDone ?_ hfresh⟩
    rcases List.getLast?_eq_some_iff.1 hlast with ⟨before, rfl⟩
    have hend : (Mixer.initial (⟨output, []⟩ : Recorded B)).hearAll (before ++ [.stopAll]) =
        ((Mixer.initial ⟨output, []⟩).hearAll before).stopAll := List.foldl_concat ..
    have hsilent := Mixer.isSilent_stopAll ((Mixer.initial ⟨output, []⟩).hearAll before)
    rwa [← hend] at hsilent
  · intro project config slots output supply s calls hstart t hfresh
    have hkeeping := (keeping_start hstart).hearAll calls
    refine ⟨(hkeeping.mixer hfresh).orderly, fun hlast => hkeeping.mixer.isDone ?_ hfresh⟩
    rcases List.getLast?_eq_some_iff.1 hlast with ⟨before, rfl⟩
    have hend : s.hearAll (before ++ [.teardown]) = (s.hearAll before).teardown :=
      List.foldl_concat ..
    exact hend ▸ ((keeping_start hstart).hearAll before).silent_teardown

end Session

/-- A project that starts a piece of music in every tick. -/
def Project.humming {R : Type} [Scalar R] : Project R :=
  let hum : Action R := ⟨"1", .sound (.music "hum")⟩
  ⟨.initial, [⟨"main", "Main", [⟨"Main", true, ⟨1, 1⟩⟩], [],
    [.event ⟨"always", "Always", none, [], [hum]⟩]⟩],
    [⟨"hum", "data:audio/wav;base64,AAAA", none, none⟩], .empty⟩

/-- A session of that project that has not begun yet. Sounds are decoded at once. -/
def Session.humming : Session Float (Recorded (SilentOutput Float)) :=
  (Session.start .humming { Config.ofSettings .initial with decodeMode := .inline }
    (.memory .empty) ⟨.initial, []⟩ ⟨fun _ => "", fun _ => 0, 0, 0⟩).toOption.get rfl

namespace Session

theorem start_humming :
    start .humming { Config.ofSettings .initial with decodeMode := .inline } (.memory .empty)
      ⟨SilentOutput.initial, []⟩ ⟨fun _ => "", fun _ => 0, 0, 0⟩ = .ok humming := rfl

/-- A sound is played twice and ends by itself, and a piece of music is stopped with
    everything else. Of the music that is started in each tick of a session, the second
    tick stops that of the first, and the end that of the second. -/
theorem playbacks_accounted_humming :
    let clip : Asset := ⟨.of "hum", .audio, "audio/wav", 3⟩
    let m := (Mixer.initial (⟨.initial, []⟩ : Recorded (SilentOutput Float))).hearAll
      [.play "hum" clip, .play "hum" clip, .reap, .playMusic "hum" clip, .stopAll]
    let t := humming.hearAll [.enter none, .tick 0, .tick 0, .teardown]
    (m.output.log = [.start false (some 1), .start false (some 2), .drain [1, 2],
        .start true (some 3), .stop 3] ∧ AudioLog.Orderly m.output.log ∧ m.IsDone) ∧
      t.mixer.output.log = [.drain [], .start true (some 1), .drain [], .stop 1,
        .start true (some 2), .stop 2] ∧
      AudioLog.Orderly t.mixer.output.log ∧ t.mixer.IsDone := by
  intro clip m t
  have hm := playbacks_accounted (R := Float) |>.1 SilentOutput.initial
    [.play "hum" clip, .play "hum" clip, .reap, .playMusic "hum" clip, .stopAll]
    |>.2 (by decide +kernel)
  have ht := playbacks_accounted.2 _ _ _ _ _ _ [.enter none, .tick 0, .tick 0, .teardown]
    start_humming (by decide +kernel)
  exact ⟨⟨by decide +kernel, hm.1, hm.2 rfl⟩, by decide +kernel, ht.1, ht.2 rfl⟩

end Session

end Playfield
