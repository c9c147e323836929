import Mathlib
import Playfield.Audio.Mixer

/-!
# The Ledger of Playbacks

A mixer neither loses a playback nor stops one twice.

A mixer is functional, so "stopped twice" is nothing that it could say about itself. What
an output has been asked for and what it has answered is therefore written down, by an
output that passes everything on to another one and keeps a log. The mixer works on it as
on any other output, and it can be read off the log what the mixer has done.

Two things are asked of a log. It is orderly if everything in it fits what is before it:
only what has been started is stopped, and not a second time, and a looped playback is
started only when all the earlier ones have been stopped. It is settled if every playback
has been stopped or reported after it was started.

That the output answers each start with a new number is a property of the log as well
(`AudioLog.Fresh`). Under it, what a mixer holds under the names of sounds and as music is
exactly what a log leaves open, each at one place only, and this is what each call
preserves (`AudioLog.Accounts`). A start adds a number at a place, a stop takes one away, and
a report takes some away from the sounds; a call is made of these.

## Main definitions

* `AudioEvent`, `AudioLog`: What an output has been asked for.
* `AudioLog.Orderly`, `AudioLog.Settled`: What is asked of a log.
* `AudioLog.Accounts`: What is held is what the log leaves open.
* `Recorded`: An output that keeps a log.
* `MixerCall`: What can be done to a mixer.
* `Mixer.hear`: A call to a mixer whose output keeps a log.

## Theorems

* `AudioLog.Accounts.refused`, `AudioLog.Accounts.started`, `AudioLog.Accounts.stop`,
  `AudioLog.Accounts.drain`: What each event does to what is held.
* `Mixer.Balanced.hear`, `Mixer.Balanced.hearAll`: Every call keeps the mixer balanced.
* `Mixer.Balanced.settled`: A mixer that holds nothing has a settled log.
* `Mixer.plain_hearAll`: A log changes nothing for the mixer.
-/

namespace Playfield

/-- What an output has been asked for, with its answer. -/
inductive AudioEvent where
  | start (looped : Bool) (answer : Option PlaybackId)
  | stop (id : PlaybackId)
  | drain (ended : List PlaybackId)
  deriving DecidableEq

/-- Events in the order in which they have happened. -/
abbrev AudioLog : Type := List AudioEvent

namespace AudioEvent

/-- The playback that has been started. -/
def started : AudioEvent → List PlaybackId
  | .start _ answer => answer.toList
  | _ => []

/-- The looped playback that has been started. -/
def looped : AudioEvent → List PlaybackId
  | .start true answer => answer.toList
  | _ => []

/-- The playback that has been stopped. -/
def stopped : AudioEvent → List PlaybackId
  | .stop id => [id]
  | _ => []

/-- The playbacks that have been reported to have ended. -/
def ended : AudioEvent → List PlaybackId
  | .drain ids => ids
  | _ => []

end AudioEvent

/-- A new number is put among the others. -/
theorem Mixer.addId_perm {id : PlaybackId} {ids : List PlaybackId} (h : id ∉ ids) :
    (addId id ids).Perm (id :: ids) := by
  induction ids with
  | nil => exact List.Perm.refl _
  | cons i is ih =>
      rw [List.mem_cons, not_or] at h
      unfold addId
      split
      · exact List.Perm.refl _
      · rw [if_neg h.1]
        exact ((ih h.2).cons i).trans (List.Perm.swap id i is)

namespace AudioLog

/-- The playbacks that have been started. -/
def started (log : AudioLog) : List PlaybackId := log.flatMap AudioEvent.started

/-- The looped playbacks that have been started. -/
def looped (log : AudioLog) : List PlaybackId := log.flatMap AudioEvent.looped

/-- The playbacks that have been stopped. -/
def stopped (log : AudioLog) : List PlaybackId := log.flatMap AudioEvent.stopped

/-- The playbacks that have been reported to have ended. -/
def ended (log : AudioLog) : List PlaybackId := log.flatMap AudioEvent.ended

/-- An event may come next: what is stopped has been started and has not been stopped, and
    a looped playback is started when all the earlier ones have been stopped. -/
def Admits (log : AudioLog) : AudioEvent → Prop
  | .start true _ => ∀ id ∈ looped log, id ∈ stopped log
  | .start false _ => True
  | .stop id => id ∈ started log ∧ id ∉ stopped log
  | .drain _ => True

/-- No number has been given twice. -/
def Fresh (log : AudioLog) : Prop := (started log).Nodup

instance (log : AudioLog) : Decidable (Fresh log) :=
  inferInstanceAs (Decidable (started log).Nodup)

/-- Every event may come after what is before it. -/
def Orderly (log : AudioLog) : Prop :=
  ∀ before e after, log = before ++ e :: after → Admits before e

/-- What has been started is one of some, or has been stopped or reported afterwards. -/
def SettledBut (isOpen : PlaybackId → Prop) (log : AudioLog) : Prop :=
  ∀ before looped id after, log = before ++ .start looped (some id) :: after →
    isOpen id ∨ id ∈ stopped after ∨ id ∈ ended after

/-- What has been started has been stopped or reported afterwards. -/
def Settled (log : AudioLog) : Prop :=
  ∀ before looped id after, log = before ++ .start looped (some id) :: after →
    id ∈ stopped after ∨ id ∈ ended after

variable {log : AudioLog} {e : AudioEvent}

theorem mem_started_concat {id : PlaybackId} :
    id ∈ started (log ++ [e]) ↔ id ∈ started log ∨ id ∈ e.started := by
  simp [started]

theorem mem_looped_concat {id : PlaybackId} :
    id ∈ looped (log ++ [e]) ↔ id ∈ looped log ∨ id ∈ e.looped := by
  simp [looped]

theorem mem_stopped_concat {id : PlaybackId} :
    id ∈ stopped (log ++ [e]) ↔ id ∈ stopped log ∨ id ∈ e.stopped := by
  simp [stopped]

theorem mem_ended_concat {id : PlaybackId} :
    id ∈ ended (log ++ [e]) ↔ id ∈ ended log ∨ id ∈ e.ended := by
  simp [ended]

theorem Fresh.of_append {later : AudioLog} (h : Fresh (log ++ later)) : Fresh log := by
  unfold Fresh started at h
  rw [List.flatMap_append] at h
  exact h.of_append_left

/-- The number of a new playback is new. -/
theorem Fresh.not_mem {looped : Bool} {id : PlaybackId}
    (h : Fresh (log ++ [.start looped (some id)])) : id ∉ started log := by
  unfold Fresh started at h
  rw [List.flatMap_append, List.nodup_append] at h
  intro hid
  exact h.2.2 id hid id (by simp [AudioEvent.started]) rfl

/-- A place in a longer list is in the list before or at its end. -/
theorem split_concat {α : Type} {xs before after : List α} {x y : α}
    (h : xs ++ [x] = before ++ y :: after) :
    (xs = before ∧ x = y) ∨ ∃ rest, after = rest ++ [x] ∧ xs = before ++ y :: rest := by
  rcases List.eq_nil_or_concat after with rfl | ⟨rest, z, rfl⟩
  · have hends := List.append_inj' h rfl
    exact .inl ⟨hends.1, List.singleton_inj.1 hends.2⟩
  · rw [List.concat_eq_append] at h ⊢
    rw [← List.cons_append, ← List.append_assoc] at h
    have hends := List.append_inj' h rfl
    exact .inr ⟨rest, by rw [List.singleton_inj.1 hends.2], hends.1⟩

theorem orderly_nil : Orderly [] := by
  intro before e after h
  exact absurd h.symm (List.append_ne_nil_of_right_ne_nil _ (List.cons_ne_nil _ _))

theorem Orderly.concat (h : Orderly log) (hnext : Admits log e) : Orderly (log ++ [e]) := by
  intro before x after heq
  rcases split_concat heq with ⟨rfl, rfl⟩ | ⟨rest, _, hlog⟩
  · exact hnext
  · exact h before x rest hlog

/-- Only what has been started is stopped. -/
theorem Orderly.started_of_stopped (h : Orderly log) {id : PlaybackId} (hid : id ∈ stopped log) :
    id ∈ started log := by
  rcases List.mem_flatMap.1 hid with ⟨e, he, hstop⟩
  rcases List.append_of_mem he with ⟨before, after, rfl⟩
  have hnext := h before e after rfl
  cases e with
  | start => cases hstop
  | drain => cases hstop
  | stop x =>
      rw [List.mem_singleton.1 hstop]
      unfold started
      rw [List.flatMap_append]
      exact List.mem_append_left _ hnext.1

variable {live live' : PlaybackId → Prop}

/-- An event that starts a playback opens one, and what it closes is stopped or reported by
    it. -/
theorem SettledBut.concat (h : SettledBut live log) (hnew : ∀ id ∈ e.started, live' id)
    (hold : ∀ id, live id → live' id ∨ id ∈ e.stopped ∨ id ∈ e.ended) :
    SettledBut live' (log ++ [e]) := by
  intro before looped id after heq
  rcases split_concat heq with ⟨_, rfl⟩ | ⟨rest, rfl, hlog⟩
  · exact .inl (hnew id (List.mem_singleton_self id))
  · rw [mem_stopped_concat, mem_ended_concat]
    rcases h before looped id rest hlog with hlive | hstopped | hended
    · rcases hold id hlive with hlive' | hstop | hend
      · exact .inl hlive'
      · exact .inr (.inl (.inr hstop))
      · exact .inr (.inr (.inr hend))
    · exact .inr (.inl (.inl hstopped))
    · exact .inr (.inr (.inl hended))

/-- What is held at each place: under the name of a sound, or as music. -/
abbrev Holding : Type := Option String → List PlaybackId

/-- Every playback is held once. -/
structure Holding.IsApart (held : Holding) : Prop where
  nodup : ∀ place, (held place).Nodup
  apart : ∀ {p q id}, id ∈ held p → id ∈ held q → p = q

variable {held held' : Holding} {place : Option String} {id : PlaybackId}

theorem Holding.IsApart.sublist (h : held.IsApart) (hsub : ∀ p, (held' p).Sublist (held p)) :
    held'.IsApart :=
  ⟨fun p => (h.nodup p).sublist (hsub p),
    fun hp hq => h.apart ((hsub _).subset hp) ((hsub _).subset hq)⟩

/-- What is held is what a log leaves open. -/
structure Accounts (log : AudioLog) (held : Holding) : Prop where
  orderly : Orderly log
  isApart : held.IsApart
  active : ∀ {p id}, id ∈ held p → id ∈ started log ∧ id ∉ stopped log
  settled : SettledBut (fun id => ∃ p, id ∈ held p) log
  /-- Music has a place of its own. -/
  music : ∀ id ∈ looped log, id ∈ stopped log ∨ id ∈ held none

theorem accounts_nil : Accounts [] fun _ => [] where
  orderly := orderly_nil
  isApart := ⟨fun _ => List.nodup_nil, fun h => absurd h List.not_mem_nil⟩
  active := fun h => absurd h List.not_mem_nil
  settled := by
    intro before looped id after h
    exact absurd h.symm (List.append_ne_nil_of_right_ne_nil _ (List.cons_ne_nil _ _))
  music := by simp [looped]

/-- When there is no music, another piece may be started. -/
theorem Accounts.admits_start (h : Accounts log held) {looped : Bool} (answer : Option PlaybackId)
    (hmusic : looped = true → held none = []) : Admits log (.start looped answer) := by
  cases looped with
  | false => trivial
  | true =>
      intro id hid
      refine (h.music id hid).resolve_right ?_
      rw [hmusic rfl]
      exact List.not_mem_nil

/-- A start that is refused changes nothing. -/
theorem Accounts.refused (h : Accounts log held) {looped : Bool}
    (hmusic : looped = true → held none = []) :
    Accounts (log ++ [.start looped none]) held where
  orderly := h.orderly.concat (h.admits_start none hmusic)
  isApart := h.isApart
  active := by
    intro p id hid
    rw [mem_started_concat, mem_stopped_concat]
    exact ⟨.inl (h.active hid).1, by simp [AudioEvent.stopped, (h.active hid).2]⟩
  settled := h.settled.concat (by simp [AudioEvent.started]) fun id hid => .inl hid
  music := by
    intro id hid
    have hold : id ∈ AudioLog.looped log := by
      cases looped <;> simpa [mem_looped_concat, AudioEvent.looped] using hid
    rw [mem_stopped_concat]
    exact (h.music id hold).imp_left .inl

/-- A new number is held at the place of its kind. -/
theorem Accounts.started (h : Accounts log held) {looped : Bool}
    (hmusic : looped = true → place = none ∧ held none = [])
    (hfresh : id ∉ AudioLog.started log) :
    Accounts (log ++ [.start looped (some id)])
      (Function.update held place (Mixer.addId id (held place))) := by
  -- A number that has not been started is not held anywhere, and has not been stopped.
  have hnew (p : Option String) : id ∉ held p := fun hid => hfresh (h.active hid).1
  have hperm := Mixer.addId_perm (hnew place)
  have hmem (p : Option String) (x : PlaybackId) :
      x ∈ Function.update held place (Mixer.addId id (held place)) p ↔
        x ∈ held p ∨ (p = place ∧ x = id) := by
    by_cases hp : p = place
    · subst hp
      simp [hperm.mem_iff, or_comm]
    · simp [hp]
  refine ⟨h.orderly.concat (h.admits_start _ fun hl => (hmusic hl).2), ⟨?_, ?_⟩, ?_, ?_, ?_⟩
  · intro p
    by_cases hp : p = place
    · subst hp
      rw [Function.update_self, hperm.nodup_iff]
      exact List.nodup_cons.2 ⟨hnew p, h.isApart.nodup p⟩
    · rw [Function.update_of_ne hp]
      exact h.isApart.nodup p
  · intro p q x hx hy
    rcases (hmem p x).1 hx with hxp | ⟨hp, rfl⟩
    · rcases (hmem q x).1 hy with hxq | ⟨_, rfl⟩
      · exact h.isApart.apart hxp hxq
      · exact absurd hxp (hnew p)
    · rcases (hmem q x).1 hy with hxq | ⟨hq, _⟩
      · exact absurd hxq (hnew q)
      · rw [hp, hq]
  · intro p x hx
    rw [mem_started_concat, mem_stopped_concat]
    rcases (hmem p x).1 hx with hxp | ⟨_, rfl⟩
    · exact ⟨.inl (h.active hxp).1, by simp [AudioEvent.stopped, (h.active hxp).2]⟩
    · refine ⟨.inr (by simp [AudioEvent.started]), ?_⟩
      simpa [AudioEvent.stopped] using fun hx => hfresh (h.orderly.started_of_stopped hx)
  · refine h.settled.concat ?_ ?_
    · intro x hx
      have hxid : x = id := by simpa [AudioEvent.started] using hx
      exact ⟨place, (hmem place x).2 (.inr ⟨rfl, hxid⟩)⟩
    · rintro x ⟨p, hp⟩
      exact .inl ⟨p, (hmem p x).2 (.inl hp)⟩
  · intro x hx
    rw [hmem, mem_stopped_concat]
    rcases mem_looped_concat.1 hx with hold | hnow
    · exact (h.music x hold).imp .inl .inl
    · cases looped with
      | false => cases hnow
      | true =>
          have hxid : x = id := by simpa [AudioEvent.looped] using hnow
          exact .inr (.inr ⟨(hmusic rfl).1.symm, hxid⟩)

/-- What is held and stopped is not held any more. -/
theorem Accounts.stop (h : Accounts log held) {rest : List PlaybackId}
    (hheld : held place = id :: rest) :
    Accounts (log ++ [.stop id]) (Function.update held place rest) := by
  have hid : id ∈ held place := by simp [hheld]
  have hnodup := h.isApart.nodup place
  rw [hheld, List.nodup_cons] at hnodup
  -- Everything but the number itself is held where it was.
  have hmem (p : Option String) (x : PlaybackId) :
      x ∈ Function.update held place rest p ↔ x ∈ held p ∧ x ≠ id := by
    by_cases hp : p = place
    · subst hp
      rw [Function.update_self, hheld, List.mem_cons]
      refine ⟨fun hx => ⟨.inr hx, ?_⟩, fun hx => hx.1.resolve_left hx.2⟩
      rintro rfl
      exact hnodup.1 hx
    · rw [Function.update_of_ne hp, and_iff_left_of_imp]
      rintro hx rfl
      exact hp (h.isApart.apart hx hid)
  refine ⟨h.orderly.concat (h.active hid), h.isApart.sublist ?_, ?_, ?_, ?_⟩
  · intro p
    by_cases hp : p = place
    · subst hp
      rw [Function.update_self, hheld]
      exact List.sublist_cons_self id rest
    · rw [Function.update_of_ne hp]
  · intro p x hx
    have hx := (hmem p x).1 hx
    rw [mem_started_concat, mem_stopped_concat]
    exact ⟨.inl (h.active hx.1).1, by simp [AudioEvent.stopped, (h.active hx.1).2, hx.2]⟩
  · refine h.settled.concat (by simp [AudioEvent.started]) ?_
    rintro x ⟨p, hp⟩
    by_cases hx : x = id
    · exact .inr (.inl (by simp [AudioEvent.stopped, hx]))
    · exact .inl ⟨p, (hmem p x).2 ⟨hp, hx⟩⟩
  · intro x hx
    have hold : x ∈ looped log := by simpa [mem_looped_concat, AudioEvent.looped] using hx
    rw [hmem, mem_stopped_concat]
    by_cases hxid : x = id
    · exact .inl (.inr (by simp [AudioEvent.stopped, hxid]))
    · exact (h.music x hold).imp .inl fun hm => ⟨hm, hxid⟩

/-- All that is held at a place can be stopped, one after the other. -/
theorem Accounts.stopAll (h : Accounts log held) {ids : List PlaybackId}
    (hheld : held place = ids) :
    Accounts (log ++ ids.map .stop) (Function.update held place []) := by
  induction ids generalizing log held with
  | nil => rwa [List.map_nil, List.append_nil, ← hheld, Function.update_eq_self]
  | cons id ids ih =>
      have hrest := ih (h.stop hheld) (Function.update_self _ _ _)
      simpa [List.append_assoc] using hrest

/-- What has ended is forgotten, if it is a sound. -/
theorem Accounts.drain (h : Accounts log held) {ids : List PlaybackId}
    (hsub : ∀ p, (held' p).Sublist (held p)) (hkept : ∀ p, ∀ x ∈ held p, x ∈ held' p ∨ x ∈ ids)
    (hmusic : held' none = held none) : Accounts (log ++ [.drain ids]) held' where
  orderly := h.orderly.concat trivial
  isApart := h.isApart.sublist hsub
  active := by
    intro p x hx
    have hx := (hsub p).subset hx
    rw [mem_started_concat, mem_stopped_concat]
    exact ⟨.inl (h.active hx).1, by simp [AudioEvent.stopped, (h.active hx).2]⟩
  settled := by
    refine h.settled.concat (by simp [AudioEvent.started]) ?_
    rintro x ⟨p, hp⟩
    rcases hkept p x hp with hx | hx
    · exact .inl ⟨p, hx⟩
    · exact .inr (.inr hx)
  music := by
    intro x hx
    have hold : x ∈ looped log := by simpa [mem_looped_concat, AudioEvent.looped] using hx
    rw [hmusic, mem_stopped_concat]
    exact (h.music x hold).imp_left .inl

end AudioLog

/-- An output that passes everything on to another one and keeps a log. -/
structure Recorded (B : Type) where
  output : B
  log : AudioLog

section Recording

variable {R B : Type} [AudioOutput R B]

instance : AudioOutput R (Recorded B) where
  start o clip looped :=
    let (output, answer) := AudioOutput.start o.output clip looped
    (⟨output, o.log ++ [.start looped answer]⟩, answer)
  stop o id := ⟨AudioOutput.stop o.output id, o.log ++ [.stop id]⟩
  setVolume o volume := ⟨AudioOutput.setVolume o.output volume, o.log⟩
  drain o :=
    let (output, ended) := AudioOutput.drain o.output
    (⟨output, o.log ++ [.drain ended]⟩, ended)

variable {o : Recorded B} {output : B}

theorem Recorded.start_eq {clip : Asset} {looped : Bool} {answer : Option PlaybackId}
    (h : AudioOutput.start o.output clip looped = (output, answer)) :
    AudioOutput.start o clip looped = (⟨output, o.log ++ [.start looped answer]⟩, answer) := by
  have hpassed : AudioOutput.start o clip looped =
      (⟨(AudioOutput.start o.output clip looped).1,
        o.log ++ [.start looped (AudioOutput.start o.output clip looped).2]⟩,
        (AudioOutput.start o.output clip looped).2) := rfl
  rw [hpassed, h]

theorem Recorded.drain_eq {ended : List PlaybackId}
    (h : AudioOutput.drain o.output = (output, ended)) :
    AudioOutput.drain o = (⟨output, o.log ++ [.drain ended]⟩, ended) := by
  have hpassed : AudioOutput.drain o =
      (⟨(AudioOutput.drain o.output).1, o.log ++ [.drain (AudioOutput.drain o.output).2]⟩,
        (AudioOutput.drain o.output).2) := rfl
  rw [hpassed, h]

theorem Recorded.foldl_stop (ids : List PlaybackId) (o : Recorded B) :
    ids.foldl AudioOutput.stop o =
      ⟨ids.foldl AudioOutput.stop o.output, o.log ++ ids.map .stop⟩ := by
  induction ids generalizing o with
  | nil => simp
  | cons id ids ih =>
      rw [List.foldl_cons, ih]
      simp [AudioOutput.stop]

end Recording

/-- What can be done to a mixer, or what goes on while nothing is done to it. -/
inductive MixerCall (R B : Type) where
  | play (name : String) (clip : Option Asset)
  | stop (name : String)
  | playMusic (name : String) (clip : Option Asset)
  | stopMusic
  | setVolume (volume : R)
  | reap
  | stopAll
  /-- The output has gone on by itself. -/
  | played (output : B)

/-- The same call for an output with a log, which nothing but the mixer writes. -/
def MixerCall.recorded {R B : Type} (log : AudioLog) : MixerCall R B → MixerCall R (Recorded B)
  | .play name clip => .play name clip
  | .stop name => .stop name
  | .playMusic name clip => .playMusic name clip
  | .stopMusic => .stopMusic
  | .setVolume volume => .setVolume volume
  | .reap => .reap
  | .stopAll => .stopAll
  | .played output => .played ⟨output, log⟩

namespace Mixer

variable {R B : Type} [AudioOutput R B]

/-- What a call does. -/
def call (m : Mixer B) : MixerCall R B → Mixer B
  | .play name clip => m.play name clip
  | .stop name => m.stop name
  | .playMusic name clip => m.playMusic name clip
  | .stopMusic => m.stopMusic
  | .setVolume volume => m.setVolume volume
  | .reap => m.reap
  | .stopAll => m.stopAll
  | .played output => { m with output := output }

/-- What calls do one after the other. -/
def run (m : Mixer B) (calls : List (MixerCall R B)) : Mixer B := calls.foldl call m

/-- A call to a mixer whose output keeps a log. -/
def hear (m : Mixer (Recorded B)) (c : MixerCall R B) : Mixer (Recorded B) :=
  m.call (c.recorded m.output.log)

/-- Calls to a mixer whose output keeps a log. -/
def hearAll (m : Mixer (Recorded B)) (calls : List (MixerCall R B)) : Mixer (Recorded B) :=
  calls.foldl hear m

/-- What is held under each name, and as music. -/
def held {B : Type} (m : Mixer B) : AudioLog.Holding
  | some name => (m.playing.get? name).getD []
  | none => (m.music.map (·.2)).toList

/-- As long as all numbers are new, the log accounts for what is held. -/
def Balanced {B : Type} (m : Mixer (Recorded B)) : Prop :=
  AudioLog.Fresh m.output.log → AudioLog.Accounts m.output.log m.held

/-- Nothing is held under any name, and there is no music. -/
def IsSilent {B : Type} (m : Mixer B) : Prop := ∀ place, m.held place = []

section Holdings

variable {B : Type} (m : Mixer B) (output : B) (name : String) (id : PlaybackId)

theorem held_insert (ids : List PlaybackId) :
    ({ m with output := output, playing := m.playing.insert name ids } : Mixer B).held =
      Function.update m.held (some name) ids := by
  funext place
  cases place with
  | none => rfl
  | some other =>
      by_cases h : name = other
      · subst h
        simp [held, Dictionary.get?_insert_self]
      · simp [held, Dictionary.get?_insert_ne _ h, Function.update, Ne.symm h]

theorem held_erase :
    ({ m with output := output, playing := m.playing.erase name } : Mixer B).held =
      Function.update m.held (some name) [] := by
  funext place
  cases place with
  | none => rfl
  | some other =>
      by_cases h : name = other
      · subst h
        simp [held, Dictionary.get?_erase_self]
      · simp [held, Dictionary.get?_erase_ne _ h, Function.update, Ne.symm h]

theorem held_music (music : Option (String × PlaybackId)) :
    ({ m with output := output, music := music } : Mixer B).held =
      Function.update m.held none (music.map (·.2)).toList := by
  funext place
  cases place <;> rfl

theorem held_forget (ended : List PlaybackId) :
    ({ m with output := output, playing := forget ended m.playing } : Mixer B).held (some name) =
      (m.held (some name)).filter fun id => !ended.contains id := by
  simp only [held, forget, Dictionary.get?_filterValues, Dictionary.get?_mapValues]
  cases m.playing.get? name with
  | none => rfl
  | some ids =>
      rw [Option.map_some, Option.getD_some]
      -- A name that nothing is left of is forgotten, and so it has nothing.
      generalize ids.filter (fun id => !ended.contains id) = kept
      cases kept <;> rfl

variable {m}

/-- What is silent is not heard. -/
theorem IsSilent.spec (h : m.IsSilent) :
    (∀ name, m.isPlaying name = false) ∧ m.music = none := by
  have hmusic : m.music = none := by simpa [held] using h none
  refine ⟨fun name => ?_, hmusic⟩
  have hname : (m.playing.get? name).getD [] = [] := h (some name)
  simp [isPlaying, hname, hmusic]

end Holdings

section Recording

/-- The mixer without the log of its output. -/
def plain {B : Type} (m : Mixer (Recorded B)) : Mixer B := ⟨m.output.output, m.playing, m.music⟩

variable (m : Mixer (Recorded B))

theorem plain_play (name : String) (clip : Option Asset) :
    (m.play name clip).plain = m.plain.play name clip := by
  cases clip with
  | none => rfl
  | some clip =>
      rcases hstart : AudioOutput.start m.output.output clip false with ⟨output, _ | id⟩
      · simp only [plain, Mixer.play, Recorded.start_eq hstart, hstart]
      · simp only [plain, Mixer.play, Recorded.start_eq hstart, hstart]

theorem plain_stop (name : String) : (m.stop name).plain = m.plain.stop name := by
  simp only [plain, Mixer.stop, Recorded.foldl_stop]

theorem plain_stopMusic : m.stopMusic.plain = m.plain.stopMusic := by
  cases h : m.music with
  | none => simp only [plain, Mixer.stopMusic, h]
  | some music =>
      simp only [plain, Mixer.stopMusic, h]
      rfl

theorem plain_playMusic (name : String) (clip : Option Asset) :
    (m.playMusic name clip).plain = m.plain.playMusic name clip := by
  unfold playMusic
  rw [← plain_stopMusic]
  generalize m.stopMusic = m
  cases clip with
  | none => rfl
  | some clip =>
      rcases hstart : AudioOutput.start m.output.output clip true with ⟨output, _ | id⟩
      · simp only [plain, Recorded.start_eq hstart, hstart]
      · simp only [plain, Recorded.start_eq hstart, hstart]

theorem plain_reap : m.reap.plain = m.plain.reap := by
  rcases hdrain : AudioOutput.drain m.output.output with ⟨output, ended⟩
  simp only [plain, Mixer.reap, Recorded.drain_eq hdrain, hdrain]
  split <;> rfl

theorem plain_foldl_stop (names : List String) :
    (names.foldl Mixer.stop m).plain = names.foldl Mixer.stop m.plain := by
  induction names generalizing m with
  | nil => rfl
  | cons name names ih => rw [List.foldl_cons, ih, plain_stop, List.foldl_cons]

/-- A log changes nothing for the mixer. -/
theorem plain_hearAll (calls : List (MixerCall R B)) :
    (m.hearAll calls).plain = m.plain.run calls := by
  induction calls generalizing m with
  | nil => rfl
  | cons c calls ih =>
      have hcall : (m.hear c).plain = m.plain.call c := by
        cases c
        case play name clip => exact plain_play m name clip
        case stop name => exact plain_stop m name
        case playMusic name clip => exact plain_playMusic m name clip
        case stopMusic => exact plain_stopMusic m
        case setVolume volume => rfl
        case reap => exact plain_reap m
        case stopAll => exact (plain_stopMusic _).trans (congrArg stopMusic (plain_foldl_stop m _))
        case played output => rfl
      exact (ih (m.hear c)).trans (congrArg (run · calls) hcall)

end Recording

section Balance

variable {m : Mixer (Recorded B)}

theorem balanced_initial (output : B) : (initial (⟨output, []⟩ : Recorded B)).Balanced := by
  have hheld : (initial (⟨output, []⟩ : Recorded B)).held = fun _ => [] := by
    funext place
    cases place <;> rfl
  intro _
  rw [hheld]
  exact AudioLog.accounts_nil

theorem Balanced.play (h : m.Balanced) (name : String) (clip : Option Asset) :
    (m.play name clip).Balanced := by
  cases clip with
  | none => exact h
  | some clip =>
      rcases hstart : AudioOutput.start m.output.output clip false with ⟨output, _ | id⟩
      · simp only [Mixer.play, Recorded.start_eq hstart]
        intro hfresh
        exact (h hfresh.of_append).refused (by simp)
      · simp only [Mixer.play, Recorded.start_eq hstart]
        intro hfresh
        rw [held_insert]
        exact (h hfresh.of_append).started (by simp) hfresh.not_mem

theorem Balanced.stop (h : m.Balanced) (name : String) : (m.stop name).Balanced := by
  unfold Mixer.stop
  rw [Recorded.foldl_stop]
  intro hfresh
  rw [held_erase]
  exact (h hfresh.of_append).stopAll rfl

theorem Balanced.stopMusic (h : m.Balanced) : m.stopMusic.Balanced := by
  unfold Mixer.stopMusic
  split
  · exact h
  · next name id hmusic =>
    intro hfresh
    rw [held_music]
    refine (h (AudioLog.Fresh.of_append hfresh)).stop ?_
    simp [held, hmusic]

theorem Balanced.playMusic (h : m.Balanced) (name : String) (clip : Option Asset) :
    (m.playMusic name clip).Balanced := by
  have hold := h.stopMusic
  have hnone : m.stopMusic.held none = [] := by simp [held, music_stopMusic]
  unfold Mixer.playMusic
  generalize m.stopMusic = m' at hold hnone
  cases clip with
  | none => exact hold
  | some clip =>
      rcases hstart : AudioOutput.start m'.output.output clip true with ⟨output, _ | id⟩
      · simp only [Recorded.start_eq hstart]
        intro hfresh
        exact (hold hfresh.of_append).refused fun _ => hnone
      · simp only [Recorded.start_eq hstart]
        intro hfresh
        have hmusic : true = true → (none : Option String) = none ∧ m'.held none = [] :=
          fun _ => ⟨rfl, hnone⟩
        have hstarted := (hold hfresh.of_append).started hmusic hfresh.not_mem
        rw [hnone] at hstarted
        rw [held_music]
        exact hstarted

theorem Balanced.reap (h : m.Balanced) : m.reap.Balanced := by
  rcases hdrain : AudioOutput.drain m.output.output with ⟨output, ended⟩
  simp only [Mixer.reap, Recorded.drain_eq hdrain]
  split
  · next hended =>
    rw [List.isEmpty_iff] at hended
    subst hended
    intro hfresh
    exact (h hfresh.of_append).drain (fun _ => List.Sublist.refl _) (fun _ _ hx => .inl hx) rfl
  · intro hfresh
    refine (h (AudioLog.Fresh.of_append hfresh)).drain ?_ ?_ rfl
    · intro p
      cases p with
      | none => exact List.Sublist.refl _
      | some name =>
          rw [held_forget]
          exact List.filter_sublist
    · intro p x hx
      cases p with
      | none => exact .inl hx
      | some name =>
          rw [held_forget, List.mem_filter]
          by_cases hended : x ∈ ended
          · exact .inr hended
          · exact .inl ⟨hx, by simp [hended]⟩

theorem Balanced.foldl_stop (h : m.Balanced) (names : List String) :
    (names.foldl Mixer.stop m).Balanced := by
  induction names generalizing m with
  | nil => exact h
  | cons name names ih => exact ih (h.stop name)

theorem Balanced.stopAll (h : m.Balanced) : m.stopAll.Balanced :=
  (h.foldl_stop m.playing.keys).stopMusic

/-- What all that is done to mixers keeps. -/
structure IsKept (P : Mixer B → Prop) : Prop where
  play : ∀ {m}, P m → ∀ name clip, P (m.play name clip)
  stop : ∀ {m}, P m → ∀ name, P (m.stop name)
  playMusic : ∀ {m}, P m → ∀ name clip, P (m.playMusic name clip)
  stopMusic : ∀ {m}, P m → P m.stopMusic
  setVolume : ∀ {m}, P m → ∀ volume, P (m.setVolume volume)
  reap : ∀ {m}, P m → P m.reap
  stopAll : ∀ {m}, P m → P m.stopAll

theorem isKept_balanced : IsKept (Balanced (B := B)) where
  play := Balanced.play
  stop := Balanced.stop
  playMusic := Balanced.playMusic
  stopMusic := Balanced.stopMusic
  setVolume := fun h _ => h
  reap := Balanced.reap
  stopAll := Balanced.stopAll

theorem Balanced.hear (h : m.Balanced) (c : MixerCall R B) : (m.hear c).Balanced := by
  cases c
  case play name clip => exact h.play name clip
  case stop name => exact h.stop name
  case playMusic name clip => exact h.playMusic name clip
  case stopMusic => exact h.stopMusic
  case setVolume volume => exact h
  case reap => exact h.reap
  case stopAll => exact h.stopAll
  case played output => exact h

/-- However a mixer is used, it stays balanced. -/
theorem Balanced.hearAll (h : m.Balanced) (calls : List (MixerCall R B)) :
    (m.hearAll calls).Balanced := by
  induction calls generalizing m with
  | nil => exact h
  | cons c calls ih => exact ih (h.hear c)

/-- A balanced mixer that holds nothing has stopped everything or been told of its end. -/
theorem Balanced.settled (h : m.Balanced) (hsilent : m.IsSilent)
    (hfresh : AudioLog.Fresh m.output.log) : AudioLog.Settled m.output.log := by
  intro before looped id after hlog
  refine ((h hfresh).settled before looped id after hlog).resolve_left ?_
  rintro ⟨place, hid⟩
  rw [hsilent place] at hid
  exact absurd hid List.not_mem_nil

end Balance

section Silence

variable (m : Mixer B)

theorem held_foldl_stop (names : List String) (place : Option String)
    (h : m.held place = [] ∨ ∃ name ∈ names, place = some name) :
    (names.foldl stop m).held place = [] := by
  induction names generalizing m with
  | nil => exact h.resolve_right (by simp)
  | cons name names ih =>
      refine ih (m.stop name) ?_
      unfold stop
      rw [held_erase]
      by_cases hp : place = some name
      · exact .inl (by rw [hp, Function.update_self])
      · rw [Function.update_of_ne hp]
        refine h.imp_right ?_
        rintro ⟨other, hother, rfl⟩
        refine ⟨other, (List.mem_cons.1 hother).resolve_left ?_, rfl⟩
        rintro rfl
        exact hp rfl

theorem held_stopMusic : m.stopMusic.held = Function.update m.held none [] := by
  unfold stopMusic
  split
  · next h =>
    funext place
    cases place with
    | none => simp [held, h]
    | some name => rfl
  · rw [held_music]
    rfl

/-- When everything has been stopped, nothing is held. -/
theorem isSilent_stopAll : m.stopAll.IsSilent := by
  intro place
  unfold stopAll
  rw [held_stopMusic]
  cases place with
  | none => rw [Function.update_self]
  | some name =>
      rw [Function.update_of_ne (Option.some_ne_none name)]
      refine held_foldl_stop m _ _ ?_
      -- A name is among those that are gone through, or nothing is held under it.
      cases h : m.playing.get? name with
      | none => exact .inl (by simp [held, h])
      | some ids => exact .inr ⟨name, Dictionary.mem_keys_iff.2 (by simp [h]), rfl⟩

end Silence

end Mixer

end Playfield
