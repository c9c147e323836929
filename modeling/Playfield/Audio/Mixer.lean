import Playfield.Audio.Output
import Playfield.Dictionary

/-!
# The Mixer

Which sounds are playing, by name.

A game speaks of sounds by name, an output of playbacks by number. One sound can
be playing several times at once; so the mixer keeps a set of numbers for each
name. Music is apart from that: there is at most one piece, it is looped, and a
new piece ends the old one even if the new one cannot be started.

A name is kept only as long as something is playing under it.

## Main definitions

* `Mixer`: An output and what it is playing.
* `Mixer.play`, `Mixer.stop`, `Mixer.playMusic`, `Mixer.stopMusic`: What actions
  do.
* `Mixer.reap`: Forgets what has ended.
* `Mixer.isPlaying`: Whether a sound is heard, music included.

## Theorems

* `Mixer.music_stopMusic`: Stopped music is gone.
-/

namespace Playfield

/-- An output and what it is playing. -/
structure Mixer (B : Type) where
  output : B
  /-- The playbacks of each name, in ascending order. -/
  playing : Dictionary (List PlaybackId)
  music : Option (String × PlaybackId)

namespace Mixer

variable {B : Type}

/-- Nothing is playing. -/
def initial (output : B) : Mixer B := ⟨output, .empty, none⟩

/-- Adds a number to an ascending list. -/
def addId (id : PlaybackId) : List PlaybackId → List PlaybackId
  | [] => [id]
  | i :: is => if id < i then id :: i :: is else if id = i then i :: is else i :: addId id is

/-- At least one playback of a name is active, music included. -/
def isPlaying (m : Mixer B) (name : String) : Bool :=
  !((m.playing.get? name).getD []).isEmpty || (m.music.map (·.1)) == some name

/-- Forgets some playbacks of every name. -/
def forget (ended : List PlaybackId) (playing : Dictionary (List PlaybackId)) :
    Dictionary (List PlaybackId) :=
  (playing.mapValues fun ids => ids.filter (fun id => !ended.contains id)).filterValues
    fun ids => !ids.isEmpty

section Operations

variable {R : Type} [AudioOutput R B]

/-- Plays a clip once. A clip that is not there is not played. -/
def play (m : Mixer B) (name : String) (clip : Option Asset) : Mixer B :=
  match clip with
  | none => m
  | some clip =>
    match AudioOutput.start m.output clip false with
    | (output, none) => { m with output := output }
    | (output, some id) =>
      let ids := addId id ((m.playing.get? name).getD [])
      { m with output := output, playing := m.playing.insert name ids }

/-- Stops every playback of a name. -/
def stop (m : Mixer B) (name : String) : Mixer B :=
  { m with
    output := ((m.playing.get? name).getD []).foldl AudioOutput.stop m.output
    playing := m.playing.erase name }

/-- Stops the music. -/
def stopMusic (m : Mixer B) : Mixer B :=
  match m.music with
  | none => m
  | some (_, id) => { m with output := AudioOutput.stop m.output id, music := none }

/-- Stops the music and plays another clip as music. -/
def playMusic (m : Mixer B) (name : String) (clip : Option Asset) : Mixer B :=
  let m := m.stopMusic
  match clip with
  | none => m
  | some clip =>
    match AudioOutput.start m.output clip true with
    | (output, none) => { m with output := output }
    | (output, some id) => { m with output := output, music := some (name, id) }

/-- Sets the volume of everything. -/
def setVolume (m : Mixer B) (volume : R) : Mixer B :=
  { m with output := AudioOutput.setVolume m.output volume }

/-- Forgets the playbacks that have ended. -/
def reap (m : Mixer B) : Mixer B :=
  let (output, ended) := AudioOutput.drain m.output
  let m := { m with output := output }
  if ended.isEmpty then m else { m with playing := forget ended m.playing }

/-- Stops everything. -/
def stopAll (m : Mixer B) : Mixer B :=
  (m.playing.keys.foldl stop m).stopMusic

theorem music_stopMusic (m : Mixer B) : (m.stopMusic).music = none := by
  unfold stopMusic
  split <;> simp_all

end Operations

/-- Parts with commas between them. -/
def separated (parts : List String) : String := String.intercalate ", " parts

/-- A line that describes the mixer. -/
def describe (m : Mixer B) : String :=
  let id (i : PlaybackId) := "PlaybackId(" ++ toString i ++ ")"
  let entry (e : String × List PlaybackId) :=
    Text.quoted e.1 ++ ": \x7b" ++ separated (e.2.map id) ++ "\x7d"
  let music := match m.music with
    | none => "None"
    | some (name, i) => "Some((" ++ Text.quoted name ++ ", " ++ id i ++ "))"
  "Mixer \x7b playing: \x7b" ++ separated (m.playing.entries.map entry) ++ "\x7d, music: " ++
    music ++ ", .. \x7d"

end Mixer

end Playfield
