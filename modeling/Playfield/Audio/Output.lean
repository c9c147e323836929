import Playfield.Asset.Basic
import Playfield.Scalar.Basic

/-!
# Audio Outputs

What a host has to offer so that a game can be heard.

An output is asked to start a clip and answers with the number of the playback,
by which it can be stopped later. It may refuse to start. A playback that is not
looped ends by itself at some time, which the output reports when asked.

The silent output is the one for hosts without sound. Nothing is heard, and
everything that can end has ended by the time one asks.

## Main definitions

* `AudioOutput`: What an output can do.
* `SilentOutput`: The output of a host without sound.
-/

namespace Playfield

/-- The number of a playback. -/
abbrev PlaybackId : Type := Nat

/-- What an audio output can do. The output determines what volumes are made of. -/
class AudioOutput (R : outParam Type) (B : Type) where
  /-- Starts a clip, looped or not. -/
  start : B → Asset → Bool → B × Option PlaybackId
  stop : B → PlaybackId → B
  /-- Sets the volume of everything, from nothing to one. -/
  setVolume : B → R → B
  /-- The playbacks that have ended by themselves since they were last asked for. -/
  drain : B → B × List PlaybackId

/-- The output of a host without sound. -/
structure SilentOutput (R : Type) where
  started : Nat
  finished : List PlaybackId
  volume : R

namespace SilentOutput

variable {R : Type}

/-- Nothing has been started. -/
def initial [Scalar R] : SilentOutput R := ⟨0, [], 0⟩

/-- Counts a playback, which has already ended unless it is looped. -/
def start (o : SilentOutput R) (looped : Bool) : SilentOutput R × PlaybackId :=
  let id := o.started + 1
  ({ o with started := id, finished := if looped then o.finished else o.finished ++ [id] }, id)

/-- A stopped playback is not reported any more. -/
def stop (o : SilentOutput R) (id : PlaybackId) : SilentOutput R :=
  { o with finished := o.finished.filter (fun f => f != id) }

/-- Reports the playbacks that have ended. -/
def drain (o : SilentOutput R) : SilentOutput R × List PlaybackId :=
  ({ o with finished := [] }, o.finished)

instance : AudioOutput R (SilentOutput R) where
  start o _ looped := ((o.start looped).1, some (o.start looped).2)
  stop := stop
  setVolume o v := { o with volume := v }
  drain := drain

end SilentOutput

end Playfield
