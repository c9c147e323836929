import Playfield.Frame.Document
import Playfield.Main
import Playfield.Scalar.Rational
import Playfield.Proofs.Session.RoundTrip
import Playfield.Proofs.Session.Finite
import Playfield.Proofs.Slot.Apart
import Playfield.Proofs.Slot.Interrupted
import Playfield.Proofs.Slot.Calls
import Playfield.Proofs.Slot.Mirror
import Playfield.Proofs.Session.Local
import Playfield.Proofs.Session.Origins
import Playfield.Proofs.Session.Distinct
import Playfield.Proofs.Frame.Hit
import Playfield.Proofs.Frame.Order
import Playfield.Proofs.Session.History
import Playfield.Proofs.Double.Order
import Playfield.Proofs.Session.Intervals
import Playfield.Proofs.Asset.Requested
import Playfield.Proofs.Instance.Pictures
import Playfield.Proofs.Session.Fetches
import Playfield.Proofs.Session.Pictures
import Playfield.Proofs.Audio.Ledger
import Playfield.Proofs.Session.Sound
import Playfield.Proofs.Asset.Interleaved
import Playfield.Proofs.Project.Saved
import Playfield.Proofs.Camera.Bounds
import Playfield.Proofs.Instance.Evolves
import Playfield.Proofs.Session.Lasting
import Playfield.Proofs.Instance.Matched
import Playfield.Proofs.Session.Sources
import Playfield.Proofs.Event.Active
import Playfield.Proofs.Session.Cursors
import Playfield.Proofs.Session.Veil
import Playfield.Proofs.Session.Inert
import Playfield.Proofs.Session.Paused
import Playfield.Proofs.Session.Substitution
import Playfield.Proofs.Session.Rounds
import Playfield.Proofs.Session.Idle
import Playfield.Proofs.Roster.Doomed
import Playfield.Proofs.Roster.Waiting
import Playfield.Proofs.Event.Places
import Playfield.Proofs.Lint.Census
import Playfield.Proofs.Lint.Faults
import Playfield.Proofs.Lint.Sounds
import Playfield.Proofs.Session.Dangling
import Playfield.Proofs.Session.Marks
import Playfield.Proofs.Frame.Pointer
import Playfield.Proofs.Roster.Bars
import Playfield.Proofs.Instance.Restored
import Playfield.Proofs.Audio.Diary
import Playfield.Proofs.Session.Assignments
import Playfield.Proofs.Instance.Overflow
import Playfield.Proofs.Session.Overflow
import Playfield.Proofs.Roster.Turrets
import Playfield.Proofs.Session.Lifetime
import Playfield.Proofs.Session.Gauges
import Playfield.Proofs.Camera.Calls
import Playfield.Proofs.Camera.Glides
import Playfield.Proofs.Session.Framing
import Playfield.Proofs.Session.Timers
import Playfield.Proofs.Camera.Draws
import Playfield.Proofs.Text.References
import Playfield.Proofs.Asset.Payload
import Playfield.Proofs.Value.Coherent
import Playfield.Proofs.Session.Collisions
import Playfield.Proofs.Roster.Movers
import Playfield.Proofs.Input.History
import Playfield.Proofs.Camera.Swings
