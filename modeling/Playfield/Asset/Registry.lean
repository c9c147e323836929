import Playfield.Asset.Basic

/-!
# The Asset Registry

Which sources have been asked for, and what has become of them.

A request never waits. It enters the source as pending and hands it to a
decoder, and the game goes on; whoever draws the asset looks up how far it is.
With inline decoding the decoder is done before the request returns. With
decoding in the background it may be done at any later time, and several
decoders may finish in any order. So what a registry keeps besides its table is
the set of sources that are being decoded (`inFlight`), and `finish` lets any one
of them end.

A source is only decoded if its id is new. So the first kind for which a source
is requested decides, and a source that has failed stays failed.

## Main definitions

* `AssetRegistry`: The table and what is in flight.
* `AssetRegistry.request`: Enters a source.
* `AssetRegistry.finish`: One decoder is done.
* `AssetRegistry.lookup`: What has become of a source.

## Theorems

* `AssetRegistry.request_known`: A known source is not decoded again.
-/

namespace Playfield

/-- What makes an asset of a source. -/
abbrev Decoder : Type := AssetId → AssetKind → String → Except AssetError Asset

/-- When a source is decoded. -/
inductive DecodeMode where
  | background
  | inline
  deriving DecidableEq

/-- A source that is being decoded. -/
structure Decoding where
  id : AssetId
  kind : AssetKind
  source : String
  deriving DecidableEq

/-- The requested sources, in the order of their first request, and those that
    are being decoded. -/
structure AssetRegistry where
  mode : DecodeMode
  entries : List (AssetId × AssetStatus)
  inFlight : List Decoding

namespace AssetRegistry

/-- No source has been requested. -/
def empty (mode : DecodeMode) : AssetRegistry := ⟨mode, [], []⟩

/-- The entry of an id. -/
def status? (r : AssetRegistry) (id : AssetId) : Option AssetStatus :=
  (r.entries.find? (fun e => e.1 == id)).map (·.2)

/-- What has become of an id. One that was never requested counts as failed. -/
def lookup (r : AssetRegistry) (id : AssetId) : AssetStatus := (r.status? id).getD .failed

/-- What has become of a source. -/
def lookupSource (r : AssetRegistry) (source : String) : AssetStatus := r.lookup (.of source)

/-- What a decoder makes of a source. -/
def outcome (decode : Decoder) (d : Decoding) : AssetStatus :=
  match decode d.id d.kind d.source with
  | .ok a => .ready a
  | .error _ => .failed

/-- Sets the status of an id. -/
def settle (r : AssetRegistry) (id : AssetId) (s : AssetStatus) : AssetRegistry :=
  { r with entries := r.entries.map fun e => if e.1 = id then (e.1, s) else e }

/-- One of the decoders is done. -/
def finish (decode : Decoder) (d : Decoding) (r : AssetRegistry) : AssetRegistry :=
  { r.settle d.id (outcome decode d) with inFlight := r.inFlight.erase d }

/-- All decoders are done. -/
def finishAll (decode : Decoder) (r : AssetRegistry) : AssetRegistry :=
  r.inFlight.foldl (fun r d => finish decode d r) r

/-- Enters a source unless it is known. -/
def request (decode : Decoder) (kind : AssetKind) (source : String) (r : AssetRegistry) :
    AssetRegistry :=
  let id := AssetId.of source
  if (r.status? id).isSome then r
  else
    let d : Decoding := ⟨id, kind, source⟩
    let r := { r with
      entries := r.entries ++ [(id, AssetStatus.pending)]
      inFlight := r.inFlight ++ [d] }
    match r.mode with
    | .inline => finish decode d r
    | .background => r

theorem request_known (decode : Decoder) (kind : AssetKind) (source : String) (r : AssetRegistry)
    (h : (r.status? (.of source)).isSome) : request decode kind source r = r := by
  simp [request, h]

/-- The number of requested sources. -/
def size (r : AssetRegistry) : Nat := r.entries.length

/-- Some source is still pending. -/
def isPending (r : AssetRegistry) : Bool := r.entries.any (fun e => e.2 == .pending)

/-- A line that describes the registry. -/
def describe (r : AssetRegistry) : String :=
  let mode := match r.mode with
    | .inline => "Inline"
    | .background => "Background"
  "AssetBridge \x7b entries: " ++ toString r.size ++ ", mode: " ++ mode ++ " \x7d"

end AssetRegistry

end Playfield
