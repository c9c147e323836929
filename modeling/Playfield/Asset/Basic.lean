import Playfield.Sha256
import Playfield.Text.Quoted

/-!
# Assets

Pictures and sounds, as far as a game knows them.

A game never looks into a picture or a sound. It knows where one comes from (the
source, which usually holds the whole picture as text), by which id to speak of
it, and once it has been decoded its kind, its type and how large it is.

The id is computed from the source. So whoever has the source has the id, and
the same picture used twice is one asset.

## Main definitions

* `AssetId.of`: The id of a source.
* `Asset`: A decoded picture or sound.
* `AssetStatus`: Whether a source has been decoded.
* `AssetError`: Why a source cannot be decoded.
-/

namespace Playfield

/-- What an asset is. -/
inductive AssetKind where
  | image
  | audio
  deriving DecidableEq

/-- By which number an asset is known. -/
abbrev AssetId : Type := UInt64

/-- The id of a source. -/
def AssetId.of (source : String) : AssetId := Sha256.firstWord source

/-- A decoded picture or sound. -/
structure Asset where
  id : AssetId
  kind : AssetKind
  mime : String
  /-- The number of bytes. -/
  size : Nat
  deriving DecidableEq

/-- Whether a source has been decoded. -/
inductive AssetStatus where
  | pending
  | ready (a : Asset)
  | failed
  deriving DecidableEq

/-- Why a source cannot be decoded. -/
inductive AssetError where
  | notDataUrl
  | wrongKind (expected : AssetKind) (mime : String)
  | badPayload
  | empty
  deriving DecidableEq

namespace AssetKind

/-- The name of a kind in a message. -/
def title : AssetKind → String
  | .image => "Image"
  | .audio => "Audio"

/-- The name of a kind in documents. -/
def name : AssetKind → String
  | .image => "image"
  | .audio => "audio"

/-- What the type of an asset of the kind begins with. -/
def family : AssetKind → String
  | .image => "image/"
  | .audio => "audio/"

end AssetKind

namespace AssetStatus

/-- The decoded asset. -/
def asset? : AssetStatus → Option Asset
  | .ready a => some a
  | _ => none

end AssetStatus

/-- The line that reports an error. -/
def AssetError.message : AssetError → String
  | .notDataUrl => "not a data URL"
  | .wrongKind k mime =>
    "expected " ++ k.title ++ " content, got mime type " ++ Text.quoted mime
  | .badPayload => "invalid base64 payload"
  | .empty => "empty payload"

end Playfield
