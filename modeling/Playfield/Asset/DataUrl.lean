import Playfield.Asset.Basic
import Playfield.Text.Affix

/-!
# Data URLs

Sources that hold the whole asset: `data:`, a type, a comma, and the payload.

A payload is either written in base64, which the type then ends by saying, or
it is text. Of a payload only the size matters here. A payload in base64 is
checked character by character but not decoded, since its size follows from its
length: four characters are three bytes, and each sign of padding is one less.

## Main definitions

* `DataUrl.base64Size?`: The size of what a payload in base64 holds.
* `DataUrl.decode`: The asset of a source.
-/

namespace Playfield

namespace DataUrl

/-- A digit of base64. -/
def isBase64Digit (c : Char) : Bool :=
  ('a' ≤ c && c ≤ 'z') || ('A' ≤ c && c ≤ 'Z') || ('0' ≤ c && c ≤ '9') || c == '+' || c == '/'

/-- The digits of a payload and the number of signs of padding behind them. -/
def splitPadding (payload : List Char) : List Char × Nat :=
  let digits := (payload.reverse.dropWhile (· == '=')).reverse
  (digits, payload.length - digits.length)

/-- The size of what a payload in base64 holds. -/
def base64Size? (payload : List Char) : Option Nat :=
  let (digits, padding) := splitPadding payload
  if digits.all isBase64Digit && padding ≤ 2 && payload.length % 4 == 0 then
    some (payload.length / 4 * 3 - padding)
  else none

/-- What stands before and behind the first comma. -/
def splitComma? : List Char → Option (List Char × List Char)
  | [] => none
  | c :: cs =>
    if c = ',' then some ([], cs) else (splitComma? cs).map fun p => (c :: p.1, p.2)

/-- The number of bytes of a text. -/
def byteCount (cs : List Char) : Nat := (String.ofList cs).utf8ByteSize

/-- The asset of a source. -/
def decode (id : AssetId) (kind : AssetKind) (source : String) : Except AssetError Asset :=
  match (Text.after? "data:".toList source.toList).bind splitComma? with
  | none => .error .notDataUrl
  | some (header, payload) =>
    -- the type in front of the mark of base64
    let encoded := Text.before? ";base64".toList header
    let mime := encoded.getD header
    if (Text.after? kind.family.toList mime).isNone then
      .error (.wrongKind kind (String.ofList mime))
    else
      match if encoded.isSome then base64Size? payload else some (byteCount payload) with
      | none => .error .badPayload
      | some 0 => .error .empty
      | some (n + 1) => .ok ⟨id, kind, String.ofList mime, n + 1⟩

end DataUrl

end Playfield
