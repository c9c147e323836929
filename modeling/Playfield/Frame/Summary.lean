import Playfield.Frame.Basic
import Playfield.Scalar.Double

/-!
# Frames as Text

A frame in lines that one can read.

The first line counts the drawables, the second tells what the camera sees. A
message has a line of its own, and then every drawable has one, in the order of
painting. Most numbers are rounded to a place or two; sizes are written out.

## Main definitions

* `Paint.summary`: What a drawable looks like, in a few words.
* `Frame.summary`: The lines of a frame.
-/

namespace Playfield

namespace Frame

/-- A double that is written out. -/
def plain (x : Float) : String := Numeral.write .plain x

/-- A place with one decimal. -/
def place (p : Point Float) : String :=
  "(" ++ Double.fixed 1 p.x ++ ", " ++ Double.fixed 1 p.y ++ ")"

/-- An extent that is written out. -/
def extent (s : Size Float) : String := plain s.width ++ "x" ++ plain s.height

/-- What a drawable looks like, in a few words. -/
def paintWords : Paint Float → String
  | .sprite a => "sprite " ++ a.mime
  | .tiledSprite a => "tiled " ++ a.mime
  | .placeholder true => "placeholder (loading)"
  | .placeholder false => "placeholder"
  | .text t => "text " ++ Text.quoted t.text
  | .bar fill label _ =>
    let percent := "bar " ++ Double.fixed 0 (fill * 100) ++ "%"
    match label with
    | some l => percent ++ " " ++ Text.quoted l
    | none => percent

/-- The line of a drawable. -/
def drawableLine (d : Drawable Float) : String :=
  "  L" ++ toString d.layer ++ " " ++ d.id ++ " pos=" ++ place d.position ++
    " size=" ++ extent d.size ++ " rot=" ++ Double.fixed 1 d.rotation ++ " " ++
    paintWords d.paint

/-- The lines about the view. -/
def viewLines (f : Frame Float) : List String :=
  ["=== Frame (" ++ toString f.drawables.length ++ " drawables) ===",
    "camera=" ++ place f.lens.center ++ " zoom=" ++ Double.fixed 2 f.lens.zoom ++
      " viewport=" ++ extent f.lens.viewport]

/-- The line about an open message. -/
def popupLines (f : Frame Float) : List String :=
  match f.popup with
  | some p => ["popup: " ++ Text.quoted p.title ++ " [" ++ p.buttonText ++ "]"]
  | none => []

/-- The lines of a frame. -/
def summary (f : Frame Float) : String :=
  String.join ((viewLines f ++ popupLines f ++ f.drawables.map drawableLine).map (· ++ "\n"))

end Frame

end Playfield
