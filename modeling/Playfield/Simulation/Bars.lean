import Playfield.Roster

/-!
# Bars and Their Variables

Bars that show a variable.

A bar may be bound to a global variable or to a variable of an object. Once in a
tick every such bar is set to the variable. A variable that is missing or is not
a number counts as zero. A bar that is bound to an object but names none is left
alone.

## Main definitions

* `Roster.reading?`: What a bar has to show.
* `Roster.syncBars`: Sets every bar to what it has to show.
-/

namespace Playfield

variable {R : Type} [Scalar R] [Numeral R]

namespace Roster

/-- The number that a variable shows. -/
def shownNumber (v : Option (Value R)) : R := (v.bind Value.toNumber?).getD 0

/-- What a bar has to show, if that is not left to actions. -/
def reading? (r : Roster R) (globals : Variables R) (b : BarReading) : Option R :=
  match b.source, b.owner with
  | .manual, _ => none
  | .globalVariable, _ => some (shownNumber (globals.get? b.variableName))
  | .objectVariable, none => none
  | .objectVariable, some id =>
    some (shownNumber ((r.get? id).bind (·.object.vars.get? b.variableName)))

/-- The instance with its bar set to what it has to show. -/
def syncBar (r : Roster R) (globals : Variables R) (i : Instance R) : Instance R :=
  match i.object.appearance with
  | .bar b =>
    match b.reading.bind (r.reading? globals) with
    | none => i
    | some x => { i with object := { i.object with appearance := .bar { b with current := x } } }
  | _ => i

/-- Sets every bar to what it has to show. -/
def syncBars (r : Roster R) (globals : Variables R) : Roster R :=
  { r with live := r.live.map (r.syncBar globals) }

end Roster

end Playfield
