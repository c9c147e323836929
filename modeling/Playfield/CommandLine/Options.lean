import Playfield.Text.Affix

/-!
# Options

How a list of arguments is taken apart.

An argument with two dashes in front is an option by its name, one with a single
dash is a cluster of options by their letters, and anything else is positional.
The value of an option stands behind it: in the same argument, with or without a
sign of equality, or as the next argument, which then must not look like an
option itself. Behind two dashes alone everything is positional.

Arguments are looked at one after the other, and what has been seen so far is
kept in a `Scan`. The first argument that does not fit, or that asks for help,
decides. A positional argument is only looked at when something is made of it:
where help is asked for, and at the end.

## Main definitions

* `OptionSpec`: An option that a command has.
* `Grammar`: The options and the positional arguments of a command.
* `Scan`: What has been seen of a list of arguments.
* `Scan.step`: One more argument.
* `Scan.ofArguments`: All arguments of a command.
-/

namespace Playfield

/-- An option that a command has. One that takes a value says which it takes. -/
structure OptionSpec where
  name : String
  letter : Option Char
  value : Option (String → Bool)
  repeats : Bool

/-- The options of a command, and the values that its positional arguments take. -/
structure Grammar where
  options : List OptionSpec
  positional : List (String → Bool)

/-- Why the arguments are not taken apart to the end. -/
inductive Stop where
  /-- They do not fit the command. -/
  | usage
  /-- Help is asked for. -/
  | help
  deriving DecidableEq

/-- What has been seen of a list of arguments. -/
structure Scan where
  /-- Options with their values, in order. -/
  options : List (String × String)
  positional : List String
  /-- The option that waits for its value. -/
  pending : Option OptionSpec
  onlyPositional : Bool

namespace Scan

/-- Nothing has been seen. -/
def start : Scan := ⟨[], [], none, false⟩

/-- Whether the positional arguments are such as the command takes. -/
def isSettled (g : Grammar) (s : Scan) : Bool :=
  (s.positional.zip g.positional).all fun p => p.2 p.1

/-- Notes an option with a value that it takes. One that does not repeat must be
    new. -/
def note (g : Grammar) (s : Scan) (o : OptionSpec) (value : String) : Except Stop Scan :=
  if o.name = "help" then .error (if s.isSettled g then .help else .usage)
  else if !o.value.all (· value) then .error .usage
  else if !o.repeats && s.options.any (·.1 == o.name) then .error .usage
  else .ok { s with options := s.options ++ [(o.name, value)], pending := none }

/-- Notes a positional argument, if there is still one to come. -/
def notePositional (g : Grammar) (s : Scan) (argument : String) : Except Stop Scan :=
  if s.positional.length < g.positional.length then
    .ok { s with positional := s.positional ++ [argument] }
  else .error .usage

/-- An option by its name, with the value that stands in the same argument. -/
def long (g : Grammar) (s : Scan) (body : List Char) : Except Stop Scan :=
  let name := String.ofList (body.takeWhile (· != '='))
  match g.options.find? (·.name == name), body.dropWhile (· != '=') with
  | none, _ => .error .usage
  | some o, [] => if o.value.isSome then .ok { s with pending := some o } else s.note g o ""
  | some o, _ :: value =>
    if o.value.isSome then s.note g o (String.ofList value) else .error .usage

/-- The value that stands behind a letter. -/
def attached : List Char → List Char
  | '=' :: cs => cs
  | cs => cs

/-- A cluster of options by their letters. The first that takes a value takes what
    is left of the cluster. -/
def cluster (g : Grammar) : List Char → Scan → Except Stop Scan
  | [], s => .ok s
  | c :: cs, s =>
    match g.options.find? (·.letter == some c) with
    | none => .error .usage
    | some o =>
      if o.value.isSome then
        if cs.isEmpty then .ok { s with pending := some o }
        else s.note g o (String.ofList (attached cs))
      else
        match s.note g o "" with
        | .ok s => cluster g cs s
        | .error e => .error e

/-- One more argument. -/
def step (g : Grammar) (s : Scan) (argument : String) : Except Stop Scan :=
  if s.onlyPositional then s.notePositional g argument
  else
    match argument.toList, s.pending with
    | '-' :: _ :: _, some _ => .error .usage
    | _, some o => s.note g o argument
    | ['-', '-'], none => .ok { s with onlyPositional := true }
    | '-' :: '-' :: body, none => long g s body
    | '-' :: c :: cs, none => cluster g (c :: cs) s
    | _, none => s.notePositional g argument

/-- All arguments of a command. -/
def ofArguments (g : Grammar) (arguments : List String) : Except Stop Scan :=
  match arguments.foldlM (step g) start with
  | .error e => .error e
  | .ok s => if s.pending.isNone && s.isSettled g then .ok s else .error .usage

/-- Arguments of a command that is followed by the name of another, from which on
    the arguments are that one's. -/
def descend {α : Type} (g : Grammar) (names : List String)
    (enter : Scan → String → List String → Except Stop α) :
    Scan → List String → Except Stop α
  | _, [] => .error .usage
  | s, argument :: arguments =>
    if !s.onlyPositional && s.pending.isNone && names.contains argument then
      enter s argument arguments
    else
      match s.step g argument with
      | .ok s => descend g names enter s arguments
      | .error e => .error e

/-- The values of an option, in order. -/
def values (s : Scan) (name : String) : List String :=
  (s.options.filter (·.1 == name)).map (·.2)

/-- The value of an option that does not repeat. -/
def value? (s : Scan) (name : String) : Option String := (s.values name).head?

end Scan

end Playfield
