import Playfield.CommandLine.Options
import Playfield.Scalar.Double

/-!
# Commands

What a user can ask for on the command line.

## Main definitions

* `RunOptions`: How a project is run.
* `Command`: What is asked for.
* `Command.ofArguments`: The command that a list of arguments means.
* `Command.project?`, `Command.directory?`: The files that a command works on.
-/

namespace Playfield

/-- How a project is run. -/
structure RunOptions where
  project : String
  scene : Option String
  ticks : Nat
  /-- Seconds for each tick. -/
  dt : Float
  /-- Keys that are down all the time. -/
  hold : List String
  /-- A frame is printed after so many ticks, or only at the end if it is zero. -/
  printEvery : Nat
  /-- Where saves are kept, if not in memory. -/
  saves : Option String
  seed : Option UInt64

/-- What is asked for. -/
inductive Command where
  | info (project : Option String)
  | validate (project : String)
  | run (o : RunOptions)
  | listSaves (directory : String)
  | clearSave (directory slot : String)

namespace Command

/-- A count of 64 bits. A plus sign may stand in front. -/
def count? (s : String) : Option Nat :=
  let digits := (Text.after? ['+'] s.toList).getD s.toList
  let n := Decimal.ofDigits digits
  if !digits.isEmpty && digits.all Decimal.isDigit && n < Nat.pow 2 64 then some n else none

/-- A number, also one that is not finite. -/
def number? (s : String) : Option Float :=
  match Decimal.readFree s.toList with
  | some .notNumber => some (0 / 0)
  | some (.finite d) => some (Numeral.ofDecimal d)
  | some (.infinite negative) => some (if negative then -Numeral.infinity else Numeral.infinity)
  | none => none

/-- Whether an argument is a path, which is never empty. -/
def isPath (s : String) : Bool := s != ""

/-- Whether an argument is a count. -/
def isCount (s : String) : Bool := (count? s).isSome

/-- Whether an argument is a number. -/
def isNumber (s : String) : Bool := (number? s).isSome

/-- Any argument. -/
def isText (_ : String) : Bool := true

/-- The option that every command has. -/
def helpSpec : OptionSpec := ⟨"help", some 'h', none, false⟩

/-- What stands in front of the command. -/
def globals : Grammar := ⟨[⟨"verbose", some 'v', none, false⟩, helpSpec], []⟩

/-- The arguments of a run. -/
def runGrammar : Grammar where
  options :=
    [⟨"scene", some 's', some isText, false⟩, ⟨"ticks", some 't', some isCount, false⟩,
      ⟨"dt", none, some isNumber, false⟩, ⟨"hold", none, some isText, true⟩,
      ⟨"print-every", none, some isCount, false⟩, ⟨"saves", none, some isPath, false⟩,
      ⟨"seed", none, some isCount, false⟩, helpSpec]
  positional := [isPath]

/-- The run of a project with the options that have been seen. -/
def runOf (project : String) (s : Scan) : RunOptions where
  project := project
  scene := s.value? "scene"
  ticks := ((s.value? "ticks").bind count?).getD 60
  dt := ((s.value? "dt").bind number?).getD (1 / 60)
  hold := s.values "hold"
  printEvery := ((s.value? "print-every").bind count?).getD 0
  saves := s.value? "saves"
  seed := ((s.value? "seed").bind count?).map UInt64.ofNat

/-- The names of the commands. -/
def names : List String := ["info", "validate", "run", "saves", "help"]

/-- The names of the commands on saves. -/
def savesNames : List String := ["list", "clear", "help"]

/-- What asking for help on a command below one of these comes to. -/
def help (names : List String) : List String → Stop
  | [] => .help
  | [name] => if names.contains name then .help else .usage
  | ["saves", name] =>
    if names.contains "saves" && savesNames.contains name then .help else .usage
  | _ => .usage

/-- A command on saves, by what stands in front of its name: the directory. -/
def savesNamed (s : Scan) (name : String) (arguments : List String) : Except Stop Command := do
  match name with
  | "help" => .error (help savesNames arguments)
  | "clear" =>
    let t ← Scan.ofArguments ⟨[helpSpec], [isText]⟩ arguments
    match s.positional, t.positional with
    | [directory], [slot] =>
      if isPath directory then return .clearSave directory slot else .error .usage
    | _, _ => .error .usage
  | _ =>
    let _ ← Scan.ofArguments ⟨[helpSpec], []⟩ arguments
    match s.positional with
    | [directory] => if isPath directory then return .listSaves directory else .error .usage
    | _ => .error .usage

/-- A command by its name. -/
def named (_ : Scan) (name : String) (arguments : List String) : Except Stop Command := do
  match name with
  | "info" =>
    let s ← Scan.ofArguments ⟨[helpSpec], [isPath]⟩ arguments
    return .info s.positional.head?
  | "validate" =>
    let s ← Scan.ofArguments ⟨[helpSpec], [isPath]⟩ arguments
    match s.positional with
    | [project] => return .validate project
    | _ => .error .usage
  | "run" =>
    let s ← Scan.ofArguments runGrammar arguments
    match s.positional with
    | [project] => return .run (runOf project s)
    | _ => .error .usage
  | "saves" => Scan.descend ⟨[helpSpec], [isPath]⟩ savesNames savesNamed .start arguments
  | _ => .error (help names arguments)

/-- The command that a list of arguments means. -/
def ofArguments (arguments : List String) : Except Stop Command :=
  Scan.descend globals names named .start arguments

/-- The document that a command reads. -/
def project? : Command → Option String
  | .info p => p
  | .validate p => some p
  | .run o => some o.project
  | .listSaves _ | .clearSave _ _ => none

/-- The directory of saves that a command works on. -/
def directory? : Command → Option String
  | .run o => o.saves
  | .listSaves d | .clearSave d _ => some d
  | .info _ | .validate _ => none

end Command

end Playfield
