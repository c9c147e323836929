import Playfield.CommandLine.Command
import Playfield.Frame.Summary
import Playfield.Lint
import Playfield.Session.Tick

/-!
# Reports

What commands print, and how they end.

A command works on at most one document and one directory. Both are read before
it starts and the directory is written back when it has ended, so a command is a
function: from the text of the document, if there is one, and the directory, if
it can be opened, to what is printed and the directory afterwards.

A run prints when the scene changes and when a save is loaded, and closes messages
as they open. Sources are decoded in the background there. The report is that of
a run in which the decoders are done whenever a frame is printed. A run in which a
tick comes to no end breaks off there, with a code of its own.

## Main definitions

* `Report`: What is printed and how it ends.
* `Command.execute`: The report of a command.
-/

namespace Playfield

/-- How a command ends. -/
inductive Ending where
  | success
  | failure (error : String)
  /-- A tick has come to no end. -/
  | overflow

/-- What is printed, how it ends, and the directory afterwards. -/
structure Report where
  output : String
  ending : Ending
  directory : Option Directory

namespace Report

/-- The code with which the program ends. -/
def code (r : Report) : Nat :=
  match r.ending with
  | .success => 0
  | .failure _ => 1
  | .overflow => 101

/-- The error that is reported. -/
def error? (r : Report) : Option String :=
  match r.ending with
  | .failure e => some e
  | .success | .overflow => none

end Report

namespace Command

/-- The version of the program. -/
def version : String := "0.1.0"

/-- Lines of text. -/
def lines (ls : List String) : String := String.join (ls.map (· ++ "\n"))

/-- The document of a command, or the error. -/
def load (path : String) (source : Option String) : Except String (Project Float) :=
  let error := "loading project " ++ path
  match source.map Project.read with
  | some (.ok p) => .ok p
  | some (.error _) | none => .error error

/-- The line about a scene. -/
def sceneLine (s : Scene Float) : String :=
  "  scene " ++ s.id ++ " " ++ Text.quoted s.name ++ ": " ++ toString s.layers.length ++
    " layers, " ++ toString s.objects.length ++ " objects, " ++
    toString s.allEvents.length ++ " events"

/-- The lines about a project. -/
def projectLines (p : Project Float) : List String :=
  ["title: " ++ Text.quoted p.settings.title ++ " " ++ p.settings.version,
    "resolution: " ++ Frame.extent p.settings.resolution,
    "sounds: " ++ toString p.sounds.length,
    "images: " ++ toString p.pictures.size] ++ p.scenes.map sceneLine

/-- The report on the program and on a project. -/
def infoReport (project : Option String) (source : Option String) : Report :=
  let head := lines ["gamma v" ++ version]
  match project.map fun path => load path source with
  | none => ⟨head, .success, none⟩
  | some (.error e) => ⟨head, .failure e, none⟩
  | some (.ok p) => ⟨head ++ lines (projectLines p), .success, none⟩

/-- The report on the mistakes in a project. -/
def validateReport (project : String) (source : Option String) : Report :=
  match load project source with
  | .error e => ⟨"", .failure e, none⟩
  | .ok p =>
    match p.lint with
    | [] => ⟨lines ["OK"], .success, none⟩
    | issues =>
      ⟨lines (issues.map (·.message)), .failure (toString issues.length ++ " issue(s) found"), none⟩

/-- A session whose sounds nobody hears. -/
abbrev Headless : Type := Session Float (SilentOutput Float)

/-- The decoders are done. -/
def decoded (s : Headless) : Headless :=
  { s with assets := s.assets.finishAll DataUrl.decode }

/-- One tick of a run, and what it prints, if it comes to an end. -/
def tickOnce? (o : RunOptions) (n : Nat) (s : Headless) : Option (Headless × String) :=
  let (s, outcome) := s.tick o.dt
  let s := decoded s
  let tick := "tick " ++ toString n ++ ": "
  let told := match outcome with
    | .sceneChanged id => some (s, [tick ++ "scene -> " ++ id])
    | .loaded slot => some (s, [tick ++ "loaded " ++ slot])
    | .paused => some (s.dismissPopup, [tick ++ "popup open, dismissing"])
    | .advanced | .closed => some (s, [])
    | .overflowed => none
  told.map fun (s, news) =>
    let frame := if 0 < o.printEvery ∧ n % o.printEvery = 0 then s.frame.summary else ""
    (s, lines news ++ frame)

/-- The ticks from the `n`-th on, what they print, the last in front, and whether all of
    them have come to an end. -/
def ticks (o : RunOptions) : Nat → Nat → Headless → List String → Headless × List String × Bool
  | 0, _, s, printed => (s, printed, true)
  | k + 1, n, s, printed =>
    match tickOnce? o n s with
    | some (s, text) => ticks o k (n + 1) s (text :: printed)
    | none => (s, printed, false)

/-- A run of an initialized session. -/
def play (o : RunOptions) (s : Headless) : Headless × String × Ending :=
  let s := o.hold.foldl (fun s key => s.handleInput (.keyDown key)) s
  let (s, printed, ended) := ticks o o.ticks 1 s []
  let output := String.join printed.reverse
  if ended then
    let last := if o.printEvery = 0 then s.frame.summary else ""
    let globals := s.globals.entries.map fun g => "global " ++ g.1 ++ " = " ++ g.2.display
    (s.teardown, output ++ last ++ lines globals, .success)
  else (s, output, .overflow)

/-- The files of a store. -/
def filesOf : SlotStore → Option Directory
  | .files d => some d
  | .memory _ => none

/-- Where a run keeps its saves, or the error. -/
def storeOf (o : RunOptions) (directory : Option Directory) : Except String SlotStore :=
  match o.saves, directory with
  | none, _ => .ok (.memory .empty)
  | some _, some d => .ok (.files d)
  | some path, none => .error ("opening save directory " ++ path)

/-- The report on a run. -/
def runReport (o : RunOptions) (source : Option String) (directory : Option Directory)
    (supply : Supply) : Report :=
  let failed (e : String) : Report := ⟨"", .failure e, directory⟩
  match load o.project source with
  | .error e => failed e
  | .ok p =>
    let config := Config.ofSettings p.settings
    let config := { config with seed := o.seed.getD config.seed }
    let session := Session.start p config (.memory .empty) SilentOutput.initial supply
    match session, storeOf o directory with
    | .error e, _ => failed e.message
    | .ok _, .error e => failed e
    | .ok s, .ok store =>
      match { s with slots := store }.enter o.scene with
      | (_, .error e) => failed e.message
      | (s, .ok ()) =>
        let (s, output, ending) := play o (decoded s)
        ⟨output, ending, filesOf s.slots⟩

/-- What the keys of all saves begin with. -/
def savePrefix : String := "gamma_save_"

/-- What is said if the file system refuses. -/
def storageError : String := "IO error"

/-- The report on the saves in a directory. -/
def listReport : Option Directory → Report
  | none => ⟨"", .failure storageError, none⟩
  | some d =>
    let slots := (SlotFiles.keys d).filterMap fun key => Text.after? savePrefix.toList key.toList
    ⟨lines (slots.map String.ofList), .success, some d⟩

/-- The report on the removal of a save. -/
def clearReport (slot : String) : Option Directory → Report
  | none => ⟨"", .failure storageError, none⟩
  | some d =>
    match SlotFiles.remove d (savePrefix ++ slot) with
    | (d, .ok ()) => ⟨lines ["cleared " ++ slot], .success, some d⟩
    | (d, .error e) => ⟨"", .failure (e.message?.getD storageError), some d⟩

/-- The report of a command, given the text of its document and its directory. -/
def execute (c : Command) (source : Option String) (directory : Option Directory)
    (supply : Supply) : Report :=
  match c with
  | .info project => infoReport project source
  | .validate project => validateReport project source
  | .run o => runReport o source directory supply
  | .listSaves _ => listReport directory
  | .clearSave _ slot => clearReport slot directory

end Command

end Playfield
