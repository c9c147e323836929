import Playfield.Camera.Jitter
import Playfield.CommandLine.Report
import Std.Time.DateTime.Timestamp

/-!
# The Program

Reads what a command works on, executes it, and writes what has changed.

## Main definitions

* `Main.supply`: Ids and times for one run of the program.
* `main`: The program.
-/

namespace Playfield

namespace Main

/-- Ids from two random words, and one time. Mixing is one to one, so that no two
    suffixes of a run are the same. -/
def supply (first second time : UInt64) : Supply :=
  let half (word : UInt64) (n : Nat) : String :=
    let digits := Nat.toDigits 16 (Jitter.mix (word + UInt64.ofNat n)).toNat
    String.ofList (List.replicate (16 - digits.length) '0' ++ digits)
  ⟨fun n => half first n ++ half second n, fun _ => time, 0, 0⟩

/-- A random word. -/
def randomWord : IO UInt64 := return UInt64.ofNat (← IO.rand 0 (Nat.pow 2 64 - 1))

/-- The present time in milliseconds. -/
def now : IO UInt64 := do
  let t ← Std.Time.Timestamp.now
  return UInt64.ofNat t.toMillisecondsSinceUnixEpoch.val.toNat

/-- The text in a file, if it can be read. -/
def readText? (path : String) : IO (Option String) := do
  try return some (← IO.FS.readFile path) catch _ => return none

/-- The files of a directory, which is made if it is not there. -/
def openDirectory? (path : String) : IO (Option Directory) := do
  try
    IO.FS.createDirAll path
    let mut d : Directory := .empty
    let root ← IO.FS.realPath path
    for entry in ← root.readDir do
      if ← entry.path.isDir then d := d.insert entry.fileName .directory
      else d := d.insert entry.fileName (.file (← IO.FS.readBinFile entry.path))
    return some d
  catch _ => return none

/-- Writes what has changed. A file is replaced at once, by way of another one. -/
def writeDirectory (path : String) (before after : Directory) : IO Unit := do
  for (name, entry) in after.entries do
    if before.get? name ≠ some entry then
      match entry with
      | .directory => IO.FS.createDirAll (path ++ "/" ++ name)
      | .file content =>
        let scratch := path ++ "/" ++ name ++ ".part"
        IO.FS.writeBinFile scratch content
        IO.FS.rename scratch (path ++ "/" ++ name)
  for name in before.keys do
    if !after.contains name then IO.FS.removeFile (path ++ "/" ++ name)

/-- Executes a command. -/
def execute (c : Command) : IO UInt32 := do
  let source ← match c.project? with
    | some path => readText? path
    | none => pure none
  let directory ← match c.directory? with
    | some path => openDirectory? path
    | none => pure none
  let report := c.execute source directory (supply (← randomWord) (← randomWord) (← now))
  match c.directory?, directory, report.directory with
  | some path, some before, some after => writeDirectory path before after
  | _, _, _ => pure ()
  IO.print report.output
  match report.ending with
  | .success => pure ()
  | .failure e => IO.eprintln ("Error: " ++ e)
  | .overflow => IO.eprintln "attempt to add with overflow"
  return UInt32.ofNat report.code

/-- What the program understands. -/
def usage : String :=
  Command.lines
    ["Usage: gamma [-v] <command>", "", "Commands:",
      "  info [PROJECT]                Print version and a summary of a project",
      "  validate <PROJECT>            Check a project for authoring mistakes",
      "  run [OPTIONS] <PROJECT>       Run a project headless for a fixed number of ticks",
      "  saves <DIR> list              List stored slots",
      "  saves <DIR> clear <SLOT>      Delete a slot"]

end Main

end Playfield

/-- The program. -/
def main (arguments : List String) : IO UInt32 := do
  match Playfield.Command.ofArguments arguments with
  | .ok c => Playfield.Main.execute c
  | .error .help =>
    IO.print Playfield.Main.usage
    return 0
  | .error .usage =>
    IO.eprint Playfield.Main.usage
    return 2
