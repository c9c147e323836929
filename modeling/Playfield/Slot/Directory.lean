import Playfield.Dictionary

/-!
# Directories

A directory of files, and the steps by which it changes.

A step is done as a whole or not at all, and a sequence of steps can be cut
short behind any of them: by a step that fails, or because the program stops.
What is then in the directory is what the steps before have left there
(`Directory.run`). So whether a change of several files can be interrupted is a
question about lists of steps.

A step fails where the file system refuses it: a name that is too long, or one
that a directory has where a file is wanted.

## Main definitions

* `Directory`: Names and what they stand for.
* `Directory.read`, `Directory.readText`: The content of a file.
* `FileStep`: One change.
* `Directory.step`, `Directory.run`: The effect of one change, and of several.

## Theorems

* `Directory.run_append`: Steps after steps.
-/

namespace Playfield

/-- What a name stands for. -/
inductive FileEntry where
  | file (content : ByteArray)
  | directory

instance : DecidableEq FileEntry
  | .file a, .file b =>
    match ByteArray.instDecidableEq a b with
    | isTrue h => isTrue (congrArg FileEntry.file h)
    | isFalse h => isFalse fun e => h (FileEntry.file.inj e)
  | .directory, .directory => isTrue rfl
  | .file _, .directory => isFalse nofun
  | .directory, .file _ => isFalse nofun

/-- Names and what they stand for. -/
abbrev Directory : Type := Dictionary FileEntry

/-- Why the file system refuses. -/
inductive FileError where
  | notFound
  | refused
  deriving DecidableEq

/-- One change of a directory. -/
inductive FileStep where
  /-- Makes an empty file, or empties one. -/
  | create (name : String)
  | write (name : String) (content : ByteArray)
  /-- Gives a file another name, in place of the file that has it. -/
  | rename (name target : String)
  | remove (name : String)

namespace Directory

/-- The longest name, in bytes. -/
def nameLimit : Nat := 255

/-- The entry of a name. -/
def entry? (d : Directory) (name : String) : Except FileError (Option FileEntry) :=
  if name.utf8ByteSize ≤ nameLimit then .ok (d.get? name) else .error .refused

/-- The content of a file. -/
def read (d : Directory) (name : String) : Except FileError ByteArray :=
  match d.entry? name with
  | .error e => .error e
  | .ok none => .error .notFound
  | .ok (some .directory) => .error .refused
  | .ok (some (.file content)) => .ok content

/-- The text in a file. -/
def readText (d : Directory) (name : String) : Except FileError String :=
  match d.read name with
  | .error e => .error e
  | .ok content =>
    match String.fromUTF8? content with
    | some s => .ok s
    | none => .error .refused

/-- A name that a file can be put under. -/
def admits (d : Directory) (name : String) : Bool :=
  match d.entry? name with
  | .error _ | .ok (some .directory) => false
  | .ok none | .ok (some (.file _)) => true

/-- The effect of a change. -/
def step (d : Directory) : FileStep → Except FileError Directory
  | .create name =>
    if d.admits name then .ok (d.insert name (.file .empty)) else .error .refused
  | .write name content =>
    match d.read name with
    | .ok _ => .ok (d.insert name (.file content))
    | .error e => .error e
  | .rename name target =>
    match d.read name with
    | .error e => .error e
    | .ok content =>
      if d.admits target then .ok ((d.erase name).insert target (.file content))
      else .error .refused
  | .remove name =>
    match d.read name with
    | .ok _ => .ok (d.erase name)
    | .error e => .error e

/-- The effect of several changes, up to the first that is refused. -/
def run (d : Directory) : List FileStep → Directory × Except FileError Unit
  | [] => (d, .ok ())
  | s :: ss =>
    match d.step s with
    | .ok d' => run d' ss
    | .error e => (d, .error e)

theorem run_append (d : Directory) (ss ts : List FileStep) (h : (d.run ss).2 = .ok ()) :
    d.run (ss ++ ts) = (d.run ss).1.run ts := by
  induction ss generalizing d with
  | nil => rfl
  | cons s ss ih =>
    simp only [List.cons_append, run] at h ⊢
    split
    · next d' hs =>
      rw [hs] at h
      exact ih d' h
    · next e hs =>
      rw [hs] at h
      cases h

end Directory

end Playfield
