import Playfield.Text.Quoted

/-!
# Errors of Slot Stores

Why a slot cannot be read or written.

## Main definitions

* `SlotError`: The cause.
* `SlotError.message?`: The line that reports it.
-/

namespace Playfield

/-- Why a slot cannot be read or written. -/
inductive SlotError where
  | invalidKey (key : String)
  | corrupt (key expected actual : String)
  /-- The file system refuses. -/
  | storage
  deriving DecidableEq

/-- The line that reports an error. What the file system has to say about it is
    not known here. -/
def SlotError.message? : SlotError → Option String
  | .invalidKey key => some ("invalid slot key " ++ Text.quoted key)
  | .corrupt key expected actual =>
    some ("integrity check failed for " ++ key ++ ": expected " ++ expected ++ ", got " ++ actual)
  | .storage => none

end Playfield
