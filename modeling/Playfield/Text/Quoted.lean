import Playfield.Text.CharClass

/-!
# Quoted Text

Names inside messages, and the blanks around typed text.

A message quotes a name so that it can be read back from the line it stands on:
nothing inside the quotes may end them, break the line, or leave no mark. A
character that would is written by its code point. Attaching marks are written
that way too, since they would change how the character before them looks.

## Main definitions

* `Text.quoted`: A text between double quotes, on one line.
* `Text.trim`: A text without blanks at either end.
-/

namespace Playfield

namespace Text

/-- A character by its code point, in hexadecimal. -/
def codePoint (c : Char) : List Char :=
  ['\\', 'u', '\x7b'] ++ Nat.toDigits 16 c.toNat ++ ['\x7d']

/-- A character as it stands between quotes. -/
def quotedChar (c : Char) : List Char :=
  if c = '\x00' then ['\\', '0']
  else if c = '\t' then ['\\', 't']
  else if c = '\r' then ['\\', 'r']
  else if c = '\n' then ['\\', 'n']
  else if c = '"' ∨ c = '\\' then ['\\', c]
  else if CharClass.extending.mem c || CharClass.hidden.mem c then codePoint c
  else [c]

/-- A text between double quotes, on one line. -/
def quoted (s : String) : String :=
  String.ofList ('"' :: (s.toList.flatMap quotedChar ++ ['"']))

/-- A text without blanks at either end. -/
def trim (cs : List Char) : List Char :=
  ((cs.dropWhile CharClass.blank.mem).reverse.dropWhile CharClass.blank.mem).reverse

end Text

end Playfield
