import Playfield.Json.Basic

/-!
# Printing JSON

The two layouts of a document: on one line, and indented for reading.

Both keep members in the order of the tree and write every character outside
ASCII as itself. Inside quotes only what must be escaped is: the quote, the
backslash and the controls below the space.

Numbers are laid out as documents lay them out, always with a point or an
exponent unless they are integers. What a document cannot hold is written as
`null`.

## Main definitions

* `Json.quote`: A text between quotes.
* `Json.compact`: A tree on one line.
* `Json.pretty`: A tree with one value on each line.
-/

namespace Playfield

namespace Json

/-- A character as it stands between quotes. -/
def quoteChar (c : Char) : List Char :=
  if c = '"' ∨ c = '\\' then ['\\', c]
  else if c = '\x08' then ['\\', 'b']
  else if c = '\x0c' then ['\\', 'f']
  else if c = '\n' then ['\\', 'n']
  else if c = '\r' then ['\\', 'r']
  else if c = '\t' then ['\\', 't']
  else if c.toNat < 0x20 then
    ['\\', 'u', '0', '0', Nat.digitChar (c.toNat / 16), Nat.digitChar (c.toNat % 16)]
  else [c]

/-- A text between quotes. -/
def quote (s : String) : List Char := '"' :: (s.toList.flatMap quoteChar ++ ['"'])

/-- A value that is neither a list nor an object. -/
def leafChars : Json → List Char
  | .bool b => (if b then "true" else "false").toList
  | .int n => (toString n).toList
  | .real d => d.write .document
  | .text s => quote s
  | _ => "null".toList

mutual

/-- A tree on one line, in front of a text. -/
def compactChars : Json → List Char → List Char
  | .list [], rest => '[' :: ']' :: rest
  | .list (j :: js), rest => '[' :: compactChars j (compactItems js rest)
  | .object [], rest => '\x7b' :: '\x7d' :: rest
  | .object ((n, j) :: ms), rest =>
    '\x7b' :: (quote n ++ ':' :: compactChars j (compactMembers ms rest))
  | j, rest => leafChars j ++ rest

/-- The items after the first, and the end of the list. -/
def compactItems : List Json → List Char → List Char
  | [], rest => ']' :: rest
  | j :: js, rest => ',' :: compactChars j (compactItems js rest)

/-- The members after the first, and the end of the object. -/
def compactMembers : List (String × Json) → List Char → List Char
  | [], rest => '\x7d' :: rest
  | (n, j) :: ms, rest => ',' :: (quote n ++ ':' :: compactChars j (compactMembers ms rest))

end

/-- A tree on one line. -/
def compact (j : Json) : String := String.ofList (compactChars j [])

/-- A new line, indented by two spaces for each level. -/
def newline (level : Nat) (rest : List Char) : List Char :=
  '\n' :: (List.replicate (2 * level) ' ' ++ rest)

mutual

/-- An indented tree in front of a text. -/
def prettyChars : Nat → Json → List Char → List Char
  | _, .list [], rest => '[' :: ']' :: rest
  | n, .list (j :: js), rest =>
    '[' :: newline (n + 1) (prettyChars (n + 1) j (prettyItems n js rest))
  | _, .object [], rest => '\x7b' :: '\x7d' :: rest
  | n, .object ((name, j) :: ms), rest =>
    '\x7b' :: newline (n + 1)
      (quote name ++ ':' :: ' ' :: prettyChars (n + 1) j (prettyMembers n ms rest))
  | _, j, rest => leafChars j ++ rest

/-- The items after the first, and the end of the list. -/
def prettyItems : Nat → List Json → List Char → List Char
  | n, [], rest => newline n (']' :: rest)
  | n, j :: js, rest => ',' :: newline (n + 1) (prettyChars (n + 1) j (prettyItems n js rest))

/-- The members after the first, and the end of the object. -/
def prettyMembers : Nat → List (String × Json) → List Char → List Char
  | n, [], rest => newline n ('\x7d' :: rest)
  | n, (name, j) :: ms, rest =>
    ',' :: newline (n + 1)
      (quote name ++ ':' :: ' ' :: prettyChars (n + 1) j (prettyMembers n ms rest))

end

/-- A tree with one value on each line. -/
def pretty (j : Json) : String := String.ofList (prettyChars 0 j [])

end Json

end Playfield
