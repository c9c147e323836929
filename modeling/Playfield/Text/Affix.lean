/-!
# The Ends of a Text

What is left of a text without something that stands in front or behind.

## Main definitions

* `Text.after?`: What follows a text that stands in front.
* `Text.before?`: What precedes a text that stands behind.

## Theorems

* `Text.after?_append`: The text in front can be put back.
* `Text.before?_append`: So can the text behind.
-/

namespace Playfield

namespace Text

/-- What follows `front` in a text that begins with it. -/
def after? : List Char → List Char → Option (List Char)
  | [], cs => some cs
  | a :: as, c :: cs => if a = c then after? as cs else none
  | _ :: _, [] => none

/-- What precedes `back` in a text that ends with it. -/
def before? (back cs : List Char) : Option (List Char) :=
  (after? back.reverse cs.reverse).map List.reverse

theorem after?_append (front rest : List Char) : after? front (front ++ rest) = some rest := by
  induction front with
  | nil => rfl
  | cons a as ih => simpa [after?] using ih

theorem before?_append (back rest : List Char) : before? back (rest ++ back) = some rest := by
  simp [before?, after?_append]

end Text

end Playfield
