import Playfield.Decimal.Literal

/-!
# JSON Values

The tree that a document denotes, and the tree of a text that is none.

A number keeps its decimal. Nothing is rounded here, so the tree does not depend
on the scalars of whoever reads it. An integer is kept apart from a number with
a point, because only the former can stand where a count is wanted. Numbers that
have no digits, infinities and non-numbers, are in the tree as well: a document
cannot hold them and writes `null` in their place, but a diagnostic can.

A text that is not a document still has a tree, which holds all that was read
and ends where reading stopped. A reader of records walks the tree in the order
of the text. So of two faults it reports the first: a wrong value before the
place where the text breaks off is reported as a wrong value.

What is wrong with a text is not the same for everyone who reads it, and the
tree says enough for all. Someone who keeps a value looks at every character of
it. Someone who skips it only looks for its end: half of a surrogate pair, a
number out of range and nesting without end are no fault then, so they stand in
the tree as what is `refused` together with what is skipped. Someone who wants
one of several names does not look at anything else. So a value that breaks off
is `cut` in one of four ways, and each of the three has a verdict on each way.

## Main definitions

* `Json`: The tree.
* `Cut`: How a value breaks off, with the verdicts `kept`, `skipped`, `named`.
* `Json.cut?`: The fault on which someone who skips a value stumbles.
* `Json.fault?`: The fault on which someone who keeps a value stumbles.
* `Json.depth`: How deep the tree is nested.

## Theorems

* `Json.fault?_of_cut?`: What cannot be skipped cannot be kept.
-/

namespace Playfield

/-- What is wrong with a text that is not a document. -/
inductive Fault where
  | malformed
  | truncated
  deriving DecidableEq

/-- How a value breaks off. The text cannot be continued to a document, or it
    ends: in front of the value, between quotes or brackets, inside one of the
    words `null`, `true` and `false`, or inside a number. -/
inductive Cut where
  | malformed
  | truncated
  | word
  | number
  deriving DecidableEq

namespace Cut

/-- What is found wrong by someone who keeps the value. -/
def kept : Cut → Fault
  | .malformed => .malformed
  | .truncated | .word | .number => .truncated

/-- What is found wrong by someone who skips the value. The end of the text is a
    character like any other then, one with which no number goes on. -/
def skipped : Cut → Fault
  | .malformed | .number => .malformed
  | .truncated | .word => .truncated

/-- What is found wrong by someone who wants a name. One character of a word or
    of a number is enough to tell that it is none. -/
def named : Cut → Fault
  | .malformed | .word | .number => .malformed
  | .truncated => .truncated

/-- The way to break off that everyone calls by the same fault. -/
def ofFault : Fault → Cut
  | .malformed => .malformed
  | .truncated => .truncated

end Cut

/-- A JSON tree. The members of an object are in the order of the text, and a
    name may occur in several. -/
inductive Json where
  | null
  | bool (b : Bool)
  | int (n : Int)
  | real (d : Decimal)
  | nonFinite (name : String)
  | text (s : String)
  | list (items : List Json)
  | object (members : List (String × Json))
  /-- A value that is well formed and cannot be held, and what is left of it for
      someone who skips it. -/
  | refused (j : Json)
  /-- A value that breaks off. -/
  | cut (c : Cut)
  /-- Stands behind the items of a list, or as a member behind those of an
      object, where it breaks off between them; `due` says whether it does so
      after a comma. -/
  | unclosed (f : Fault) (due : Bool)
  /-- The value of a member whose name cannot be held. -/
  | misnamed (j : Json)
  deriving Inhabited

namespace Json

/-- The members of an object. -/
abbrev Members : Type := List (String × Json)

mutual

/-- Where the tree breaks off. -/
def cut? : Json → Option Fault
  | .cut c => some c.skipped
  | .unclosed f _ => some f
  | .refused j => cut? j
  | .misnamed j => cut? j
  | .list js => cutItems? js
  | .object ms => cutMembers? ms
  | _ => none

/-- Where the first broken item breaks off. -/
def cutItems? : List Json → Option Fault
  | [] => none
  | j :: js => (cut? j).or (cutItems? js)

/-- Where the first broken member breaks off. -/
def cutMembers? : List (String × Json) → Option Fault
  | [] => none
  | (_, j) :: ms => (cut? j).or (cutMembers? ms)

end

mutual

/-- The first place where the tree breaks off or holds what cannot be held. -/
def fault? : Json → Option Fault
  | .cut c => some c.kept
  | .unclosed f _ => some f
  | .refused _ => some .malformed
  | .misnamed _ => some .malformed
  | .list js => faultItems? js
  | .object ms => faultMembers? ms
  | _ => none

/-- The fault of the first faulty item. -/
def faultItems? : List Json → Option Fault
  | [] => none
  | j :: js => (fault? j).or (faultItems? js)

/-- The fault of the first faulty member. -/
def faultMembers? : List (String × Json) → Option Fault
  | [] => none
  | (_, j) :: ms => (fault? j).or (faultMembers? ms)

end

/-- The fault on which someone stumbles who skips a member of an object whose
    names are all read. -/
def passed? : Json → Option Fault
  | .misnamed _ => some .malformed
  | j => cut? j

mutual

theorem fault?_of_cut? (j : Json) (h : (cut? j).isSome) : (fault? j).isSome := by
  cases j with
  | cut c => rfl
  | unclosed f due => rfl
  | refused j => rfl
  | misnamed j => rfl
  | list js => exact faultItems?_of_cut? js (by simpa [cut?] using h)
  | object ms => exact faultMembers?_of_cut? ms (by simpa [cut?] using h)
  | _ => simp [cut?] at h

theorem faultItems?_of_cut? (js : List Json) (h : (cutItems? js).isSome) :
    (faultItems? js).isSome := by
  cases js with
  | nil => simp [cutItems?] at h
  | cons j js =>
    simp only [cutItems?, Option.isSome_or, Bool.or_eq_true] at h
    simp only [faultItems?, Option.isSome_or, Bool.or_eq_true]
    exact h.imp (fault?_of_cut? j) (faultItems?_of_cut? js)

theorem faultMembers?_of_cut? (ms : List (String × Json)) (h : (cutMembers? ms).isSome) :
    (faultMembers? ms).isSome := by
  cases ms with
  | nil => simp [cutMembers?] at h
  | cons m ms =>
    simp only [cutMembers?, Option.isSome_or, Bool.or_eq_true] at h
    simp only [faultMembers?, Option.isSome_or, Bool.or_eq_true]
    exact h.imp (fault?_of_cut? m.2) (faultMembers?_of_cut? ms)

end

mutual

/-- The number of lists and objects around the innermost value. -/
def depth : Json → Nat
  | .list js => depthItems js + 1
  | .object ms => depthMembers ms + 1
  | _ => 0

/-- The depth of the deepest item. -/
def depthItems : List Json → Nat
  | [] => 0
  | j :: js => max (depth j) (depthItems js)

/-- The depth of the deepest member. -/
def depthMembers : List (String × Json) → Nat
  | [] => 0
  | (_, j) :: ms => max (depth j) (depthMembers ms)

end

/-- The value of the last member of a name. -/
def member? (name : String) : Json → Option Json
  | .object ms => (ms.reverse.find? (fun m => m.1 == name)).map (·.2)
  | _ => none

end Json

end Playfield
