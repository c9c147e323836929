import Playfield.Text.Affix
import Playfield.Text.CharClass

/-!
# Texts with References

Texts in which `${global.name}` stands for a variable.

A text is cut once, from left to right, into characters that stand for
themselves and references. Where a reference could begin but is not well formed,
its first character stands for itself and the search goes on behind it. The cut
does not look at any variable. What a variable contributes is put in afterwards
and is not cut again.

## Main definitions

* `Fragment`: A character or a reference.
* `Fragment.reference?`: The reference at the beginning of a text.
* `Fragment.split`: The fragments of a text.
* `Fragment.source`: A fragment as it was written.

## Theorems

* `Fragment.source_reference?`: A reference is the text that it was cut from.
-/

namespace Playfield

/-- A piece of a text with references. -/
inductive Fragment where
  | literal (c : Char)
  | reference (name : List Char)
  deriving DecidableEq

namespace Fragment

/-- What a reference begins with. -/
def opening : List Char := "$\x7bglobal.".toList

/-- A fragment as it was written. -/
def source : Fragment → List Char
  | .literal c => [c]
  | .reference name => opening ++ name ++ ['\x7d']

/-- The name of the reference at the beginning of a text, and what follows it. -/
def reference? (cs : List Char) : Option (List Char × List Char) :=
  match Text.after? opening cs with
  | none => none
  | some rest =>
    let name := rest.takeWhile CharClass.word.mem
    match rest.dropWhile CharClass.word.mem with
    | '\x7d' :: rest => if name.isEmpty then none else some (name, rest)
    | _ => none

theorem eq_append_of_after? {front cs rest : List Char} (h : Text.after? front cs = some rest) :
    cs = front ++ rest := by
  induction front generalizing cs with
  | nil => simpa [Text.after?] using h
  | cons a as ih =>
    cases cs with
    | nil => simp [Text.after?] at h
    | cons c cs =>
      simp only [Text.after?] at h
      split at h
      · next hac => rw [hac, ih h, List.cons_append]
      · cases h

theorem source_reference? {cs name rest : List Char} (h : reference? cs = some (name, rest)) :
    cs = source (.reference name) ++ rest := by
  unfold reference? at h
  split at h
  · cases h
  · next tail htail =>
    simp only at h
    split at h
    · next more hmore =>
      split at h
      · cases h
      · simp only [Option.some.injEq, Prod.mk.injEq] at h
        obtain ⟨rfl, rfl⟩ := h
        have ht := @List.takeWhile_append_dropWhile _ CharClass.word.mem tail
        rw [hmore] at ht
        simp [eq_append_of_after? htail, source, ht]
    · cases h

theorem length_reference? {cs name rest : List Char} (h : reference? cs = some (name, rest)) :
    rest.length < cs.length := by
  rw [source_reference? h]
  simp only [source, List.length_append, List.length_singleton]
  omega

/-- The fragments of a text. -/
def split : List Char → List Fragment
  | [] => []
  | c :: cs =>
    match h : reference? (c :: cs) with
    | some (name, rest) =>
      have : rest.length < (c :: cs).length := length_reference? h
      .reference name :: split rest
    | none => .literal c :: split cs
termination_by cs => cs.length
decreasing_by
  · assumption
  · exact Nat.lt_succ_self _

end Fragment

end Playfield
