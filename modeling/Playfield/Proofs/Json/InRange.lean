import Mathlib
import Playfield.Json.Reader
import Playfield.Proofs.Json.Plain

/-!
# Numbers in Range

Every tree that is read has its numbers in range.

A number of a text that is too large to be rounded is refused where it is read, and an
integer that is too large for a word is read as a number with a point. So the numbers in
the tree of any text can be rounded to finite ones, whatever the text is and wherever it
breaks off. The tree is built by a machine, and the claim about the tree is an invariant
of the machine: whatever lies in its frames is in range, whatever has been read and
whatever is waiting to be (`Reader.State.InRange`). Each of its moves takes one value at
most, and keeps it or stops.

## Main definitions

* `Json.InRange`: A tree whose numbers are in range.
* `Reader.State.InRange`: A machine that holds such trees only.

## Theorems

* `Reader.inRange_feed`, `Reader.inRange_step`: The invariant is kept.
* `Json.inRange_read`: The tree of a text is in range.
-/

namespace Playfield

namespace Json

/-- A tree whose numbers are in range, as far as anyone looks at them. -/
inductive InRange : Json → Prop where
  | null : InRange .null
  | bool (b : Bool) : InRange (.bool b)
  | int {n : Int} (h : Decimal.isWordSized n = true) : InRange (.int n)
  | real {d : Decimal} (h : d.isOutOfRange = false) : InRange (.real d)
  | nonFinite (name : String) : InRange (.nonFinite name)
  | text (s : String) : InRange (.text s)
  | list {js : List Json} (h : ∀ j ∈ js, InRange j) : InRange (.list js)
  | object {ms : Members} (h : ∀ m ∈ ms, InRange m.2) : InRange (.object ms)
  | refused (j : Json) : InRange (.refused j)
  | cut (c : Cut) : InRange (.cut c)
  | unclosed (f : Fault) (due : Bool) : InRange (.unclosed f due)
  | misnamed (j : Json) : InRange (.misnamed j)

theorem IsPlain.inRange {j : Json} (h : IsPlain j) : InRange j := by
  induction h with
  | null => exact .null
  | bool b => exact .bool b
  | int h => exact .int h
  | real _ hr => exact .real hr
  | nonFinite name => exact .nonFinite name
  | text s => exact .text s
  | list _ ih => exact .list ih
  | object _ ih => exact .object ih

end Json

namespace Reader

/-- What is in a frame is in range. -/
def Frame.InRange : Frame → Prop
  | .list js => ∀ j ∈ js, j.InRange
  | .object ms _ => ∀ m ∈ ms, m.2.InRange

/-- The value of a word that is being read is in range. -/
def Mode.InRange : Mode → Prop
  | .word _ j => j.InRange
  | .between | .number _ _ | .quoted _ _ _ _ => True

/-- The value behind which nothing may come is in range. -/
def Expected.InRange : Expected → Prop
  | .nothing root => root.InRange
  | .value | .itemOrEnd | .nameOrEnd | .name | .colon | .commaOrEnd => True

/-- The value of a token is in range. -/
def Token.InRange : Token → Prop
  | .leaf j => j.InRange
  | .openList | .closeList | .openObject | .closeObject | .comma | .colon | .quoted _ | .bad => True

/-- All values that the machine holds are in range. -/
structure State.InRange (s : State) : Prop where
  mode : s.mode.InRange
  stack : ∀ f ∈ s.stack, f.InRange
  expected : s.expected.InRange
  result : ∀ d ∈ s.result, d.root.InRange

theorem Frame.inRange_close {f : Frame} (h : f.InRange) (fs : List Frame) :
    (f.close fs).InRange := by
  unfold Frame.close
  dsimp only
  split
  · cases f with
    | list js => exact .list fun j hj => h j (List.mem_reverse.1 hj)
    | object ms name => exact .object fun m hm => h m (List.mem_reverse.1 hm)
  · exact .refused _

theorem Frame.inRange_push {f : Frame} (h : f.InRange) {j : Json} (hj : j.InRange) :
    (f.push j).InRange := by
  cases f with
  | list js => exact List.forall_mem_cons.2 ⟨hj, h⟩
  | object ms name =>
      cases name with
      | some n => exact List.forall_mem_cons.2 ⟨hj, h⟩
      | none => exact List.forall_mem_cons.2 ⟨.misnamed j, h⟩

theorem inRange_enclose {fs : List Frame} (hfs : ∀ f ∈ fs, f.InRange) {j : Json}
    (hj : j.InRange) : (enclose j fs).InRange := by
  induction fs generalizing j with
  | nil => exact hj
  | cons f fs ih =>
      rw [List.forall_mem_cons] at hfs
      exact ih hfs.2 (Frame.inRange_close (Frame.inRange_push hfs.1 hj) fs)

theorem inRange_rest (f : Fault) (s : State) : (rest f s).InRange := by
  unfold rest
  split
  · exact .unclosed f true
  · exact .unclosed f true
  · exact .unclosed f false
  · exact .unclosed f false
  · exact .unclosed f false
  · exact .cut _

theorem inRange_numberValue (cs : List Char) : (numberValue cs).InRange := by
  -- The integer that the digits spell is not looked at any further.
  unfold numberValue Decimal.ofWritten Decimal.Parts.toWritten
  dsimp only
  generalize (if (Decimal.Parts.span cs).1.sign.getD false = true then
    -(Decimal.ofDigits (Decimal.Parts.span cs).1.whole : Int)
    else (Decimal.ofDigits (Decimal.Parts.span cs).1.whole : Int)) = n
  by_cases hint : ((Decimal.Parts.span cs).1.fraction.isNone &&
      (Decimal.Parts.span cs).1.power.isNone && Decimal.isWordSized n &&
      !((Decimal.Parts.span cs).1.sign.getD false && n == 0)) = true
  · rw [if_pos hint]
    simp only [Bool.and_eq_true] at hint
    exact .int hint.1.2
  rw [if_neg hint]
  by_cases hrange : (Decimal.Parts.span cs).1.toDecimal.isOutOfRange = true
  · rw [if_pos hrange]
    exact .refused _
  · rw [if_neg hrange]
    exact .real (by simpa using hrange)

section

variable {s : State} (hs : s.InRange)

include hs

theorem inRange_between : State.InRange { s with mode := .between } :=
  ⟨trivial, hs.stack, hs.expected, hs.result⟩

theorem inRange_stopWith {j : Json} (hj : j.InRange) : (stopWith j s).InRange := by
  refine ⟨hs.mode, hs.stack, hs.expected, fun d hd => ?_⟩
  cases hd
  exact inRange_enclose hs.stack hj

theorem inRange_stop (f : Fault) : (stop f s).InRange := inRange_stopWith hs (inRange_rest f s)

theorem inRange_accept {j : Json} (hj : j.InRange) : (accept j s).InRange := by
  have hstack := hs.stack
  unfold accept
  split
  · exact ⟨hs.mode, hs.stack, hj, hs.result⟩
  · next f fs hfs =>
    rw [hfs, List.forall_mem_cons] at hstack
    exact ⟨hs.mode, List.forall_mem_cons.2 ⟨Frame.inRange_push hstack.1 hj, hstack.2⟩, trivial,
      hs.result⟩

theorem inRange_close : (close s).InRange := by
  have hstack := hs.stack
  unfold close
  split
  · exact inRange_stop hs _
  · next f fs hfs =>
    rw [hfs, List.forall_mem_cons] at hstack
    have hrest : State.InRange { s with stack := fs } :=
      ⟨hs.mode, hstack.2, hs.expected, hs.result⟩
    exact inRange_accept hrest (Frame.inRange_close hstack.1 fs)

theorem inRange_feedValue {t : Token} (ht : t.InRange) : (feedValue t s).InRange := by
  unfold feedValue
  split
  · exact ⟨hs.mode, List.forall_mem_cons.2 ⟨List.forall_mem_nil _, hs.stack⟩, trivial, hs.result⟩
  · exact ⟨hs.mode, List.forall_mem_cons.2 ⟨List.forall_mem_nil _, hs.stack⟩, trivial, hs.result⟩
  · exact inRange_accept hs ht
  · exact inRange_accept hs (.text _)
  · exact inRange_accept hs (.refused _)
  · exact inRange_stop hs _

theorem inRange_feedName (t : Token) : (feedName t s).InRange := by
  have hstack := hs.stack
  unfold feedName
  split
  · next n ms name fs hfs =>
    rw [hfs, List.forall_mem_cons] at hstack
    exact ⟨hs.mode, List.forall_mem_cons.2 hstack, trivial, hs.result⟩
  · exact inRange_stop hs _

/-- A token brings at most its own value into the machine. -/
theorem inRange_feed {t : Token} (ht : t.InRange) : (feed t s).InRange := by
  unfold feed
  split
  · exact inRange_feedValue hs ht
  · exact inRange_close hs
  · exact inRange_feedValue hs ht
  · exact inRange_close hs
  · exact inRange_feedName hs _
  · exact inRange_feedName hs _
  · exact ⟨hs.mode, hs.stack, trivial, hs.result⟩
  · exact ⟨hs.mode, hs.stack, trivial, hs.result⟩
  · exact inRange_close hs
  · exact ⟨hs.mode, hs.stack, trivial, hs.result⟩
  · exact inRange_close hs
  · next root hroot =>
    have hexpected := hs.expected
    rw [hroot] at hexpected
    refine ⟨hs.mode, hs.stack, hs.expected, fun d hd => ?_⟩
    cases hd
    exact hexpected
  · exact inRange_stop hs _

theorem inRange_stepBetween (c : Char) : (stepBetween c s).InRange := by
  unfold stepBetween
  split
  · exact hs
  iterate 6 split; exact inRange_feed hs trivial
  split
  · split
    · exact ⟨trivial, hs.stack, hs.expected, hs.result⟩
    · exact inRange_feed hs trivial
  split
  · next m _ hm =>
    refine ⟨?_, hs.stack, hs.expected, hs.result⟩
    unfold opening? at hm
    split at hm
    · cases hm
      exact .null
    · cases hm
      exact .bool true
    · cases hm
      exact .bool false
    · rcases Option.map_eq_some_iff.1 hm with ⟨p, _, rfl⟩
      exact trivial
  · exact inRange_feed hs trivial

theorem inRange_stepWord (c : Char) (left : List Char) {j : Json} (hj : j.InRange) :
    (stepWord c left j s).InRange := by
  unfold stepWord
  split
  · exact inRange_feed hs trivial
  · split
    · exact inRange_feed (inRange_between hs) hj
    · exact inRange_stop hs _
  · split
    · exact ⟨hj, hs.stack, hs.expected, hs.result⟩
    · exact inRange_stop hs _

theorem inRange_stepNumber (c : Char) (phase : Decimal.Phase) (cs : List Char) :
    (stepNumber c phase cs s).InRange := by
  unfold stepNumber
  split
  · exact ⟨trivial, hs.stack, hs.expected, hs.result⟩
  · split
    · refine inRange_stepBetween (inRange_feed (inRange_between hs) ?_) c
      exact inRange_numberValue cs.reverse
    · exact inRange_stop hs _

theorem inRange_quoted (cs : List Char) (escape : Escape) (high : Option Nat) (lone : Bool) :
    State.InRange { s with mode := .quoted cs escape high lone } :=
  ⟨trivial, hs.stack, hs.expected, hs.result⟩

theorem inRange_stepQuoted (c : Char) (cs : List Char) (escape : Escape) (high : Option Nat)
    (lone : Bool) : (stepQuoted c cs escape high lone s).InRange := by
  unfold stepQuoted
  split
  · split
    · exact inRange_feed (inRange_between hs) trivial
    split
    · exact inRange_quoted hs _ _ _ _
    split
    · exact inRange_stop hs _
    · exact inRange_quoted hs _ _ _ _
  · split
    · exact inRange_quoted hs _ _ _ _
    split
    · exact inRange_quoted hs _ _ _ _
    · exact inRange_stop hs _
  · dsimp only
    split
    · exact inRange_quoted hs _ _ _ _
    split
    · refine ⟨?_, hs.stack, hs.expected, hs.result⟩
      unfold addUnit
      split
      · split <;> exact trivial
      · dsimp only
        split <;> exact trivial
    · exact inRange_stop hs _

/-- A character keeps all values in range. -/
theorem inRange_step (c : Char) : (step s c).InRange := by
  have hmode := hs.mode
  unfold step
  split
  · exact hs
  split
  · exact inRange_stepBetween hs c
  · next left j hm =>
    rw [hm] at hmode
    exact inRange_stepWord hs c left hmode
  · exact inRange_stepNumber hs c _ _
  · exact inRange_stepQuoted hs c _ _ _ _

theorem inRange_atEnd : (atEnd s).InRange := by
  unfold atEnd
  split
  · exact hs
  · exact inRange_stopWith hs (.cut _)
  · split
    · refine inRange_feed (inRange_between hs) ?_
      exact inRange_numberValue _
    · exact inRange_stopWith hs (.cut _)
  · unfold stopQuoted
    dsimp only
    split
    · split
      · exact inRange_stopWith hs (.misnamed _)
      · exact inRange_stopWith hs (.misnamed _)
      · exact inRange_stopWith hs (.refused _)
    · exact inRange_stop hs _

theorem inRange_finish : (finish s).root.InRange := by
  have hend : State.InRange (if s.result.isSome then s else atEnd s) := by
    split
    · exact hs
    · exact inRange_atEnd hs
  unfold finish
  dsimp only
  split
  · next d hd => exact hend.result d hd
  · next root _ hroot =>
    have hexpected := hend.expected
    rw [hroot] at hexpected
    exact hexpected
  · exact inRange_enclose hend.stack (inRange_rest _ _)

end

end Reader

/-- The tree of a text is in range. -/
theorem Json.inRange_read (text : String) : (Json.read text).root.InRange := by
  have hstart : Reader.start.InRange := by
    refine ⟨trivial, List.forall_mem_nil _, trivial, fun d hd => ?_⟩
    cases hd
  have hrun : ∀ (cs : List Char) (s : Reader.State), s.InRange →
      (cs.foldl Reader.step s).InRange := by
    intro cs
    induction cs with
    | nil => exact fun s hs => hs
    | cons c cs ih => exact fun s hs => ih _ (Reader.inRange_step hs c)
  exact Reader.inRange_finish (hrun text.toList Reader.start hstart)

end Playfield
