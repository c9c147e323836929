import Playfield.Instance.Basic

/-!
# Supplies

What a running game takes from outside and does not compute: names for new
instances and times for saves.

Both are streams of which the game takes one element after the other. A run with
the same streams is the same run, and whether ids are unique is a question about
the stream of suffixes alone.

## Main definitions

* `Supply`: The two streams and how much of them has been taken.
* `Supply.name`: Gives an instance an id of its own.
* `Supply.nameAll`: Gives several instances ids, in order.

## Theorems

* `Supply.forall_nameAll`: What does not depend on the id is kept.
-/

namespace Playfield

/-- Suffixes of ids, times in milliseconds, and how many of each are taken. -/
structure Supply where
  suffix : Nat → String
  time : Nat → UInt64
  suffixesTaken : Nat
  timesTaken : Nat

namespace Supply

variable {R : Type}

/-- Gives an instance an id of its own. -/
def name (s : Supply) (i : Instance R) : Instance R × Supply :=
  (i.named (s.suffix s.suffixesTaken), { s with suffixesTaken := s.suffixesTaken + 1 })

/-- Gives several instances ids of their own, in order. -/
def nameAll (s : Supply) : List (Instance R) → List (Instance R) × Supply
  | [] => ([], s)
  | i :: is =>
    let (i, s) := s.name i
    let (is, s) := nameAll s is
    (i :: is, s)

/-- What an instance keeps under another id, all that are given ids keep. -/
theorem forall_nameAll {P : Instance R → Prop} (hP : ∀ i suffix, P i → P (i.named suffix))
    (s : Supply) {is : List (Instance R)} (h : ∀ i ∈ is, P i) : ∀ i ∈ (s.nameAll is).1, P i := by
  -- A name is given to one instance after the other.
  induction is generalizing s with
  | nil =>
    intro i hi
    cases hi
  | cons i is ih =>
    intro j hj
    rcases List.mem_cons.1 hj with rfl | hj
    · exact hP i _ (h i List.mem_cons_self)
    · exact ih (s.name i).2 (fun k hk => h k (List.mem_cons_of_mem i hk)) j hj

/-- The present time. -/
def now (s : Supply) : UInt64 × Supply :=
  (s.time s.timesTaken, { s with timesTaken := s.timesTaken + 1 })

end Supply

end Playfield
