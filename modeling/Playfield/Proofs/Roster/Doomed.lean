import Mathlib
import Playfield.Roster

/-!
# Looking Up the Doomed

Which instances are destroyed when what waits takes effect.

Ids to be destroyed are noted as they come. Before they are used they are put in order and
runs of equal ids are shortened to one, and each live instance is then looked up among them
by halving the range in which its id can be. That this finds exactly the ids that have been
noted takes two facts. Ordering and shortening neither lose an id nor invent one, and they
leave the table in ascending order, without which a half of the range could be set aside
that holds the id.

The search is told by what is between two bounds (`IsBetween`). One look at the middle of the
range leaves an id between new bounds exactly if it has been between the old ones, on
whichever side the search goes on; the rest follows the recursion of the search.

## Main definitions

* `IsBetween`: An id stands in a part of a table.

## Theorems

* `mem_eraseReps`, `eraseReps_sublist`: What shortening keeps.
* `isBetween_above`, `isBetween_below`: Half of a range can be set aside.
* `isListed_iff`: In an ordered table an id is found if and only if it is there.
* `Roster.isListed_doomed`: So the ids that are found are those that have been noted.
* `Roster.survivors_eq`: Those live on of whom no destruction has been noted.
-/

namespace Playfield

section Runs

variable {a b : String} {ids acc : List String}

/-- What is shortened is the list without some of its entries. -/
theorem eraseReps_loop_sublist (a : String) (ids acc : List String) :
    (List.eraseRepsBy.loop (· == ·) a ids acc).Sublist (acc.reverse ++ a :: ids) := by
  induction ids generalizing a acc with
  | nil =>
      rw [List.eraseRepsBy.loop, List.reverse_cons]
  | cons b ids ih =>
      rw [List.eraseRepsBy.loop]
      cases a == b with
      | true =>
          -- The second of two equal ids is left out.
          have hskip : (a :: ids).Sublist (a :: b :: ids) :=
            (List.sublist_cons_self b ids).cons_cons a
          exact (ih a acc).trans (hskip.append_left acc.reverse)
      | false =>
          have hrest := ih b (a :: acc)
          rwa [List.reverse_cons, List.append_assoc] at hrest

theorem eraseReps_sublist (ids : List String) : ids.eraseReps.Sublist ids := by
  cases ids with
  | nil => exact List.Sublist.refl _
  | cons a ids => exact eraseReps_loop_sublist a ids []

/-- No id is lost, because what is left out is equal to what stands before it. -/
theorem mem_eraseReps_loop (h : b ∈ acc ∨ b ∈ a :: ids) :
    b ∈ List.eraseRepsBy.loop (· == ·) a ids acc := by
  induction ids generalizing a acc with
  | nil =>
      rw [List.eraseRepsBy.loop, List.mem_reverse, List.mem_cons]
      rcases h with h | h
      · exact .inr h
      · exact .inl (List.mem_singleton.1 h)
  | cons c ids ih =>
      rw [List.eraseRepsBy.loop]
      cases hac : a == c with
      | true =>
          refine ih (h.imp_right fun h => ?_)
          rw [← eq_of_beq hac] at h
          simpa using h
      | false =>
          refine ih ?_
          rw [List.mem_cons] at h ⊢
          tauto

theorem mem_eraseReps : b ∈ ids.eraseReps ↔ b ∈ ids := by
  refine ⟨fun h => (eraseReps_sublist ids).subset h, fun h => ?_⟩
  cases ids with
  | nil => exact h
  | cons a ids => exact mem_eraseReps_loop (.inr h)

end Runs

section Search

variable {table : Array String} {id : String} {lo hi m : Nat}

/-- An id stands in a table, not before one place and before another one. -/
def IsBetween (table : Array String) (id : String) (lo hi : Nat) : Prop :=
  ∃ k, ∃ h : k < table.size, lo ≤ k ∧ k < hi ∧ table[k] = id

theorem le_of_sorted (hsorted : table.toList.Pairwise (· ≤ ·)) {i j : Nat} (hij : i ≤ j)
    (hj : j < table.size) : table[i] ≤ table[j] := by
  rcases Nat.lt_or_eq_of_le hij with hlt | rfl
  · exact List.pairwise_iff_getElem.1 hsorted i j (Nat.lt_trans hlt hj) hj hlt
  · exact le_refl _

/-- An id above the one in a place stands behind it. -/
theorem isBetween_above (hsorted : table.toList.Pairwise (· ≤ ·)) (hm : m < table.size)
    (hlo : lo ≤ m) (h : table[m] < id) :
    IsBetween table id lo hi ↔ IsBetween table id (m + 1) hi := by
  constructor
  · rintro ⟨k, hk, -, hhi, rfl⟩
    refine ⟨k, hk, ?_, hhi, rfl⟩
    by_contra hkm
    exact absurd (le_of_sorted hsorted (by omega) hm) (not_le_of_gt h)
  · rintro ⟨k, hk, hkm, hhi, rfl⟩
    exact ⟨k, hk, by omega, hhi, rfl⟩

/-- An id below the one in a place stands before it. -/
theorem isBetween_below (hsorted : table.toList.Pairwise (· ≤ ·)) (hm : m < table.size)
    (hhi : m < hi) (h : id < table[m]) : IsBetween table id lo hi ↔ IsBetween table id lo m := by
  constructor
  · rintro ⟨k, hk, hlo, -, rfl⟩
    refine ⟨k, hk, hlo, ?_, rfl⟩
    by_contra hkm
    exact absurd (le_of_sorted hsorted (by omega) hk) (not_le_of_gt h)
  · rintro ⟨k, hk, hlo, hkm, rfl⟩
    exact ⟨k, hk, hlo, by omega, rfl⟩

theorem not_isBetween_of_le (h : hi ≤ lo) : ¬ IsBetween table id lo hi := by
  rintro ⟨k, -, hlo, hhi, -⟩
  omega

/-- The search answers what is between its bounds, of which the upper one is included. -/
theorem binSearchAux_iff (hsorted : table.toList.Pairwise (· ≤ ·)) (lo : Fin (table.size + 1))
    (hi : Fin table.size) (h : lo.1 ≤ hi.1) :
    Array.binSearchAux (fun a b => decide (a < b)) Option.isSome table id lo hi h = true ↔
      IsBetween table id lo (hi + 1) := by
  fun_induction Array.binSearchAux with
  | case1 lo hi _ m a hbelow hnext _ ih =>
      -- The id is above the middle, and the search goes on behind it.
      exact ih.trans (isBetween_above hsorted (by omega) (by omega) (of_decide_eq_true hbelow)).symm
  | case2 lo hi _ m a hbelow hstop _ =>
      rw [isBetween_above hsorted (by omega) (by omega) (of_decide_eq_true hbelow)]
      simpa using not_isBetween_of_le (by omega)
  | case3 lo hi _ m a _ habove hstop _ =>
      rw [isBetween_below hsorted (by omega) (by omega) (of_decide_eq_true habove)]
      simpa using not_isBetween_of_le (by omega)
  | case4 lo hi _ m a _ habove hgo _ ih =>
      -- The id is below the middle, and the search goes on before it.
      have hm : m - 1 + 1 = m := by omega
      rw [isBetween_below hsorted (by omega) (by omega) (of_decide_eq_true habove)]
      exact ih.trans (iff_of_eq (congrArg (IsBetween table id lo) hm))
  | case5 lo hi _ m a hbelow habove _ =>
      rw [decide_eq_true_eq, not_lt] at hbelow habove
      have heq : table[m] = id := le_antisymm habove hbelow
      simpa using ⟨m, by omega, by omega, by omega, heq⟩

end Search

namespace Roster

/-- In an ordered table an id is found if and only if it is there. -/
theorem isListed_iff {table : Array String} (hsorted : table.toList.Pairwise (· ≤ ·))
    (id : String) : isListed table id = true ↔ id ∈ table := by
  -- The whole table is searched, unless there is nothing to search.
  have hwhole : id ∈ table ↔ IsBetween table id 0 table.size := by
    rw [Array.mem_iff_getElem]
    constructor
    · rintro ⟨k, hk, rfl⟩
      exact ⟨k, hk, Nat.zero_le k, hk, rfl⟩
    · rintro ⟨k, hk, -, -, rfl⟩
      exact ⟨k, hk, rfl⟩
  rw [hwhole]
  unfold isListed Array.binSearchContains
  split
  · next hsize =>
    have hlast : table.size - 1 < table.size := by omega
    simp only [if_pos hlast, Nat.zero_le, dite_true]
    rw [binSearchAux_iff hsorted, Nat.sub_add_cancel hsize]
  · next hsize => simpa using not_isBetween_of_le (by omega)

variable {R : Type}

theorem sorted_doomed (r : Roster R) : r.doomed.toList.Pairwise (· ≤ ·) := by
  have hle (a b : String) : (!decide (b < a)) = true ↔ a ≤ b := by
    rw [Bool.not_eq_true', decide_eq_false_iff_not, not_lt]
  have hordered : (r.destroys.mergeSort fun a b => !decide (b < a)).Pairwise
      fun a b => (!decide (b < a)) = true := by
    refine List.pairwise_mergeSort (fun a b c => ?_) (fun a b => ?_) r.destroys
    · rw [hle, hle, hle]
      exact le_trans
    · rw [Bool.or_eq_true, hle, hle]
      exact le_total a b
  exact (hordered.sublist (eraseReps_sublist _)).imp fun h => (hle _ _).1 h

/-- The ids that are found are those of which a destruction has been noted. -/
theorem isListed_doomed (r : Roster R) (id : String) :
    isListed r.doomed id = r.destroys.contains id := by
  rw [Bool.eq_iff_iff, isListed_iff r.sorted_doomed, List.contains_iff_mem]
  rw [doomed, List.mem_toArray, mem_eraseReps, List.mem_mergeSort]

/-- Those live on of whom no destruction has been noted. -/
theorem survivors_eq (r : Roster R) :
    r.survivors = r.live.filter fun i => !r.destroys.contains i.id := by
  unfold survivors
  split
  · next hnone =>
    rw [List.isEmpty_iff.1 hnone]
    exact (List.filter_eq_self.2 fun i _ => rfl).symm
  · exact List.filter_congr fun i _ => congrArg _ (r.isListed_doomed i.id)

end Roster

end Playfield
