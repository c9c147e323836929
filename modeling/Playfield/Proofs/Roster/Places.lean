import Mathlib
import Playfield.Proofs.Roster.Doomed

/-!
# Places in a Roster

Which instance is which when some of them have gone.

An id does not tell: a badly made document can give one id to several instances, and then a
destruction means all of them. What tells is the place. It does not change while behaviors
and events are at work, and when what waits takes effect an instance moves up by as many
places as have become free before it (`Roster.settledPlace?`).

## Main definitions

* `Roster.settledPlace?`: Where an instance stands when what waits has taken effect.

## Theorems

* `Roster.settledPlace?_of_mem`: A destroyed instance has no place any more.
* `Roster.exists_settledPlace?`: Another one is found at the place where it stands then.
* `Roster.id_ne_of_mem_survivors`: With a destroyed instance all of its id have gone.
-/

namespace Playfield

/-- What a filter keeps stands behind what it keeps of what stood before it. -/
theorem getElem?_filter_of_getElem? {α : Type} {p : α → Bool} {as : List α} {k : Nat} {a : α}
    (ha : as[k]? = some a) (hp : p a = true) :
    (as.filter p)[(as.take k).countP p]? = some a := by
  induction as generalizing k with
  | nil => cases ha
  | cons b as ih =>
      cases k with
      | zero =>
          cases ha
          rw [List.take_zero, List.filter_cons_of_pos hp]
          rfl
      | succ k =>
          have hrest := ih ha
          rw [List.take_succ_cons, List.countP_cons, List.filter_cons]
          split
          · rwa [List.getElem?_cons_succ]
          · rwa [Nat.add_zero]

namespace Roster

variable {R : Type} {r : Roster R} {i : Instance R} {k : Nat}

/-- Where an instance stands when what waits has taken effect, if it is not destroyed. -/
def settledPlace? (r : Roster R) (k : Nat) : Option Nat :=
  match r.live[k]? with
  | none => none
  | some i =>
    if r.destroys.contains i.id then none
    else some ((r.live.take k).countP fun j => !r.destroys.contains j.id)

theorem settledPlace?_of_mem (hk : r.live[k]? = some i) (hi : i.id ∈ r.destroys) :
    r.settledPlace? k = none := by
  simp only [settledPlace?, hk, if_pos (List.contains_iff_mem.2 hi)]

theorem exists_settledPlace? (hk : r.live[k]? = some i) (hi : i.id ∉ r.destroys) :
    ∃ l, r.settledPlace? k = some l ∧ r.applyPending.live[l]? = some i := by
  have hspared : (!r.destroys.contains i.id) = true := by simpa using hi
  have hfound := getElem?_filter_of_getElem? (p := fun j => !r.destroys.contains j.id) hk hspared
  refine ⟨(r.live.take k).countP fun j => !r.destroys.contains j.id, ?_, ?_⟩
  · simp only [settledPlace?, hk, if_neg (mt List.contains_iff_mem.1 hi)]
  · -- The new instances stand behind the survivors.
    rw [live_applyPending, survivors_eq, List.getElem?_append_left, hfound]
    exact (List.getElem?_eq_some_iff.1 hfound).1

theorem id_ne_of_mem_survivors {id : String} (hid : id ∈ r.destroys) :
    ∀ j ∈ r.survivors, j.id ≠ id := by
  intro j hj hjid
  rw [survivors_eq, List.mem_filter, hjid, List.contains_iff_mem.2 hid] at hj
  exact Bool.false_ne_true hj.2

end Roster

end Playfield
