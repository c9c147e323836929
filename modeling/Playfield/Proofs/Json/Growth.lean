import Mathlib
import Playfield.Proofs.Json.Variants

/-!
# How Deep Documents Grow

By how much a document is deeper when it is written than when it was read.

What is missing in a document counts as a default, and when the document is written the
default is there. An empty list that stands where there was nothing is one level more. So
a document can grow, but not by more than this one level: a list that has been read was
there already, and it is as deep as before or its items have grown. Stated for one bound
at a time this is a law like others, with trees below the bound on the one side and
values that are written within it on the other. It goes through lists as it stands. At
records and types with several forms, where the default comes from, there is something to
start with, as only lists and objects are read there.

## Main definitions

* `Json.Below`: A tree in range that is less deep than a bound.

## Theorems

* `Codec.carries_list_below`: What grows by a level grows by no more in a list.
* `Codec.carries_record_below`, `Codec.carries_tagged_below`: Bounds below two need no proof
  where only lists and objects are read.
-/

namespace Playfield

namespace Json

/-- A tree in range that is less deep than a bound. -/
structure Below (D : Nat) (j : Json) : Prop where
  inRange : j.InRange
  depth_lt : j.depth < D

theorem descends_below (D : Nat) : Descends (Below (D + 1)) (Below D) := by
  constructor
  · intro js hjs j hj
    refine ⟨descends_inRange.items js hjs.inRange j hj, ?_⟩
    exact (depthItems_le.1 le_rfl j hj).trans_lt (Nat.lt_of_succ_lt_succ hjs.depth_lt)
  · intro ms hms m hm
    refine ⟨descends_inRange.members ms hms.inRange m hm, ?_⟩
    exact (depthMembers_le.1 le_rfl m hm).trans_lt (Nat.lt_of_succ_lt_succ hms.depth_lt)

end Json

namespace Codec

variable {α : Type} {c : Codec α} {k : ℕ∞} {P : α → Prop}

/-- A codec that reads only lists and objects finds nothing below a bound of one. -/
theorem carries_below_of_depth_pos {Q : Nat → α → Prop}
    (hpos : ∀ src j a, c.read src j = .ok a → 0 < j.depth)
    (h : ∀ D, c.Carries k P (Json.Below (D + 2)) (Q (D + 2))) (D : Nat) :
    c.Carries k P (Json.Below D) (Q D) := by
  -- What comes back does not depend on the bound, so any of them will do for that half.
  refine ⟨(h 0).plain, (h 0).read_write, fun src j a hj hread => ?_⟩
  have hdepth := hpos src j a hread
  have hlt := hj.depth_lt
  obtain ⟨D, rfl⟩ : ∃ D', D = D' + 2 := ⟨D - 2, by omega⟩
  exact (h D).of_read src j a hj hread

/-- A type whose values are hardly nested does not grow. -/
theorem Holds.below {k : Nat} (h : c.Holds k P)
    (hpos : ∀ src j a, c.read src j = .ok a → k ≤ j.depth + 1) (D : Nat) :
    c.Carries k P (Json.Below D) fun a => P a ∧ (c.write a).depth ≤ D := by
  refine ⟨h.plain, h.read_write, fun src j a hj hread => ?_⟩
  have hdepth := h.depth_write_le a
  have hlt := hj.depth_lt
  have := hpos src j a hread
  exact ⟨h.of_read src j a hj.inRange hread, by omega⟩

theorem depth_list_write_le {D : Nat} {as : List α} (h : ∀ a ∈ as, (c.write a).depth ≤ D) :
    (c.list.write as).depth ≤ D + 1 := by
  refine Nat.succ_le_succ (Json.depthItems_le.2 fun j hj => ?_)
  rcases List.mem_map.1 hj with ⟨a, ha, rfl⟩
  exact h a ha

/-- A list that has been read was there before, so it has grown only as its items have. -/
theorem carries_list_below {Q : α → Prop}
    (h : ∀ D, c.Carries k P (Json.Below D) fun a => Q a ∧ (c.write a).depth ≤ D) (D : Nat) :
    c.list.Carries (k + 1) (fun as => ∀ a ∈ as, P a) (Json.Below D)
      fun as => (∀ a ∈ as, Q a) ∧ (c.list.write as).depth ≤ D := by
  have hlist := fun D => carries_list (Json.descends_below D) (h D)
  refine ⟨(hlist 0).plain, (hlist 0).read_write, fun src j as hj hread => ?_⟩
  -- Every item is below one less, so each has grown to that at most, and the list is around it.
  cases D with
  | zero => exact absurd hj.depth_lt (Nat.not_lt_zero _)
  | succ D =>
      have has := (hlist D).of_read src j as hj hread
      exact ⟨fun a ha => (has a ha).1, depth_list_write_le fun a ha => (has a ha).2⟩

/-- Only lists and objects are read as records. -/
theorem carries_record_below {r : Fields α α} {Q : Nat → α → Prop} (hnames : r.names.Nodup)
    (hvalue : ∀ a, r.value a = a) (h : ∀ D, r.Carries ⊤ P (Json.Below (D + 1)) (Q (D + 2)))
    (D : Nat) : (record r).Carries ⊤ P (Json.Below D) (Q D) := by
  refine carries_below_of_depth_pos (fun src j a hread => ?_) (fun D => ?_) D
  · cases j with
    | list js => exact Nat.succ_pos _
    | object ms => exact Nat.succ_pos _
    | _ => cases hread
  · exact (carries_record hnames hvalue (Json.descends_below (D + 1)) (h D)).unbounded

/-- So it is with types with several forms. -/
theorem carries_tagged_below {vs : List (Variant α)} {Q : Nat → α → Prop}
    (h : ∀ D, Variant.Covers vs ["type"] ⊤ P (Json.Below (D + 1)) (Q (D + 2))) (D : Nat) :
    (tagged vs).Carries ⊤ P (Json.Below D) (Q D) := by
  refine carries_below_of_depth_pos (fun src j a hread => ?_) (fun D => ?_) D
  · cases j with
    | list js => exact Nat.succ_pos _
    | object ms => exact Nat.succ_pos _
    | _ => cases hread
  · exact (carries_tagged (Json.descends_below (D + 1)) (h D)).unbounded

theorem depth_pos_of_read_flattened {β : Type} {r : Fields α (β → α)} {vs : List (Variant β)}
    {get : α → β} {src : Source} {j : Json} {a : α} (h : (flattened r vs get).read src j = .ok a) :
    0 < j.depth := by
  cases j with
  | object ms => exact Nat.succ_pos _
  | _ => cases h

end Codec

end Playfield
