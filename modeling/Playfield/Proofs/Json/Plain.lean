import Mathlib
import Playfield.Json.Printer
import Playfield.Proofs.Decimal.Normal

/-!
# Plain Trees

The trees that are written, and what a document holds of them.

A tree that comes from a codec has none of the marks that a reader leaves behind:
nothing in it is refused or breaks off, and its numbers are the ones that documents
can spell, apart from those that are not finite. Such a tree is plain. A document
holds it as it is but for the numbers that are not finite, which it holds as `null`.

How deep a plain tree is nested is bounded for most types, but not for all: groups of
events stand in groups of events. So the bound is a number or `⊤`.

## Main definitions

* `Json.IsPlain`: A tree without marks.
* `Json.Plain`: A plain tree that is nested at most so deep.
* `Json.held`: What a document holds of a tree.

## Theorems

* `Json.depthItems_le`, `Json.depthMembers_le`: A depth is bounded where all parts are.
* `Json.isPlain_held`, `Json.depth_held`: What is held of a plain tree is plain and as deep.
* `Json.fault?_of_isPlain`: Nobody stumbles over a plain tree.
-/

namespace Playfield

namespace Json

theorem cast_depthItems_le {k : ℕ∞} {js : List Json} :
    (depthItems js : ℕ∞) ≤ k ↔ ∀ j ∈ js, (depth j : ℕ∞) ≤ k := by
  induction js with
  | nil => simp [depthItems]
  | cons j js ih => rw [depthItems, Nat.mono_cast.map_max, max_le_iff, ih, List.forall_mem_cons]

theorem cast_depthMembers_le {k : ℕ∞} {ms : Members} :
    (depthMembers ms : ℕ∞) ≤ k ↔ ∀ m ∈ ms, (depth m.2 : ℕ∞) ≤ k := by
  induction ms with
  | nil => simp [depthMembers]
  | cons m ms ih => rw [depthMembers, Nat.mono_cast.map_max, max_le_iff, ih, List.forall_mem_cons]

theorem depthItems_le {d : Nat} {js : List Json} :
    depthItems js ≤ d ↔ ∀ j ∈ js, depth j ≤ d := by
  exact_mod_cast cast_depthItems_le (k := d)

theorem depthMembers_le {d : Nat} {ms : Members} :
    depthMembers ms ≤ d ↔ ∀ m ∈ ms, depth m.2 ≤ d := by
  exact_mod_cast cast_depthMembers_le (k := d)

/-- A tree without marks whose numbers can be spelled. -/
inductive IsPlain : Json → Prop where
  | null : IsPlain .null
  | bool (b : Bool) : IsPlain (.bool b)
  | int {n : Int} (h : Decimal.isWordSized n = true) : IsPlain (.int n)
  | real {d : Decimal} (hn : d.IsNormal) (hr : d.isOutOfRange = false) : IsPlain (.real d)
  | nonFinite (name : String) : IsPlain (.nonFinite name)
  | text (s : String) : IsPlain (.text s)
  | list {js : List Json} (h : ∀ j ∈ js, IsPlain j) : IsPlain (.list js)
  | object {ms : Members} (h : ∀ m ∈ ms, IsPlain m.2) : IsPlain (.object ms)

/-- A plain tree that is nested at most so deep. -/
structure Plain (k : ℕ∞) (j : Json) : Prop where
  isPlain : IsPlain j
  depth_le : (j.depth : ℕ∞) ≤ k

namespace Plain

variable {k l : ℕ∞}

theorem mono {j : Json} (h : Plain k j) (hkl : k ≤ l) : Plain l j :=
  ⟨h.isPlain, h.depth_le.trans hkl⟩

/-- What is no list and no object is not deep. -/
theorem leaf {j : Json} (h : IsPlain j) (hd : j.depth = 0) : Plain k j := by
  refine ⟨h, ?_⟩
  rw [hd]
  exact zero_le

theorem null : Plain k .null := leaf .null rfl

theorem bool (b : Bool) : Plain k (.bool b) := leaf (.bool b) rfl

theorem int {n : Int} (h : Decimal.isWordSized n = true) : Plain k (.int n) :=
  leaf (.int h) rfl

theorem real {d : Decimal} (hn : d.IsNormal) (hr : d.isOutOfRange = false) : Plain k (.real d) :=
  leaf (.real hn hr) rfl

theorem nonFinite (name : String) : Plain k (.nonFinite name) :=
  leaf (.nonFinite name) rfl

theorem text (s : String) : Plain k (.text s) := leaf (.text s) rfl

theorem list {js : List Json} (h : ∀ j ∈ js, Plain k j) : Plain (k + 1) (.list js) := by
  refine ⟨.list fun j hj => (h j hj).isPlain, ?_⟩
  rw [depth, Nat.cast_add_one]
  gcongr
  exact cast_depthItems_le.2 fun j hj => (h j hj).depth_le

theorem object {ms : Members} (h : ∀ m ∈ ms, Plain k m.2) : Plain (k + 1) (.object ms) := by
  refine ⟨.object fun m hm => (h m hm).isPlain, ?_⟩
  rw [depth, Nat.cast_add_one]
  gcongr
  exact cast_depthMembers_le.2 fun m hm => (h m hm).depth_le

end Plain

mutual

/-- What a document holds of a tree. -/
def held : Json → Json
  | .nonFinite _ => .null
  | .list js => .list (heldItems js)
  | .object ms => .object (heldMembers ms)
  | j => j

/-- What a document holds of the items of a list. -/
def heldItems : List Json → List Json
  | [] => []
  | j :: js => held j :: heldItems js

/-- What a document holds of the members of an object. -/
def heldMembers : List (String × Json) → List (String × Json)
  | [] => []
  | (n, j) :: ms => (n, held j) :: heldMembers ms

end

theorem heldItems_eq_map (js : List Json) : heldItems js = js.map held := by
  induction js with
  | nil => rfl
  | cons j js ih => rw [heldItems, ih, List.map_cons]

theorem heldMembers_eq_map (ms : Members) :
    heldMembers ms = ms.map fun m => (m.1, held m.2) := by
  induction ms with
  | nil => rfl
  | cons m ms ih => rw [heldMembers, ih, List.map_cons]

theorem heldMembers_append (ms ns : Members) :
    heldMembers (ms ++ ns) = heldMembers ms ++ heldMembers ns := by
  simp only [heldMembers_eq_map, List.map_append]

mutual

theorem depth_held (j : Json) : j.held.depth = j.depth := by
  cases j with
  | list js => rw [held, depth, depth, depthItems_held js]
  | object ms => rw [held, depth, depth, depthMembers_held ms]
  | _ => rfl

theorem depthItems_held (js : List Json) : depthItems (heldItems js) = depthItems js := by
  cases js with
  | nil => rfl
  | cons j js => rw [heldItems, depthItems, depthItems, depth_held j, depthItems_held js]

theorem depthMembers_held (ms : Members) : depthMembers (heldMembers ms) = depthMembers ms := by
  cases ms with
  | nil => rfl
  | cons m ms => rw [heldMembers, depthMembers, depthMembers, depth_held m.2, depthMembers_held ms]

end

theorem isPlain_held {j : Json} (h : IsPlain j) : IsPlain j.held := by
  induction h with
  | null => exact .null
  | bool b => exact .bool b
  | int h => exact .int h
  | real hn hr => exact .real hn hr
  | nonFinite name => exact .null
  | text s => exact .text s
  | list h ih =>
      rw [held, heldItems_eq_map]
      refine .list fun j hj => ?_
      rcases List.mem_map.1 hj with ⟨i, hi, rfl⟩
      exact ih i hi
  | object h ih =>
      rw [held, heldMembers_eq_map]
      refine .object fun m hm => ?_
      rcases List.mem_map.1 hm with ⟨i, hi, rfl⟩
      exact ih i hi

/-- No one who keeps a plain tree stumbles over it. -/
theorem fault?_of_isPlain {j : Json} (h : IsPlain j) : fault? j = none := by
  induction h with
  | list h ih =>
      rename_i js
      rw [fault?]
      induction js with
      | nil => rfl
      | cons j js ihs =>
          rw [faultItems?, ih j List.mem_cons_self, Option.none_or]
          exact ihs (fun i hi => h i (List.mem_cons_of_mem j hi))
            fun i hi => ih i (List.mem_cons_of_mem j hi)
  | object h ih =>
      rename_i ms
      rw [fault?]
      induction ms with
      | nil => rfl
      | cons m ms ihs =>
          rw [faultMembers?, ih m List.mem_cons_self, Option.none_or]
          exact ihs (fun i hi => h i (List.mem_cons_of_mem m hi))
            fun i hi => ih i (List.mem_cons_of_mem m hi)
  | _ => rfl

/-- Neither does anyone who skips it. -/
theorem passed?_of_isPlain {j : Json} (h : IsPlain j) : passed? j = none := by
  have hcut : cut? j = none := by
    by_contra hc
    have := fault?_of_cut? j (Option.isSome_iff_ne_none.2 hc)
    rw [fault?_of_isPlain h] at this
    cases this
  cases h <;> exact hcut

end Json

end Playfield
