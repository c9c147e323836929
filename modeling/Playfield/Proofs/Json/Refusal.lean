import Mathlib
import Playfield.Proofs.Json.Variants

/-!
# What Is Nested Too Deep

A document that is nested too deep is refused by whoever reads all that was written.

A reader keeps such a document with refusals in it, and a refusal that is skipped does no
harm. But what a codec writes it also reads: there is no member in the document that is
not looked for. So if the value of a type with forms holds a refusal, the tag cannot be
acted on, and if an item of a list or a field of a record is refused, so is the list and
the record. The law of a codec says this for what stands inside of some lists and objects.

## Main definitions

* `Codec.RefusesAt`: What is read back was not nested too deep.
* `Fields.RefusesAt`: The same for the fields of a record.

## Theorems

* `Codec.depth_le_of_read_tagged`: Types with several forms.
* `Codec.refusesAt_list`, `Codec.refusesAt_record`: Lists and records, from their parts.
-/

namespace Playfield

/-- What has been written inside of some lists and objects is not read if it is nested too
    deep. -/
def Codec.RefusesAt {α : Type} (c : Codec α) (around : Nat) : Prop :=
  ∀ src a b, c.read src ((c.write a).kept around) = .ok b →
    around + (c.write a).depth ≤ Json.depthLimit

/-- The same for the value of a field. -/
def FieldRefusesAt {B : Type} (write : B → Option Json)
    (read : Source → Json → Except ReadError B) (around : Nat) : Prop :=
  ∀ src b j b', write b = some j → read src (j.kept around) = .ok b' →
    around + j.depth ≤ Json.depthLimit

namespace FieldRefusesAt

variable {B : Type} {c : Codec B} {around : Nat}

theorem written (h : c.RefusesAt around) :
    FieldRefusesAt (fun b => some (c.write b)) c.read around := by
  intro src b j b' hj hread
  cases hj
  exact h src b b' hread

end FieldRefusesAt

/-- The fields of a record are not read if one of them is nested too deep. -/
structure Fields.RefusesAt {S A : Type} (r : Fields S A) (around : Nat) : Prop where
  names : ∀ s, ∀ m ∈ r.write s, m.1 ∈ r.names
  depth_le : ∀ src s ms a, r.names.Nodup →
    (∀ n ∈ r.names, Numbered.Spells ms (Json.keptMembers around (r.write s)) n) →
    r.readMembers src ms = .ok a → ∀ m ∈ r.write s, around + m.2.depth ≤ Json.depthLimit

namespace Fields.RefusesAt

variable {S A B : Type} {around : Nat}

theorem start {make : A} : (Fields.start make : Fields S A).RefusesAt around :=
  ⟨fun _ _ hm => absurd hm List.not_mem_nil, fun _ _ _ _ _ _ _ _ hm => absurd hm List.not_mem_nil⟩

/-- One more field. -/
theorem field {r : Fields S (B → A)} {name : String} {get : S → B} {write : B → Option Json}
    {read : Source → Json → Except ReadError B} {absent : Option B}
    (hfield : FieldRefusesAt write read around) (h : r.RefusesAt around) :
    (r.field name get write read absent).RefusesAt around := by
  have hnames : ∀ s, ∀ m ∈ (r.field name get write read absent).write s,
      m.1 ∈ (r.field name get write read absent).names := by
    intro s m hm
    rcases List.mem_append.1 hm with hm | hm
    · exact List.mem_append_left _ (h.names s m hm)
    · rcases Option.map_eq_some_iff.1 (Option.mem_toList.1 hm) with ⟨j, _, rfl⟩
      exact List.mem_append_right _ (List.mem_singleton.2 rfl)
  refine ⟨hnames, fun src s ms a hnodup hms hread m hm => ?_⟩
  rcases List.nodup_append.1 (show (r.names ++ [name]).Nodup from hnodup) with
    ⟨hnodup, _, hdisjoint⟩
  have hname : name ∉ r.names := fun hmem =>
    hdisjoint name hmem name (List.mem_singleton.2 rfl) rfl
  rcases Fields.Carries.readMembers_field_ok.1 hread with ⟨f, b, hf, hb, _⟩
  rcases List.mem_append.1 hm with hm | hm
  · -- The fields before do not see the new one.
    refine h.depth_le src s ms f hnodup (fun n hn => ?_) hf m hm
    have hne : n ≠ name := fun heq => hname (heq ▸ hn)
    rw [Numbered.Spells, hms n (List.mem_append_left _ hn), Json.keptMembers_eq_map,
      Json.keptMembers_eq_map, Fields.Carries.filter_field (Json.kept around) hne]
  · rcases Option.map_eq_some_iff.1 (Option.mem_toList.1 hm) with ⟨j, hj, rfl⟩
    have hspells := hms name (List.mem_append_right _ (List.mem_singleton.2 rfl))
    have hself : (((r.field name get write read absent).write s).map
        fun m => (m.1, m.2.kept around)).filter (·.1 == name) =
        ((write (get s)).map fun j => (name, j.kept around)).toList :=
      Fields.Carries.filter_field_self (Json.kept around) h.names hname s
    rw [← Json.keptMembers_eq_map, hj] at hself
    exact hfield src (get s) j b hj (Numbered.value_of_read hspells hself hb)

end Fields.RefusesAt

namespace Codec

variable {α : Type} {c : Codec α} {around : Nat}

/-- What is never nested too deep need not be refused. -/
theorem Holds.refusesAt {k : Nat} {P : α → Prop} (h : c.Holds k P)
    (hk : around + k ≤ Json.depthLimit) : c.RefusesAt around := by
  intro _ a _ _
  have hdepth := h.depth_write_le a
  omega

theorem exists_of_readAll {read : Json → Except ReadError α} {js : List Json} {as : List α}
    (h : readAll read js = .ok as) : ∀ j ∈ js, ∃ a, read j = .ok a := by
  induction js generalizing as with
  | nil => exact List.forall_mem_nil _
  | cons j js ih =>
      rw [readAll] at h
      split at h
      · cases h
      next b hb =>
      split at h
      · next bs hbs => exact List.forall_mem_cons.2 ⟨⟨b, hb⟩, ih hbs⟩
      · cases h

/-- A list is refused if one of its items is. -/
theorem refusesAt_list (h : c.RefusesAt (around + 1)) : c.list.RefusesAt around := by
  intro src as bs hread
  -- The list itself is refused if too much is around it, and then nothing of it is read.
  change c.list.read src (Json.limited around
    (.list (Json.keptItems (around + 1) (as.map c.write)))) = _ at hread
  unfold Json.limited at hread
  split at hread
  · next hlt =>
    rw [Json.keptItems_eq_map] at hread
    have hitems : Json.depthItems (as.map c.write) ≤ Json.depthLimit - (around + 1) := by
      refine Json.depthItems_le.2 fun j hj => ?_
      rcases List.mem_map.1 hj with ⟨a, ha, rfl⟩
      rcases exists_of_readAll hread _ (List.mem_map_of_mem (List.mem_map_of_mem ha)) with ⟨b, hb⟩
      have := h src a b hb
      omega
    change around + (Json.depthItems (as.map c.write) + 1) ≤ Json.depthLimit
    omega
  · cases hread

theorem depth_object_le {ms : Json.Members} (hlt : around < Json.depthLimit)
    (h : ∀ m ∈ ms, around + 1 + m.2.depth ≤ Json.depthLimit) :
    around + (Json.object ms).depth ≤ Json.depthLimit := by
  have hmembers : Json.depthMembers ms ≤ Json.depthLimit - (around + 1) := by
    refine Json.depthMembers_le.2 fun m hm => ?_
    have := h m hm
    omega
  rw [Json.depth]
  omega

/-- A record is refused if one of its fields is. -/
theorem refusesAt_record {r : Fields α α} (hnames : r.names.Nodup)
    (h : r.RefusesAt (around + 1)) : (record r).RefusesAt around := by
  intro src a b hread
  -- The law of the fields speaks of what stands inside of the object.
  change readRecord r src (Json.limited around
    (.object (Json.keptMembers (around + 1) (r.write a)))) = _ at hread
  unfold Json.limited at hread
  split at hread
  · next hlt =>
    unfold readRecord at hread
    dsimp only at hread
    split at hread
    · next b' u hboth =>
      rw [Located.both_ok] at hboth
      exact depth_object_le hlt (h.depth_le src a _ _ hnames
        (fun n _ => Numbered.spells_ofMembers _ n) hboth.1)
    · cases hread
  · cases hread

/-- A type with several forms is read only if nothing beside the tag is refused. -/
theorem depth_le_of_read_tagged {vs vs' : List (Variant α)} {k : ℕ∞} {P Q : α → Prop}
    {T : Json → Prop} (h : Variant.Covers vs ["type"] k P T Q) {src : Source} {a b : α}
    (hread : (tagged vs').read src (((tagged vs).write a).kept around) = .ok b) :
    around + ((tagged vs).write a).depth ≤ Json.depthLimit := by
  change (tagged vs').read src (Json.limited around
    (.object (Json.keptMembers (around + 1) (writeTagged vs a)))) = _ at hread
  unfold Json.limited at hread
  split at hread
  · next hlt =>
    change readTagged vs' src (Numbered.ofMembers
      (Json.keptMembers (around + 1) (writeTagged vs a))) = _ at hread
    unfold readTagged at hread
    dsimp only at hread
    split at hread
    · cases hread
    next v u hboth =>
    rw [Located.both_ok] at hboth
    -- A form is read from what the reader has put aside, which it does only where no fault is.
    have hfault := Numbered.of_check hboth.2
    rcases exists_writeTagged (List.any_eq_true.1 (h.applies a)) with ⟨v, hv, ws, hws, hwrite⟩
    refine depth_object_le hlt fun m hm => ?_
    rw [hwrite] at hm
    rcases List.mem_cons.1 hm with rfl | hmem
    · exact hlt
    · -- A field of the form is not called like the tag, so it is among the others.
      have hne : m.1 ≠ "type" := fun heq =>
        (h.carries v hv).names a ws hws m hmem (heq ▸ List.mem_singleton.2 rfl)
      have hkept : (m.1, m.2.kept (around + 1)) ∈
          Json.keptMembers (around + 1) (writeTagged vs a) := by
        rw [Json.keptMembers_eq_map, hwrite]
        exact List.mem_map_of_mem (List.mem_cons_of_mem _ hmem)
      rw [← Numbered.map_ofMembers (Json.keptMembers (around + 1) (writeTagged vs a))] at hkept
      rcases List.mem_map.1 hkept with ⟨⟨i, n, j⟩, hnumbered, heq⟩
      cases heq
      refine Json.depth_le_of_fault?_kept hlt m.2 (hfault (i, m.1, m.2.kept (around + 1)) ?_)
      exact List.mem_filter.2 ⟨hnumbered, by simpa using hne⟩
  · cases hread

end Codec

end Playfield
