import Mathlib
import Playfield.Lint

/-!
# Censuses

What it means that all faults are reported.

A list of reports can go wrong in three ways: a fault is missing from it, something is reported
that is no fault, and a fault is reported twice. That none of this happens cannot be said of the
reports alone, for two faults in different places can read the same. So reports are compared with
faults at places. They are a census of the faults if places can be written beside them in such a
way that what is written is what is at fault, with no place written twice (`IsCensus`).

Reports are put together as the document is: from parts that come one after the other, and from
a list of like parts. There is one law for each. How the parts are called does not matter, as
long as places of different parts stay apart.

Whether a name has occurred before is found out on the way through a list (`Lint.keyed`). That it
comes out right is said of any list with ascending labels, of numbers or of ways in a tree.

## Main definitions

* `IsCensus`: Reports are the faults, each at its place.

## Theorems

* `isCensus_single`, `IsCensus.append`, `IsCensus.relabel`, `isCensus_flatMap`: The laws.
* `isCensus_filter`: The entries of a list that are at fault.
* `IsCensus.eq_nil_iff`: Nothing is reported if and only if nothing is at fault.
* `IsCensus.mem_iff`: What is reported is what is at fault somewhere.
* `Lint.mem_zip_keyed`: Which names have occurred before.
-/

namespace Playfield

variable {P Q S X α κ : Type}

/-- Reports are a census of faults: with the places of the faults beside them they are what is
    at fault, and no place occurs twice. -/
def IsCensus (fault : P → X → Prop) (reports : List X) : Prop :=
  ∃ found : List (X × P), found.map (·.1) = reports ∧ (found.map (·.2)).Nodup ∧
    ∀ x p, (x, p) ∈ found ↔ fault p x

section Laws

variable {f g : P → X → Prop} {xs ys : List X}

theorem IsCensus.congr (h : IsCensus f xs) (hfg : ∀ p x, f p x ↔ g p x) : IsCensus g xs := by
  rcases h with ⟨found, hreports, hnodup, hmem⟩
  exact ⟨found, hreports, hnodup, fun x p => (hmem x p).trans (hfg p x)⟩

/-- Nothing is reported if and only if nothing is at fault. -/
theorem IsCensus.eq_nil_iff (h : IsCensus f xs) : xs = [] ↔ ∀ p x, ¬ f p x := by
  rcases h with ⟨found, rfl, -, hmem⟩
  rw [List.map_eq_nil_iff, List.eq_nil_iff_forall_not_mem, Prod.forall]
  simp only [hmem]
  exact forall_comm

/-- What is reported is at fault somewhere. -/
theorem IsCensus.mem_iff (h : IsCensus f xs) {x : X} : x ∈ xs ↔ ∃ p, f p x := by
  rcases h with ⟨found, rfl, -, hmem⟩
  simp only [List.mem_map, Prod.exists, exists_and_right, exists_eq_right, hmem]

theorem isCensus_nil (h : ∀ p x, ¬ f p x) : IsCensus f [] :=
  ⟨[], rfl, List.nodup_nil, fun x p => iff_of_false List.not_mem_nil (h p x)⟩

/-- A single place is at fault under a condition. -/
theorem isCensus_single (c : Prop) [Decidable c] (p : P) (x : X) :
    IsCensus (fun q y => c ∧ q = p ∧ y = x) (if c then [x] else []) := by
  by_cases hc : c
  · rw [if_pos hc]
    refine ⟨[(x, p)], rfl, List.nodup_singleton p, fun y q => ?_⟩
    rw [List.mem_singleton, Prod.mk.injEq]
    tauto
  · rw [if_neg hc]
    exact isCensus_nil fun q y h => hc h.1

/-- Faults at different places are reported one after the other. -/
theorem IsCensus.append (hf : IsCensus f xs) (hg : IsCensus g ys)
    (hapart : ∀ p x y, f p x → ¬ g p y) : IsCensus (fun p x => f p x ∨ g p x) (xs ++ ys) := by
  rcases hf with ⟨first, rfl, hfirst, hf⟩
  rcases hg with ⟨second, rfl, hsecond, hg⟩
  refine ⟨first ++ second, List.map_append, ?_, fun x p => ?_⟩
  · rw [List.map_append, List.nodup_append]
    refine ⟨hfirst, hsecond, fun p hp q hq hpq => ?_⟩
    rcases List.mem_map.1 hp with ⟨⟨x, p⟩, hx, rfl⟩
    rcases List.mem_map.1 hq with ⟨⟨y, q⟩, hy, rfl⟩
    subst hpq
    exact hapart p x y ((hf x p).1 hx) ((hg y p).1 hy)
  · rw [List.mem_append, hf, hg]

/-- The places can be called otherwise. -/
theorem IsCensus.relabel (h : IsCensus f xs) (call : P → S) (hcall : Function.Injective call) :
    IsCensus (fun s x => ∃ p, call p = s ∧ f p x) xs := by
  rcases h with ⟨found, rfl, hnodup, hmem⟩
  refine ⟨found.map fun e => (e.1, call e.2), ?_, ?_, fun x s => ?_⟩
  · rw [List.map_map]
    rfl
  · have hlabels : (found.map fun e => (e.1, call e.2)).map (·.2) =
        (found.map (·.2)).map call := by
      rw [List.map_map, List.map_map]
      rfl
    rw [hlabels]
    exact hnodup.map hcall
  · rw [List.mem_map]
    constructor
    · rintro ⟨⟨y, p⟩, hy, ⟨⟩⟩
      exact ⟨p, rfl, (hmem _ p).1 hy⟩
    · rintro ⟨p, rfl, hp⟩
      exact ⟨(x, p), (hmem x p).2 hp, rfl⟩

end Laws

/-- Like parts are reported one after the other. Each of them has a label of its own, which is
    part of its places. -/
theorem isCensus_flatMap {F : α → List X} {g : κ → α → Q → X → Prop} (parts : List (α × κ))
    (hnodup : (parts.map (·.2)).Nodup) (h : ∀ a k, (a, k) ∈ parts → IsCensus (g k a) (F a)) :
    IsCensus (fun (p : κ × Q) x => ∃ a, (a, p.1) ∈ parts ∧ g p.1 a p.2 x)
      ((parts.map (·.1)).flatMap F) := by
  induction parts with
  | nil => exact isCensus_nil fun p x ⟨a, ha, _⟩ => List.not_mem_nil ha
  | cons part parts ih =>
      rcases part with ⟨a, k⟩
      rw [List.map_cons, List.nodup_cons] at hnodup
      rw [List.map_cons, List.flatMap_cons]
      have hhead := (h a k List.mem_cons_self).relabel (Prod.mk k) (Prod.mk_right_injective k)
      have htail := ih hnodup.2 fun b l hb => h b l (List.mem_cons_of_mem _ hb)
      refine (hhead.append htail ?_).congr ?_
      · -- The label of the first part is not used again.
        rintro p x y ⟨q, rfl, -⟩ ⟨b, hb, -⟩
        exact hnodup.1 (List.mem_map.2 ⟨(b, k), hb, rfl⟩)
      · rintro ⟨l, q⟩ x
        simp only [List.mem_cons, Prod.mk.injEq, or_and_right, exists_or]
        refine or_congr ⟨?_, ?_⟩ Iff.rfl
        · rintro ⟨q', ⟨rfl, rfl⟩, hx⟩
          exact ⟨a, ⟨rfl, rfl⟩, hx⟩
        · rintro ⟨b, ⟨rfl, rfl⟩, hx⟩
          exact ⟨q, ⟨rfl, rfl⟩, hx⟩

/-- The places in a list come in order. -/
theorem sorted_zipIdx (as : List α) : as.zipIdx.Pairwise fun p q => p.2 < q.2 := by
  have hlabels : (as.zipIdx.map (·.2)).Pairwise (· < ·) := by
    rw [List.zipIdx_map_snd]
    exact List.pairwise_lt_range'
  exact List.pairwise_map.1 hlabels

/-- Like parts with their places in a list. -/
theorem isCensus_flatMap_zipIdx {F : α → List X} {g : Nat → α → Q → X → Prop} (as : List α)
    (h : ∀ k a, as[k]? = some a → IsCensus (g k a) (F a)) :
    IsCensus (fun (p : Nat × Q) x => ∃ a, as[p.1]? = some a ∧ g p.1 a p.2 x) (as.flatMap F) := by
  have hnodup : (as.zipIdx.map (·.2)).Nodup := by
    rw [List.zipIdx_map_snd]
    exact List.nodup_range'
  have hall := isCensus_flatMap as.zipIdx hnodup fun a k ha =>
    h k a (List.mk_mem_zipIdx_iff_getElem?.1 ha)
  rw [List.zipIdx_map_fst] at hall
  exact hall.congr fun p x => by simp only [List.mk_mem_zipIdx_iff_getElem?]

/-- The entries of a list that are at fault are reported with their places. -/
theorem isCensus_filter (as : List α) (bad : α → Bool) (report : α → X) :
    IsCensus (fun (k : Nat) x => ∃ a, as[k]? = some a ∧ bad a = true ∧ x = report a)
      ((as.filter bad).map report) := by
  -- The entries keep the places that they have in the whole list.
  have hentries : (as.zipIdx.filter fun p => bad p.1).map (·.1) = as.filter bad := by
    have hmap := List.filter_map (p := bad) (f := Prod.fst) (l := as.zipIdx)
    rw [List.zipIdx_map_fst] at hmap
    exact hmap.symm
  refine ⟨(as.zipIdx.filter fun p => bad p.1).map fun p => (report p.1, p.2), ?_, ?_, ?_⟩
  · rw [← hentries, List.map_map, List.map_map]
    rfl
  · have hlabels : (as.zipIdx.map (·.2)).Nodup := by
      rw [List.zipIdx_map_snd]
      exact List.nodup_range'
    rw [List.map_map]
    exact hlabels.sublist (List.filter_sublist.map _)
  · intro x k
    simp only [List.mem_map, List.mem_filter, Prod.exists, Prod.mk.injEq,
      List.mk_mem_zipIdx_iff_getElem?]
    constructor
    · rintro ⟨a, l, ⟨ha, hbad⟩, rfl, rfl⟩
      exact ⟨a, ha, hbad, rfl⟩
    · rintro ⟨a, ha, hbad, rfl⟩
      exact ⟨a, k, ⟨ha, hbad⟩, rfl, rfl⟩

namespace Lint

/-- Labels in ascending order tell which names have occurred before. -/
theorem mem_zip_withRepeats [Preorder κ] (key : α → String) {labelled : List (α × κ)}
    (hsorted : labelled.Pairwise fun p q => p.2 < q.2) (seen : List String) {a : α} {b : Bool}
    {k : κ} :
    ((a, b), k) ∈ (((labelled.map (·.1)).zip
        ((withRepeats seen ((labelled.map (·.1)).map key)).map (·.2))).zip (labelled.map (·.2))) ↔
      (a, k) ∈ labelled ∧
        (b = true ↔ key a ∈ seen ∨ ∃ p ∈ labelled, p.2 < k ∧ key p.1 = key a) := by
  induction labelled generalizing seen with
  | nil => simp
  | cons p labelled ih =>
      rcases p with ⟨c, l⟩
      rw [List.pairwise_cons] at hsorted
      -- Nothing comes before the first entry, and the first entry comes before all others.
      have hfirst : ¬ ∃ p ∈ (c, l) :: labelled, p.2 < l ∧ key p.1 = key c := by
        rintro ⟨p, hp, hlt, -⟩
        rcases List.mem_cons.1 hp with rfl | hp
        · exact lt_irrefl _ hlt
        · exact lt_asymm hlt (hsorted.1 p hp)
      have hlater (hmem : (a, k) ∈ labelled) :
          (key a ∈ key c :: seen ∨ ∃ p ∈ labelled, p.2 < k ∧ key p.1 = key a) ↔
            (key a ∈ seen ∨ ∃ p ∈ (c, l) :: labelled, p.2 < k ∧ key p.1 = key a) := by
        have hl : l < k := hsorted.1 (a, k) hmem
        rw [List.exists_mem_cons_iff, List.mem_cons, eq_comm (a := key a)]
        tauto
      have hmem_cons : (a, k) ∈ (c, l) :: labelled ↔ (a = c ∧ k = l) ∨ (a, k) ∈ labelled := by
        rw [List.mem_cons, Prod.mk.injEq]
      simp only [List.map_cons, withRepeats, List.zip_cons_cons]
      rw [List.mem_cons, ih hsorted.2, hmem_cons, Prod.mk.injEq, Prod.mk.injEq]
      constructor
      · rintro (⟨⟨rfl, rfl⟩, rfl⟩ | ⟨hmem, hb⟩)
        · exact ⟨.inl ⟨rfl, rfl⟩, decide_eq_true_iff.trans (or_iff_left hfirst).symm⟩
        · exact ⟨.inr hmem, hb.trans (hlater hmem)⟩
      · rintro ⟨⟨rfl, rfl⟩ | hmem, hb⟩
        · have hseen := (hb.trans (or_iff_left hfirst)).trans decide_eq_true_iff.symm
          exact .inl ⟨⟨rfl, Bool.eq_iff_iff.2 hseen⟩, rfl⟩
        · exact .inr ⟨hmem, hb.trans (hlater hmem).symm⟩

/-- Whether a name has occurred before comes out right. -/
theorem mem_zip_keyed [Preorder κ] (key : α → String) {labelled : List (α × κ)}
    (hsorted : labelled.Pairwise fun p q => p.2 < q.2) {a : α} {b : Bool} {k : κ} :
    ((a, b), k) ∈ (keyed key (labelled.map (·.1))).zip (labelled.map (·.2)) ↔
      (a, k) ∈ labelled ∧ (b = true ↔ ∃ p ∈ labelled, p.2 < k ∧ key p.1 = key a) := by
  have h := mem_zip_withRepeats key (a := a) (b := b) (k := k) hsorted []
  simpa only [keyed, List.not_mem_nil, false_or] using h

theorem length_withRepeats [DecidableEq α] (seen as : List α) :
    (withRepeats seen as).length = as.length := by
  induction as generalizing seen with
  | nil => rfl
  | cons a as ih => rw [withRepeats, List.length_cons, ih, List.length_cons]

/-- Like parts are reported one after the other, each with whether its name has occurred
    before. -/
theorem isCensus_keyed [Preorder κ] (key : α → String) (F : α × Bool → List X)
    (g : κ → α → Q → X → Prop) {labelled : List (α × κ)}
    (hsorted : labelled.Pairwise fun p q => p.2 < q.2)
    (h : ∀ a k b, (a, k) ∈ labelled →
      (b = true ↔ ∃ p ∈ labelled, p.2 < k ∧ key p.1 = key a) → IsCensus (g k a) (F (a, b))) :
    IsCensus (fun (p : κ × Q) x => ∃ a, (a, p.1) ∈ labelled ∧ g p.1 a p.2 x)
      ((keyed key (labelled.map (·.1))).flatMap F) := by
  have hlength : (keyed key (labelled.map (·.1))).length = labelled.length := by
    simp [keyed, length_withRepeats]
  have hlabels : (keyed key (labelled.map (·.1))).length = (labelled.map (·.2)).length := by
    rw [hlength, List.length_map]
  have hfst := List.map_fst_zip hlabels.le
  have hsnd := List.map_snd_zip hlabels.ge
  have hnodup : (labelled.map (·.2)).Nodup :=
    List.pairwise_map.2 (hsorted.imp fun hlt => ne_of_lt hlt)
  have hall := isCensus_flatMap (F := F) (g := fun k (a : α × Bool) => g k a.1)
    ((keyed key (labelled.map (·.1))).zip (labelled.map (·.2)))
    (by rwa [hsnd]) (fun a k ha => by
      rw [mem_zip_keyed key hsorted] at ha
      exact h a.1 k a.2 ha.1 ha.2)
  rw [hfst] at hall
  refine hall.congr fun p x => ?_
  constructor
  · rintro ⟨a, ha, hx⟩
    exact ⟨a.1, ((mem_zip_keyed key hsorted).1 ha).1, hx⟩
  · rintro ⟨a, ha, hx⟩
    -- The name has occurred before, or it has not.
    by_cases hrepeated : ∃ q ∈ labelled, q.2 < p.1 ∧ key q.1 = key a
    · exact ⟨(a, true), (mem_zip_keyed key hsorted).2 ⟨ha, iff_of_true rfl hrepeated⟩, hx⟩
    · exact ⟨(a, false), (mem_zip_keyed key hsorted).2 ⟨ha, iff_of_false nofun hrepeated⟩, hx⟩

/-- The same for parts with their places in a list. -/
theorem isCensus_keyed_zipIdx (key : α → String) (F : α × Bool → List X)
    (g : Nat → α → Q → X → Prop) (as : List α)
    (h : ∀ a k b, as[k]? = some a →
      (b = true ↔ ∃ j a', j < k ∧ as[j]? = some a' ∧ key a' = key a) →
      IsCensus (g k a) (F (a, b))) :
    IsCensus (fun (p : Nat × Q) x => ∃ a, as[p.1]? = some a ∧ g p.1 a p.2 x)
      ((keyed key as).flatMap F) := by
  have hall := isCensus_keyed key F g (sorted_zipIdx as) fun a k b ha hb => by
    refine h a k b (List.mk_mem_zipIdx_iff_getElem?.1 ha) (hb.trans ?_)
    simp only [Prod.exists, List.mk_mem_zipIdx_iff_getElem?]
    exact ⟨fun ⟨a', j, ha', hj, hkey⟩ => ⟨j, a', hj, ha', hkey⟩,
      fun ⟨j, a', hj, ha', hkey⟩ => ⟨a', j, ha', hj, hkey⟩⟩
  rw [List.zipIdx_map_fst] at hall
  exact hall.congr fun p x => by simp only [List.mk_mem_zipIdx_iff_getElem?]

end Lint

end Playfield
