import Mathlib
import Playfield.Project
import Playfield.Supply

/-!
# Where Ids Come From

The ids of instances and how they are told apart.

An id has been written by the author of the project, or it has been generated for
a copy of a template: from the name of the template and a suffix that has not been
taken before (`Origin`). Whether instances have different ids is a matter of
their origins, and origins can be counted without knowing the suffixes: a new
copy has a new number. So a list of ids is explained by a list of different
origins (`Supply.Explains`), and this stays so when copies are named.

That different origins make different ids is asked of the supply
(`Supply.IsFresh`). It is asked only of the suffixes that have been taken, because
there are not infinitely many different ones of the same length.

## Main definitions

* `Project.objects`: The objects of all scenes.
* `Instance.generatedId`: The id of a copy.
* `Origin`: An authored id, or a name and the number of a suffix.
* `Supply.IsFresh`: The suffixes that have been taken are different, and make no
  authored ids.
* `Supply.Explains`: Ids that have different origins.

## Theorems

* `Instance.generatedId_inj`: Name and suffix can be read off a generated id.
* `Supply.Explains.nodup`: Ids of different origins are different.
* `Supply.Explains.nameAll`: Copies that are named have origins of their own.
* `Supply.explains_authored`: So have the objects of a scene.
-/

namespace Playfield

/-- The objects of all scenes. -/
def Project.objects {R : Type} (p : Project R) : List (Object R) := p.scenes.flatMap (·.objects)

namespace Instance

/-- The id of a copy of a template. -/
def generatedId (name suffix : String) : String := "runtime_" ++ name ++ "_" ++ suffix

/-- Before the last of a character and after it. -/
theorem split_last {c : Char} {as bs cs ds : List Char} (hb : c ∉ bs) (hd : c ∉ ds)
    (h : as ++ c :: bs = cs ++ c :: ds) : as = cs ∧ bs = ds := by
  -- If one side were longer, the character would stand once more behind its last place.
  rcases List.append_eq_append_iff.1 h with ⟨es, rfl, hes⟩ | ⟨es, rfl, hes⟩
  · cases es with
    | nil => simpa using hes
    | cons e es =>
        rw [List.cons_append, List.cons.injEq] at hes
        exact absurd (by simp [hes.2]) hb
  · cases es with
    | nil => simpa using hes.symm
    | cons e es =>
        rw [List.cons_append, List.cons.injEq] at hes
        exact absurd (by simp [hes.2]) hd

/-- Name and suffix can be read off a generated id. -/
theorem generatedId_inj {name name' suffix suffix' : String} (hs : '_' ∉ suffix.toList)
    (hs' : '_' ∉ suffix'.toList) (h : generatedId name suffix = generatedId name' suffix') :
    name = name' ∧ suffix = suffix' := by
  have hlist := congrArg String.toList h
  simp only [generatedId, String.toList_append, List.append_assoc,
    List.append_cancel_left_eq] at hlist
  have hsplit := split_last hs hs' (show name.toList ++ '_' :: suffix.toList =
    name'.toList ++ '_' :: suffix'.toList from hlist)
  exact ⟨String.toList_inj.1 hsplit.1, String.toList_inj.1 hsplit.2⟩

end Instance

/-- Where the id of an instance comes from. -/
inductive Origin where
  | authored (id : String)
  /-- A copy with its name and the number of its suffix. -/
  | generated (name : String) (n : Nat)
  deriving DecidableEq

namespace Origin

variable {R : Type}

/-- The id that an origin makes. -/
def id (supply : Supply) : Origin → String
  | .authored id => id
  | .generated name n => Instance.generatedId name (supply.suffix n)

/-- An id that the project has, or one that has been generated for a copy of one of
    its objects. -/
def IsKnown (p : Project R) (supply : Supply) : Origin → Prop
  | .authored id => ∃ o ∈ p.objects, o.id = id
  | .generated name n => (∃ o ∈ p.objects, o.name = name) ∧ n < supply.suffixesTaken

theorem IsKnown.later {p : Project R} {s t : Supply} {a : Origin} (h : a.IsKnown p s)
    (htaken : s.suffixesTaken ≤ t.suffixesTaken) : a.IsKnown p t := by
  cases a with
  | authored id => exact h
  | generated name n => exact ⟨h.1, Nat.lt_of_lt_of_le h.2 htaken⟩

end Origin

namespace Supply

variable {R : Type} {s t : Supply} {p : Project R} {ids ids' : List String}

/-- The suffixes that have been taken are different, they are single words, and none
    of them has made an authored id. -/
structure IsFresh (s : Supply) (p : Project R) : Prop where
  different : ∀ m n, m < s.suffixesTaken → n < s.suffixesTaken → s.suffix m = s.suffix n → m = n
  words : ∀ n, n < s.suffixesTaken → '_' ∉ (s.suffix n).toList
  unauthored : ∀ n, n < s.suffixesTaken → ∀ o ∈ p.objects, ∀ template ∈ p.objects,
    o.id ≠ Instance.generatedId template.name (s.suffix n)

/-- Different origins make different ids. -/
theorem IsFresh.id_inj (h : s.IsFresh p) {a b : Origin} (ha : a.IsKnown p s) (hb : b.IsKnown p s)
    (heq : a.id s = b.id s) : a = b := by
  cases a with
  | authored id =>
      cases b with
      | authored id' =>
          have hid : id = id' := heq
          rw [hid]
      | generated name n =>
          -- An authored id is no generated one.
          rcases ha with ⟨o, ho, rfl⟩
          rcases hb with ⟨⟨template, ht, rfl⟩, hn⟩
          exact absurd heq (h.unauthored n hn o ho template ht)
  | generated name n =>
      cases b with
      | authored id' =>
          rcases hb with ⟨o, ho, rfl⟩
          rcases ha with ⟨⟨template, ht, rfl⟩, hn⟩
          exact absurd heq.symm (h.unauthored n hn o ho template ht)
      | generated name' n' =>
          rcases Instance.generatedId_inj (h.words n ha.2) (h.words n' hb.2) heq with
            ⟨hname, hsuffix⟩
          rw [hname, h.different n n' ha.2 hb.2 hsuffix]

/-- The ids have known and different origins. -/
def Explains (s : Supply) (p : Project R) (ids : List String) : Prop :=
  ∃ origins : List Origin,
    origins.map (Origin.id s) = ids ∧ origins.Nodup ∧ ∀ a ∈ origins, a.IsKnown p s

/-- Ids of different origins are different. -/
theorem Explains.nodup (h : s.Explains p ids) (hf : s.IsFresh p) : ids.Nodup := by
  rcases h with ⟨origins, rfl, hnodup, hknown⟩
  exact hnodup.map_on fun a ha b hb => hf.id_inj (hknown a ha) (hknown b hb)

theorem Explains.sublist (h : s.Explains p ids) (hs : ids'.Sublist ids) : s.Explains p ids' := by
  rcases h with ⟨origins, rfl, hnodup, hknown⟩
  rcases List.sublist_map_iff.1 hs with ⟨kept, hkept, rfl⟩
  exact ⟨kept, rfl, hnodup.sublist hkept, fun a ha => hknown a (hkept.subset ha)⟩

/-- Later on, when more has been taken, ids are still explained. -/
theorem Explains.later (h : s.Explains p ids) (hsuffix : t.suffix = s.suffix)
    (htaken : s.suffixesTaken ≤ t.suffixesTaken) : t.Explains p ids := by
  rcases h with ⟨origins, rfl, hnodup, hknown⟩
  refine ⟨origins, ?_, hnodup, fun a ha => (hknown a ha).later htaken⟩
  refine List.map_congr_left fun a _ => ?_
  cases a with
  | authored id => rfl
  | generated name n => rw [Origin.id, Origin.id, hsuffix]

/-- A copy that is named has an origin of its own, because its number has not been
    taken before. -/
theorem Explains.name (h : s.Explains p ids) {i : Instance R}
    (hi : ∃ o ∈ p.objects, o.name = i.name) :
    (s.name i).2.Explains p (ids ++ [(s.name i).1.id]) := by
  have hlater : (s.name i).2.Explains p ids := h.later rfl (Nat.le_succ _)
  rcases h with ⟨origins, rfl, hnodup, hknown⟩
  refine ⟨origins ++ [.generated i.name s.suffixesTaken], ?_, ?_, ?_⟩
  · rw [List.map_append]
    rfl
  · rw [List.nodup_append]
    refine ⟨hnodup, List.nodup_singleton _, ?_⟩
    rintro a ha b hb rfl
    -- A known origin has a number below that of the new copy.
    rw [List.mem_singleton] at hb
    have hold := hknown a ha
    rw [hb] at hold
    exact absurd hold.2 (Nat.lt_irrefl _)
  · rw [List.forall_mem_append]
    refine ⟨fun a ha => (hknown a ha).later (Nat.le_succ _), ?_⟩
    intro a ha
    rw [List.mem_singleton] at ha
    rw [ha]
    exact ⟨hi, Nat.lt_succ_self _⟩

/-- Copies that are named have origins of their own. -/
theorem Explains.nameAll (h : s.Explains p ids) {is : List (Instance R)}
    (hi : ∀ i ∈ is, ∃ o ∈ p.objects, o.name = i.name) :
    (s.nameAll is).2.Explains p (ids ++ (s.nameAll is).1.map (·.id)) := by
  induction is generalizing s ids with
  | nil => simpa [Supply.nameAll] using h
  | cons i is ih =>
      rw [List.forall_mem_cons] at hi
      have hrest := ih (h.name hi.1) hi.2
      rw [List.append_assoc] at hrest
      exact hrest

theorem nameAll_later (s : Supply) (is : List (Instance R)) :
    (s.nameAll is).2.suffix = s.suffix ∧ s.suffixesTaken ≤ (s.nameAll is).2.suffixesTaken := by
  induction is generalizing s with
  | nil => exact ⟨rfl, Nat.le_refl _⟩
  | cons i is ih => exact ⟨(ih (s.name i).2).1, Nat.le_trans (Nat.le_succ _) (ih (s.name i).2).2⟩

/-- The ids of a scene are explained by themselves. -/
theorem explains_authored (s : Supply) {scene : Scene R} (hscene : scene ∈ p.scenes)
    (hnodup : (scene.objects.map (·.id)).Nodup) : s.Explains p (scene.objects.map (·.id)) := by
  refine ⟨scene.objects.map fun o => .authored o.id, ?_, ?_, ?_⟩
  · rw [List.map_map]
    rfl
  · have hmap : ((scene.objects.map (·.id)).map Origin.authored).Nodup :=
      hnodup.map fun a b hab => Origin.authored.inj hab
    rwa [List.map_map] at hmap
  · intro a ha
    rcases List.mem_map.1 ha with ⟨o, ho, rfl⟩
    exact ⟨o, List.mem_flatMap.2 ⟨scene, hscene, ho⟩, rfl⟩

end Supply

end Playfield
