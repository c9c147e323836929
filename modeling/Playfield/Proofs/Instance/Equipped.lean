import Mathlib
import Playfield.Proofs.Instance.Animated
import Playfield.Proofs.Instance.Confined
import Playfield.Session.Tick

/-!
# Equipped Instances

Instances whose behaviors can remember what they need to.

A fresh copy of a template has a state for each behavior that needs one, and a
game never takes one away: whatever happens to an instance, it stays the same
object with the same behaviors, and no slot is emptied. The relation
`Instance.Becomes` says just that, and is all that is needed to know of a change
in order to know that an equipped instance stays equipped.

So loading has nothing to add to the instances of a save that a game has
written. Only one that was written by hand can lack a state.

## Main definitions

* `Instance.Becomes`: One instance is another one later on.
* `Instance.IsEquipped`: Every behavior that needs a state has one.

## Theorems

* `Instance.IsEquipped.becomes`: Equipped instances stay so.
* `Instance.ensureStates_of_isEquipped`: There is nothing to add to them.
* `Instance.isEquipped_ofTemplate`, `Instance.isEquipped_ensureStates`: How
  instances get equipped.
* `Order.becomes_of_result?`: Actions change instances in no other way.
* `Instance.goes_step`: Nor do behaviors, and what they spawn is equipped.
* `Roster.forall₂_modifyFirst`: A change of one instance is one of the list.
-/

namespace Playfield

section Places

variable {α β : Type} {P : α → β → Prop} {as : List α} {bs : List β}

/-- What stands in the second of two lists goes with something in the first. -/
theorem exists_of_forall₂ (h : List.Forall₂ P as bs) {b : β} (hb : b ∈ bs) : ∃ a ∈ as, P a b := by
  induction h with
  | nil => cases hb
  | cons hab _ ih =>
      rcases List.mem_cons.1 hb with rfl | hb
      · exact ⟨_, List.mem_cons_self, hab⟩
      · rcases ih hb with ⟨a, ha, hp⟩
        exact ⟨a, List.mem_cons_of_mem _ ha, hp⟩

/-- What stands at a place of the first goes with what stands there in the second. -/
theorem getElem?_of_forall₂ (h : List.Forall₂ P as bs) {k : Nat} {a : α} (ha : as[k]? = some a) :
    ∃ b, bs[k]? = some b ∧ P a b := by
  induction h generalizing k with
  | nil => cases ha
  | cons hab _ ih =>
      cases k with
      | zero =>
          cases ha
          exact ⟨_, rfl, hab⟩
      | succ k => exact ih ha

end Places

namespace BehaviorStates

variable {R : Type}

theorem isSome_get_set (s : BehaviorStates R) (k l : Behavior.Kind) (v : BehaviorState R)
    (h : (s.get l).isSome) : ((s.set k (some v)).get l).isSome := by
  rw [get_set]
  split
  · rfl
  · exact h

variable [Scalar R]

/-- An operation that fills the slot of a behavior and empties none. -/
structure Fills (op : BehaviorStates R → Behavior R → BehaviorStates R) : Prop where
  keeps : ∀ s b k, (s.get k).isSome → ((op s b).get k).isSome
  fills : ∀ s b, (BehaviorState.fresh? b).isSome → ((op s b).get b.kind).isSome

theorem fills_start : Fills (R := R) start where
  keeps := by
    intro s b k h
    unfold start
    split
    · exact h
    · exact isSome_get_set s _ _ _ h
  fills := by
    intro s b h
    unfold start
    split
    · next hn =>
      rw [hn] at h
      exact absurd h (by simp)
    · rw [get_set, if_pos rfl]
      rfl

theorem fills_ensure : Fills (R := R) ensure where
  keeps := by
    intro s b k h
    unfold ensure
    split
    · exact h
    · exact fills_start.keeps s b k h
  fills := by
    intro s b h
    unfold ensure
    split
    · next hs => exact hs
    · exact fills_start.fills s b h

theorem Fills.keeps_foldl {op : BehaviorStates R → Behavior R → BehaviorStates R} (h : Fills op)
    (bs : List (Behavior R)) (s : BehaviorStates R) (k : Behavior.Kind)
    (hs : (s.get k).isSome) : ((bs.foldl op s).get k).isSome := by
  -- Filled is filled: no later step empties a slot.
  induction bs generalizing s with
  | nil => exact hs
  | cons b bs ih => exact ih (op s b) (h.keeps s b k hs)

theorem Fills.fills_foldl {op : BehaviorStates R → Behavior R → BehaviorStates R} (h : Fills op)
    (bs : List (Behavior R)) (s : BehaviorStates R) (b : Behavior R) (hb : b ∈ bs)
    (hf : (BehaviorState.fresh? b).isSome) : ((bs.foldl op s).get b.kind).isSome := by
  induction bs generalizing s with
  | nil => exact absurd hb (by simp)
  | cons a bs ih =>
      rcases List.mem_cons.1 hb with rfl | hb
      · exact h.keeps_foldl bs (op s b) b.kind (h.fills s b hf)
      · exact ih (op s a) hb

theorem foldl_ensure_of_filled (bs : List (Behavior R)) (s : BehaviorStates R)
    (h : ∀ b ∈ bs, (BehaviorState.fresh? b).isSome → (s.get b.kind).isSome) :
    bs.foldl ensure s = s := by
  induction bs with
  | nil => rfl
  | cons b bs ih =>
      have hb : s.ensure b = s := by
        unfold ensure start
        split
        · rfl
        · next hs =>
          split
          · rfl
          · next hf => exact absurd (h b List.mem_cons_self (by rw [hf]; rfl)) hs
      rw [List.foldl_cons, hb]
      exact ih fun a ha => h a (List.mem_cons_of_mem b ha)

end BehaviorStates

namespace Instance

variable {R : Type}

/-- One instance is another one later on: the same object with the same
    behaviors, and no slot has been emptied. -/
structure Becomes (i j : Instance R) : Prop where
  id : j.id = i.id
  name : j.name = i.name
  behaviors : j.object.behaviors = i.object.behaviors
  states : ∀ k, (i.states.get k).isSome → (j.states.get k).isSome

theorem Becomes.refl (i : Instance R) : i.Becomes i := ⟨rfl, rfl, rfl, fun _ h => h⟩

theorem Becomes.trans {i j k : Instance R} (h : i.Becomes j) (h' : j.Becomes k) : i.Becomes k :=
  ⟨h'.id.trans h.id, h'.name.trans h.name, h'.behaviors.trans h.behaviors,
    fun l hl => h'.states l (h.states l hl)⟩

theorem forall₂_becomes_trans {is js ks : List (Instance R)} (h : List.Forall₂ Becomes is js)
    (h' : List.Forall₂ Becomes js ks) : List.Forall₂ Becomes is ks := by
  induction h generalizing ks with
  | nil => exact h'
  | cons hij _ ih =>
      rcases h' with _ | ⟨hjk, h'⟩
      exact List.Forall₂.cons (hij.trans hjk) (ih h')

/-- A change of what an instance neither is nor remembers. -/
theorem becomes_of_eq {i j : Instance R} (hid : j.object.id = i.object.id)
    (hname : j.object.name = i.object.name) (hb : j.object.behaviors = i.object.behaviors)
    (hs : j.states = i.states) : i.Becomes j :=
  ⟨hid, hname, hb, fun _ h => hs ▸ h⟩

theorem becomes_mirrorHealth (i : Instance R) : i.Becomes i.mirrorHealth := by
  unfold mirrorHealth
  split
  · exact Becomes.refl i
  · exact becomes_of_eq rfl rfl rfl rfl

theorem becomes_setHealth (i : Instance R) (x : R) : i.Becomes (i.setHealth x) where
  id := rfl
  name := rfl
  behaviors := rfl
  states := by
    intro k h
    cases k <;> first | exact h | rfl

variable [Scalar R]

/-- Every behavior that needs a state has one. -/
def IsEquipped (i : Instance R) : Prop :=
  ∀ b ∈ i.object.behaviors, (BehaviorState.fresh? b).isSome → (i.states.get b.kind).isSome

theorem IsEquipped.becomes {i j : Instance R} (h : i.IsEquipped) (hij : i.Becomes j) :
    j.IsEquipped := by
  intro b hb hf
  rw [hij.behaviors] at hb
  exact hij.states b.kind (h b hb hf)

theorem forall_isEquipped_of_becomes {is js : List (Instance R)} (h : List.Forall₂ Becomes is js)
    (hi : ∀ i ∈ is, i.IsEquipped) : ∀ j ∈ js, j.IsEquipped := by
  induction h with
  | nil => exact hi
  | cons hij _ ih =>
      rw [List.forall_mem_cons] at hi ⊢
      exact ⟨hi.1.becomes hij, ih hi.2⟩

/-- Only behaviors and states matter. -/
theorem IsEquipped.congr {i j : Instance R} (h : i.IsEquipped)
    (hb : j.object.behaviors = i.object.behaviors) (hs : j.states = i.states) : j.IsEquipped := by
  intro b hb' hf
  rw [hb] at hb'
  rw [hs]
  exact h b hb' hf

theorem ensureStates_of_isEquipped {i : Instance R} (h : i.IsEquipped) : i.ensureStates = i := by
  unfold ensureStates
  rw [BehaviorStates.foldl_ensure_of_filled _ _ h]

theorem isEquipped_ofTemplate (o : Object R) : (ofTemplate o).IsEquipped :=
  fun b hb hf => BehaviorStates.fills_start.fills_foldl o.behaviors .empty b hb hf

theorem isEquipped_ensureStates (i : Instance R) : i.ensureStates.IsEquipped :=
  fun b hb hf => BehaviorStates.fills_ensure.fills_foldl i.object.behaviors i.states b hb hf

theorem isEquipped_projectile [Planar R] (firer template : Object R) (point : String) :
    (projectile firer template point).IsEquipped :=
  (isEquipped_ofTemplate template).congr rfl rfl

end Instance

namespace Order

variable {R : Type} [Scalar R]

theorem becomes_of_animate? {i j : Instance R} {animation : Option String}
    (h : animate? i animation = some j) : i.Becomes j := by
  unfold animate? at h
  split at h
  · cases h
    exact Instance.becomes_of_eq rfl rfl rfl rfl
  · cases h

variable [Numeral R]

theorem setProperty?_keeps {o o' : Object R} {value : Value R} {p : Settable}
    (h : setProperty? o value p = some o') :
    o'.id = o.id ∧ o'.name = o.name ∧ o'.behaviors = o.behaviors := by
  cases p <;> simp only [setProperty?, Option.map_eq_some_iff, Option.bind_eq_some_iff] at h
  case scale =>
    rcases h with ⟨x, _, rfl⟩
    exact ⟨rfl, rfl, rfl⟩
  case rotation =>
    rcases h with ⟨x, _, rfl⟩
    exact ⟨rfl, rfl, rfl⟩
  case color =>
    rcases h with ⟨a, _, rfl⟩
    exact ⟨rfl, rfl, rfl⟩
  case fontSize =>
    rcases h with ⟨x, _, a, _, rfl⟩
    exact ⟨rfl, rfl, rfl⟩

variable [Planar R]

/-- What an action does to an instance leaves it the same object with the same
    behaviors. -/
theorem becomes_of_result? {dt : R} {i j : Instance R} {order : Order R}
    (h : order.result? dt i = some j) : i.Becomes j := by
  cases order <;> simp only [result?, Option.map_eq_some_iff, Option.some.injEq] at h
  case animate a => exact becomes_of_animate? h
  case damage x =>
    rcases h with ⟨y, _, rfl⟩
    exact Instance.becomes_setHealth i _
  case setHealth x =>
    rcases h with ⟨y, _, rfl⟩
    exact Instance.becomes_setHealth i _
  case setProperty p value =>
    rcases h with ⟨o, ho, rfl⟩
    rcases setProperty?_keeps ho with ⟨hid, hname, hb⟩
    exact Instance.becomes_of_eq hid hname hb rfl
  -- The others set a field that is neither id nor name nor behaviors.
  all_goals
    first
      | (subst h; exact Instance.becomes_of_eq rfl rfl rfl rfl)
      | (obtain ⟨x, _, rfl⟩ := h; exact Instance.becomes_of_eq rfl rfl rfl rfl)

end Order

namespace Stepped

variable {R : Type}

theorem becomes_remember (s : Stepped R) (k : Behavior.Kind) (v : BehaviorState R) :
    s.subject.Becomes (s.remember k v).subject :=
  ⟨rfl, rfl, rfl, fun l hl => BehaviorStates.isSome_get_set s.subject.states k l v hl⟩

variable [Scalar R]

theorem becomes_move (s : Stepped R) (way : Point R) : s.subject.Becomes (s.move way).subject :=
  Instance.becomes_of_eq rfl rfl rfl rfl

/-- What behaviors make of an instance, and what they spawn. -/
structure Goes (i : Instance R) (s : Stepped R) : Prop where
  subject : i.Becomes s.subject
  spawns : ∀ j ∈ s.spawns, j.IsEquipped

variable [Planar R]

/-- A behavior remembers something in the place of what it has remembered. -/
theorem becomes_act (s : Stepped R) (scene : Scene R) (input : Input R) (dt : R)
    (b : Behavior R) : s.subject.Becomes (s.act scene input dt b).subject := by
  unfold act
  split
  · exact (becomes_remember s _ _).trans (becomes_move _ _)
  · exact Instance.becomes_of_eq rfl rfl rfl rfl
  · unfold fly
    dsimp only
    split
    · exact becomes_remember s _ _
    · exact (becomes_remember s _ _).trans (becomes_move _ _)
  · unfold aimAndFire
    dsimp only
    split
    · split <;> exact becomes_remember s _ _
    · exact becomes_remember s _ _
  · exact Instance.Becomes.refl _

theorem becomes_foldl_act (scene : Scene R) (input : Input R) (dt : R) (bs : List (Behavior R))
    (s : Stepped R) : s.subject.Becomes (bs.foldl (act scene input dt) s).subject := by
  induction bs generalizing s with
  | nil => exact Instance.Becomes.refl _
  | cons b bs ih => exact (becomes_act s scene input dt b).trans (ih _)

end Stepped

namespace Instance

variable {R : Type} [Scalar R]

theorem goes_step [Planar R] (scene : Scene R) (input : Input R) (dt : R) (i : Instance R) :
    Stepped.Goes i (i.step scene input dt) where
  subject := (becomes_mirrorHealth i).trans
    (Stepped.becomes_foldl_act scene input dt i.object.behaviors ⟨i.mirrorHealth, [], []⟩)
  spawns := by
    intro j hj
    rcases exists_projectile_of_mem_spawns scene input dt hj with ⟨_, template, firer, point, _, rfl⟩
    exact isEquipped_projectile firer template point

theorem becomes_step [Planar R] (scene : Scene R) (input : Input R) (dt : R) (i : Instance R) :
    i.Becomes (i.step scene input dt).subject :=
  (goes_step scene input dt i).subject

theorem becomes_syncBar [Numeral R] (r : Roster R) (globals : Variables R) (i : Instance R) :
    i.Becomes (r.syncBar globals i) := by
  unfold Roster.syncBar
  split
  · split
    · exact Becomes.refl i
    · exact becomes_of_eq rfl rfl rfl rfl
  · exact Becomes.refl i

theorem becomes_animate (dt : R) (i : Instance R) : i.Becomes (i.animate dt) := by
  rcases animate_cases dt i with h | ⟨s, a, cursor, isOver, -, -, -, -, h⟩
  · rw [h]
    exact Becomes.refl i
  · rw [h]
    exact becomes_of_eq rfl rfl rfl rfl

end Instance

namespace Roster

variable {R : Type}

/-- A change of the first instance of an id is a change of the list. -/
theorem forall₂_modifyFirst {P : Instance R → Instance R → Prop} (hrefl : ∀ k, P k k) {id : String}
    {i j : Instance R} (is : List (Instance R)) (hi : is.find? (fun k => k.id == id) = some i)
    (hij : P i j) : List.Forall₂ P is (modifyFirst id (fun _ => j) is) := by
  induction is with
  | nil => exact List.Forall₂.nil
  | cons k is ih =>
      unfold modifyFirst
      split
      · next hk =>
        have hik : k = i := by simpa [List.find?_cons, hk] using hi
        subst hik
        exact List.Forall₂.cons hij (List.forall₂_same.2 fun k _ => hrefl k)
      · next hk =>
        have hi' : is.find? (fun k => k.id == id) = some i := by
          simpa [List.find?_cons, hk] using hi
        exact List.Forall₂.cons (hrefl k) (ih hi')

end Roster

end Playfield
