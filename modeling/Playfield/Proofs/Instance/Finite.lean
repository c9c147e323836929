import Mathlib
import Playfield.Instance.Codec
import Playfield.Proofs.Object.Finite

/-!
# Finite Instances

The instances that come back from a save.

An instance is finite if its object is and if the time of its cursor and all that
its behaviors remember are. A slot of a behavior is a member of an object under the
name of its kind, so the slots come back because no two kinds have one name.

## Main definitions

* `BehaviorState.IsFinite`, `Instance.IsFinite`: All numbers are finite.

## Theorems

* `BehaviorStates.ofList_toList`: Slots are what has been put into them.
* `BehaviorStates.holds_codec`: Slots come back if they are finite.
* `Instance.holds_codec`: So do instances.
-/

namespace Playfield

namespace BehaviorStates

variable {R : Type}

theorem get_empty (l : Behavior.Kind) : (empty : BehaviorStates R).get l = none := by
  cases l <;> rfl

/-- Filled slots are put over those that are there. -/
theorem get_foldl_set (s t : BehaviorStates R) (ks : List Behavior.Kind) (l : Behavior.Kind) :
    (((ks.filterMap fun k => (s.get k).map (k, ·)).foldl (fun s e => s.set e.1 (some e.2)) t).get
      l) = if l ∈ ks then (s.get l).or (t.get l) else t.get l := by
  -- A kind that comes twice is filled with the same state again.
  induction ks generalizing t with
  | nil => rfl
  | cons k ks ih =>
      cases hk : s.get k with
      | none =>
          rw [List.filterMap_cons_none (by rw [hk]; rfl), ih]
          by_cases hl : l = k
          · rw [hl, hk, if_pos List.mem_cons_self, Option.none_or, ite_self]
          · simp only [List.mem_cons, hl, false_or]
      | some v =>
          rw [List.filterMap_cons_some (by rw [hk]; rfl), List.foldl_cons, ih, get_set]
          by_cases hl : l = k
          · rw [hl, hk, if_pos rfl, if_pos List.mem_cons_self, Option.some_or, Option.some_or,
              ite_self]
          · rw [if_neg (Ne.symm hl)]
            simp only [List.mem_cons, hl, false_or]

theorem ofList_toList (s : BehaviorStates R) : ofList s.toList = s := by
  refine ext_get fun l => ?_
  have h := get_foldl_set s empty Behavior.Kind.all l
  rw [if_pos l.mem_all, get_empty, Option.or_none] at h
  exact h

theorem mem_of_get_foldl_set {t : BehaviorStates R} {es : List (Behavior.Kind × BehaviorState R)}
    {l : Behavior.Kind} {v : BehaviorState R}
    (h : (es.foldl (fun s e => s.set e.1 (some e.2)) t).get l = some v) :
    t.get l = some v ∨ (l, v) ∈ es := by
  induction es generalizing t with
  | nil => exact Or.inl h
  | cons e es ih =>
      rcases ih h with h | h
      · rw [get_set] at h
        split at h
        · next heq =>
          cases h
          exact Or.inr (heq ▸ List.mem_cons_self)
        · exact Or.inl h
      · exact Or.inr (List.mem_cons_of_mem e h)

theorem mem_of_get_ofList {es : List (Behavior.Kind × BehaviorState R)} {l : Behavior.Kind}
    {v : BehaviorState R} (h : (ofList es).get l = some v) : (l, v) ∈ es := by
  rcases mem_of_get_foldl_set h with h | h
  · rw [get_empty] at h
    cases h
  · exact h

theorem get_of_mem_toList {s : BehaviorStates R} {e : Behavior.Kind × BehaviorState R}
    (h : e ∈ s.toList) : s.get e.1 = some e.2 := by
  rcases List.mem_filterMap.1 h with ⟨k, _, hk⟩
  rcases Option.map_eq_some_iff.1 hk with ⟨v, hv, rfl⟩
  exact hv

end BehaviorStates

theorem Behavior.Kind.ofName?_name (k : Behavior.Kind) : ofName? k.name = some k := by
  cases k <;> decide

section Finite

variable {R : Type} [Scalar R]

/-- What a behavior remembers is finite. -/
def BehaviorState.IsFinite : BehaviorState R → Prop
  | .mover velocity => velocity.IsFinite
  | .bullet time | .turret time => Scalar.isFinite time = true
  | .health current => Scalar.isFinite current = true

/-- What is in the slots is finite. -/
def BehaviorStates.IsFinite (s : BehaviorStates R) : Prop :=
  ∀ k v, s.get k = some v → v.IsFinite

/-- All numbers of an instance are finite. -/
structure Instance.IsFinite (i : Instance R) : Prop where
  object : i.object.IsFinite
  cursor : Scalar.isFinite i.cursor.time = true
  states : i.states.IsFinite

theorem BehaviorStates.isFinite_empty : (empty : BehaviorStates R).IsFinite := by
  intro k v h
  rw [get_empty] at h
  cases h

variable [Numeral R]

theorem BehaviorStates.of_readSlots {src : Source} {ms : Json.Members}
    {es : List (Behavior.Kind × BehaviorState R)} (h : BehaviorStates.readSlots src ms = .ok es) :
    ∀ e ∈ es, ∃ m ∈ ms, BehaviorState.codec.read src m.2 = .ok e.2 := by
  induction ms generalizing es with
  | nil =>
      cases h
      intro e he
      cases he
  | cons m ms ih =>
      rcases m with ⟨name, j⟩
      unfold BehaviorStates.readSlots at h
      split at h
      · cases h
      · cases h
      · cases h
      next j _ _ k _ _ _ =>
      split at h
      · cases h
      next v hv =>
      split at h
      · next rest hrest =>
        cases h
        intro e he
        rcases List.mem_cons.1 he with rfl | he
        · exact ⟨(name, j), List.mem_cons_self, hv⟩
        · rcases ih hrest e he with ⟨m, hm, hread⟩
          exact ⟨m, List.mem_cons_of_mem (name, j) hm, hread⟩
      · cases h

variable [Numeral.Lawful R]

theorem BehaviorState.cover_variants (k : Nat) :
    Variant.Cover (variants : List (Variant (BehaviorState R))) ["type"] k
      BehaviorState.IsFinite := by
  refine ⟨(by decide : ["top_down_movement", "bullet", "turret", "health"].Nodup), ?_, ?_⟩
  · intro s
    cases s <;> rfl
  simp only [variants, List.forall_mem_cons]
  refine ⟨?mover, ?bullet, ?turret, ?health, List.forall_mem_nil _⟩
  case mover =>
    refine .of (by decide : ["vx", "vy", "type"].Nodup) (fun _ h => h) ?_
    refine .field (.required (Codec.holds_number k)) (fun _ h => h.y) ?_
    refine .field (.required (Codec.holds_number k)) (fun _ h => h.x) ?_
    exact .start fun _ hx _ hy => ⟨hx, hy⟩
  case bullet =>
    exact .ofOne (by decide : ["elapsed", "type"].Nodup) (.required (Codec.holds_number k))
      (fun _ h => h) fun _ h => h
  case turret =>
    exact .ofOne (by decide : ["cooldown", "type"].Nodup) (.required (Codec.holds_number k))
      (fun _ h => h) fun _ h => h
  case health =>
    exact .ofOne (by decide : ["current", "type"].Nodup) (.required (Codec.holds_number k))
      (fun _ h => h) fun _ h => h

theorem BehaviorState.holds_codec (k : Nat) :
    (BehaviorState.codec : Codec (BehaviorState R)).Holds (k + 1) BehaviorState.IsFinite :=
  Codec.holds_tagged (BehaviorState.cover_variants k)

namespace BehaviorStates

theorem readSlots_write (src : Source) {es : List (Behavior.Kind × BehaviorState R)}
    (hes : ∀ e ∈ es, e.2.IsFinite) :
    readSlots src ((es.map fun e => (e.1.name, BehaviorState.codec.write e.2)).map
      fun m => (m.1, m.2.held)) = .ok es := by
  induction es with
  | nil => rfl
  | cons e es ih =>
      rcases e with ⟨k, v⟩
      have hread : BehaviorState.codec.read src
          (.object (Json.heldMembers (Codec.writeTagged BehaviorState.variants v))) = .ok v :=
        (BehaviorState.holds_codec 0).read_write src v (hes (k, v) List.mem_cons_self)
      change readSlots src ((k.name,
        .object (Json.heldMembers (Codec.writeTagged BehaviorState.variants v))) :: _) = _
      unfold readSlots
      rw [Behavior.Kind.ofName?_name]
      dsimp only
      rw [hread]
      dsimp only
      rw [ih fun e he => hes e (List.mem_cons_of_mem (k, v) he)]

/-- Slots come back if they are finite. -/
theorem holds_codec (k : Nat) :
    (codec : Codec (BehaviorStates R)).Holds (k + 2) BehaviorStates.IsFinite := by
  refine ⟨?_, ?_, ?_⟩
  · intro s
    refine Json.Plain.object (k := (k + 1 : Nat)) fun m hm => ?_
    rcases List.mem_map.1 hm with ⟨e, _, rfl⟩
    exact (BehaviorState.holds_codec k).plain e.2
  · intro src s hs
    have hread : readSlots src (Json.heldMembers
        (s.toList.map fun e => (e.1.name, BehaviorState.codec.write e.2))) = .ok s.toList := by
      rw [Json.heldMembers_eq_map]
      exact readSlots_write src fun e he => hs e.1 e.2 (get_of_mem_toList he)
    change codec.read src (.object (Json.heldMembers
      (s.toList.map fun e => (e.1.name, BehaviorState.codec.write e.2)))) = _
    unfold codec
    dsimp only
    rw [hread]
    exact congrArg Except.ok s.ofList_toList
  · intro src j s hj hread k' v hv
    cases j with
    | object ms =>
        unfold codec at hread
        dsimp only at hread
        split at hread
        · next es hes =>
          cases hread
          rcases of_readSlots hes (k', v) (mem_of_get_ofList hv) with ⟨m, hm, hread⟩
          exact (BehaviorState.holds_codec k).of_read src m.2 v
            (Json.descends_inRange.members ms hj m hm) hread
        · cases hread
    | _ => cases hread

end BehaviorStates

theorem Cursor.holds_codec (k : Nat) : (Cursor.codec : Codec (Cursor R)).Holds (k + 1)
    fun c => Scalar.isFinite c.time = true := by
  refine Codec.holds_record (by decide : ["frameIndex", "frameTime"].Nodup) (fun _ => rfl) ?_
  refine .field (.required (Codec.holds_number k)) (fun _ h => h) ?_
  refine .free (.required (Codec.holds_count k)) ?_
  refine .start ?_
  intro frame time htime
  exact htime

/-- Instances come back if they are finite. -/
theorem Instance.holds_codec (k : Nat) :
    (Instance.codec : Codec (Instance R)).Holds (k + 5) Instance.IsFinite := by
  refine Codec.holds_record (by decide : ["object", "animation", "behaviorState"].Nodup)
    (fun _ => rfl) ?_
  refine .field (.defaulting (BehaviorStates.holds_codec (k + 2)) BehaviorStates.isFinite_empty)
    (fun _ h => h.states) ?_
  refine .field (.defaulting (Cursor.holds_codec (k + 3)) Numeral.isFinite_zero)
    (fun _ h => h.cursor) ?_
  refine .field (.required (Object.holds_codec k)) (fun _ h => h.object) ?_
  refine .start ?_
  intro object hobject cursor hcursor states hstates
  exact ⟨hobject, hcursor, hstates⟩

end Finite

end Playfield
