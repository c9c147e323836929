import Mathlib
import Playfield.Proofs.Project.Saved
import Playfield.Proofs.Session.Finite
import Playfield.Proofs.Session.Idle

/-!
# Assignments

What an assignment does to a session that could be saved.

A session can be saved as long as all its numbers are finite, and those of a document are.
An action that only assigns computes nothing, so one would expect that it cannot spoil a
session: what it stores has been read from a document. But texts are stored too, and a text
that denotes a number is stored as that number. Some texts denote a number that no document
holds. They name an infinity, or they have so many digits, or so large a power, that the
nearest double is one (`Value.IsBeyond`).

These texts are the only way in which an assignment spoils a session. What it stores is one
number at most (`Action.Kind.stored?`), the rest of the session stays as it is, and so the
session afterwards can be saved exactly if that number is finite. Colors are the exception
among the properties, because a color is stored as the text that is shown.

## Main definitions

* `Decimal.Free.IsBeyond`, `Value.IsBeyond`: A number that no document holds, and a text that
  denotes one.
* `Action.Kind.assigned?`: The operand of an action that only assigns.
* `Action.Kind.IsPainting`: An assignment of a color.
* `Action.Kind.stored?`: The number that an assignment stores.
* `Session.IsSavable`: A session passes the check of a save.

## Theorems

* `Value.isFinite_toNumber_iff`: A value that has been read counts as a finite number unless
  it is beyond.
* `Session.isSavable_iff`: Savable is what is finite.
* `Session.isSavable_change_iff`, `Session.isSavable_perform_iff`: A savable session stays
  savable if the stored number is finite.
* `Session.isSavable_assignment_iff`: It does so if the operand is not beyond.
-/

namespace Playfield

section Parts

variable {α R : Type}

theorem Dictionary.mem_of_lookup {k : String} {v : α} {es : List (String × α)}
    (h : lookup k es = some v) : (k, v) ∈ es := by
  induction es with
  | nil => cases h
  | cons e es ih =>
      rcases e with ⟨k', v'⟩
      unfold lookup at h
      split at h
      · next hk =>
        rw [hk, Option.some.inj h]
        exact List.mem_cons_self
      · exact List.mem_cons_of_mem (k', v') (ih h)

/-- What is true of all values is true of them after an insertion if it is true of the
    inserted one. -/
theorem Dictionary.forall_insert_iff {P : α → Prop} {d : Dictionary α} {k : String} {v : α}
    (h : ∀ e ∈ d.entries, P e.2) : (∀ e ∈ (d.insert k v).entries, P e.2) ↔ P v := by
  constructor
  · intro hall
    exact hall (k, v) (mem_of_lookup (get?_insert_self d k v))
  · intro hv e he
    rcases mem_insertEntry he with rfl | he
    · exact hv
    · exact h e he

/-- The changed instance is there after the change. -/
theorem Roster.mem_modifyFirst_self {id : String} {i j : Instance R} {is : List (Instance R)}
    (hi : is.find? (fun i => i.id == id) = some i) : j ∈ modifyFirst id (fun _ => j) is := by
  induction is with
  | nil => cases hi
  | cons k is ih =>
      rw [List.find?_cons] at hi
      unfold modifyFirst
      split at hi
      · next hk =>
        rw [if_pos hk]
        exact List.mem_cons_self
      · next hk =>
        rw [if_neg (by simp [hk])]
        exact List.mem_cons_of_mem k (ih hi)

/-- What is true of all live instances is true of them after a change if it is true of the
    changed one. -/
theorem Roster.forall_modify_iff {P : Instance R → Prop} {r : Roster R} {id : String}
    {i j : Instance R} (hi : r.get? id = some i) (h : ∀ k ∈ r.live, P k) :
    (∀ k ∈ (r.modify id fun _ => j).live, P k) ↔ P j := by
  constructor
  · intro hall
    exact hall j (mem_modifyFirst_self hi)
  · intro hj k hk
    rcases mem_modifyFirst hk with hk | ⟨-, -, rfl⟩
    · exact h k hk
    · exact hj

theorem Appearance.exists_of_updateText? {f : Label R → Label R} {a b : Appearance R}
    (h : a.updateText? f = some b) : ∃ t, a = .text t ∧ b = .text (f t) := by
  cases a with
  | text t =>
      cases h
      exact ⟨t, rfl, rfl⟩
  | _ => cases h

end Parts

/-! ## What is stored -/

section Values

variable {R : Type}

/-- A number that no document holds: an infinity, or one to which a double that is an infinity
    would be the nearest. -/
def Decimal.Free.IsBeyond : Decimal.Free → Prop
  | .finite d => (Decimal.limit : Rat) ≤ d.size
  | .infinite _ => True
  | .notNumber => False

/-- A text that denotes a number which no document holds. -/
def Value.IsBeyond : Value R → Prop
  | .text t => ∃ f, Decimal.readFree (Text.trim t.toList) = some f ∧ f.IsBeyond
  | _ => False

theorem Decimal.Free.isBeyond_finite (d : Decimal) :
    (finite d).IsBeyond ↔ (Decimal.limit : Rat) ≤ d.size :=
  Iff.rfl

theorem Decimal.Free.isBeyond_infinite (negative : Bool) : (infinite negative).IsBeyond := trivial

theorem Decimal.Free.isBeyond_notNumber : ¬ notNumber.IsBeyond := id

theorem Value.isBeyond_text (t : String) : (text t : Value R).IsBeyond ↔
    ∃ f, Decimal.readFree (Text.trim t.toList) = some f ∧ f.IsBeyond :=
  Iff.rfl

namespace Action.Kind

/-- The operand of an action that only assigns. -/
def assigned? : Kind R → Option (Value R)
  | .setGlobal _ v | .changeGlobal _ .set v | .object _ (.changeVariable _ .set v)
  | .object _ (.setProperty _ v) => some v
  | _ => none

/-- There are four kinds of assignments. -/
theorem cases_assigned? {k : Kind R} {v : Value R} (h : k.assigned? = some v) :
    (∃ name, k = .setGlobal name v) ∨ (∃ name, k = .changeGlobal name .set v) ∨
      (∃ id name, k = .object id (.changeVariable name .set v)) ∨
      ∃ id p, k = .object id (.setProperty p v) := by
  unfold assigned? at h
  split at h
  · cases h
    exact .inl ⟨_, rfl⟩
  · cases h
    exact .inr (.inl ⟨_, rfl⟩)
  · cases h
    exact .inr (.inr (.inl ⟨_, _, rfl⟩))
  · cases h
    exact .inr (.inr (.inr ⟨_, _, rfl⟩))
  · cases h

/-- Two of them are about an object. -/
theorem cases_assigned?_object {id : String} {e : Effect R} {v : Value R}
    (h : (object id e).assigned? = some v) :
    (∃ name, e = .changeVariable name .set v) ∨ ∃ p, e = .setProperty p v := by
  rcases cases_assigned? h with ⟨_, heq⟩ | ⟨_, heq⟩ | ⟨_, name, heq⟩ | ⟨_, p, heq⟩
  · cases heq
  · cases heq
  · cases heq
    exact .inl ⟨name, rfl⟩
  · cases heq
    exact .inr ⟨p, rfl⟩

/-- An assignment of a color, which any value can be. -/
def IsPainting : Kind R → Prop
  | .object _ (.setProperty .color _) => True
  | _ => False

end Action.Kind

variable [Scalar R] [Numeral R]

/-- The number that an assignment to an object stores. -/
def Effect.stored? : Effect R → Option R
  | .setProperty .color _ => none
  | .changeVariable _ .set v | .setProperty _ v => v.toNumber?
  | _ => none

/-- The number that an assignment stores, if it finds what it needs. -/
def Action.Kind.stored? : Action.Kind R → Option R
  | .setGlobal _ v => v.coerced.storedNumber?
  | .changeGlobal _ .set v => v.toNumber?
  | .object _ e => e.stored?
  | _ => none

end Values

namespace Value

/-- A text counts as a finite number, or as none, unless it is beyond. -/
theorem isFinite_parseNumber_iff {t : String} :
    (∀ x, parseNumber? (R := Float) t = some x → Scalar.isFinite x = true) ↔
      ¬ (text t : Value Float).IsBeyond := by
  rw [isBeyond_text, parseNumber?, Numeral.readFree?]
  cases Decimal.readFree (Text.trim t.toList) with
  | none => simp
  | some f =>
      cases f with
      | notNumber => simp [Decimal.Free.isBeyond_notNumber]
      | finite d =>
          -- By the law of decimals the nearest double is finite below the limit.
          have hd : Scalar.isFinite (Numeral.ofDecimal d : Float) = true ↔
              ¬ (Decimal.Free.finite d).IsBeyond := by
            rw [Numeral.Lawful.isFinite_ofDecimal, Decimal.isOutOfRange_eq, Bool.not_eq_true',
              decide_eq_false_iff_not, Decimal.Free.isBeyond_finite]
          simp [hd]
      | infinite negative =>
          have hinf : Scalar.isFinite
              (if negative then -Numeral.infinity else Numeral.infinity : Float) = false := by
            cases negative <;> decide
          simp [hinf, Decimal.Free.isBeyond_infinite]

/-- A value that has been read counts as a finite number, or as none, unless it is beyond. -/
theorem isFinite_toNumber_iff {v : Value Float} (hv : v.IsFinite) :
    (∀ x, v.toNumber? = some x → Scalar.isFinite x = true) ↔ ¬ v.IsBeyond := by
  cases v with
  | null => simp [toNumber?, IsBeyond]
  | bool b =>
      have hbool : ∀ x, (bool b : Value Float).toNumber? = some x → Scalar.isFinite x = true := by
        rintro _ ⟨⟩
        cases b <;> decide
      exact ⟨fun _ h => h, fun _ => hbool⟩
  | number x =>
      have hx : Scalar.isFinite x = true := hv
      simp [toNumber?, IsBeyond, hx]
  | text t => exact isFinite_parseNumber_iff

/-- So does what it is coerced to. -/
theorem isFinite_coerced_iff {v : Value Float} (hv : v.IsFinite) :
    (∀ x, v.coerced.storedNumber? = some x → Scalar.isFinite x = true) ↔ ¬ v.IsBeyond := by
  cases v with
  | null => simp [coerced, storedNumber?, IsBeyond]
  | bool b => simp [coerced, storedNumber?, IsBeyond]
  | number x =>
      have hx : Scalar.isFinite x = true := hv
      simp [coerced, storedNumber?, IsBeyond, hx]
  | text t =>
      -- What the text becomes is the number that it counts as, if it counts as one.
      have hstored : (text t : Value Float).coerced.storedNumber? = parseNumber? t := by
        rw [coerced, ofText]
        cases parseNumber? (R := Float) t <;> rfl
      rw [hstored]
      exact isFinite_parseNumber_iff

theorem isFinite_iff_storedNumber? {R : Type} [Scalar R] {v : Value R} :
    v.IsFinite ↔ ∀ x, v.storedNumber? = some x → Scalar.isFinite x = true := by
  cases v <;> simp [IsFinite, storedNumber?]

end Value

theorem Action.Kind.isFinite_of_assigned? {R : Type} [Scalar R] {k : Action.Kind R} {v : Value R}
    (hk : k.assigned? = some v) (h : k.IsFinite) : v.IsFinite := by
  rcases cases_assigned? hk with ⟨_, rfl⟩ | ⟨_, rfl⟩ | ⟨_, _, rfl⟩ | ⟨_, _, rfl⟩ <;> exact h

/-- What an assignment of a document stores is finite if it is a color or its operand is not
    beyond. -/
theorem Action.Kind.isFinite_stored_iff {k : Action.Kind Float} {v : Value Float}
    (hk : k.assigned? = some v) (hv : v.IsFinite) :
    (∀ x, k.stored? = some x → Scalar.isFinite x = true) ↔ k.IsPainting ∨ ¬ v.IsBeyond := by
  rcases cases_assigned? hk with ⟨_, rfl⟩ | ⟨_, rfl⟩ | ⟨_, _, rfl⟩ | ⟨_, p, rfl⟩
  · exact (Value.isFinite_coerced_iff hv).trans (or_iff_right fun h => h).symm
  · exact (Value.isFinite_toNumber_iff hv).trans (or_iff_right fun h => h).symm
  · exact (Value.isFinite_toNumber_iff hv).trans (or_iff_right fun h => h).symm
  · cases p
    case color => exact iff_of_true nofun (.inl trivial)
    all_goals exact (Value.isFinite_toNumber_iff hv).trans (or_iff_right fun h => h).symm

/-! ## Savable sessions -/

section

variable {R B : Type} [Scalar R] [Numeral R]

namespace Order

/-- Variables with one of them set are finite if the number is. -/
theorem isFinite_changeVariable?_iff {vs ws : Variables R} {name : String} {v : Value R}
    (hvs : ∀ e ∈ vs.entries, e.2.IsFinite) (h : changeVariable? vs name .set v = some ws) :
    (∀ e ∈ ws.entries, e.2.IsFinite) ↔ ∀ x, v.toNumber? = some x → Scalar.isFinite x = true := by
  unfold changeVariable? at h
  dsimp only at h
  split at h
  · next y _ hy =>
    cases h
    rw [Dictionary.forall_insert_iff hvs, hy]
    simp [Value.IsFinite, Arithmetic.apply]
  · cases h

/-- So is an object with a property set. A color is a text. -/
theorem isFinite_setProperty?_iff {o o' : Object R} {v : Value R} {p : Settable}
    (ho : o.IsFinite) (h : setProperty? o v p = some o') :
    o'.IsFinite ↔ ∀ x, (Effect.setProperty p v).stored? = some x → Scalar.isFinite x = true := by
  cases p
  case scale =>
    obtain ⟨x, hx, rfl⟩ := Option.map_eq_some_iff.1 h
    simp only [Effect.stored?, hx, Option.some.injEq, forall_eq']
    exact ⟨fun h => h.scale, fun h => { ho with scale := h }⟩
  case rotation =>
    obtain ⟨x, hx, rfl⟩ := Option.map_eq_some_iff.1 h
    simp only [Effect.stored?, hx, Option.some.injEq, forall_eq']
    exact ⟨fun h => h.rotation, fun h => { ho with rotation := h }⟩
  case color =>
    obtain ⟨w, hw, rfl⟩ := Option.map_eq_some_iff.1 h
    obtain ⟨t, ht, rfl⟩ := Appearance.exists_of_updateText? hw
    have htext : (Appearance.text t).IsFinite := ht ▸ ho.appearance
    exact iff_of_true { ho with appearance := htext } nofun
  case fontSize =>
    obtain ⟨x, hx, h⟩ := Option.bind_eq_some_iff.1 h
    obtain ⟨w, hw, rfl⟩ := Option.map_eq_some_iff.1 h
    obtain ⟨t, -, rfl⟩ := Appearance.exists_of_updateText? hw
    simp only [Effect.stored?, hx, Option.some.injEq, forall_eq']
    exact ⟨fun h => h.appearance, fun h => { ho with appearance := h }⟩

variable [Planar R] {s : Session R B} {binding : Option Binding} {dt : R}

/-- So is an instance that an assignment changes. -/
theorem isFinite_result?_iff {e : Effect R} {v : Value R} {id : String}
    {i j : Instance R} {order : Order R} (he : (Action.Kind.object id e).assigned? = some v)
    (horder : s.order? binding e = some order) (hi : i.IsFinite)
    (hj : order.result? dt i = some j) :
    j.IsFinite ↔ ∀ x, e.stored? = some x → Scalar.isFinite x = true := by
  rcases Action.Kind.cases_assigned?_object he with ⟨name, rfl⟩ | ⟨p, rfl⟩
  · cases horder
    obtain ⟨vs, hvs, rfl⟩ := Option.map_eq_some_iff.1 hj
    refine Iff.trans ?_ (isFinite_changeVariable?_iff hi.object.vars hvs)
    exact ⟨fun h => h.object.vars, fun h => { hi with object := { hi.object with vars := h } }⟩
  · cases horder
    obtain ⟨o, ho, rfl⟩ := Option.map_eq_some_iff.1 hj
    refine Iff.trans ?_ (isFinite_setProperty?_iff hi.object ho)
    exact ⟨fun h => h.object, fun h => { hi with object := h }⟩

end Order

namespace Session

variable [DecidableEq R]

/-- A session passes the check of a save: the text of its save is read back as it was. -/
def IsSavable (s : Session R B) : Prop :=
  ∀ slot, ∃ text, encode slot (s.snapshot s.supply.now.1) = .ok text

variable [Numeral.Lawful R] {s : Session R B}

/-- Savable is what is finite. -/
theorem isSavable_iff : s.IsSavable ↔ (s.snapshot s.supply.now.1).IsFinite := by
  constructor
  · intro h
    obtain ⟨text, htext⟩ : ∃ text, encode "" (s.snapshot s.supply.now.1) = .ok text := h ""
    exact isFinite_of_encode htext
  · exact fun h _ => ⟨_, encode_of_finite h⟩

theorem isSavable_roster_iff (hs : s.IsSavable) (r : Roster R) :
    ({ s with roster := r } : Session R B).IsSavable ↔ ∀ i ∈ r.live, i.IsFinite := by
  rw [isSavable_iff] at hs ⊢
  exact ⟨fun h => h.instances, fun h => ⟨h, hs.globals, hs.view, hs.timers⟩⟩

theorem isSavable_globals_iff (hs : s.IsSavable) (globals : Variables R) :
    ({ s with globals := globals } : Session R B).IsSavable ↔
      ∀ e ∈ globals.entries, e.2.IsFinite := by
  rw [isSavable_iff] at hs ⊢
  exact ⟨fun h => h.globals, fun h => ⟨hs.instances, h, hs.view, hs.timers⟩⟩

/-- A savable session with a global variable set is savable if the value is finite. -/
theorem isSavable_insert_iff (hs : s.IsSavable) (name : String) (v : Value R) :
    ({ s with globals := s.globals.insert name v } : Session R B).IsSavable ↔ v.IsFinite := by
  rw [isSavable_globals_iff hs]
  exact Dictionary.forall_insert_iff (isSavable_iff.1 hs).globals

variable [Planar R] {dt : R}

/-- A savable session with an object changed by an assignment is savable if the stored number
    is finite. -/
theorem isSavable_affect?_iff (binding : Option Binding) {t : Session R B} {e : Effect R}
    {v : Value R} {id target : String} (he : (Action.Kind.object target e).assigned? = some v)
    (hs : s.IsSavable) (ht : s.affect? binding dt id e = some t) :
    t.IsSavable ↔ ∀ x, e.stored? = some x → Scalar.isFinite x = true := by
  have hbind : (s.order? binding e).bind (s.change? id dt) = some t := by
    rcases Action.Kind.cases_assigned?_object he with ⟨name, rfl⟩ | ⟨p, rfl⟩ <;> exact ht
  obtain ⟨order, horder, hchange⟩ := Option.bind_eq_some_iff.1 hbind
  obtain ⟨j, hresult, rfl⟩ := Option.map_eq_some_iff.1 hchange
  obtain ⟨i, hi, hj⟩ := Option.bind_eq_some_iff.1 hresult
  have hfin : ∀ k ∈ s.roster.live, k.IsFinite := (isSavable_iff.1 hs).instances
  rw [isSavable_roster_iff hs, Roster.forall_modify_iff hi hfin]
  exact Order.isFinite_result?_iff he horder (hfin i (List.mem_of_find?_eq_some hi)) hj

variable [AudioOutput R B] {binding : Option Binding}

/-- A savable session with an assignment done is savable if the assignment lacks something or
    the stored number is finite. -/
theorem isSavable_perform_iff {a : Action R} {v : Value R} (ha : a.kind.assigned? = some v)
    (hs : s.IsSavable) : (perform binding dt s a).IsSavable ↔
      s.Lacks binding a.kind ∨ ∀ x, a.kind.stored? = some x → Scalar.isFinite x = true := by
  rw [perform_eq_attempt?]
  cases hattempt : attempt? binding dt s a with
  | none => exact iff_of_true hs (.inl (attempt?_eq_none_iff.1 hattempt))
  | some t =>
      have hlacks : ¬ s.Lacks binding a.kind := fun h =>
        nomatch (attempt?_eq_none_iff.2 h).symm.trans hattempt
      rw [or_iff_right hlacks, Option.getD_some]
      rcases a with ⟨id, kind⟩
      have hkind : kind.assigned? = some v := ha
      rcases Action.Kind.cases_assigned? hkind with ⟨name, rfl⟩ | ⟨name, rfl⟩ | ⟨_, _, rfl⟩ |
        ⟨_, _, rfl⟩
      · cases hattempt
        exact (isSavable_insert_iff hs name v.coerced).trans Value.isFinite_iff_storedNumber?
      · obtain ⟨x, -, ht⟩ := Option.bind_eq_some_iff.1 hattempt
        obtain ⟨y, hy, rfl⟩ := Option.map_eq_some_iff.1 ht
        rw [isSavable_insert_iff hs]
        simp [Action.Kind.stored?, hy, Value.IsFinite, Arithmetic.apply]
      -- An effect is tried on the object that the binding names.
      · exact isSavable_affect?_iff binding hkind hs hattempt
      · exact isSavable_affect?_iff binding hkind hs hattempt

end Session

end

namespace Session

variable {B : Type} [AudioOutput Float B]

/-- A session that can be saved can be saved after an assignment of a project that has been
    read from a text, exactly if the assignment finds nothing to do, sets a color, or has an
    operand that is not beyond. A text is counted as a number that is written and read back
    exactly if it is not beyond. -/
theorem isSavable_assignment_iff {text : String} {p : Project Float}
    (hread : Project.read text = .ok p) {scene : Scene Float} (hscene : scene ∈ p.scenes)
    {e : Event Float} (he : e ∈ EventNode.allEvents scene.events) {a : Action Float}
    (ha : a ∈ e.actions) {v : Value Float} (hv : a.kind.assigned? = some v)
    (s : Session Float B) (hs : s.IsSavable) (binding : Option Binding) (dt : Float) :
    ((perform binding dt s a).IsSavable ↔
      s.Lacks binding a.kind ∨ a.kind.IsPainting ∨ ¬ v.IsBeyond) ∧
    ∀ t x, Value.parseNumber? t = some x →
      (Value.codec.parse (Value.codec.write (.number x : Value Float)).compact = .ok (.number x) ↔
        ¬ (Value.text t : Value Float).IsBeyond) := by
  have hfin : v.IsFinite := by
    obtain ⟨n, hn, he⟩ := EventNode.mem_allEvents.1 he
    have hevent := (((Project.of_read hread).1.scenes scene hscene).events n hn) e he
    exact Action.Kind.isFinite_of_assigned? hv (hevent.actions a ha)
  constructor
  · rw [isSavable_perform_iff hv hs, Action.Kind.isFinite_stored_iff hv hfin]
  · intro t x hx
    rw [(Value.holds_codec 0).parse_write_iff (by decide), ← Value.isFinite_parseNumber_iff, hx]
    simp [Value.IsFinite]

/-- A project that consists of finite actions comes back from its text. -/
theorem read_ofActions {actions : List (Action Float)} (h : ∀ a ∈ actions, a.IsFinite) :
    Project.read (Project.write (.ofActions actions)) = .ok (.ofActions actions) := by
  refine Project.read_write ⟨?_, ?_, List.forall_mem_nil _, List.forall_mem_nil _⟩ ?_
  · exact ⟨(by decide : Scalar.isFinite (800 : Float) = true),
      (by decide : Scalar.isFinite (600 : Float) = true)⟩
  · refine List.forall_mem_singleton.2 ⟨List.forall_mem_nil _, List.forall_mem_nil _, ?_⟩
    exact List.forall_mem_singleton.2 (List.forall_mem_singleton.2 ⟨List.forall_mem_nil _, h⟩)
  · -- An action is nested twice, in the list of an event in the list of a scene.
    have hactions := (Codec.holds_list (Action.holds_codec (R := Float) 0)).depth_write_le actions
    refine (Project.depth_write_le (d := 8) _ (List.forall_mem_singleton.2 ?_) le_rfl).trans
      (by decide)
    refine Nat.add_le_add_right
      (Codec.depth_list_write_le (D := 4) (List.forall_mem_singleton.2 ?_)) 3
    refine (EventNode.depth_write_event 0 _).le.trans (Nat.succ_le_succ (max_le ?_ hactions))
    exact Nat.succ_le_succ (Nat.zero_le 2)

/-- An action that sets a global variable to a text. -/
def naming (name : String) : Action Float := ⟨"1", .setGlobal "name" (.text name)⟩

theorem read_naming (name : String) :
    Project.read (Project.write (.ofActions [naming name])) = .ok (.ofActions [naming name]) :=
  read_ofActions (List.forall_mem_singleton.2 trivial)

theorem isSavable_blank : (ofActions [] : Session Float (SilentOutput Float)).IsSavable := by
  refine isSavable_iff.2 ⟨List.forall_mem_nil _, List.forall_mem_nil _, ?_, List.forall_mem_nil _⟩
  exact ⟨⟨by decide, by decide⟩, by decide, nofun, nofun, ⟨by decide, by decide⟩⟩

/-- A session can be saved after a variable has been set to the text of a large number. -/
theorem isSavable_assignment_iff_large :
    let s : Session Float (SilentOutput Float) := ofActions []
    s.IsSavable ∧ (perform none 1 s (naming "1e300")).IsSavable := by
  intro s
  have hread : Decimal.readFree (Text.trim "1e300".toList) = some (.finite ⟨false, 1, 300⟩) := by
    decide +kernel
  have hbelow : ¬ (Value.text "1e300" : Value Float).IsBeyond := by
    rw [Value.isBeyond_text, hread]
    rintro ⟨f, ⟨⟩, hbeyond⟩
    have hout : Decimal.isOutOfRange ⟨false, 1, 300⟩ = true := by
      rw [Decimal.isOutOfRange_eq]
      exact decide_eq_true hbeyond
    exact absurd hout (by decide +kernel)
  refine ⟨isSavable_blank, ?_⟩
  exact (isSavable_assignment_iff (read_naming "1e300") List.mem_cons_self List.mem_cons_self
    List.mem_cons_self rfl s isSavable_blank none 1).1.2 (.inr (.inr hbelow))

/-- It cannot be saved after the variable has been set to `Infinity`, which a project says like
    any other name. -/
theorem not_isSavable_infinity :
    let s : Session Float (SilentOutput Float) := ofActions []
    Project.read (Project.write (.ofActions [naming "Infinity"])) =
        .ok (.ofActions [naming "Infinity"]) ∧
      (naming "Infinity").kind.assigned? = some (.text "Infinity") ∧
      s.IsSavable ∧ ¬ (perform none 1 s (naming "Infinity")).IsSavable := by
  intro s
  refine ⟨read_naming "Infinity", rfl, isSavable_blank, fun h => ?_⟩
  have hnumber : (Value.text "Infinity" : Value Float).coerced = .number Numeral.infinity := by
    decide +kernel
  have hfin : ((Value.text "Infinity" : Value Float).coerced).IsFinite :=
    (isSavable_insert_iff isSavable_blank "name" _).1 h
  rw [hnumber] at hfin
  have hinf : Scalar.isFinite (Numeral.infinity : Float) = true := hfin
  exact absurd hinf (by decide)

end Session

end Playfield
