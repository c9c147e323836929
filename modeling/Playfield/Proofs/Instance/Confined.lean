import Mathlib
import Playfield.Simulation.Step

/-!
# What a Step Leaves Alone

How far the behaviors of an instance reach.

A behavior moves its instance, turns it, or sets what it remembers itself. So of an
instance that has stepped only little can be another: its place, its rotation, the variable
that shows its health, and the states of its own behaviors (`Instance.DiffersIn`). Beside
that only turrets ask for new instances, and only bullets for destructions.

What a behavior remembers is therefore decided by the behaviors of its kind alone. Where an
instance has one behavior of a kind, its step can be cut at the turn of this behavior
(`Instance.step_eq_of_behaviors`): those before and those behind neither see nor change
what it remembers.

## Main definitions

* `Instance.DiffersIn`: How two instances may differ.
* `Instance.turn`: An instance when the turn of a behavior has come.

## Theorems

* `Stepped.differsIn_act`: What a behavior changes.
* `Stepped.spawns_act`, `Stepped.destroys_act`: Who asks for nothing.
* `Instance.differsIn_step`: What a step changes.
* `Instance.get_turn`: A behavior finds what it has left, if there is no other of its kind.
* `Instance.step_eq_of_behaviors`: A step, cut at the turn of a behavior.
* `Instance.HasOnly.exists_turn`: What the only behavior of a kind remembers after a step.
-/

namespace Playfield

namespace Instance

variable {R : Type} {ks ls : List Behavior.Kind} {i j l : Instance R}

/-- Two instances differ at most in place and rotation, in the variable that shows the
    health, and in what behaviors of some kinds remember. -/
structure DiffersIn (ks : List Behavior.Kind) (i j : Instance R) : Prop where
  /-- All other fields of the objects are the same. -/
  object : { j.object with
    position := i.object.position
    rotation := i.object.rotation
    vars := i.object.vars } = i.object
  vars : ∀ name, name ≠ "health" → j.object.vars.get? name = i.object.vars.get? name
  states : ∀ k, k ∉ ks → j.states.get k = i.states.get k
  cursor : j.cursor = i.cursor

theorem DiffersIn.refl (ks : List Behavior.Kind) (i : Instance R) : i.DiffersIn ks i :=
  ⟨rfl, fun _ _ => rfl, fun _ _ => rfl, rfl⟩

theorem DiffersIn.trans (h : i.DiffersIn ks j) (h' : j.DiffersIn ls l) :
    i.DiffersIn (ks ++ ls) l where
  object := by
    -- Place, rotation and variables are overwritten in the end.
    have hobject := congrArg (fun o : Object R => { o with
      position := i.object.position
      rotation := i.object.rotation
      vars := i.object.vars }) h'.object
    exact hobject.trans h.object
  vars := fun name hname => (h'.vars name hname).trans (h.vars name hname)
  states := by
    intro k hk
    rw [List.mem_append, not_or] at hk
    exact (h'.states k hk.2).trans (h.states k hk.1)
  cursor := h'.cursor.trans h.cursor

theorem DiffersIn.id (h : i.DiffersIn ks j) : j.id = i.id := by
  have hid := congrArg (fun o : Object R => o.id) h.object
  exact hid

theorem DiffersIn.behaviors (h : i.DiffersIn ks j) : j.object.behaviors = i.object.behaviors := by
  have hbehaviors := congrArg (fun o : Object R => o.behaviors) h.object
  exact hbehaviors

theorem DiffersIn.appearance (h : i.DiffersIn ks j) :
    j.object.appearance = i.object.appearance := by
  have happearance := congrArg (fun o : Object R => o.appearance) h.object
  exact happearance

theorem differsIn_moveTo (i : Instance R) (p : Point R) : i.DiffersIn [] (i.moveTo p) :=
  ⟨rfl, fun _ _ => rfl, fun _ _ => rfl, rfl⟩

theorem differsIn_mirrorHealth (i : Instance R) : i.DiffersIn [] i.mirrorHealth := by
  unfold mirrorHealth
  split
  · exact DiffersIn.refl [] i
  · refine ⟨rfl, fun name hname => ?_, fun _ _ => rfl, rfl⟩
    exact Dictionary.get?_insert_ne _ hname.symm _

/-- A behavior of an instance, of which kind it has no other. -/
def HasOnly (i : Instance R) (b : Behavior R) : Prop :=
  i.object.behaviors.filter (·.kind = b.kind) = [b]

instance [DecidableEq R] (i : Instance R) (b : Behavior R) : Decidable (i.HasOnly b) :=
  inferInstanceAs (Decidable (_ = _))

variable {b : Behavior R}

/-- The behaviors before it and those behind it are of other kinds. -/
theorem HasOnly.exists_split (h : i.HasOnly b) : ∃ before after,
    i.object.behaviors = before ++ b :: after ∧ (∀ c ∈ before, c.kind ≠ b.kind) ∧
      ∀ c ∈ after, c.kind ≠ b.kind := by
  rcases List.filter_eq_cons_iff.1 h with ⟨before, after, hsplit, hbefore, -, hafter⟩
  rw [List.filter_eq_nil_iff] at hafter
  simp only [decide_eq_true_eq] at hbefore hafter
  exact ⟨before, after, hsplit, hbefore, hafter⟩

theorem HasOnly.of_differsIn (h : i.HasOnly b) (hij : i.DiffersIn ks j) : j.HasOnly b := by
  rwa [HasOnly, hij.behaviors]

end Instance

namespace Stepped

variable {R : Type}

theorem differsIn_remember (s : Stepped R) (k : Behavior.Kind) (v : BehaviorState R) :
    s.subject.DiffersIn [k] (s.remember k v).subject where
  object := rfl
  vars := fun _ _ => rfl
  states := by
    intro l hl
    rw [List.mem_singleton] at hl
    simp only [remember, BehaviorStates.get_set, if_neg (Ne.symm hl)]
  cursor := rfl

variable [Scalar R]

theorem differsIn_move {ks : List Behavior.Kind} {i : Instance R} {s : Stepped R}
    (h : i.DiffersIn ks s.subject) (way : Point R) : i.DiffersIn ks (s.move way).subject := by
  have hmove := h.trans (Instance.differsIn_moveTo s.subject (s.subject.object.position + way))
  rwa [List.append_nil] at hmove

variable [Planar R] (scene : Scene R) (input : Input R) (dt : R) (s : Stepped R)
  (b : Behavior R)

theorem act_bullet {speed lifespan elapsed : R} {destroys : Bool}
    (h : s.subject.states.get .bullet = some (.bullet elapsed)) :
    s.act scene input dt (.bullet speed destroys lifespan) = s.fly speed lifespan dt elapsed := by
  simp only [act, Behavior.kind, h]

theorem act_turret {t : Turret R} {cooldown : R}
    (h : s.subject.states.get .turret = some (.turret cooldown)) :
    s.act scene input dt (.turret t) = s.aimAndFire scene t dt cooldown := by
  simp only [act, Behavior.kind, h]

/-- A behavior changes what it remembers, and where its instance is and looks. -/
theorem differsIn_act : s.subject.DiffersIn [b.kind] (s.act scene input dt b).subject := by
  unfold act
  split
  · exact differsIn_move (differsIn_remember s _ _) _
  · exact ⟨rfl, fun _ _ => rfl, fun _ _ => rfl, rfl⟩
  · unfold fly
    dsimp only
    split
    · exact differsIn_remember s _ _
    · exact differsIn_move (differsIn_remember s _ _) _
  · unfold aimAndFire
    dsimp only
    split
    · split <;> exact differsIn_remember s _ _
    · exact differsIn_remember s _ _
  · exact Instance.DiffersIn.refl _ _

/-- Only turrets ask for new instances. -/
theorem spawns_act (hb : b.kind ≠ .turret) : (s.act scene input dt b).spawns = s.spawns := by
  unfold act
  split
  · rfl
  · rfl
  · unfold fly
    dsimp only
    split <;> rfl
  · exact absurd rfl hb
  · rfl

/-- And what they ask for are projectiles of templates of the scene. -/
theorem cases_of_mem_spawns_act {j : Instance R} (hj : j ∈ (s.act scene input dt b).spawns) :
    j ∈ s.spawns ∨ ∃ name template firer point, scene.template? name = some template ∧
      j = Instance.projectile firer template point := by
  by_cases hb : b.kind = .turret
  case neg => exact .inl (spawns_act scene input dt s b hb ▸ hj)
  unfold act at hj
  split at hj
  · cases hb
  · cases hb
  · cases hb
  · next t cooldown _ =>
    unfold aimAndFire at hj
    dsimp only at hj
    split at hj
    · split at hj
      · exact .inl hj
      · next template htemplate =>
        rw [List.mem_append, List.mem_singleton] at hj
        exact hj.imp_right fun hj => ⟨t.bullet, template, _, _, htemplate, hj⟩
    · exact .inl hj
  · exact .inl hj

/-- Only bullets ask for destructions. -/
theorem destroys_act (hb : b.kind ≠ .bullet) :
    (s.act scene input dt b).destroys = s.destroys := by
  unfold act
  split
  · rfl
  · rfl
  · exact absurd rfl hb
  · unfold aimAndFire
    dsimp only
    split
    · split <;> rfl
    · rfl
  · rfl

variable (bs : List (Behavior R))

theorem differsIn_foldl_act :
    s.subject.DiffersIn (bs.map (·.kind)) (bs.foldl (act scene input dt) s).subject := by
  induction bs generalizing s with
  | nil => exact Instance.DiffersIn.refl _ _
  | cons b bs ih => exact (differsIn_act scene input dt s b).trans (ih _)

variable {bs}

theorem get_foldl_act {k : Behavior.Kind} (hbs : ∀ b ∈ bs, b.kind ≠ k) :
    (bs.foldl (act scene input dt) s).subject.states.get k = s.subject.states.get k := by
  refine (differsIn_foldl_act scene input dt s bs).states k fun hk => ?_
  rcases List.mem_map.1 hk with ⟨b, hb, hbk⟩
  exact hbs b hb hbk

theorem spawns_foldl_act (hbs : ∀ b ∈ bs, b.kind ≠ .turret) :
    (bs.foldl (act scene input dt) s).spawns = s.spawns := by
  induction bs generalizing s with
  | nil => rfl
  | cons b bs ih =>
      rw [List.forall_mem_cons] at hbs
      exact (ih _ hbs.2).trans (spawns_act scene input dt s b hbs.1)

theorem destroys_foldl_act (hbs : ∀ b ∈ bs, b.kind ≠ .bullet) :
    (bs.foldl (act scene input dt) s).destroys = s.destroys := by
  induction bs generalizing s with
  | nil => rfl
  | cons b bs ih =>
      rw [List.forall_mem_cons] at hbs
      exact (ih _ hbs.2).trans (destroys_act scene input dt s b hbs.1)

end Stepped

namespace Instance

variable {R : Type} [Scalar R] [Planar R] (scene : Scene R) (input : Input R) (dt : R)
  (i : Instance R)

/-- What a step changes. -/
theorem differsIn_step :
    i.DiffersIn (i.object.behaviors.map (·.kind)) (i.step scene input dt).subject :=
  (differsIn_mirrorHealth i).trans
    (Stepped.differsIn_foldl_act scene input dt ⟨i.mirrorHealth, [], []⟩ i.object.behaviors)

/-- An instance when some of its behaviors have acted and the turn of the next has come. -/
def turn (before : List (Behavior R)) : Stepped R :=
  before.foldl (Stepped.act scene input dt) ⟨i.mirrorHealth, [], []⟩

/-- The id is that of the instance when the turn of a behavior has come. -/
theorem id_turn (before : List (Behavior R)) :
    (i.turn scene input dt before).subject.id = i.id := by
  have hturn := (differsIn_mirrorHealth i).trans
    (Stepped.differsIn_foldl_act scene input dt ⟨i.mirrorHealth, [], []⟩ before)
  exact hturn.id

variable {before after : List (Behavior R)} {b : Behavior R}

/-- What a behavior finds when its turn has come is what was there before the step, if none of
    the behaviors before it is of its kind. -/
theorem get_turn {k : Behavior.Kind} (hbefore : ∀ b ∈ before, b.kind ≠ k) :
    (i.turn scene input dt before).subject.states.get k = i.states.get k := by
  refine (Stepped.get_foldl_act scene input dt _ hbefore).trans ?_
  exact (differsIn_mirrorHealth i).states k List.not_mem_nil

variable {i}

/-- A step, cut at the turn of a behavior. -/
theorem step_eq_of_behaviors (hi : i.object.behaviors = before ++ b :: after) :
    i.step scene input dt = after.foldl (Stepped.act scene input dt)
      ((i.turn scene input dt before).act scene input dt b) := by
  rw [step, hi, List.foldl_append, List.foldl_cons]
  rfl

/-- If an instance has no other behavior of a kind, then what is remembered for it is found by its
    turn, and is left as its turn has left it. -/
theorem HasOnly.exists_turn (hi : i.HasOnly b) : ∃ s : Stepped R,
    s.subject.states.get b.kind = i.states.get b.kind ∧
      (i.step scene input dt).subject.states.get b.kind =
        (s.act scene input dt b).subject.states.get b.kind := by
  rcases hi.exists_split with ⟨before, after, hsplit, hbefore, hafter⟩
  refine ⟨i.turn scene input dt before, get_turn scene input dt i hbefore, ?_⟩
  rw [step_eq_of_behaviors scene input dt hsplit, Stepped.get_foldl_act _ _ _ _ hafter]

/-- The turn of a behavior in a step, with what there is before it and after it. From there the
    step goes on with the behaviors that are left. -/
def HasTurn (i : Instance R) (b : Behavior R) (s t : Stepped R) : Prop :=
  ∃ before after, i.object.behaviors = before ++ b :: after ∧
    s = i.turn scene input dt before ∧ t = s.act scene input dt b ∧
      i.step scene input dt = after.foldl (Stepped.act scene input dt) t

/-- What behaviors ask for are projectiles of templates of the scene. -/
theorem exists_projectile_of_mem_spawns {j : Instance R} (hj : j ∈ (i.step scene input dt).spawns) :
    ∃ name template firer point, scene.template? name = some template ∧
      j = projectile firer template point := by
  have hfold (bs : List (Behavior R)) (s : Stepped R)
      (h : j ∈ (bs.foldl (Stepped.act scene input dt) s).spawns) :
      j ∈ s.spawns ∨ ∃ name template firer point, scene.template? name = some template ∧
        j = projectile firer template point := by
    induction bs generalizing s with
    | nil => exact .inl h
    | cons b bs ih =>
        rcases ih _ h with hj | hj
        · exact Stepped.cases_of_mem_spawns_act scene input dt s b hj
        · exact .inr hj
  exact (hfold i.object.behaviors _ hj).resolve_left List.not_mem_nil

end Instance

end Playfield
