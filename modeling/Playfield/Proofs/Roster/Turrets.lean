import Mathlib
import Playfield.Proofs.Roster.Separate
import Playfield.Scalar.Rational

/-!
# Turrets Keep Their Rate

How often a turret fires, if time is not rounded.

A turret waits for a time that each step shortens. When nothing is left of it the turret
fires, and waits for a whole period from then on, however long the step has been that
brought the shot: what is left over of a step is not taken into the next period. So the
distance of two shots is not a period but at least a period, and how many shots there are
is only bounded from above.

What a turret has still to wait is therefore told by its last shot alone
(`Turret.cooldown_eq`), and the shots are counted by a law that no step breaks: the periods
of the shots fit into the time that has passed and the time that is still to wait
(`Turret.count_le`).

A run is a sequence of steps that does not end. What is said of its first steps does not
depend on those behind them. What the instances ask for in these steps waits in the roster, in
the order in which it has been asked for, so that the shots of a turret can be found there.

## Main definitions

* `Beat`: What a step of a roster is given.
* `Roster.after`: A roster after the first steps of a sequence.
* `Roster.shots`: What the instance at a place asks for in one of the steps.
* `Turret.cooldown`: How long a turret has still to wait.
* `Roster.KeepsRate`: How a turret fires.

## Theorems

* `Roster.anonymous_spawns_after`: What waits after some steps is what has been asked for.
* `Instance.spawns_step_turret`, `Instance.get_step_turret`: A step of a turret.
* `Turret.cooldown_eq`, `Turret.period_le`, `Turret.count_le`: What a turret waits, and how
  often it has fired.
* `Roster.turret_keepsRate`: Turrets fire at their rate.
-/

namespace Playfield

/-- What a step of a roster is given. -/
structure Beat (R : Type) where
  scene : Scene R
  input : Input R
  dt : R

section Runs

variable {R : Type} [Scalar R] [Planar R] (beats : Nat → Beat R)

/-- What an instance does in one of the steps. -/
def Instance.beat (i : Instance R) (b : Beat R) : Stepped R := i.step b.scene b.input b.dt

/-- An instance after the first steps of a sequence. -/
def Instance.after (i : Instance R) : Nat → Instance R
  | 0 => i
  | n + 1 => ((i.after n).beat (beats n)).subject

namespace Roster

/-- A roster after the first steps of a sequence, and what is left of the supply. -/
def after (r : Roster R) (supply : Supply) : Nat → Roster R × Supply
  | 0 => (r, supply)
  | n + 1 =>
    let (r, supply) := r.after supply n
    r.step (beats n).scene (beats n).input (beats n).dt supply

/-- What the instance at a place asks for in one of the steps. -/
def shots (r : Roster R) (supply : Supply) (k n : Nat) : List (Instance R) :=
  match (r.after beats supply n).1.live[k]? with
  | none => []
  | some i => (i.beat (beats n)).spawns

variable (r : Roster R) (supply : Supply)

theorem live_after (n : Nat) :
    (r.after beats supply n).1.live = r.live.map (Instance.after beats · n) := by
  induction n with
  | zero => exact (List.map_id' r.live).symm
  | succ n ih =>
      rw [after, live_step, ih, List.map_map]
      rfl

/-- What the instances of a roster ask for in one of the steps is asked for place by place. -/
theorem flatMap_shots (m : Nat) : ((List.range r.live.length).flatMap
    fun l => (r.shots beats supply l m).map Instance.anonymous) =
      r.live.flatMap fun i => ((i.after beats m).beat (beats m)).spawns.map Instance.anonymous := by
  have hplaces : ∀ is : List (Instance R), ((List.range is.length).flatMap fun l =>
      is[l]?.elim [] fun i => ((i.after beats m).beat (beats m)).spawns.map Instance.anonymous) =
        is.flatMap fun i => ((i.after beats m).beat (beats m)).spawns.map Instance.anonymous := by
    intro is
    -- The first place is the first instance, and the others are those of the rest.
    induction is with
    | nil => rfl
    | cons i is ih =>
        rw [List.length_cons, List.range_succ_eq_map, List.flatMap_cons, List.flatMap_map,
          List.flatMap_cons, ← ih]
        rfl
  rw [← hplaces]
  refine congrArg (List.flatMap · _) (funext fun l => ?_)
  rw [shots, live_after, List.getElem?_map]
  cases r.live[l]? <;> rfl

/-- What waits after some steps is what has been asked for in these steps, one step after the
    other and place by place. -/
theorem anonymous_spawns_after (n : Nat) :
    (r.after beats supply n).1.spawns.map Instance.anonymous =
      r.spawns.map Instance.anonymous ++ (List.range n).flatMap fun m =>
        (List.range r.live.length).flatMap fun l =>
          (r.shots beats supply l m).map Instance.anonymous := by
  simp only [flatMap_shots]
  induction n with
  | zero => exact (List.append_nil _).symm
  | succ n ih =>
      rw [after, anonymous_spawns_step, ih, List.range_succ, List.flatMap_append,
        List.flatMap_singleton, List.append_assoc, live_after, List.flatMap_map]
      rfl

variable {r} {i : Instance R} {k : Nat}

theorem shots_eq (hk : r.live[k]? = some i) (n : Nat) :
    r.shots beats supply k n = ((i.after beats n).beat (beats n)).spawns := by
  rw [shots, live_after, List.getElem?_map, hk]
  rfl

end Roster

end Runs

namespace Turret

variable {R : Type} [Scalar R] (t : Turret R) (dt : Nat → R)

/-- What a turret has to wait after a step. -/
def cooled (cooldown dt : R) : R := if cooldown - dt ≤ 0 then 1 / t.fireRate else cooldown - dt

/-- What a turret has to wait after the first steps of a sequence. -/
def cooldown : Nat → R
  | 0 => 0
  | n + 1 => t.cooled (cooldown n) (dt n)

/-- Whether a turret fires in one of the steps. -/
def Fires (n : Nat) : Prop := t.cooldown dt n - dt n ≤ 0

instance (n : Nat) : Decidable (t.Fires dt n) := inferInstanceAs (Decidable (_ ≤ _))

end Turret

namespace Instance

variable {R : Type} [Scalar R] [Planar R] {scene : Scene R} (input : Input R) {dt cooldown : R}
  {i : Instance R} {t : Turret R} {o : Object R} (hi : i.HasOnly (.turret t))
  (hstate : i.states.get .turret = some (.turret cooldown)) (ht : t.automatic = true)
  (ho : scene.template? t.bullet = some o)

include hi hstate ht ho

/-- A turret has cooled down after a step, or it has to wait for a period. -/
theorem get_step_turret : (i.step scene input dt).subject.states.get .turret =
    some (.turret (t.cooled cooldown dt)) := by
  obtain ⟨s, hturn, hstep⟩ := hi.exists_turn scene input dt
  refine hstep.trans ?_
  rw [Stepped.act_turret scene input dt s (hturn.trans hstate), Stepped.aimAndFire, ht,
    Turret.cooled, ho]
  simp only [Bool.true_and, decide_eq_true_eq]
  split <;> rfl

/-- A turret that is cold fires one copy of its template. -/
theorem spawns_step_turret : ∃ firer, (i.step scene input dt).spawns =
    if cooldown - dt ≤ 0 then [projectile firer o t.spawnPoint] else [] := by
  rcases hi.exists_split with ⟨before, after, hsplit, hbefore, hafter⟩
  have hturn := (get_turn scene input dt i hbefore).trans hstate
  have hspawns : (i.turn scene input dt before).spawns = [] :=
    Stepped.spawns_foldl_act scene input dt _ hbefore
  refine ⟨(i.turn scene input dt before).subject.object, ?_⟩
  rw [step_eq_of_behaviors scene input dt hsplit, Stepped.spawns_foldl_act _ _ _ _ hafter,
    Stepped.act_turret scene input dt _ hturn, Stepped.aimAndFire, ht, ho]
  simp only [Bool.true_and, decide_eq_true_eq]
  split
  · exact congrArg (· ++ [_]) hspawns
  · exact hspawns

end Instance

namespace Turret

variable {t : Turret Rat} {dt : Nat → Rat}

theorem cooldown_zero : t.cooldown dt 0 = 0 := Rational.ofNat_eq 0

theorem fires_iff {n : Nat} : t.Fires dt n ↔ t.cooldown dt n ≤ dt n := by
  rw [Fires, Rational.ofNat_eq, Nat.cast_zero]
  exact sub_nonpos

theorem cooldown_succ_of_fires {n : Nat} (h : t.Fires dt n) :
    t.cooldown dt (n + 1) = 1 / t.fireRate := by
  refine (if_pos h).trans ?_
  rw [Rational.ofNat_eq, Nat.cast_one]

theorem cooldown_succ_of_not_fires {n : Nat} (h : ¬ t.Fires dt n) :
    t.cooldown dt (n + 1) = t.cooldown dt n - dt n := if_neg h

section Waiting

variable (hrate : 0 < t.fireRate) (hdt : ∀ n, 0 ≤ dt n)

include hrate hdt

/-- A turret waits for a period at most. -/
theorem cooldown_le (n : Nat) : t.cooldown dt n ≤ 1 / t.fireRate := by
  induction n with
  | zero =>
      rw [cooldown_zero]
      exact one_div_nonneg.2 hrate.le
  | succ n ih =>
      by_cases hn : t.Fires dt n
      · exact (cooldown_succ_of_fires hn).le
      · rw [cooldown_succ_of_not_fires hn]
        exact (sub_le_self _ (hdt n)).trans ih

end Waiting

/-- As long as a turret has not fired again, it has to wait for what is left of the period. -/
theorem cooldown_eq {m n : Nat} (hm : t.Fires dt m) (hmn : m < n)
    (hquiet : ∀ k, m < k → k < n → ¬ t.Fires dt k) :
    t.cooldown dt n = 1 / t.fireRate - ∑ k ∈ Finset.Ico (m + 1) n, dt k := by
  induction n, hmn using Nat.le_induction with
  | base => rw [cooldown_succ_of_fires hm, Finset.Ico_self, Finset.sum_empty, sub_zero]
  | succ n hmn ih =>
      rw [cooldown_succ_of_not_fires (hquiet n hmn n.lt_succ_self),
        ih fun k hmk hkn => hquiet k hmk (hkn.trans n.lt_succ_self),
        Finset.sum_Ico_succ_top hmn, sub_sub]

/-- Since a shot, a period is the time that has passed and is still to wait, or has been less. -/
theorem period_le (hdt : ∀ n, 0 ≤ dt n) {m n : Nat} (hm : t.Fires dt m) (hmn : m < n) :
    1 / t.fireRate ≤ t.cooldown dt n + ∑ k ∈ Finset.Ico (m + 1) n, dt k := by
  induction n, hmn using Nat.le_induction with
  | base => rw [cooldown_succ_of_fires hm, Finset.Ico_self, Finset.sum_empty, add_zero]
  | succ n hmn ih =>
      by_cases hn : t.Fires dt n
      · rw [cooldown_succ_of_fires hn]
        exact le_add_of_nonneg_right (Finset.sum_nonneg fun k _ => hdt k)
      · rw [cooldown_succ_of_not_fires hn, Finset.sum_Ico_succ_top hmn]
        linarith

/-- Two shots are a period apart. -/
theorem period_le_of_fires (hdt : ∀ n, 0 ≤ dt n) {m n : Nat} (hm : t.Fires dt m) (hn : t.Fires dt n)
    (hmn : m < n) : 1 / t.fireRate ≤ ∑ k ∈ Finset.Ico (m + 1) (n + 1), dt k := by
  have hperiod := period_le hdt hm hmn
  rw [fires_iff] at hn
  rw [Finset.sum_Ico_succ_top hmn]
  linarith

/-- A turret that has not fired again fires when the period is over. -/
theorem fires_iff_of_quiet {m n : Nat} (hm : t.Fires dt m) (hmn : m < n)
    (hquiet : ∀ k, m < k → k < n → ¬ t.Fires dt k) :
    t.Fires dt n ↔ 1 / t.fireRate ≤ ∑ k ∈ Finset.Ico (m + 1) (n + 1), dt k := by
  rw [fires_iff, cooldown_eq hm hmn hquiet, Finset.sum_Ico_succ_top hmn, sub_le_iff_le_add']

/-- A turret has not fired again if in no step the period has been over. -/
theorem quiet_iff {m n : Nat} (hm : t.Fires dt m) :
    (∀ k, m < k → k < n → ¬ t.Fires dt k) ↔
      ∀ k, m < k → k < n → ∑ l ∈ Finset.Ico (m + 1) (k + 1), dt l < 1 / t.fireRate := by
  constructor
  · intro hquiet k hmk hkn
    rw [← not_le, ← fires_iff_of_quiet hm hmk fun l hml hlk => hquiet l hml (hlk.trans hkn)]
    exact hquiet k hmk hkn
  · -- Before the first shot the turret is quiet.
    intro hshort k
    induction k using Nat.strong_induction_on with
    | h k ih =>
        intro hmk hkn
        rw [fires_iff_of_quiet hm hmk fun l hml hlk => ih l hlk hml (hlk.trans hkn), not_le]
        exact hshort k hmk hkn

/-- The next shot is fired in the first step at which the period is over. -/
theorem next_iff {m n : Nat} (hm : t.Fires dt m) (hmn : m < n) :
    (t.Fires dt n ∧ ∀ k, m < k → k < n → ¬ t.Fires dt k) ↔
      1 / t.fireRate ≤ ∑ k ∈ Finset.Ico (m + 1) (n + 1), dt k ∧
        ∀ k, m < k → k < n → ∑ l ∈ Finset.Ico (m + 1) (k + 1), dt l < 1 / t.fireRate := by
  rw [← quiet_iff hm]
  exact and_congr_left fun hquiet => fires_iff_of_quiet hm hmn hquiet

/-- The periods of the shots fit into the time that has passed and is still to wait. -/
theorem count_le (n : Nat) :
    ((List.range n).countP (t.Fires dt ·) : Rat) * (1 / t.fireRate) ≤
      ∑ k ∈ Finset.range n, dt k + t.cooldown dt n := by
  induction n with
  | zero => simp [cooldown_zero]
  | succ n ih =>
      rw [List.range_succ, List.countP_append, List.countP_singleton, Finset.sum_range_succ]
      by_cases hn : t.Fires dt n
      · have hcold := fires_iff.1 hn
        rw [cooldown_succ_of_fires hn, if_pos (decide_eq_true hn)]
        push_cast
        linarith
      · rw [cooldown_succ_of_not_fires hn, if_neg (by simpa using hn)]
        push_cast
        linarith

/-- So there are hardly more shots than the rate allows. -/
theorem count_le_rate (hrate : 0 < t.fireRate) (hdt : ∀ n, 0 ≤ dt n) (n : Nat) :
    ((List.range n).countP (t.Fires dt ·) : Rat) ≤
      1 + (∑ k ∈ Finset.range n, dt k) * t.fireRate := by
  have hcount := (count_le n).trans (add_le_add_right (cooldown_le hrate hdt n) _)
  rw [mul_one_div, div_le_iff₀ hrate, add_mul, one_div_mul_cancel hrate.ne'] at hcount
  linarith

end Turret

namespace Instance

variable {R : Type} [Scalar R] [Planar R] {beats : Nat → Beat R} {i : Instance R} {t : Turret R}
  (hi : i.HasOnly (.turret t)) (hfresh : i.states.get .turret = some (.turret 0))
  (ht : t.automatic = true) (hbullet : ∀ n, ((beats n).scene.template? t.bullet).isSome)

include hi hfresh ht hbullet

/-- What a turret has to wait after some steps. -/
theorem turret_after (n : Nat) : (i.after beats n).HasOnly (.turret t) ∧
    (i.after beats n).states.get .turret =
      some (.turret (t.cooldown (fun m => (beats m).dt) n)) := by
  induction n with
  | zero => exact ⟨hi, hfresh⟩
  | succ n ih =>
      rcases Option.isSome_iff_exists.1 (hbullet n) with ⟨o, ho⟩
      exact ⟨ih.1.of_differsIn (differsIn_step _ _ _ _), get_step_turret _ ih.1 ih.2 ht ho⟩

/-- What a turret asks for in one of the steps. -/
theorem spawns_beat_after (n : Nat) :
    ∃ firer, ∃ o, (beats n).scene.template? t.bullet = some o ∧
      ((i.after beats n).beat (beats n)).spawns =
        if t.Fires (fun m => (beats m).dt) n then [projectile firer o t.spawnPoint] else [] := by
  have hafter := turret_after hi hfresh ht hbullet n
  rcases Option.isSome_iff_exists.1 (hbullet n) with ⟨o, ho⟩
  rcases spawns_step_turret (beats n).input hafter.1 hafter.2 ht ho with ⟨firer, hspawns⟩
  exact ⟨firer, o, ho, hspawns⟩

end Instance

namespace Roster

variable [Planar Rat] (r : Roster Rat) (supply : Supply) (beats : Nat → Beat Rat) (k : Nat)
  (t : Turret Rat)

/-- How a turret fires that stands at a place of a roster. -/
structure KeepsRate : Prop where
  /-- In one step it asks for one copy of its bullet at most. -/
  one : ∀ n, r.shots beats supply k n = [] ∨
    ∃ firer, ∃ o, (beats n).scene.template? t.bullet = some o ∧
      r.shots beats supply k n = [Instance.projectile firer o t.spawnPoint]
  first : r.shots beats supply k 0 ≠ []
  /-- It fires again in the first step in which a period has passed since the last shot. -/
  next : ∀ m n, m < n → r.shots beats supply k m ≠ [] →
    ((r.shots beats supply k n ≠ [] ∧ ∀ l, m < l → l < n → r.shots beats supply k l = []) ↔
      1 / t.fireRate ≤ ∑ l ∈ Finset.Ico (m + 1) (n + 1), (beats l).dt ∧
        ∀ l, m < l → l < n →
          ∑ j ∈ Finset.Ico (m + 1) (l + 1), (beats j).dt < 1 / t.fireRate)
  apart : ∀ m n, m < n → r.shots beats supply k m ≠ [] → r.shots beats supply k n ≠ [] →
    1 / t.fireRate ≤ ∑ l ∈ Finset.Ico (m + 1) (n + 1), (beats l).dt
  count : ∀ n, (((List.range n).flatMap (r.shots beats supply k)).length : Rat) ≤
    1 + (∑ l ∈ Finset.range n, (beats l).dt) * t.fireRate
  /-- What it asks for waits in the roster, with what is asked for at the other places. -/
  waits : ∀ n, (r.after beats supply n).1.spawns.map Instance.anonymous =
    r.spawns.map Instance.anonymous ++ (List.range n).flatMap fun m =>
      (List.range r.live.length).flatMap fun l =>
        (r.shots beats supply l m).map Instance.anonymous

variable {r beats k t} {i : Instance Rat} (hk : r.live[k]? = some i) (hi : i.HasOnly (.turret t))
  (hfresh : i.states.get .turret = some (.turret 0)) (ht : t.automatic = true)
  (hbullet : ∀ n, ((beats n).scene.template? t.bullet).isSome)

include hk hi hfresh ht hbullet

theorem exists_shots_eq (n : Nat) : ∃ firer, ∃ o, (beats n).scene.template? t.bullet = some o ∧
    r.shots beats supply k n = if t.Fires (fun m => (beats m).dt) n then
      [Instance.projectile firer o t.spawnPoint] else [] := by
  rw [shots_eq beats supply hk]
  exact Instance.spawns_beat_after hi (by rwa [Rational.ofNat_eq]) ht hbullet n

theorem shots_eq_nil_iff (n : Nat) :
    r.shots beats supply k n = [] ↔ ¬ t.Fires (fun m => (beats m).dt) n := by
  rcases exists_shots_eq supply hk hi hfresh ht hbullet n with ⟨firer, o, -, hshots⟩
  rw [hshots, ite_eq_right_iff]
  exact forall_congr' fun _ => iff_false_intro (List.cons_ne_nil _ _)

/-- The shots of some steps, counted. -/
theorem length_flatMap_shots (n : Nat) :
    ((List.range n).flatMap (r.shots beats supply k)).length =
      (List.range n).countP (t.Fires (fun m => (beats m).dt) ·) := by
  induction n with
  | zero => rfl
  | succ n ih =>
      rcases exists_shots_eq supply hk hi hfresh ht hbullet n with ⟨firer, o, -, hshots⟩
      rw [List.range_succ, List.flatMap_append, List.length_append, ih, List.countP_append,
        List.flatMap_singleton, List.countP_singleton, hshots, apply_ite List.length]
      simp only [List.length_singleton, List.length_nil, decide_eq_true_eq]

/-- Turrets fire at their rate. -/
theorem turret_keepsRate (hrate : 0 < t.fireRate) (hdt : ∀ n, 0 ≤ (beats n).dt) :
    r.KeepsRate supply beats k t := by
  have hnil := shots_eq_nil_iff supply hk hi hfresh ht hbullet
  have hfires : ∀ n, r.shots beats supply k n ≠ [] ↔ t.Fires (fun m => (beats m).dt) n :=
    fun n => by rw [ne_eq, hnil, not_not]
  constructor
  case one =>
    intro n
    rcases exists_shots_eq supply hk hi hfresh ht hbullet n with ⟨firer, o, ho, hshots⟩
    rw [hshots]
    split
    · exact .inr ⟨firer, o, ho, rfl⟩
    · exact .inl rfl
  case first =>
    rw [hfires, Turret.fires_iff, Turret.cooldown_zero]
    exact hdt 0
  case next =>
    intro m n hmn hm
    simp only [hfires, hnil]
    exact Turret.next_iff ((hfires m).1 hm) hmn
  case apart =>
    intro m n hmn hm hn
    exact Turret.period_le_of_fires hdt ((hfires m).1 hm) ((hfires n).1 hn) hmn
  case count =>
    intro n
    rw [length_flatMap_shots supply hk hi hfresh ht hbullet]
    exact Turret.count_le_rate hrate hdt n
  case waits => exact fun n => anonymous_spawns_after beats r supply n

end Roster

/-- The plane of objects that are not turned. -/
@[reducible]
def Rational.upright : Planar Rat := ⟨id, fun _ => 1, fun _ => 0, fun _ _ => 0⟩

/-- A scene with a gun that fires twice in a second. -/
def Scene.range : Scene Rat :=
  ⟨"range", "Range", [],
    [⟨"gun", "Gun", .zero, ⟨40, 20⟩, 1, 0, .empty, "", true, .empty, [],
      [.facePointer 1 0, .turret ⟨2, "Shell", "muzzle", true⟩], .sprite ⟨none, [], none⟩⟩,
    ⟨"shell", "Shell", .zero, ⟨4, 4⟩, 1, 0, .empty, "", true, .empty, [],
      [.bullet 100 true 5], .sprite ⟨none, [], none⟩⟩], []⟩

theorem Roster.turret_keepsRate_range :
    letI := Rational.upright
    let gun : Turret Rat := ⟨2, "Shell", "muzzle", true⟩
    let beats : Nat → Beat Rat := fun n => ⟨.range, .initial, if n = 0 then 0 else 1 / 3⟩
    ∃ i, (ofScene Scene.range).live[0]? = some i ∧ i.HasOnly (.turret gun) ∧
      i.states.get .turret = some (.turret 0) ∧ gun.automatic = true ∧ 0 < gun.fireRate ∧
      (∀ n, ((beats n).scene.template? gun.bullet).isSome) ∧ (∀ n, 0 ≤ (beats n).dt) ∧
      ∀ supply, (ofScene Scene.range).KeepsRate supply beats 0 gun := by
  let _ : Planar Rat := Rational.upright
  have hbullet : (Scene.range.template? "Shell").isSome := by decide +kernel
  have hdt : ∀ n : Nat, (0 : Rat) ≤ if n = 0 then 0 else 1 / 3 := by
    intro n
    split <;> norm_num
  exact ⟨_, rfl, by decide +kernel, by decide +kernel, rfl, by decide +kernel, fun _ => hbullet,
    hdt, fun supply => turret_keepsRate supply rfl (by decide +kernel) (by decide +kernel) rfl
      (fun _ => hbullet) (by decide +kernel) hdt⟩

end Playfield
