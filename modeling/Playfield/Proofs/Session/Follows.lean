import Mathlib
import Playfield.Proofs.Instance.Equipped
import Playfield.Proofs.Session.Deeds
import Playfield.Proofs.Session.Slots

/-!
# What Actions Do

What an action can do to a session, as far as requests, instances and slots go.

Every action is looked at once, here, and what it does is written down as the
relation `Session.Follows` between the session before, the list of deeds, and the
session after. The relation composes, so what one action does and what all
events of a tick do is the same statement. Later proofs read off its fields and
do not look at actions again.

Most actions ask for nothing (`Deed.IsQuiet`) and leave alone what the relation is
about (`Session.Untouched`), or change one instance.

## Main definitions

* `Session.Follows`: What deeds make of a session.
* `Session.Untouched`: Nothing of that has changed.
* `Deed.IsQuiet`: A deed that asks for nothing.

## Theorems

* `Session.follows_perform`: What an action does.
* `Session.follows_runEvents`: What the events of a tick do.
-/

namespace Playfield

/-- A deed that asks for nothing. -/
structure Deed.IsQuiet {R B : Type} [Scalar R] [Numeral R] [Planar R] [DecidableEq R]
    (d : Deed R B) : Prop where
  writes : d.writes = []
  spawns : d.spawns = []
  destroys : d.destroys = []
  scene : d.scene? = none
  load : d.load? = none

namespace Session

variable {R B : Type}

/-- What requests, instances and slots are made of is the same. -/
structure Untouched (s t : Session R B) : Prop where
  project : t.project = s.project
  config : t.config = s.config
  scene : t.scene = s.scene
  clock : t.clock = s.clock
  camera : t.camera = s.camera
  roster : t.roster = s.roster
  pendingScene : t.pendingScene = s.pendingScene
  pendingLoad : t.pendingLoad = s.pendingLoad
  slots : t.slots = s.slots

theorem untouched_request (kind : AssetKind) (source : String) (s : Session R B) :
    Untouched s (s.request kind source) :=
  ⟨rfl, rfl, rfl, rfl, rfl, rfl, rfl, rfl, rfl⟩

theorem untouched_withPicture (s : Session R B) (source : String) (i : Instance R) :
    Untouched s (s.withPicture source i).1 := by
  unfold withPicture
  split
  · exact ⟨rfl, rfl, rfl, rfl, rfl, rfl, rfl, rfl, rfl⟩
  · split
    · exact ⟨rfl, rfl, rfl, rfl, rfl, rfl, rfl, rfl, rfl⟩
    · exact untouched_request _ _ s

theorem supply_withPicture (s : Session R B) (source : String) (i : Instance R) :
    (s.withPicture source i).1.supply = s.supply := by
  unfold withPicture
  split
  · rfl
  · split <;> rfl

variable [Scalar R] [Numeral R]

theorem untouched_changeGlobal (s : Session R B) (name : String) (op : Arithmetic)
    (value : Value R) : Untouched s (s.changeGlobal name op value) := by
  unfold changeGlobal
  split <;> exact ⟨rfl, rfl, rfl, rfl, rfl, rfl, rfl, rfl, rfl⟩

variable [Planar R] [DecidableEq R]
  {s t u : Session R B} {ds : List (Deed R B)} {d : Deed R B}

/-- What deeds make of a session, as far as requests, instances and slots go. -/
structure Follows (s : Session R B) (ds : List (Deed R B)) (t : Session R B) : Prop where
  keeps : Keeps s (ds.flatMap Deed.writes) t
  scene : t.scene = s.scene
  clock : t.clock = s.clock
  camera : (∀ d ∈ ds, d.camera? = none) → t.camera = s.camera
  live : List.Forall₂ Instance.Becomes s.roster.live t.roster.live
  spawns : t.roster.spawns = s.roster.spawns ++ ds.flatMap Deed.spawns
  destroys : t.roster.destroys = s.roster.destroys ++ ds.flatMap Deed.destroys
  pendingScene : t.pendingScene = (ds.filterMap Deed.scene?).getLast?.or s.pendingScene
  pendingLoad : t.pendingLoad = (ds.filterMap Deed.load?).getLast?.or s.pendingLoad

theorem account_follows : Account (Follows (R := R) (B := B)) where
  nothing := by
    intro s
    refine ⟨keeps_of_eq _ rfl rfl rfl, rfl, rfl, fun _ => rfl, ?_, by simp, by simp, by simp,
      by simp⟩
    exact List.forall₂_same.2 fun i _ => Instance.Becomes.refl i
  append := by
    intro s t u l m h h'
    refine ⟨?_, h'.scene.trans h.scene, h'.clock.trans h.clock, ?_, ?_, ?_, ?_, ?_, ?_⟩
    · rw [List.flatMap_append]
      exact h.keeps.append h'.keeps
    · intro hquiet
      rw [List.forall_mem_append] at hquiet
      exact (h'.camera hquiet.2).trans (h.camera hquiet.1)
    · exact Instance.forall₂_becomes_trans h.live h'.live
    · rw [h'.spawns, h.spawns, List.flatMap_append, List.append_assoc]
    · rw [h'.destroys, h.destroys, List.flatMap_append, List.append_assoc]
    · rw [h'.pendingScene, h.pendingScene, List.filterMap_append, List.getLast?_append,
        Option.or_assoc]
    · rw [h'.pendingLoad, h.pendingLoad, List.filterMap_append, List.getLast?_append,
        Option.or_assoc]

theorem Untouched.follows (h : Untouched s t) : Follows s [] t := by
  have hnil := account_follows.nothing s
  refine ⟨keeps_of_eq _ h.project h.config h.slots, h.scene, h.clock, fun _ => h.camera, ?_, ?_, ?_,
    ?_, ?_⟩
  · rw [h.roster]
    exact hnil.live
  · rw [h.roster]
    exact hnil.spawns
  · rw [h.roster]
    exact hnil.destroys
  · rw [h.pendingScene]
    exact hnil.pendingScene
  · rw [h.pendingLoad]
    exact hnil.pendingLoad

theorem Follows.untouched (h : Follows s ds t) (hf : Untouched t u) : Follows s ds u := by
  -- Nothing is a list of deeds, too.
  have ha := account_follows.append h hf.follows
  rwa [List.append_nil] at ha

theorem Follows.quiet (h : Follows s [] t) (hd : d.IsQuiet) : Follows s [d] t := by
  refine ⟨?_, h.scene, h.clock, fun _ => h.camera (by simp), h.live, ?_, ?_, ?_, ?_⟩
  · rw [List.flatMap_singleton, hd.writes]
    exact h.keeps
  · rw [h.spawns, List.flatMap_singleton, hd.spawns, List.flatMap_nil]
  · rw [h.destroys, List.flatMap_singleton, hd.destroys, List.flatMap_nil]
  · rw [h.pendingScene, List.filterMap_cons_none hd.scene]
  · rw [h.pendingLoad, List.filterMap_cons_none hd.load]

theorem Untouched.quiet (h : Untouched s t) (hd : d.IsQuiet) : Follows s [d] t := h.follows.quiet hd

theorem follows_change? {id : String} {dt : R} {order : Order R}
    (h : s.change? id dt order = some t) : Follows s [] t := by
  simp only [change?, Option.map_eq_some_iff, Option.bind_eq_some_iff] at h
  -- One instance has become another, and the others have stayed what they are.
  rcases h with ⟨j, ⟨i, hi, hj⟩, rfl⟩
  have hnil := account_follows.nothing s
  refine ⟨keeps_of_eq _ rfl rfl rfl, rfl, rfl, fun _ => rfl, ?_, hnil.spawns, hnil.destroys,
    hnil.pendingScene, hnil.pendingLoad⟩
  exact Roster.forall₂_modifyFirst Instance.Becomes.refl s.roster.live hi
    (Order.becomes_of_result? hj)

theorem follows_change (s : Session R B) (id : String) (dt : R) (order : Order R) :
    Follows s [] (s.change id dt order) := by
  unfold change
  cases h : s.change? id dt order with
  | none => exact account_follows.nothing s
  | some t => exact follows_change? h

theorem follows_setPicture (s : Session R B) (id : String) (dt : R) (source : String) :
    Follows s [] (s.setPicture id dt source) := by
  unfold setPicture
  split
  · next t h => exact (follows_change? h).untouched (untouched_request _ _ t)
  · exact account_follows.nothing s

/-- A deed that makes a new instance and asks for nothing else. The session may
    have changed elsewhere before the instance is noted. -/
theorem follows_spawn (d : Deed R B) {i : Instance R} (hf : Untouched d.session s)
    (hsupply : s.supply = d.session.supply) (hnew : d.newcomer? = some i)
    (hdestroys : d.destroys = []) (hscene : d.scene? = none) (hload : d.load? = none) :
    Follows d.session [d] (s.spawn i) := by
  have hs := hf.follows
  refine ⟨keeps_of_eq _ hf.project hf.config hf.slots, hs.scene, hs.clock, fun _ => hf.camera,
    hs.live, ?_, ?_, ?_, ?_⟩
  · have hd : d.spawns = [(d.session.supply.name i).1] := by
      rw [Deed.spawns, hnew]
      rfl
    rw [List.flatMap_singleton, hd, ← hsupply, ← hf.roster]
    rfl
  · rw [List.flatMap_singleton, hdestroys]
    exact hs.destroys
  · rw [List.filterMap_cons_none hscene]
    exact hs.pendingScene
  · rw [List.filterMap_cons_none hload]
    exact hs.pendingLoad

theorem follows_destroy (s : Session R B) (binding : Option Binding) (a target : String) :
    Follows s [⟨s, binding, ⟨a, .object target .destroy⟩⟩]
      (s.destroy (Binding.resolve binding target)) := by
  have hnil := account_follows.nothing s
  unfold destroy
  cases h : (s.roster.get? (Binding.resolve binding target)).isSome with
  | false =>
      rw [if_neg (by simp)]
      exact hnil.quiet ⟨rfl, rfl, by simp [Deed.destroys, h], rfl, rfl⟩
  | true =>
      rw [if_pos rfl]
      refine ⟨keeps_of_eq _ rfl rfl rfl, rfl, rfl, fun _ => rfl, hnil.live, hnil.spawns, ?_,
        hnil.pendingScene, hnil.pendingLoad⟩
      simp [Deed.destroys, h, Roster.queueDestroy]

theorem follows_affect (s : Session R B) (binding : Option Binding) (dt : R) (a target : String)
    (e : Effect R) :
    Follows s [⟨s, binding, ⟨a, .object target e⟩⟩]
      (s.affect binding dt (Binding.resolve binding target) e) := by
  have hnil := account_follows.nothing s
  cases e
  case destroy => exact follows_destroy s binding a target
  case setSprite source => exact (follows_setPicture s _ dt source).quiet ⟨rfl, rfl, rfl, rfl, rfl⟩
  case fire bullet point =>
    simp only [affect, fire]
    cases h : s.shot? (Binding.resolve binding target) bullet point with
    | none => exact hnil.quiet ⟨rfl, by simp [Deed.spawns, Deed.newcomer?, h], rfl, rfl, rfl⟩
    | some i =>
        exact follows_spawn ⟨s, binding, ⟨a, .object target (.fire bullet point)⟩⟩
          ⟨rfl, rfl, rfl, rfl, rfl, rfl, rfl, rfl, rfl⟩ rfl h rfl rfl rfl
  -- The other effects change one instance, or nothing.
  all_goals
    simp only [affect]
    split
    · exact (follows_change s _ dt _).quiet ⟨rfl, rfl, rfl, rfl, rfl⟩
    · exact hnil.quiet ⟨rfl, rfl, rfl, rfl, rfl⟩

theorem follows_create (s : Session R B) (binding : Option Binding) (a : String)
    (c : Creation R) :
    Follows s [⟨s, binding, ⟨a, .create c⟩⟩] (s.create binding c) := by
  unfold create
  cases h : s.creature? binding c with
  | none =>
      exact (account_follows.nothing s).quiet
        ⟨rfl, by simp [Deed.spawns, Deed.newcomer?, h], rfl, rfl, rfl⟩
  | some i =>
      have hnew : Deed.newcomer? ⟨s, binding, ⟨a, .create c⟩⟩ =
          some (s.withPicture c.sprite i).2 := by
        simp only [Deed.newcomer?, h, Option.map_some]
      exact follows_spawn _ (untouched_withPicture s c.sprite i) (supply_withPicture s c.sprite i)
        hnew rfl rfl rfl

theorem follows_save (s : Session R B) (binding : Option Binding) (a slot : String) :
    Follows s [⟨s, binding, ⟨a, .save slot⟩⟩] (s.save slot).1 := by
  have hnil := account_follows.nothing s
  -- The slot is the one thing that changes, apart from the supply.
  have hkeeps := keeps_save s slot
  rcases exists_save s slot with ⟨store, hstore⟩
  rw [hstore] at hkeeps ⊢
  refine ⟨?_, rfl, rfl, fun _ => rfl, hnil.live, hnil.spawns, hnil.destroys, hnil.pendingScene,
    hnil.pendingLoad⟩
  rw [List.flatMap_singleton, Deed.writes_save]
  exact hkeeps

theorem follows_clearSave (s : Session R B) (binding : Option Binding) (a slot : String) :
    Follows s [⟨s, binding, ⟨a, .clearSave slot⟩⟩] (s.clearSave slot).1 := by
  have hnil := account_follows.nothing s
  have hkeeps := keeps_clearSave s slot
  rcases exists_clearSave s slot with ⟨store, hstore⟩
  rw [hstore] at hkeeps ⊢
  exact ⟨hkeeps, rfl, rfl, fun _ => rfl, hnil.live, hnil.spawns, hnil.destroys, hnil.pendingScene,
    hnil.pendingLoad⟩

variable [AudioOutput R B]

/-- What an action does. -/
theorem follows_perform (s : Session R B) (binding : Option Binding) (dt : R) (a : Action R) :
    Follows s [⟨s, binding, a⟩] (perform binding dt s a) := by
  have hnil := account_follows.nothing s
  rcases a with ⟨id, kind⟩
  cases kind <;> simp only [perform]
  case object target e => exact follows_affect s binding dt id target e
  case create c => exact follows_create s binding id c
  case changeGlobal name op value =>
    exact (untouched_changeGlobal s name op value).quiet ⟨rfl, rfl, rfl, rfl, rfl⟩
  case camera c =>
    refine ⟨keeps_of_eq _ rfl rfl rfl, rfl, rfl, ?_, hnil.live, hnil.spawns, hnil.destroys,
      hnil.pendingScene, hnil.pendingLoad⟩
    intro hquiet
    exact absurd (hquiet _ (List.mem_singleton_self _)) (by simp [Deed.camera?])
  case changeScene scene =>
    exact ⟨keeps_of_eq _ rfl rfl rfl, rfl, rfl, fun _ => rfl, hnil.live, hnil.spawns, hnil.destroys,
      rfl, hnil.pendingLoad⟩
  case load slot =>
    exact ⟨keeps_of_eq _ rfl rfl rfl, rfl, rfl, fun _ => rfl, hnil.live, hnil.spawns, hnil.destroys,
      hnil.pendingScene, rfl⟩
  case save slot => exact follows_save s binding id slot
  case clearSave slot => exact follows_clearSave s binding id slot
  -- What is left is sound, global variables, messages and timers.
  all_goals
    exact Untouched.quiet ⟨rfl, rfl, rfl, rfl, rfl, rfl, rfl, rfl, rfl⟩ ⟨rfl, rfl, rfl, rfl, rfl⟩

/-- What the events of a tick do. -/
theorem follows_runEvents (s : Session R B) (dt : R) : Follows s (s.deeds dt) (runEvents dt s) :=
  runEvents_account account_follows
    (fun _ _ => Untouched.follows ⟨rfl, rfl, rfl, rfl, rfl, rfl, rfl, rfl, rfl⟩)
    (fun t binding a => follows_perform t binding dt a) s

end Session

end Playfield
