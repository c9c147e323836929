import Mathlib
import Playfield.Proofs.Instance.Overflow
import Playfield.Proofs.Roster.Doomed
import Playfield.Proofs.Session.Follows
import Playfield.Proofs.Session.Load

/-!
# The End of a Tick

What becomes of what has been asked for in a tick.

A tick can be asked for a load, for a change of scene, for destructions and for
new instances, and for all of them at once. It ends in one of three ways, which
exclude each other, and each of them settles all four: what it does not do is not
done later either. So the four are collected (`Session.requests`), and each way
to end is a statement about the session afterwards that names what was asked
for, what is done, and that the rest has no effect. That the rest has no effect
means that the tick would have ended just so with anything else in its place.

A tick comes to no end if an animation of a live instance overflows, and to one of
the three in every other case.

Behaviors ask for destructions and new instances before the events do. What a
tick finds waiting when it begins comes before both; sessions that a host can
reach have nothing waiting then.

## Main definitions

* `Session.requests`: What is asked for by the end of the events of a tick.
* `Session.IsSettled`: Nothing waits.
* `Session.EndsLoaded`, `Session.EndsChanged`, `Session.EndsAdvanced`: The three ways
  in which a tick ends.

## Theorems

* `Session.map_live_begun`, `Session.forall_spawns_begun`: What a tick does before its
  events.
* `Session.overflows_iff`: The instances that overflow are live ones.
* `Session.pendingLoad_passed` and its like: What is asked for is what waits when
  the events have run.
* `Session.conclude_of_loaded`, `Session.conclude_of_changed`,
  `Session.conclude_of_advanced`: What each way to end does.
* `Session.isSettled_conclude`: Nothing waits when a tick has ended.
* `Session.tick_ends_in_one_way`: A tick overflows, or it ends in exactly one of the
  three ways, and nothing waits afterwards.
-/

namespace Playfield

/-- What is asked for in a tick. -/
structure Requests (R : Type) where
  load : Option String
  scene : Option String
  destroys : List String
  spawns : List (Instance R)

namespace Session

variable {R B : Type}

/-- Nothing waits for the end of a tick. -/
structure IsSettled (s : Session R B) : Prop where
  load : s.pendingLoad = none
  scene : s.pendingScene = none
  destroys : s.roster.destroys = []
  spawns : s.roster.spawns = []

/-- The session with another scene, other destructions and other new instances
    asked for. -/
def asking (s : Session R B) (scene : Option String) (destroys : List String)
    (spawns : List (Instance R)) : Session R B :=
  { s with
    pendingScene := scene
    roster := { s.roster with destroys := destroys, spawns := spawns } }

section Conclusions

variable [Scalar R] [Numeral R] {t : Session R B} {slot id : String} {scene : Scene R}

/-- A load that succeeds ends the tick, whatever else is asked for. -/
theorem conclude_of_loaded (dt : R) (hl : t.pendingLoad = some slot)
    (h : (t.load slot).2 = .ok ()) :
    conclude dt t = ((t.load slot).1.rotateInput, .loaded slot) := by
  rcases exists_of_load_ok h with ⟨text, save, scene, hget, hparse, hscene⟩
  have hu : t.unasked.load slot = (t.restore save scene, .ok ()) :=
    load_of_parsed (s := t.unasked) hget hparse hscene
  unfold conclude reconcile
  rw [hl, load_of_parsed hget hparse hscene]
  dsimp only
  rw [show ({ t with pendingLoad := none } : Session R B) = t.unasked from rfl, hu]

theorem reconcile_of_not_loaded
    (h : ∀ slot, t.pendingLoad = some slot → ∃ e, (t.load slot).2 = .error e) :
    t.reconcile = t.unasked.settle := by
  cases hl : t.pendingLoad with
  | none => exact reconcile_of_none hl
  | some slot =>
      rcases h slot hl with ⟨e, he⟩
      exact reconcile_of_error hl he

/-- Without a load a scene that is asked for and that there is is entered, whatever
    else is asked for. -/
theorem conclude_of_changed (dt : R)
    (hl : ∀ slot, t.pendingLoad = some slot → ∃ e, (t.load slot).2 = .error e)
    (hs : t.pendingScene = some id) (hscene : t.project.scene? id = some scene) :
    conclude dt t = ((moveCamera dt (t.activate scene)).rotateInput, .sceneChanged id) := by
  -- What is left to settle is the scene, because no load succeeds.
  have hrest : t.unasked.settle = (t.activate scene, .sceneChanged id) := by
    have hp : t.unasked.pendingScene = some id := hs
    have hq : t.unasked.project.scene? id = some scene := hscene
    unfold settle
    rw [hp]
    dsimp only [Option.bind]
    rw [hq]
    rfl
  unfold conclude
  rw [reconcile_of_not_loaded hl, hrest]

/-- Without a load and a scene the instances that are asked for come and go. -/
theorem conclude_of_advanced (dt : R)
    (hl : ∀ slot, t.pendingLoad = some slot → ∃ e, (t.load slot).2 = .error e)
    (hs : ∀ id, t.pendingScene = some id → t.project.scene? id = none) :
    conclude dt t = ((moveCamera dt { t with
      pendingLoad := none
      pendingScene := none
      roster := t.roster.applyPending }).rotateInput, .advanced) := by
  have hrest : t.unasked.settle = ({ t with
      pendingLoad := none
      pendingScene := none
      roster := t.roster.applyPending }, .advanced) := by
    have hp : t.unasked.pendingScene = t.pendingScene := rfl
    unfold settle
    rw [hp]
    cases hid : t.pendingScene with
    | none => rfl
    | some id =>
        have hq : t.unasked.project.scene? id = none := hs id hid
        dsimp only [Option.bind]
        rw [hq]
        rfl
  unfold conclude
  rw [reconcile_of_not_loaded hl, hrest]

/-- The three cases that a tick can end in, by what waits then. -/
theorem request_cases (t : Session R B) :
    (∃ slot, t.pendingLoad = some slot ∧ (t.load slot).2 = .ok ()) ∨
      (∀ slot, t.pendingLoad = some slot → ∃ e, (t.load slot).2 = .error e) ∧
        ((∃ id scene, t.pendingScene = some id ∧ t.project.scene? id = some scene) ∨
          ∀ id, t.pendingScene = some id → t.project.scene? id = none) := by
  -- A load comes before a scene, and a scene before everything else.
  by_cases hload : ∃ slot, t.pendingLoad = some slot ∧ (t.load slot).2 = .ok ()
  · exact Or.inl hload
  refine Or.inr ⟨?_, ?_⟩
  · intro slot hslot
    cases h : (t.load slot).2 with
    | error e => exact ⟨e, rfl⟩
    | ok u => exact absurd ⟨slot, hslot, h⟩ hload
  · by_cases hchange : ∃ id scene, t.pendingScene = some id ∧ t.project.scene? id = some scene
    · exact Or.inl hchange
    · refine Or.inr fun id hid => ?_
      cases h : t.project.scene? id with
      | none => rfl
      | some scene => exact absurd ⟨id, scene, hid, h⟩ hchange

/-- Whatever has been asked for, nothing waits when a tick has ended. -/
theorem isSettled_conclude (t : Session R B) (dt : R) : (conclude dt t).1.IsSettled := by
  rcases request_cases t with ⟨slot, hl, h⟩ | ⟨hl, ⟨id, scene, hs, hscene⟩ | hs⟩
  · rcases exists_of_load_ok h with ⟨text, save, scene, hget, hparse, hscene⟩
    rw [conclude_of_loaded _ hl h, load_of_parsed hget hparse hscene]
    exact ⟨rfl, rfl, rfl, rfl⟩
  · rw [conclude_of_changed _ hl hs hscene]
    exact ⟨rfl, rfl, rfl, rfl⟩
  · rw [conclude_of_advanced _ hl hs]
    exact ⟨rfl, rfl, rfl, rfl⟩

end Conclusions

variable [Scalar R] [Planar R]

/-- What the behaviors of each instance do in a tick. -/
def steps (s : Session R B) (dt : R) : List (Stepped R) :=
  s.roster.live.map (Instance.step s.scene s.input (elapsedTime dt))

/-- The instances when their behaviors have acted in a tick and their bars are about to be
    set. -/
def stepped (s : Session R B) (dt : R) : Roster R :=
  (s.roster.step s.scene s.input (elapsedTime dt) s.supply).1

variable [Numeral R] [AudioOutput R B]

/-- Behaviors, bars and animations change the instances one after the other, each by itself. -/
theorem map_live_begun (s : Session R B) (dt : R) :
    (s.begun dt).roster.live = s.roster.live.map fun i =>
      ((s.stepped dt).syncBar s.globals
        (i.step s.scene s.input (elapsedTime dt)).subject).animate (elapsedTime dt) := by
  have hlive : (s.begun dt).roster.live = (((s.steps dt).map (·.subject)).map
      ((s.stepped dt).syncBar s.globals)).map (Instance.animate (elapsedTime dt)) := rfl
  rw [hlive, steps]
  simp only [List.map_map]
  rfl

theorem live_begun (s : Session R B) (dt : R) :
    List.Forall₂ Instance.Becomes s.roster.live (s.begun dt).roster.live := by
  rw [map_live_begun, List.forall₂_map_right_iff, List.forall₂_same]
  intro i _
  have hstep := Instance.becomes_step s.scene s.input (elapsedTime dt) i
  exact (hstep.trans (Instance.becomes_syncBar _ _ _)).trans (Instance.becomes_animate _ _)

omit [AudioOutput R B] in
/-- The instances whose animations are moved are the live ones, with cursors and animations
    that have not been touched. -/
theorem exists_moving (s : Session R B) (dt : R) : ∃ f : Instance R → Instance R,
    s.moving dt = s.roster.live.map f ∧ ∀ i : Instance R, i.PlaysOn (f i) := by
  refine ⟨fun i => Roster.syncBar (s.roster.step s.scene s.input dt s.supply).1 s.globals
    (i.step s.scene s.input dt).subject, List.map_map.trans List.map_map, fun i => ?_⟩
  exact (Instance.leaves_step s.scene s.input dt i).subject.trans (Instance.playsOn_syncBar _ _ _)

/-- The instances that overflow in a tick are live ones. -/
theorem overflows_iff [DecidableEq R] {s : Session R B} {dt : R} : s.Overflows dt ↔
    s.closed = false ∧ s.popup = none ∧ ∃ i ∈ s.roster.live, i.Overflows (elapsedTime dt) := by
  obtain ⟨f, hf, hplays⟩ := s.exists_moving (elapsedTime dt)
  rw [overflows_iff_begun?, begun?_eq, hf]
  simp only [ite_eq_right_iff, reduceCtorEq, imp_false, List.all_map, List.all_eq_true,
    Function.comp_apply, not_forall, Bool.not_eq_true, Option.isSome_eq_false_iff,
    Option.isNone_iff_eq_none, Instance.animate?_eq_none_iff, (hplays _).overflows_iff,
    exists_prop]

section Shots

variable {P : Instance R → Prop} {s : Session R B} {dt : R}

omit [Numeral R] [AudioOutput R B] in
/-- What behaviors ask for are projectiles of templates of the scene, under ids of their own. -/
theorem forall_shots (hname : ∀ i suffix, P i → P (i.named suffix))
    (hshot : ∀ name template firer point, s.scene.template? name = some template →
      P (Instance.projectile firer template point)) :
    ∀ i ∈ (s.supply.nameAll ((s.steps dt).flatMap (·.spawns))).1, P i := by
  refine s.supply.forall_nameAll hname fun i hi => ?_
  rcases List.mem_flatMap.1 hi with ⟨u, hu, hiu⟩
  rcases List.mem_map.1 hu with ⟨j, _, rfl⟩
  rcases Instance.exists_projectile_of_mem_spawns _ _ _ hiu with
    ⟨name, template, firer, point, ht, rfl⟩
  exact hshot name template firer point ht

/-- So nothing else waits when the events begin, apart from what has waited before. -/
theorem forall_spawns_begun (hname : ∀ i suffix, P i → P (i.named suffix))
    (hshot : ∀ name template firer point, s.scene.template? name = some template →
      P (Instance.projectile firer template point))
    (h : ∀ i ∈ s.roster.spawns, P i) : ∀ i ∈ (s.begun dt).roster.spawns, P i :=
  List.forall_mem_append.2 ⟨h, forall_shots hname hshot⟩

end Shots

variable [DecidableEq R]

/-- What is asked for by the end of the events of a tick: the last load and the last
    scene, and all destructions and new instances, those of behaviors first. -/
def requests (s : Session R B) (dt : R) : Requests R :=
  let deeds := (s.begun dt).deeds (elapsedTime dt)
  { load := (deeds.filterMap Deed.load?).getLast?.or s.pendingLoad
    scene := (deeds.filterMap Deed.scene?).getLast?.or s.pendingScene
    destroys := s.roster.destroys ++ (s.steps dt).flatMap (·.destroys) ++
      deeds.flatMap Deed.destroys
    spawns := s.roster.spawns ++ (s.supply.nameAll ((s.steps dt).flatMap (·.spawns))).1 ++
      deeds.flatMap Deed.spawns }

section Requests

variable (s : Session R B) (dt : R)

theorem pendingLoad_passed : (s.passed dt).pendingLoad = (s.requests dt).load :=
  (follows_runEvents (s.begun dt) (elapsedTime dt)).pendingLoad

theorem pendingScene_passed : (s.passed dt).pendingScene = (s.requests dt).scene :=
  (follows_runEvents (s.begun dt) (elapsedTime dt)).pendingScene

theorem destroys_passed : (s.passed dt).roster.destroys = (s.requests dt).destroys :=
  (follows_runEvents (s.begun dt) (elapsedTime dt)).destroys

theorem spawns_passed : (s.passed dt).roster.spawns = (s.requests dt).spawns :=
  (follows_runEvents (s.begun dt) (elapsedTime dt)).spawns

/-- The instances of a tick are those of the tick before, changed. -/
theorem live_passed : List.Forall₂ Instance.Becomes s.roster.live (s.passed dt).roster.live :=
  Instance.forall₂_becomes_trans (live_begun s dt)
    (follows_runEvents (s.begun dt) (elapsedTime dt)).live

theorem project_passed : (s.passed dt).project = s.project :=
  (follows_runEvents (s.begun dt) (elapsedTime dt)).keeps.project

theorem config_passed : (s.passed dt).config = s.config :=
  (follows_runEvents (s.begun dt) (elapsedTime dt)).keeps.config

end Requests

section Ends

variable {s : Session R B} {dt : R} {slot : String}

/-- A tick that ends with a save loaded. What else is asked for has no effect. -/
structure EndsLoaded (s : Session R B) (dt : R) (slot : String) : Prop where
  asked : (s.requests dt).load = some slot
  loads : ((s.passed dt).load slot).2 = .ok ()
  outcome : (s.tick dt).2 = .loaded slot
  live : ∃ text, ∃ save : SaveState R,
    (s.passed dt).slots.get (s.slotKey slot) = .ok (some text) ∧
      SaveState.codec.parse text = .ok save ∧
      (s.tick dt).1.roster.live = save.instances.map (·.ensureStates)
  unaffected : ∀ scene destroys spawns,
    conclude (elapsedTime dt) ((s.passed dt).asking scene destroys spawns) = s.tick dt

/-- A tick that ends in another scene. Destructions and new instances that are asked
    for have no effect. The view is a fresh one; only one that is not on a place
    counts as moving. -/
structure EndsChanged (s : Session R B) (dt : R) (id : String) : Prop where
  notLoaded : ∀ slot, (s.requests dt).load = some slot → ∃ e, ((s.passed dt).load slot).2 = .error e
  asked : (s.requests dt).scene = some id
  outcome : (s.tick dt).2 = .sceneChanged id
  scene : s.project.scene? id = some (s.tick dt).1.scene
  live : (s.tick dt).1.roster.live = (s.tick dt).1.scene.objects.map Instance.ofTemplate
  view : (s.tick dt).1.camera.view = { View.centered s.config.viewport.half with
    isMoving := !(Scalar.isNumber s.config.viewport.half.x &&
      Scalar.isNumber s.config.viewport.half.y) }
  shake : (s.tick dt).1.camera.shake = ⟨0, 0⟩
  offset : (s.tick dt).1.camera.offset = .zero
  memory : (s.tick dt).1.memory = .fresh (s.tick dt).1.clock
  globals : (s.tick dt).1.globals = (s.passed dt).globals
  timers : (s.tick dt).1.timers = (s.passed dt).timers
  unaffected : ∀ destroys spawns, conclude (elapsedTime dt)
    ((s.passed dt).asking (s.passed dt).pendingScene destroys spawns) = s.tick dt

/-- A tick that goes on in its scene. The instances are those from before, each of
    them changed in the tick, without the destroyed ones, and then the new ones. -/
structure EndsAdvanced (s : Session R B) (dt : R) : Prop where
  notLoaded : ∀ slot, (s.requests dt).load = some slot → ∃ e, ((s.passed dt).load slot).2 = .error e
  notChanged : ∀ id, (s.requests dt).scene = some id → s.project.scene? id = none
  outcome : (s.tick dt).2 = .advanced
  changed : List.Forall₂ Instance.Becomes s.roster.live (s.passed dt).roster.live
  live : (s.tick dt).1.roster.live =
    (s.passed dt).roster.live.filter (fun i => !(s.requests dt).destroys.contains i.id) ++
      (s.requests dt).spawns

/-- What a tick has done, by its outcome. -/
def Ends (s : Session R B) (dt : R) : Outcome → Prop
  | .loaded slot => s.EndsLoaded dt slot
  | .sceneChanged id => s.EndsChanged dt id
  | .advanced => s.EndsAdvanced dt
  | .paused | .closed | .overflowed => False

theorem Ends.outcome {o : Outcome} (h : s.Ends dt o) : (s.tick dt).2 = o := by
  cases o with
  | loaded slot => exact EndsLoaded.outcome h
  | sceneChanged id => exact EndsChanged.outcome h
  | advanced => exact EndsAdvanced.outcome h
  | paused => exact h.elim
  | closed => exact h.elim
  | overflowed => exact h.elim

theorem endsLoaded (ht : s.tick dt = conclude (elapsedTime dt) (s.passed dt))
    (hl : (s.requests dt).load = some slot) (h : ((s.passed dt).load slot).2 = .ok ()) :
    s.EndsLoaded dt slot := by
  have hp : (s.passed dt).pendingLoad = some slot := (pendingLoad_passed s dt).trans hl
  rcases exists_of_load_ok h with ⟨text, save, scene, hget, hparse, hscene⟩
  have hload := load_of_parsed hget hparse hscene
  have htick : s.tick dt = (((s.passed dt).restore save scene).rotateInput, .loaded slot) := by
    rw [ht, conclude_of_loaded _ hp h, hload]
  -- Events do not change the prefix of the slots.
  have hkey : (s.passed dt).slotKey slot = s.slotKey slot := by
    rw [slotKey, config_passed, slotKey]
  refine ⟨hl, h, ?_, ⟨text, save, ?_, hparse, ?_⟩, ?_⟩
  · rw [htick]
  · rw [← hkey]
    exact hget
  · rw [htick]
    rfl
  · intro p destroys spawns
    -- A load does not read what else is asked for, and overwrites it.
    have hload' : ((s.passed dt).asking p destroys spawns).load slot =
        ((s.passed dt).restore save scene, .ok ()) :=
      load_of_parsed (s := (s.passed dt).asking p destroys spawns) hget hparse hscene
    have hok : (((s.passed dt).asking p destroys spawns).load slot).2 = .ok () := by rw [hload']
    rw [htick, conclude_of_loaded _ (t := (s.passed dt).asking p destroys spawns) hp hok, hload']

theorem endsAdvanced (ht : s.tick dt = conclude (elapsedTime dt) (s.passed dt))
    (hl : ∀ slot, (s.requests dt).load = some slot → ∃ e, ((s.passed dt).load slot).2 = .error e)
    (hs : ∀ id, (s.requests dt).scene = some id → s.project.scene? id = none) :
    s.EndsAdvanced dt := by
  have hl' : ∀ slot, (s.passed dt).pendingLoad = some slot →
      ∃ e, ((s.passed dt).load slot).2 = .error e := by
    rw [pendingLoad_passed]
    exact hl
  have hs' : ∀ id, (s.passed dt).pendingScene = some id →
      (s.passed dt).project.scene? id = none := by
    rw [pendingScene_passed, project_passed]
    exact hs
  have htick := ht.trans (conclude_of_advanced (elapsedTime dt) hl' hs')
  refine ⟨hl, hs, ?_, live_passed s dt, ?_⟩
  · rw [htick]
  · rw [htick, ← destroys_passed, ← spawns_passed, ← Roster.survivors_eq]
    rfl

end Ends

end Session

theorem Scalar.same_self {R : Type} [Scalar R] (x : R) : Scalar.same x x = Scalar.isNumber x := by
  simp only [Scalar.same, Scalar.isNumber, Bool.and_self]

/-- A view that has just been put on a place and that nothing moves stays there. Only a
    place that is none counts as moving. -/
theorem Camera.update_reset {R : Type} [Scalar R] (hzero : decide ((0 : R) < 0) = false)
    (c : Camera R) (center : Point R) (dt : R) (viewport : Size R) (smoothing : R)
    (centerOf : String → Option (Point R)) :
    (c.reset center).update dt viewport smoothing centerOf =
      { c.reset center with view := { View.centered center with
          isMoving := !(Scalar.isNumber center.x && Scalar.isNumber center.y) } } := by
  have hstill : (c.reset center).isShaking = false := hzero
  have hmove : (c.reset center).move dt smoothing centerOf = c.reset center := rfl
  have hbounds : (c.reset center).applyBounds viewport = c.reset center := rfl
  have hmoving : (c.reset center).refreshMoving =
      { c.reset center with view := { View.centered center with
          isMoving := !(Scalar.isNumber center.x && Scalar.isNumber center.y) } } := by
    simp only [Camera.refreshMoving, hstill]
    simp only [Camera.reset, View.centered, Scalar.same_self, Option.isSome_none, Bool.or_false,
      Bool.false_or, Bool.not_and]
  unfold Camera.update
  rw [hmove, hbounds, hmoving]
  unfold Camera.advanceShake
  rw [if_neg]
  · rfl
  · exact ne_true_of_eq_false hstill

namespace Session

variable {B : Type} [AudioOutput Float B] {s : Session Float B} {dt : Float} {id : String}
  {scene : Scene Float}

theorem endsChanged (ht : s.tick dt = conclude (elapsedTime dt) (s.passed dt))
    (hl : ∀ slot, (s.requests dt).load = some slot → ∃ e, ((s.passed dt).load slot).2 = .error e)
    (hs : (s.requests dt).scene = some id) (hscene : s.project.scene? id = some scene) :
    s.EndsChanged dt id := by
  have hl' : ∀ slot, (s.passed dt).pendingLoad = some slot →
      ∃ e, ((s.passed dt).load slot).2 = .error e := by
    rw [pendingLoad_passed]
    exact hl
  have hs' : (s.passed dt).pendingScene = some id := (pendingScene_passed s dt).trans hs
  have hscene' : (s.passed dt).project.scene? id = some scene := by rwa [project_passed]
  have htick := ht.trans (conclude_of_changed (elapsedTime dt) hl' hs' hscene')
  -- The view is reset when the scene is entered, and moved once at the end of the tick.
  have hcamera : (s.tick dt).1.camera = ((s.passed dt).camera.reset s.config.viewport.half).update
      (elapsedTime dt) s.config.viewport s.config.smoothing
      (fun id => (((s.passed dt).activate scene).roster.get? id).map (·.center)) := by
    rw [htick, ← config_passed s dt]
    rfl
  rw [Camera.update_reset (by decide)] at hcamera
  refine ⟨hl, hs, ?_, ?_, ?_, ?_, ?_, ?_, ?_, ?_, ?_, ?_⟩
  · rw [htick]
  · rw [htick]
    exact hscene
  · rw [htick]
    rfl
  · rw [hcamera]
  · rw [hcamera]
    rfl
  · rw [hcamera]
    rfl
  · rw [htick]
    rfl
  · rw [htick]
    rfl
  · rw [htick]
    rfl
  · intro destroys spawns
    -- Whether a load fails does not depend on what else is asked for.
    have hl'' : ∀ slot, ((s.passed dt).asking (s.passed dt).pendingScene destroys
        spawns).pendingLoad = some slot → ∃ e, (((s.passed dt).asking (s.passed dt).pendingScene
          destroys spawns).load slot).2 = .error e := by
      intro slot hslot
      rcases hl' slot hslot with ⟨e, he⟩
      exact ⟨e, (load_snd_congr (s.passed dt)
        ((s.passed dt).asking (s.passed dt).pendingScene destroys spawns) rfl rfl).trans he⟩
    rw [conclude_of_changed _ hl'' hs' hscene', htick]
    rfl

/-- A tick of an open session without a message comes to no end if a live instance overflows.
    If none does, it ends in exactly one of three ways, and nothing waits afterwards. -/
theorem tick_ends_in_one_way (s : Session Float B) (dt : Float) (hc : s.closed = false)
    (hp : s.popup = none) :
    ((s.tick dt).2 = .overflowed ↔ ∃ i ∈ s.roster.live, i.Overflows (elapsedTime dt)) ∧
      ((s.tick dt).2 ≠ .overflowed → (∃! o, s.Ends dt o) ∧ (s.tick dt).1.IsSettled) := by
  refine ⟨overflows_iff.trans (by simp only [hc, hp, true_and]), fun hover => ?_⟩
  have ht := tick_eq_conclude (idles_eq_false_iff.2 ⟨hc, hp, hover⟩)
  -- The outcome tells which way it was, so there is only one.
  have hends : s.Ends dt (s.tick dt).2 := by
    have hcases := request_cases (s.passed dt)
    rw [pendingLoad_passed, pendingScene_passed, project_passed] at hcases
    rcases hcases with ⟨slot, hl, h⟩ | ⟨hl, ⟨id, scene, hs, hscene⟩ | hs⟩
    · have hend := endsLoaded ht hl h
      rwa [hend.outcome]
    · have hend := endsChanged ht hl hs hscene
      rwa [hend.outcome]
    · have hend := endsAdvanced ht hl hs
      rwa [hend.outcome]
  refine ⟨⟨(s.tick dt).2, hends, fun o ho => ho.outcome.symm⟩, ?_⟩
  rw [ht]
  exact isSettled_conclude _ _

theorem tick_ends_in_one_way_of_both :
    let s : Session Float (SilentOutput Float) :=
      .ofActions [⟨"1", .load "a"⟩, ⟨"2", .changeScene "main"⟩]
    (s.tick 0).2 = .sceneChanged "main" ∧ (∃! o, s.Ends 0 o) ∧ (s.tick 0).1.IsSettled :=
  ⟨by rfl, (tick_ends_in_one_way (.ofActions [⟨"1", .load "a"⟩, ⟨"2", .changeScene "main"⟩]) 0
    rfl rfl).2 nofun⟩

end Session

end Playfield
