import Mathlib
import Playfield.Proofs.Instance.Matched
import Playfield.Proofs.Session.Pictures

/-!
# What Instances Have Come From

The templates and the saved objects that the live instances of a session are copies of.

An instance does not know what it is a copy of: it has a name, but names need not be
unique, and a save may come from another project. So what instances have come from is
written down beside the session, in the order of the live instances
(`Session.sources`). A scene that is entered brings its objects, a load those of the
save, and a tick that goes on drops what it destroys and adds the templates of what it
has spawned.

However long it lives, an instance has the behaviors of what it has come from. And it
remembers just what these need, so none of them ever finds nothing to work on
(`Session.run_matched`).

## Main definitions

* `Instance.StemsFrom`: An instance has come from an object.
* `Session.sources`: What live instances have come from.
* `Session.IsMatched`: Instances have the behaviors of what they have come from, and
  remember what these need.

## Theorems

* `Session.stems_tick`, `Session.stems_call`: Calls keep account of what there is.
* `Session.stems_run`: So live instances stem from their sources.
* `Session.run_matched`: At any time all instances are matched, and none of their
  behaviors finds nothing to work on.
-/

namespace Playfield

/-- An instance has the name and the behaviors of an object that it has come from. -/
structure Instance.StemsFrom {R : Type} (i : Instance R) (o : Object R) : Prop where
  name : i.name = o.name
  behaviors : i.object.behaviors = o.behaviors

theorem Instance.IsFreshCopy.exists_stemsFrom {R : Type} [Scalar R] {scene : Scene R}
    {i : Instance R} (h : i.IsFreshCopy scene) :
    ∃ o, scene.template? i.name = some o ∧ i.StemsFrom o := by
  rcases h with ⟨o, ho, hi⟩
  have hname := List.find?_some ho
  rw [beq_iff_eq] at hname
  exact ⟨o, ho, hname.symm, hi.behaviors⟩

section Lists

variable {R : Type} {os : List (Object R)} {is js : List (Instance R)}

theorem Instance.stems_ofTemplate [Scalar R] (os : List (Object R)) :
    List.Forall₂ StemsFrom (os.map ofTemplate) os := by
  rw [List.forall₂_map_left_iff, List.forall₂_same]
  exact fun o _ => ⟨rfl, rfl⟩

theorem Instance.stems_becomes (h : List.Forall₂ StemsFrom is os)
    (hij : List.Forall₂ Becomes is js) : List.Forall₂ StemsFrom js os := by
  induction h generalizing js with
  | nil =>
      cases hij
      exact List.Forall₂.nil
  | cons hi _ ih =>
      rcases hij with _ | ⟨hij, hrest⟩
      exact List.Forall₂.cons ⟨hij.name.trans hi.name, hij.behaviors.trans hi.behaviors⟩ (ih hrest)

/-- What goes takes along what it has come from. -/
theorem Instance.stems_filter (p : Instance R → Bool) (h : List.Forall₂ StemsFrom is os) :
    List.Forall₂ StemsFrom (is.filter p) (((is.zip os).filter fun e => p e.1).map (·.2)) := by
  induction h with
  | nil => exact List.Forall₂.nil
  | @cons i o _ _ hi _ ih =>
      rw [List.zip_cons_cons, List.filter_cons, List.filter_cons]
      dsimp only
      split
      · exact List.Forall₂.cons hi ih
      · exact ih

/-- What comes has a template. -/
theorem Instance.stems_filterMap {f : Instance R → Option (Object R)}
    (h : ∀ i ∈ is, ∃ o, f i = some o ∧ i.StemsFrom o) :
    List.Forall₂ StemsFrom is (is.filterMap f) := by
  induction is with
  | nil => exact List.Forall₂.nil
  | cons i is ih =>
      rw [List.forall_mem_cons] at h
      rcases h.1 with ⟨o, ho, hi⟩
      rw [List.filterMap_cons_some ho]
      exact List.Forall₂.cons hi (ih h.2)

end Lists

namespace Session

variable {R B : Type} [Scalar R] [Numeral R] {s t : Session R B} {P : Instance R → Prop}

/-- Live instances have the behaviors of what they have come from, and what waits those of
    its template in the active scene. All of them remember what these need. -/
structure IsMatched (sources : List (Object R)) (s : Session R B) : Prop where
  states : ∀ i ∈ s.roster.live ++ s.roster.spawns, i.IsMatched
  live : List.Forall₂ Instance.StemsFrom s.roster.live sources
  spawns : ∀ i ∈ s.roster.spawns, ∃ o, s.scene.template? i.name = some o ∧ i.StemsFrom o

theorem isMatched_of_upholds {l : List (Object R)} (h : s.Upholds Instance.IsMatched)
    (hl : List.Forall₂ Instance.StemsFrom s.roster.live l) : s.IsMatched l where
  states := List.forall_mem_append.2
    ⟨h.live, fun i hi => Instance.lasting_isMatched.of_isFreshCopy (h.spawns i hi)⟩
  live := hl
  spawns := fun i hi => (h.spawns i hi).exists_stemsFrom

/-- The objects of the save that a load of a slot takes, or others if it takes none. -/
def loadSources (s : Session R B) (slot : String) (others : List (Object R)) : List (Object R) :=
  (s.loadable? slot).elim others fun save => save.instances.map (·.object)

/-- A save that can be loaded is the one that a load takes. -/
theorem parsed_of_loadable? {slot : String} {save : SaveState R}
    (h : s.loadable? slot = some save) :
    ∃ text scene, s.slots.get (s.slotKey slot) = .ok (some text) ∧
      SaveState.codec.parse text = .ok save ∧ s.project.scene? save.scene = some scene := by
  unfold loadable? at h
  split at h
  · next text hget =>
    split at h
    · next parsed hparse =>
      split at h
      · next hscene =>
        cases h
        rcases Option.isSome_iff_exists.1 hscene with ⟨scene, hscene⟩
        exact ⟨text, scene, hget, hparse, hscene⟩
      · cases h
    · cases h
  all_goals cases h

theorem stems_load (s : Session R B) (slot : String) {before : List (Object R)}
    (h : (s.load slot).2 ≠ .ok () → List.Forall₂ Instance.StemsFrom s.roster.live before) :
    List.Forall₂ Instance.StemsFrom (s.load slot).1.roster.live (s.loadSources slot before) := by
  unfold loadSources
  rcases load_cases s slot with ⟨e, hload⟩ | ⟨text, save, scene, hget, hparse, hscene, hload⟩
  · -- What cannot be loaded leaves everything as it was.
    have hnone : s.loadable? slot = none := by
      rw [Option.eq_none_iff_forall_ne_some]
      intro save hsave
      rcases parsed_of_loadable? hsave with ⟨text, scene, hget, hparse, hscene⟩
      rw [load_of_parsed hget hparse hscene] at hload
      cases congrArg Prod.snd hload
    rw [hnone, hload]
    exact h (by simp [hload])
  · rw [loadable?_of_parsed hget hparse hscene, hload, Option.elim_some]
    have hlive : (s.restore save scene).roster.live = save.instances.map (·.ensureStates) := rfl
    rw [hlive, List.forall₂_map_left_iff, List.forall₂_map_right_iff, List.forall₂_same]
    exact fun i _ => ⟨rfl, rfl⟩

variable [Planar R] [AudioOutput R B] [DecidableEq R]

/-- What the live instances have come from after a tick. -/
def tickSources (s : Session R B) (dt : R) (before : List (Object R)) : List (Object R) :=
  match (s.tick dt).2 with
  | .paused | .closed | .overflowed => before
  | .loaded slot => (s.passed dt).loadSources slot []
  | .sceneChanged _ => (s.tick dt).1.scene.objects
  | .advanced =>
    (((s.passed dt).roster.live.zip before).filter fun e =>
        !(s.requests dt).destroys.contains e.1.id).map (·.2) ++
      (s.requests dt).spawns.filterMap fun i => s.scene.template? i.name

/-- What the live instances have come from after a call. -/
def callSources (s : Session R B) (before : List (Object R)) : HostCall R B → List (Object R)
  | .enter id =>
    match (s.enter id).2 with
    | .ok () => (s.enter id).1.scene.objects
    | .error _ => before
  | .tick dt => s.tickSources dt before
  | .load slot => s.loadSources slot before
  | _ => before

/-- What the live instances have come from after some calls. -/
def sources (s : Session R B) (before : List (Object R)) :
    List (HostCall R B) → List (Object R)
  | [] => before
  | c :: calls => (s.call c).sources (s.callSources before c) calls

section Calls

variable {before : List (Object R)}

/-- A tick keeps account of what goes and of what comes. -/
theorem stems_tick (hP : Instance.Lasting P) (hs : s.Upholds P) (dt : R)
    (h : List.Forall₂ Instance.StemsFrom s.roster.live before) :
    List.Forall₂ Instance.StemsFrom (s.tick dt).1.roster.live (s.tickSources dt before) := by
  unfold tickSources
  by_cases hc : s.closed = true
  · rw [tick_closed s dt hc]
    exact h
  rw [Bool.not_eq_true] at hc
  by_cases hp : s.popup.isSome = true
  · rw [tick_popup s dt hc hp]
    exact h
  rw [Bool.not_eq_true, Option.isSome_eq_false_iff, Option.isNone_iff_eq_none] at hp
  by_cases hover : s.Overflows dt
  · rw [tick_of_begun?_none hc hp (overflows_iff_begun?.1 hover).2.2]
    exact h
  have htick := tick_eq_conclude (idles_eq_false_iff.2 ⟨hc, hp, hover⟩)
  rcases request_cases (s.passed dt) with
    ⟨slot, hl, hload⟩ | ⟨hl, ⟨id, scene, hchange, hscene⟩ | hgo⟩
  · rw [htick, conclude_of_loaded _ hl hload]
    exact stems_load (s.passed dt) slot fun hfails => absurd hload hfails
  · rw [htick, conclude_of_changed _ hl hchange hscene]
    exact Instance.stems_ofTemplate scene.objects
  · rw [pendingLoad_passed] at hl
    rw [pendingScene_passed, project_passed] at hgo
    have hend := endsAdvanced htick hl hgo
    rw [hend.outcome, hend.live]
    refine List.rel_append (Instance.stems_filter _ (Instance.stems_becomes h hend.changed)) ?_
    -- What comes has been copied from the templates of the scene that is still active.
    have hpassed := (invariant_upholds hP).stages hs dt (s.passed dt) (by simp [Session.stages])
    have hscene : (s.passed dt).scene = s.scene :=
      (follows_runEvents (s.begun dt) (elapsedTime dt)).scene
    refine Instance.stems_filterMap fun i hi => ?_
    rw [← spawns_passed] at hi
    rw [← hscene]
    exact (hpassed.spawns i hi).exists_stemsFrom

theorem stems_call (hP : Instance.Lasting P) (hs : s.Upholds P) (c : HostCall R B)
    (h : List.Forall₂ Instance.StemsFrom s.roster.live before) :
    List.Forall₂ Instance.StemsFrom (s.call c).roster.live (s.callSources before c) := by
  by_cases hc : c.isPassive = true
  · rcases exists_call_of_isPassive s hc with ⟨input, assets, mixer, popup, closed, hcall⟩
    rw [hcall]
    cases c <;> first | exact h | cases hc
  cases c
  case enter id =>
    have hassets : s.registerAssets.roster = s.roster := by
      rcases exists_registerAssets s with ⟨assets, sounds, done, hr⟩
      rw [hr]
    dsimp only [callSources, call]
    cases hscene : s.registerAssets.findScene id with
    | error e =>
        rw [enter_of_error hscene, hassets]
        exact h
    | ok scene =>
        rw [enter_of_ok hscene]
        exact Instance.stems_ofTemplate scene.objects
  case tick dt => exact stems_tick hP hs dt h
  case save slot =>
    rcases exists_save s slot with ⟨store, hstore⟩
    dsimp only [callSources, call]
    rw [hstore]
    exact h
  case load slot => exact stems_load s slot fun _ => h
  case clearSave slot =>
    rcases exists_clearSave s slot with ⟨store, hstore⟩
    dsimp only [callSources, call]
    rw [hstore]
    exact h
  all_goals exact absurd rfl hc

/-- Live instances stem from their sources. -/
theorem stems_run (hP : Instance.Lasting P) (hs : s.Upholds P)
    (h : List.Forall₂ Instance.StemsFrom s.roster.live before) (calls : List (HostCall R B)) :
    List.Forall₂ Instance.StemsFrom (s.run calls).roster.live (s.sources before calls) := by
  induction calls generalizing s before with
  | nil => exact h
  | cons c calls ih => exact ih ((invariant_upholds hP).call hs c) (stems_call hP hs c h)

/-- The instances of a stage are those from before the tick, changed. -/
theorem stems_stages (dt : R) (h : List.Forall₂ Instance.StemsFrom s.roster.live before) :
    ∀ t ∈ s.stages dt, List.Forall₂ Instance.StemsFrom t.roster.live before :=
  forall_stages (fun _ _ ht => ht)
    (fun t binding a ht => Instance.stems_becomes ht (follows_perform t binding _ a).live)
    (Instance.stems_becomes h (live_begun s dt))

end Calls

/-- On slots that hold what sessions have written, all instances are matched at any time:
    between two calls and at each stage of a tick. And no behavior of a live instance finds
    nothing to work on when its turn comes. -/
theorem run_matched {project : Project R} {config : Config R} {slots : SlotStore} {output : B}
    {supply : Supply} (hstart : start project config slots output supply = .ok s)
    (hslots : ∀ key text, slots.get key = .ok (some text) → Written R text)
    (calls : List (HostCall R B)) (dt : R) :
    (∀ t ∈ s.run calls :: (s.run calls).stages dt, t.IsMatched (s.sources [] calls)) ∧
      ∀ i ∈ (s.run calls).roster.live, ∀ before b after,
        i.object.behaviors = before ++ b :: after →
          b.lacks ((before.foldl (Stepped.act (s.run calls).scene (s.run calls).input
            (elapsedTime dt)) ⟨i.mirrorHealth, [], []⟩).subject.states.get b.kind) = false := by
  have hlasting := Instance.lasting_isMatched (R := R)
  have hempty : List.Forall₂ Instance.StemsFrom s.roster.live [] := by
    rw [(isNew_start hstart).roster]
    exact List.Forall₂.nil
  have hupholds := upholds_run hlasting hstart hslots
  have hbegin : s.Upholds Instance.IsMatched := hupholds [] dt s List.mem_cons_self
  have hlive := stems_run hlasting hbegin hempty calls
  refine ⟨fun t ht => isMatched_of_upholds (hupholds calls dt t ht) ?_, ?_⟩
  · rcases List.mem_cons.1 ht with rfl | ht
    · exact hlive
    · exact stems_stages dt hlive t ht
  · intro i hi before b after hb
    have hmatched := (hupholds calls dt _ List.mem_cons_self).live i hi
    exact hmatched.lacks_foldl_act _ _ _ hb

/-- A tower that has been loaded stems from the saved one, and its gun finds what it would
    work on. -/
theorem run_matched_guarded :
    ∃ slots : SlotStore, (∀ key text, slots.get key = .ok (some text) → Written Float text) ∧
      ((guarded slots).run [.enter none, .load "a"]).roster.live = [turned] ∧
      (∀ t ∈ (guarded slots).run [.enter none, .load "a"] ::
        ((guarded slots).run [.enter none, .load "a"]).stages 1, t.IsMatched [turned.object]) ∧
      (Behavior.turret ⟨1, "Tower", "", false⟩).lacks (turned.mirrorHealth.states.get .turret) =
        false := by
  rcases exists_written_guarding with ⟨slots, text, time, hwritten, hget, hparse⟩
  have hlive := load_guarded hget hparse
  rcases run_matched (start_guarded slots) hwritten [.enter none, .load "a"] 1 with
    ⟨hmatched, hlacks⟩
  refine ⟨slots, hwritten, hlive, ?_, ?_⟩
  · have hsources : (guarded slots).sources [] [.enter none, .load "a"] = [turned.object] := by
      have hrest := (isAtRest_start (start_guarded (.memory .empty))).run [.enter none, .tick 1]
      have hsave : ((guarded slots).run [.enter none]).loadable? "a" = _ :=
        loadable?_of_parsed hget hparse hrest.regular.scene
      have hloaded (s : Session Float (SilentOutput Float)) :
          s.sources [] [.enter none, .load "a"] =
            (s.run [.enter none]).loadSources "a" (s.sources [] [.enter none]) := rfl
      have hinstances : (guarding.snapshot time).instances = guarding.roster.live := rfl
      rw [hloaded, loadSources, hsave, Option.elim_some, hinstances, live_guarding]
      rfl
    rwa [hsources] at hmatched
  · refine hlacks turned ?_ [] _ [.button] rfl
    rw [hlive]
    exact List.mem_singleton_self _

end Session

end Playfield
