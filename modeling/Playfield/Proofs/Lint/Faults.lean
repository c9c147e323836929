import Mathlib
import Playfield.Proofs.Event.Places
import Playfield.Proofs.Lint.Census

/-!
# Faults of a Project

What checking a document finds.

The rules that a document should keep are told twice. `Project.IsClean` tells them as properties
of the whole: ids are distinct, and names are names of something. `Project.Fault` tells them as what
can be wrong at a single place, with the report on it. A place is named by numbers: of a scene in
the project, of an object in the scene, of an id that a condition or an action names. Events are
named by the way to them, through whatever groups, open or closed.

Checking a document is a census of its faults. Every fault is reported with the names that it is
about, it is reported once for each place, and nothing else is reported. In particular nothing is
reported if and only if the document is clean.

## Main definitions

* `Lint.Place`: A place in a project.
* `Lint.ObjectFault`, `Lint.ActionFault`, `Lint.EventFault`, `Lint.SceneFault`, `Project.Fault`:
  What is wrong at a place.
* `Scene.IsClean`, `Project.IsClean`: The rules for whole documents.

## Theorems

* `Lint.census_object`, `Lint.census_references`, `Lint.census_action`, `Lint.census_event`,
  `Lint.census_scene`, `Project.census_lint`: Each part of the check is a census.
* `Project.isClean_iff`: A project is clean if and only if nothing is wrong at any place.
* `Project.lint_exact`: Checking finds exactly what is wrong.
-/

namespace Playfield

variable {R : Type}

/-- The sound that an action names. -/
def Action.Kind.sound? : Action.Kind R → Option String
  | .sound (.play name) | .sound (.stop name) | .sound (.music name) => some name
  | _ => none

theorem Action.Kind.sound?_eq_some_iff {kind : Action.Kind R} {name : String} :
    kind.sound? = some name ↔
      kind = .sound (.play name) ∨ kind = .sound (.stop name) ∨ kind = .sound (.music name) := by
  cases kind
  case sound c => cases c <;> simp [sound?]
  all_goals simp [sound?]

namespace Lint

/-- A place in an object: its id or its layer. -/
inductive ObjectPlace where
  | id
  | layer

/-- A place in an event. -/
inductive EventPlace where
  | id
  /-- One of the ids that a condition names. -/
  | condition (k m : Nat)
  /-- One of the ids that an action names. -/
  | action (k m : Nat)
  /-- The scene or the sound that an action names. -/
  | name (k : Nat)

/-- A place in a scene. -/
inductive ScenePlace where
  | id
  | object (k : Nat) (place : ObjectPlace)
  | event (way : List Nat) (place : EventPlace)

/-- A place in a project. -/
inductive Place where
  | scenes
  | scene (k : Nat) (place : ScenePlace)

/-- What is wrong with an object of a scene. -/
inductive ObjectFault (s : Scene R) (k : Nat) (o : Object R) : ObjectPlace → Issue → Prop
  | repeated {j : Nat} {o' : Object R} : j < k → s.objects[j]? = some o' → o'.id = o.id →
      ObjectFault s k o .id (.duplicateObject s.id o.id)
  | layer : (∀ l ∈ s.layers, l.name ≠ o.layer) →
      ObjectFault s k o .layer (.unknownLayer s.id o.id o.layer)

/-- What is wrong with the scene or the sound that an action names. -/
inductive ActionFault (p : Project R) (s : Scene R) (e : Event R) (a : Action R) : Issue → Prop
  | scene {target : String} : a.kind = .changeScene target → (∀ t ∈ p.scenes, t.id ≠ target) →
      ActionFault p s e a (.unknownScene s.id e.id target)
  | sound {name : String} : a.kind.sound? = some name → (∀ t ∈ p.sounds, t.name ≠ name) →
      ActionFault p s e a (.unknownSound s.id e.id name)

/-- What is wrong with an event of a scene. -/
inductive EventFault (p : Project R) (s : Scene R) (way : List Nat) (e : Event R) :
    EventPlace → Issue → Prop
  | repeated {way' : List Nat} {e' : Event R} : way' < way → EventNode.Stands s.events way' e' →
      e'.id = e.id → EventFault p s way e .id (.duplicateEvent s.id e.id)
  | condition {k m : Nat} {c : Condition R} {id : String} : e.conditions[k]? = some c →
      c.kind.references[m]? = some id → (∀ o ∈ s.objects, o.id ≠ id) →
      EventFault p s way e (.condition k m) (.missingObject s.id e.id id)
  | action {k m : Nat} {a : Action R} {id : String} : e.actions[k]? = some a →
      a.kind.references[m]? = some id → (∀ o ∈ s.objects, o.id ≠ id) →
      EventFault p s way e (.action k m) (.missingObject s.id e.id id)
  | name {k : Nat} {a : Action R} {x : Issue} : e.actions[k]? = some a → ActionFault p s e a x →
      EventFault p s way e (.name k) x

/-- What is wrong with a scene of a project. -/
inductive SceneFault (p : Project R) (k : Nat) (s : Scene R) : ScenePlace → Issue → Prop
  | repeated {j : Nat} {s' : Scene R} : j < k → p.scenes[j]? = some s' → s'.id = s.id →
      SceneFault p k s .id (.duplicateScene s.id)
  | object {j : Nat} {o : Object R} {place : ObjectPlace} {x : Issue} :
      s.objects[j]? = some o → ObjectFault s j o place x → SceneFault p k s (.object j place) x
  | event {way : List Nat} {e : Event R} {place : EventPlace} {x : Issue} :
      EventNode.Stands s.events way e → EventFault p s way e place x →
      SceneFault p k s (.event way place) x

end Lint

/-- What is wrong with a project. -/
inductive Project.Fault (p : Project R) : Lint.Place → Issue → Prop
  | noScenes : p.scenes = [] → p.Fault .scenes .noScenes
  | scene {k : Nat} {s : Scene R} {place : Lint.ScenePlace} {x : Issue} :
      p.scenes[k]? = some s → Lint.SceneFault p k s place x → p.Fault (.scene k place) x

namespace Lint

theorem isNone_find? {α : Type} {as : List α} {key : α → String} {name : String} :
    (as.find? fun a => key a == name).isNone = true ↔ ∀ a ∈ as, key a ≠ name := by
  simp [List.find?_eq_none]

theorem census_object {s : Scene R} {o : Object R} {k : Nat} {b : Bool}
    (hb : b = true ↔ ∃ j o', j < k ∧ s.objects[j]? = some o' ∧ o'.id = o.id) :
    IsCensus (ObjectFault s k o) (Lint.object s o b) := by
  have hid := isCensus_single (b = true) ObjectPlace.id (Issue.duplicateObject s.id o.id)
  have hlayer := isCensus_single ((s.layer? o.layer).isNone = true) ObjectPlace.layer
    (Issue.unknownLayer s.id o.id o.layer)
  refine (hid.append hlayer ?_).congr fun p x => ⟨?_, ?_⟩
  · rintro p x y ⟨-, rfl, -⟩ ⟨-, hp, -⟩
    cases hp
  · rintro (⟨h, rfl, rfl⟩ | ⟨h, rfl, rfl⟩)
    · rcases hb.1 h with ⟨j, o', hj, ho', hid⟩
      exact .repeated hj ho' hid
    · exact .layer (isNone_find?.1 h)
  · intro h
    cases h with
    | repeated hj ho' hid => exact .inl ⟨hb.2 ⟨_, _, hj, ho', hid⟩, rfl, rfl⟩
    | layer h => exact .inr ⟨isNone_find?.2 h, rfl, rfl⟩

/-- The ids that conditions or actions name, as far as they are at fault. -/
theorem census_references {α : Type} (s : Scene R) (e : Event R) (as : List α)
    (references : α → List String) :
    IsCensus (fun (p : Nat × Nat) x => ∃ a, as[p.1]? = some a ∧ ∃ id,
        (references a)[p.2]? = some id ∧ (∀ o ∈ s.objects, o.id ≠ id) ∧
          x = Issue.missingObject s.id e.id id)
      (((as.flatMap references).filter fun id => (s.object? id).isNone).map
        fun id => .missingObject s.id e.id id) := by
  have hone (a : α) := (isCensus_filter (references a) (fun id => (s.object? id).isNone)
    (Issue.missingObject s.id e.id)).congr fun m x =>
      exists_congr fun id => and_congr_right fun _ => and_congr_left fun _ => isNone_find?
  rw [List.filter_flatMap, List.map_flatMap]
  exact isCensus_flatMap_zipIdx as fun _ a _ => hone a

theorem census_action (p : Project R) (s : Scene R) (e : Event R) (a : Action R) :
    IsCensus (fun (_ : Unit) x => ActionFault p s e a x) (Lint.action p s e a) := by
  have hsound {name : String} (hname : a.kind.sound? = some name) :
      IsCensus (fun (_ : Unit) x => ActionFault p s e a x)
        (if (p.sound? name).isNone then [.unknownSound s.id e.id name] else []) := by
    refine (isCensus_single _ () _).congr fun q x => ⟨?_, ?_⟩
    · rintro ⟨h, -, rfl⟩
      exact .sound hname (isNone_find?.1 h)
    · rintro (⟨ha, -⟩ | ⟨ha, h⟩)
      · rw [ha] at hname
        cases hname
      · cases hname.symm.trans ha
        exact ⟨isNone_find?.2 h, rfl, rfl⟩
  unfold Lint.action
  split
  · next target ha =>
    refine (isCensus_single _ () _).congr fun q x => ⟨?_, ?_⟩
    · rintro ⟨h, -, rfl⟩
      exact .scene ha (isNone_find?.1 h)
    · rintro (⟨ha', h⟩ | ⟨hname, -⟩)
      · cases ha.symm.trans ha'
        exact ⟨isNone_find?.2 h, rfl, rfl⟩
      · rw [ha] at hname
        cases hname
  · next name ha => exact hsound (by rw [ha]; rfl)
  · next name ha => exact hsound (by rw [ha]; rfl)
  · next name ha => exact hsound (by rw [ha]; rfl)
  · next hscene hplay hstop hmusic =>
    refine isCensus_nil fun q x h => ?_
    cases h with
    | scene ha _ => exact hscene _ ha
    | sound hname _ =>
        rcases Action.Kind.sound?_eq_some_iff.1 hname with ha | ha | ha
        · exact hplay _ ha
        · exact hstop _ ha
        · exact hmusic _ ha

theorem census_event {p : Project R} {s : Scene R} {way : List Nat} {e : Event R} {b : Bool}
    (hb : b = true ↔ ∃ way' e', way' < way ∧ EventNode.Stands s.events way' e' ∧ e'.id = e.id) :
    IsCensus (EventFault p s way e) (Lint.event p s e b) := by
  have hid := isCensus_single (b = true) EventPlace.id (Issue.duplicateEvent s.id e.id)
  have hconditions := (census_references s e e.conditions (·.kind.references)).relabel
    (fun q => EventPlace.condition q.1 q.2) fun _ _ h =>
      Prod.ext_iff.2 (EventPlace.condition.inj h)
  have hactions := (census_references s e e.actions (·.kind.references)).relabel
    (fun q => EventPlace.action q.1 q.2) fun _ _ h =>
      Prod.ext_iff.2 (EventPlace.action.inj h)
  have hnames := (isCensus_flatMap_zipIdx e.actions fun _ a _ =>
    census_action p s e a).relabel (fun q => EventPlace.name q.1) fun _ _ h =>
      Prod.ext (EventPlace.name.inj h) rfl
  unfold Lint.event Lint.references
  rw [List.filter_append, List.map_append, ← List.append_assoc]
  refine (((hid.append hconditions ?_).append hactions ?_).append hnames ?_).congr
    fun q x => ⟨?_, ?_⟩
  · rintro q x y ⟨-, rfl, -⟩ ⟨_, hq, -⟩
    cases hq
  · rintro q x y (⟨-, rfl, -⟩ | ⟨_, rfl, -⟩) ⟨_, hq, -⟩
    · cases hq
    · cases hq
  · rintro q x y ((⟨-, rfl, -⟩ | ⟨_, rfl, -⟩) | ⟨_, rfl, -⟩) ⟨_, hq, -⟩
    · cases hq
    · cases hq
    · cases hq
  · rintro (((⟨h, rfl, rfl⟩ | ⟨q, rfl, c, hc, id, hid, hmissing, rfl⟩) |
      ⟨q, rfl, a, ha, id, hid, hmissing, rfl⟩) | ⟨q, rfl, a, ha, hfault⟩)
    · rcases hb.1 h with ⟨way', e', hway, he', hid⟩
      exact .repeated hway he' hid
    · exact .condition hc hid hmissing
    · exact .action ha hid hmissing
    · exact .name ha hfault
  · intro h
    cases h with
    | repeated hway he' hid => exact .inl (.inl (.inl ⟨hb.2 ⟨_, _, hway, he', hid⟩, rfl, rfl⟩))
    | condition hc hid hmissing =>
        exact .inl (.inl (.inr ⟨(_, _), rfl, _, hc, _, hid, hmissing, rfl⟩))
    | action ha hid hmissing => exact .inl (.inr ⟨(_, _), rfl, _, ha, _, hid, hmissing, rfl⟩)
    | name ha hfault => exact .inr ⟨(_, ()), rfl, _, ha, hfault⟩

theorem census_scene (p : Project R) (k : Nat) {s : Scene R} {b : Bool}
    (hb : b = true ↔ ∃ j s', j < k ∧ p.scenes[j]? = some s' ∧ s'.id = s.id) :
    IsCensus (SceneFault p k s)
      ((if b then [.duplicateScene s.id] else []) ++ Lint.scene p s) := by
  have hid := isCensus_single (b = true) ScenePlace.id (Issue.duplicateScene s.id)
  have hobjects := (isCensus_keyed_zipIdx (·.id) (fun o => Lint.object s o.1 o.2)
    (ObjectFault s) s.objects fun _ _ _ _ hb => census_object hb).relabel
      (fun q => ScenePlace.object q.1 q.2) fun _ _ h =>
        Prod.ext_iff.2 (ScenePlace.object.inj h)
  have hbefore (way : List Nat) (e : Event R) :
      (∃ q ∈ EventNode.placedFrom 0 s.events, q.2 < way ∧ q.1.id = e.id) ↔
        ∃ way' e', way' < way ∧ EventNode.Stands s.events way' e' ∧ e'.id = e.id := by
    simp only [Prod.exists, EventNode.mem_placedFrom_zero]
    exact ⟨fun ⟨e', way', h, hway, he⟩ => ⟨way', e', hway, h, he⟩,
      fun ⟨way', e', hway, h, he⟩ => ⟨e', way', h, hway, he⟩⟩
  have hevents := (isCensus_keyed (·.id) (fun e => Lint.event p s e.1 e.2) (EventFault p s)
    (EventNode.sorted_placedFrom 0 s.events) fun e way _ _ hb =>
      census_event (hb.trans (hbefore way e))).relabel
      (fun q => ScenePlace.event q.1 q.2) fun _ _ h =>
        Prod.ext_iff.2 (ScenePlace.event.inj h)
  rw [EventNode.map_fst_placedFrom] at hevents
  unfold Lint.scene Scene.allEvents
  rw [← List.append_assoc]
  refine ((hid.append hobjects ?_).append hevents ?_).congr fun q x => ⟨?_, ?_⟩
  · rintro q x y ⟨-, rfl, -⟩ ⟨_, hq, -⟩
    cases hq
  · rintro q x y (⟨-, rfl, -⟩ | ⟨_, rfl, -⟩) ⟨_, hq, -⟩
    · cases hq
    · cases hq
  · rintro ((⟨h, rfl, rfl⟩ | ⟨q, rfl, o, ho, hfault⟩) | ⟨q, rfl, e, he, hfault⟩)
    · rcases hb.1 h with ⟨j, s', hj, hs', hid⟩
      exact .repeated hj hs' hid
    · exact .object ho hfault
    · exact .event (EventNode.mem_placedFrom_zero.1 he) hfault
  · intro h
    cases h with
    | repeated hj hs' hid => exact .inl (.inl ⟨hb.2 ⟨_, _, hj, hs', hid⟩, rfl, rfl⟩)
    | object ho hfault => exact .inl (.inr ⟨(_, _), rfl, _, ho, hfault⟩)
    | event he hfault =>
        exact .inr ⟨(_, _), rfl, _, EventNode.mem_placedFrom_zero.2 he, hfault⟩

end Lint

namespace Project

/-- Checking a project takes a census of its faults. -/
theorem census_lint (p : Project R) : IsCensus p.Fault p.lint := by
  have hempty := isCensus_single (p.scenes.isEmpty = true) Lint.Place.scenes Issue.noScenes
  have hscenes := (Lint.isCensus_keyed_zipIdx (·.id)
    (fun s => (if s.2 then [.duplicateScene s.1.id] else []) ++ Lint.scene p s.1)
    (Lint.SceneFault p) p.scenes fun _ k _ _ hb => Lint.census_scene p k hb).relabel
      (fun q => Lint.Place.scene q.1 q.2) fun _ _ h =>
        Prod.ext_iff.2 (Lint.Place.scene.inj h)
  unfold lint
  refine (hempty.append hscenes ?_).congr fun q x => ⟨?_, ?_⟩
  · rintro q x y ⟨-, rfl, -⟩ ⟨_, hq, -⟩
    cases hq
  · rintro (⟨h, rfl, rfl⟩ | ⟨q, rfl, s, hs, hfault⟩)
    · exact .noScenes (List.isEmpty_iff.1 h)
    · exact .scene hs hfault
  · intro h
    cases h with
    | noScenes h => exact .inl ⟨List.isEmpty_iff.2 h, rfl, rfl⟩
    | scene hs hfault => exact .inr ⟨(_, _), rfl, _, hs, hfault⟩

end Project

/-- The rules for a scene of a project. -/
structure Scene.IsClean (p : Project R) (s : Scene R) : Prop where
  objects : (s.objects.map (·.id)).Nodup
  layers : ∀ o ∈ s.objects, ∃ l ∈ s.layers, l.name = o.layer
  /-- Events that stand in different places have different ids. -/
  events : ∀ way way' e e', EventNode.Stands s.events way e → EventNode.Stands s.events way' e' →
    e.id = e'.id → way = way'
  conditions : ∀ way e, EventNode.Stands s.events way e → ∀ c ∈ e.conditions,
    ∀ id ∈ c.kind.references, ∃ o ∈ s.objects, o.id = id
  actions : ∀ way e, EventNode.Stands s.events way e → ∀ a ∈ e.actions,
    ∀ id ∈ a.kind.references, ∃ o ∈ s.objects, o.id = id
  targets : ∀ way e, EventNode.Stands s.events way e → ∀ a ∈ e.actions,
    ∀ target, a.kind = .changeScene target → ∃ t ∈ p.scenes, t.id = target
  sounds : ∀ way e, EventNode.Stands s.events way e → ∀ a ∈ e.actions,
    ∀ name, a.kind.sound? = some name → ∃ t ∈ p.sounds, t.name = name

/-- The rules for a project. -/
structure Project.IsClean (p : Project R) : Prop where
  nonempty : p.scenes ≠ []
  distinct : (p.scenes.map (·.id)).Nodup
  scenes : ∀ s ∈ p.scenes, s.IsClean p

section Clean

variable {p : Project R} {s : Scene R}

/-- Keys are distinct if none of them has occurred before. -/
theorem nodup_map_iff_getElem? {α : Type} {as : List α} {key : α → String} :
    (as.map key).Nodup ↔
      ∀ (j k : Nat) (a a' : α), j < k → as[j]? = some a' → as[k]? = some a →
        key a' ≠ key a := by
  rw [List.Nodup, List.pairwise_map, List.pairwise_iff_getElem]
  constructor
  · intro h j k a a' hjk hj hk
    rcases List.getElem?_eq_some_iff.1 hj with ⟨hj', rfl⟩
    rcases List.getElem?_eq_some_iff.1 hk with ⟨hk', rfl⟩
    exact h j k hj' hk' hjk
  · intro h j k hj hk hjk
    exact h j k _ _ hjk (List.getElem?_eq_getElem hj) (List.getElem?_eq_getElem hk)

theorem Scene.IsClean.not_objectFault (h : s.IsClean p) {k : Nat} {o : Object R}
    (ho : s.objects[k]? = some o) {q : Lint.ObjectPlace} {x : Issue} :
    ¬ Lint.ObjectFault s k o q x := by
  rintro (⟨hj, ho', hid⟩ | hlayer)
  · exact nodup_map_iff_getElem?.1 h.objects _ _ _ _ hj ho' ho hid
  · rcases h.layers o (List.mem_of_getElem? ho) with ⟨l, hl, hname⟩
    exact hlayer l hl hname

theorem Scene.IsClean.not_eventFault (h : s.IsClean p) {way : List Nat} {e : Event R}
    (he : EventNode.Stands s.events way e) {q : Lint.EventPlace} {x : Issue} :
    ¬ Lint.EventFault p s way e q x := by
  intro hfault
  cases hfault with
  | repeated hway he' hid => exact hway.ne (h.events _ _ _ _ he' he hid)
  | condition hc hid hmissing =>
      rcases h.conditions way e he _ (List.mem_of_getElem? hc) _ (List.mem_of_getElem? hid)
        with ⟨o, ho, hoid⟩
      exact hmissing o ho hoid
  | action ha hid hmissing =>
      rcases h.actions way e he _ (List.mem_of_getElem? ha) _ (List.mem_of_getElem? hid)
        with ⟨o, ho, hoid⟩
      exact hmissing o ho hoid
  | name ha hfault =>
      cases hfault with
      | scene hkind hmissing =>
          rcases h.targets way e he _ (List.mem_of_getElem? ha) _ hkind with ⟨t, ht, hid⟩
          exact hmissing t ht hid
      | sound hkind hmissing =>
          rcases h.sounds way e he _ (List.mem_of_getElem? ha) _ hkind with ⟨t, ht, hname⟩
          exact hmissing t ht hname

/-- A scene without faults in its objects and events keeps the rules. -/
theorem Scene.isClean_of_not_fault
    (hobjects : ∀ k o, s.objects[k]? = some o → ∀ q x, ¬ Lint.ObjectFault s k o q x)
    (hevents : ∀ way e, EventNode.Stands s.events way e → ∀ q x, ¬ Lint.EventFault p s way e q x) :
    s.IsClean p where
  objects := nodup_map_iff_getElem?.2 fun j k o o' hjk ho' ho hid =>
    hobjects k o ho _ _ (.repeated hjk ho' hid)
  layers o ho := by
    rcases List.getElem?_of_mem ho with ⟨k, hk⟩
    by_contra! hlayer
    exact hobjects k o hk _ _ (.layer hlayer)
  events way way' e e' he he' hid := by
    -- The later of the two would repeat the id of the other.
    by_contra hne
    rcases lt_or_gt_of_ne hne with hlt | hlt
    · exact hevents way' e' he' _ _ (.repeated hlt he hid)
    · exact hevents way e he _ _ (.repeated hlt he' hid.symm)
  conditions way e he c hc id hid := by
    rcases List.getElem?_of_mem hc with ⟨k, hk⟩
    rcases List.getElem?_of_mem hid with ⟨m, hm⟩
    by_contra! hmissing
    exact hevents way e he _ _ (.condition hk hm hmissing)
  actions way e he a ha id hid := by
    rcases List.getElem?_of_mem ha with ⟨k, hk⟩
    rcases List.getElem?_of_mem hid with ⟨m, hm⟩
    by_contra! hmissing
    exact hevents way e he _ _ (.action hk hm hmissing)
  targets way e he a ha target hkind := by
    rcases List.getElem?_of_mem ha with ⟨k, hk⟩
    by_contra! hmissing
    exact hevents way e he _ _ (.name hk (.scene hkind hmissing))
  sounds way e he a ha name hkind := by
    rcases List.getElem?_of_mem ha with ⟨k, hk⟩
    by_contra! hmissing
    exact hevents way e he _ _ (.name hk (.sound hkind hmissing))

/-- A project keeps the rules if and only if nothing is wrong at any place. -/
theorem Project.isClean_iff : p.IsClean ↔ ∀ q x, ¬ p.Fault q x := by
  constructor
  · rintro h q x (hempty | ⟨hs, hfault⟩)
    · exact h.nonempty hempty
    · have hclean := h.scenes _ (List.mem_of_getElem? hs)
      cases hfault with
      | repeated hj hs' hid =>
          exact nodup_map_iff_getElem?.1 h.distinct _ _ _ _ hj hs' hs hid
      | object ho hfault => exact hclean.not_objectFault ho hfault
      | event he hfault => exact hclean.not_eventFault he hfault
  · intro h
    refine ⟨fun hempty => h _ _ (.noScenes hempty), ?_, fun s hs => ?_⟩
    · exact nodup_map_iff_getElem?.2 fun j k s s' hjk hs' hs hid =>
        h _ _ (.scene hs (.repeated hjk hs' hid))
    · rcases List.getElem?_of_mem hs with ⟨k, hk⟩
      exact Scene.isClean_of_not_fault
        (fun j o ho q x hfault => h _ _ (.scene hk (.object ho hfault)))
        (fun way e he q x hfault => h _ _ (.scene hk (.event he hfault)))

end Clean

/-- Checking a project reports nothing if and only if the project keeps all rules, and what it
    reports is what is wrong: each fault once for each place. -/
theorem Project.lint_exact (p : Project R) :
    (p.lint = [] ↔ p.IsClean) ∧ IsCensus p.Fault p.lint :=
  ⟨p.census_lint.eq_nil_iff.trans Project.isClean_iff.symm, p.census_lint⟩

end Playfield
