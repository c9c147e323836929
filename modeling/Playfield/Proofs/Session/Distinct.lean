import Mathlib
import Playfield.Proofs.Session.Copies
import Playfield.Proofs.Session.Invariant

/-!
# Instances Are Told Apart

No two instances of a running game have the same id.

Instances come from the objects of a scene, from guns and from actions that create
them, and from saves. A copy gets a generated id when it is asked for; from then on
its id is in use, among the live instances or among those that wait. A save brings
back ids that were in use once and may be in use again later, so a slot can hold
ids that have been generated by the same session before. What matters is that all
of them come from different origins, in the roster and in every save that can be
read (`Session.HasOrigins`). This is an invariant, so all calls and all stages of a tick
keep it so.

The supply of suffixes has no part in this. It comes in at the end: if the suffixes
that have been taken are different, different origins make different ids.

## Main definitions

* `Session.HasOrigins`: The ids of instances have different origins, also in saves.

## Theorems

* `Session.HasOrigins.perform`, `Session.HasOrigins.begun`: Actions and what moves by
  itself keep origins apart.
* `Session.invariant_hasOrigins`: So does everything else.
* `Session.run_ids_distinct`: Ids are different in every session that can be reached.
-/

namespace Playfield

namespace Session

variable {R B : Type} {s t : Session R B}

theorem ids_of_becomes {is js : List (Instance R)} (h : List.Forall₂ Instance.Becomes is js) :
    js.map (·.id) = is.map (·.id) := by
  have hlabels := congrArg (List.map Prod.fst) (Roster.labels_of_becomes h)
  rwa [List.map_map, List.map_map] at hlabels

variable [Scalar R] [Numeral R]

/-- The ids of all instances of a game have different origins, of those that live, of
    those that wait, and of those in each save that can be read. -/
structure HasOrigins (s : Session R B) (p : Project R) : Prop where
  project : s.project = p
  authored : ∀ scene ∈ p.scenes, (scene.objects.map (·.id)).Nodup
  scene : s.scene ∈ p.scenes
  ids : s.supply.Explains p ((s.roster.live ++ s.roster.spawns).map (·.id))
  saved : ∀ key text, s.slots.get key = .ok (some text) → ∀ save : SaveState R,
    SaveState.codec.parse text = .ok save → s.supply.Explains p (save.instances.map (·.id))

variable {p : Project R}

theorem HasOrigins.congr (h : s.HasOrigins p) (hst : s.SharesWorld t) : t.HasOrigins p where
  project := hst.project.trans h.project
  authored := h.authored
  scene := by rw [hst.scene]; exact h.scene
  ids := by rw [hst.roster, hst.supply]; exact h.ids
  saved := by rw [hst.supply, hst.slots]; exact h.saved

theorem hasOrigins_start {config : Config R} {slots : SlotStore} {output : B} {supply : Supply}
    (h : start p config slots output supply = .ok s)
    (hslots : ∀ key text, slots.get key ≠ .ok (some text))
    (hscenes : ∀ scene ∈ p.scenes, (scene.objects.map (·.id)).Nodup) : s.HasOrigins p := by
  have hnew := isNew_start h
  rcases hnew.scene with ⟨rest, hscene⟩
  refine ⟨hnew.project, hscenes, ?_, ?_, ?_⟩
  · rw [hscene]
    exact List.mem_cons_self
  · rw [hnew.roster]
    exact ⟨[], rfl, List.nodup_nil, by simp⟩
  · intro key text hget
    rw [hnew.slots] at hget
    exact absurd hget (hslots key text)

theorem HasOrigins.activate (h : s.HasOrigins p) {scene : Scene R}
    (hscene : scene ∈ s.project.scenes) : (s.activate scene).HasOrigins p where
  project := h.project
  authored := h.authored
  scene := by rwa [h.project] at hscene
  ids := by
    rw [h.project] at hscene
    have hids := s.supply.explains_authored hscene (h.authored scene hscene)
    have hlive : ((s.activate scene).roster.live ++ (s.activate scene).roster.spawns).map (·.id) =
        scene.objects.map (·.id) := by
      simp [Session.activate, Roster.ofScene, Roster.ofLive, Instance.id, Instance.ofTemplate,
        Function.comp_def]
    rw [hlive]
    exact hids
  saved := h.saved

theorem HasOrigins.restore (h : s.HasOrigins p) {key text : String} {save : SaveState R}
    {scene : Scene R} (hget : s.slots.get key = .ok (some text))
    (hparse : SaveState.codec.parse text = .ok save) (hscene : scene ∈ s.project.scenes) :
    (s.restore save scene).HasOrigins p where
  project := h.project
  authored := h.authored
  scene := by rwa [h.project] at hscene
  ids := by
    -- The ids are those of the save, which have been explained when it was written.
    have hids := h.saved key text hget save hparse
    have hlive : ((s.restore save scene).roster.live ++ (s.restore save scene).roster.spawns).map
        (·.id) = save.instances.map (·.id) := by
      simp [Session.restore, Roster.ofLive, Instance.id, Instance.ensureStates, Function.comp_def]
    rw [hlive]
    exact hids
  saved := h.saved

theorem HasOrigins.settle (h : s.HasOrigins p) :
    HasOrigins { s with roster := s.roster.applyPending } p where
  project := h.project
  authored := h.authored
  scene := h.scene
  ids := by
    -- What waits becomes live, and some of the others go.
    refine h.ids.sublist (List.Sublist.map _ ?_)
    have hlive : (s.roster.applyPending).live ++ (s.roster.applyPending).spawns =
        s.roster.survivors ++ s.roster.spawns := by
      simp [Roster.applyPending, Roster.ofLive]
    exact hlive ▸ s.roster.survivors_sublist.append_right _
  saved := h.saved

/-- The saves that can be read later on, if they could be read before or have been made
    since. -/
theorem HasOrigins.saved_later (h : s.HasOrigins p) (hread : s.ReadsFrom t.slots)
    (hsuffix : t.supply.suffix = s.supply.suffix)
    (htaken : s.supply.suffixesTaken ≤ t.supply.suffixesTaken) :
    ∀ key text, t.slots.get key = .ok (some text) → ∀ save : SaveState R,
      SaveState.codec.parse text = .ok save →
        t.supply.Explains p (save.instances.map (·.id)) := by
  intro key text hget save hparse
  refine Supply.Explains.later ?_ hsuffix htaken
  rcases hread key text hget with hold | ⟨time, hnew⟩
  · exact h.saved key text hold save hparse
  · -- A save that has been made holds the live instances.
    rw [hnew] at hparse
    cases hparse
    exact h.ids.sublist ((List.sublist_append_left _ _).map _)

theorem HasOrigins.store (h : s.HasOrigins p) {slots : SlotStore} {supply : Supply}
    (hread : s.ReadsFrom slots) (hsuffix : supply.suffix = s.supply.suffix)
    (htaken : supply.suffixesTaken = s.supply.suffixesTaken) :
    HasOrigins { s with slots := slots, supply := supply } p where
  project := h.project
  authored := h.authored
  scene := h.scene
  ids := h.ids.later hsuffix htaken.ge
  saved := h.saved_later (t := { s with slots := slots, supply := supply }) hread hsuffix htaken.ge

variable [Planar R] [AudioOutput R B]

theorem HasOrigins.begun (h : s.HasOrigins p) (dt : R) : (s.begun dt).HasOrigins p := by
  have hcopies : ∀ i ∈ (s.steps dt).flatMap (·.spawns), ∃ o ∈ p.objects, o.name = i.name := by
    intro i hi
    rcases List.mem_flatMap.1 hi with ⟨t, ht, hit⟩
    rcases List.mem_map.1 ht with ⟨j, _, rfl⟩
    exact (Instance.isCopy_of_step_spawns _ _ _ j i hit).known h.scene
  have hids := h.ids.nameAll hcopies
  have hlater := s.supply.nameAll_later ((s.steps dt).flatMap (·.spawns))
  refine ⟨h.project, h.authored, h.scene, ?_, ?_⟩
  · have hlive : (s.begun dt).roster.live.map (·.id) = s.roster.live.map (·.id) :=
      ids_of_becomes (live_begun s dt)
    have hspawns : (s.begun dt).roster.spawns =
        s.roster.spawns ++ (s.supply.nameAll ((s.steps dt).flatMap (·.spawns))).1 := rfl
    rw [List.map_append, hlive, hspawns, List.map_append, ← List.append_assoc, ← List.map_append]
    exact hids
  · exact h.saved_later (readsFrom_self s) hlater.1 hlater.2

variable [DecidableEq R]

/-- An action keeps origins apart. -/
theorem HasOrigins.perform (h : s.HasOrigins p) (binding : Option Binding) (dt : R) (a : Action R) :
    (perform binding dt s a).HasOrigins p := by
  have hf := follows_perform s binding dt a
  have ht := takes_perform s binding dt a
  refine ⟨hf.keeps.project.trans h.project, h.authored, ?_, ?_, ?_⟩
  · rw [hf.scene]
    exact h.scene
  · rw [List.map_append, ids_of_becomes hf.live, hf.spawns, List.map_append,
      ← List.append_assoc, ← List.map_append, List.flatMap_singleton]
    -- There is one new instance or none.
    cases hnew : (⟨s, binding, a⟩ : Deed R B).newcomer? with
    | none =>
        have hspawns : (⟨s, binding, a⟩ : Deed R B).spawns = [] := by rw [Deed.spawns, hnew]; rfl
        rw [hspawns] at ht ⊢
        rw [List.map_nil, List.append_nil]
        exact h.ids.later ht.suffix (by rw [ht.taken]; exact Nat.le_add_right _ _)
    | some i =>
        have hspawns : (⟨s, binding, a⟩ : Deed R B).spawns = [(s.supply.name i).1] := by
          rw [Deed.spawns, hnew]
          rfl
        rw [hspawns] at ht ⊢
        have hcopy := (Deed.isCopy_newcomer? hnew).known h.scene
        exact (h.ids.name hcopy).later ht.suffix (by rw [ht.taken]; exact Nat.le_refl _)
  · exact h.saved_later (readsFrom_perform s binding dt a) ht.suffix
      (by rw [ht.taken]; exact Nat.le_add_right _ _)

/-- Everything that can happen keeps origins apart. -/
theorem invariant_hasOrigins (p : Project R) :
    Invariant fun s : Session R B => s.HasOrigins p where
  congr := HasOrigins.congr
  activate := fun hscene h => h.activate hscene
  restore := fun hget hparse hscene h => h.restore hget hparse hscene
  settle := HasOrigins.settle
  store := fun hread hsuffix htaken h => h.store hread hsuffix htaken
  begun := fun dt h => h.begun dt
  perform := fun binding dt a h => h.perform binding dt a

/-- No two instances have the same id, live or waiting, between two calls and at any
    stage of a tick, whatever has been called: if the slots hold nothing but what the
    session has saved, the scenes have different ids, and the suffixes that have been
    taken are different ones. -/
theorem run_ids_distinct {config : Config R} {slots : SlotStore} {output : B} {supply : Supply}
    (hstart : start p config slots output supply = .ok s)
    (hslots : ∀ key text, slots.get key ≠ .ok (some text))
    (hscenes : ∀ scene ∈ p.scenes, (scene.objects.map (·.id)).Nodup)
    (calls : List (HostCall R B)) (dt : R) :
    ∀ t ∈ s.run calls :: (s.run calls).stages dt, t.supply.IsFresh p →
      ((t.roster.live ++ t.roster.spawns).map (·.id)).Nodup := by
  have h := (invariant_hasOrigins p).always (hasOrigins_start hstart hslots hscenes) calls dt
  exact fun t ht hfresh => (h t ht).ids.nodup hfresh

end Session

/-- A project with one object, of which a copy is made in every tick. -/
def Project.copying {R : Type} [Scalar R] : Project R :=
  let rock : Object R := ⟨"rock", "Rock", .zero, ⟨1, 1⟩, 1, 0, .empty, "", true, .empty, [], [],
    .sprite ⟨none, [], none⟩⟩
  let copy : Action R := ⟨"1", .create ⟨"Rock", "", "", ⟨.absolute, .zero, none, none⟩⟩⟩
  ⟨.initial, [⟨"main", "Main", [], [rock], [.event ⟨"always", "Always", none, [], [copy]⟩]⟩], [],
    .empty⟩

/-- Suffixes of no stroke, one stroke, two strokes and so on. -/
def Supply.strokes (taken : Nat) : Supply :=
  ⟨fun n => String.ofList (List.replicate n 'x'), fun _ => 0, taken, 0⟩

theorem Supply.isFresh_strokes (taken : Nat) :
    (strokes taken).IsFresh (.copying : Project Float) where
  different := by
    intro m n _ _ h
    have hlength := congrArg (fun s : String => s.toList.length) h
    simpa [strokes] using hlength
  words := by
    intro n _ h
    simp only [strokes, String.toList_ofList] at h
    exact absurd (List.eq_of_mem_replicate h) (by decide)
  unauthored := by
    -- The one authored id begins with another syllable.
    intro n _ o ho template ht h
    simp only [Project.objects, Project.copying, List.flatMap_cons, List.flatMap_nil,
      List.append_nil, List.mem_singleton] at ho ht
    subst ho ht
    have hfront := congrArg (fun s : String => s.toList.take 2) h
    simp [Instance.generatedId] at hfront

namespace Session

/-- Two copies that have been made one after the other. -/
theorem run_ids_distinct_copies :
    ∃ s : Session Float (SilentOutput Float),
      start .copying (.ofSettings .initial) (.memory .empty) .initial (.strokes 0) = .ok s ∧
        (s.run [.enter none, .tick 0, .tick 0]).roster.live.map (·.id) =
          ["rock", "runtime_Rock_", "runtime_Rock_x"] ∧
        (((s.run [.enter none, .tick 0, .tick 0]).roster.live ++
          (s.run [.enter none, .tick 0, .tick 0]).roster.spawns).map (·.id)).Nodup := by
  refine ⟨_, rfl, rfl, ?_⟩
  have hslots : ∀ key text, (SlotStore.memory .empty).get key ≠ .ok (some text) := by
    intro key text h
    cases h
  have hscenes : ∀ scene ∈ (Project.copying : Project Float).scenes,
      (scene.objects.map (·.id)).Nodup := by
    simp [Project.copying]
  exact run_ids_distinct rfl hslots hscenes [.enter none, .tick 0, .tick 0] 0 _
    List.mem_cons_self (Supply.isFresh_strokes 2)

end Session

end Playfield
