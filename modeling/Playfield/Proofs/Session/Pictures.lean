import Mathlib
import Playfield.Proofs.Session.Distinct
import Playfield.Proofs.Session.Fetches
import Playfield.Proofs.Session.Finite

/-!
# Pictures That Are Drawn

Which pictures have been requested when they are drawn.

Pictures come into a game with the templates of the project, with the two kinds of
actions that request what they bring, and with saves. A save holds the pictures that its
instances have had when it was made. If the session has made it, these have been
requested then. But the slots may hold saves from before the session, in which there are
pictures that actions have set then, and a load requests nothing. So all pictures that
are drawn have been requested, but for those that the load of such a save has brought in
(`Session.drawn_requested`), and those are never decoded
(`Session.load_draws_unrequested`).

## Main definitions

* `SlotStore.Holds`: A save that can be read.
* `Session.loads`: The saves that calls load.
* `Session.Shows`: All pictures in a session are among some.
* `Session.BringsBack`: A picture of an older save that calls load.
* `Session.LeftOut`: A picture that may be drawn without having been requested.

## Theorems

* `Session.Shows.passed`, `Session.Shows.conclude`: Each part of a tick brings in no
  pictures but those that it requests or loads.
* `Session.Shows.call`, `Session.shows_run`: So do all calls.
* `Session.drawn_requested`: What is drawn has been requested.
* `Session.load_draws_unrequested`: What a load draws has not.
-/

namespace Playfield

/-- A save can be read in one of the slots. -/
def SlotStore.Holds {R : Type} [Scalar R] [Numeral R] (slots : SlotStore) (save : SaveState R) :
    Prop :=
  ∃ key text, slots.get key = .ok (some text) ∧ SaveState.codec.parse text = .ok save

/-- All pictures of the instances of a save are among some. -/
def SaveState.Within {R : Type} (K : String → Prop) (save : SaveState R) : Prop :=
  ∀ i ∈ save.instances, i.Within K

variable {R B : Type} [Scalar R] {O : SaveState R → Prop} {K : String → Prop}

theorem Deed.within_newcomer? [Planar R] {d : Deed R B} {i : Instance R}
    (h : d.newcomer? = some i)
    (hscene : ∀ o ∈ d.session.scene.objects, (Instance.ofTemplate o).Within K)
    (hK : ∀ p, ⟨.image, p⟩ ∈ d.fetches → K p) : i.Within K := by
  rcases d with ⟨s, binding, ⟨a, kind⟩⟩
  -- What is shot looks like its template. What is created may be given a picture of its own,
  -- which is requested then.
  rcases cases_newcomer? h with ⟨_, template, _, _, ht, rfl⟩ | ⟨c, j, hc, hj, rfl⟩
  · exact (hscene template (Scene.mem_of_template? ht)).congr rfl
  · cases hc
    have hcreature := hj
    obtain ⟨template, _, _, ht, rfl⟩ := Session.exists_of_creature? hj
    refine Session.within_withPicture ((hscene template (Scene.mem_of_template? ht)).congr rfl) ?_
    intro hsource hfetch
    refine hK c.sprite ?_
    simp only [Deed.fetches, if_neg hsource]
    rw [hcreature, Option.toList_some, List.flatMap_singleton]
    exact hfetch

/-- Registered are the pictures of all templates. -/
theorem Project.within_pictures {project : Project R} {scene : Scene R} {o : Object R}
    (hscene : scene ∈ project.scenes) (ho : o ∈ scene.objects) :
    (Instance.ofTemplate o).Within (· ∈ project.pictures.keys) := by
  intro p hp
  rw [Project.pictures, Names.mem_keys_foldl_add]
  exact .inr (List.mem_flatMap.2 ⟨scene, hscene, List.mem_flatMap.2 ⟨o, ho, hp⟩⟩)

namespace Session

variable [Numeral R] {s t : Session R B}

/-- A picture that is shown as missing has failed, as far as the registry knows. -/
theorem lookupSource_of_paint {i : Instance R} {p : String} (hp : i.picture? = some p)
    (hpaint : t.paint i = .placeholder false) : t.assets.lookupSource p = .failed := by
  have hstatus {decoded : Asset → Paint R} (hdecoded : ∀ a, decoded a ≠ .placeholder false)
      (h : t.paintPicture decoded i.picture? = .placeholder false) :
      t.assets.lookupSource p = .failed := by
    rw [hp] at h
    dsimp only [paintPicture] at h
    split at h
    · exact absurd h (hdecoded _)
    · cases h
    · assumption
  -- Only sprites can be missing; text and bars are always there.
  unfold paint at hpaint
  split at hpaint
  · exact hstatus (by simp) hpaint
  · exact hstatus (by simp) hpaint
  · cases hpaint
  · cases hpaint

/-- The save that a load of a slot takes, if it succeeds. -/
def loadable? (s : Session R B) (slot : String) : Option (SaveState R) :=
  match s.slots.get (s.slotKey slot) with
  | .ok (some text) =>
    match SaveState.codec.parse text with
    | .ok save => if (s.project.scene? save.scene).isSome then some save else none
    | .error _ => none
  | .ok none | .error _ => none

theorem loadable?_of_parsed {slot text : String} {save : SaveState R} {scene : Scene R}
    (hget : s.slots.get (s.slotKey slot) = .ok (some text))
    (hparse : SaveState.codec.parse text = .ok save)
    (hscene : s.project.scene? save.scene = some scene) : s.loadable? slot = some save := by
  unfold loadable?
  rw [hget]
  dsimp only
  rw [hparse]
  dsimp only
  rw [hscene, Option.isSome_some, if_pos rfl]

/-- All pictures in a session are among some: those of the templates, of the instances
    that live and that wait, and of the saves that can be read, apart from some saves. -/
structure Shows (O : SaveState R → Prop) (K : String → Prop) (s : Session R B) : Prop where
  templates : ∀ scene ∈ s.project.scenes, ∀ o ∈ scene.objects, (Instance.ofTemplate o).Within K
  scene : s.scene ∈ s.project.scenes
  live : ∀ i ∈ s.roster.live, i.Within K
  spawns : ∀ i ∈ s.roster.spawns, i.Within K
  saved : ∀ key text, s.slots.get key = .ok (some text) → ∀ save : SaveState R,
    SaveState.codec.parse text = .ok save → O save ∨ save.Within K

/-- Only project, scene, roster and slots matter. -/
theorem Shows.congr (h : s.Shows O K) (hproject : t.project = s.project)
    (hscene : t.scene = s.scene) (hroster : t.roster = s.roster) (hslots : t.slots = s.slots) :
    t.Shows O K where
  templates := by rw [hproject]; exact h.templates
  scene := by rw [hproject, hscene]; exact h.scene
  live := by rw [hroster]; exact h.live
  spawns := by rw [hroster]; exact h.spawns
  saved := by rw [hslots]; exact h.saved

theorem shows_start {project : Project R} {config : Config R} {slots : SlotStore} {output : B}
    {supply : Supply} (h : start project config slots output supply = .ok s)
    (hproject : ∀ scene ∈ project.scenes, ∀ o ∈ scene.objects, (Instance.ofTemplate o).Within K) :
    s.Shows slots.Holds K := by
  have hnew := isNew_start h
  rcases hnew.scene with ⟨rest, hscenes⟩
  refine ⟨by rwa [hnew.project], ?_, ?_, ?_, ?_⟩
  · rw [hnew.project, hscenes]
    exact List.mem_cons_self
  · rw [hnew.roster]
    exact List.forall_mem_nil _
  · rw [hnew.roster]
    exact List.forall_mem_nil _
  · intro key text hget save hparse
    rw [hnew.slots] at hget
    exact .inl ⟨key, text, hget, hparse⟩

section Ends

theorem Shows.activate (h : s.Shows O K) {scene : Scene R} (hscene : scene ∈ s.project.scenes) :
    (s.activate scene).Shows O K where
  templates := h.templates
  scene := hscene
  live := List.forall_mem_map.2 (h.templates scene hscene)
  spawns := List.forall_mem_nil _
  saved := h.saved

theorem Shows.enter (h : s.Shows O K) (id : Option String) : (s.enter id).1.Shows O K := by
  have hassets : s.registerAssets.Shows O K := by
    rcases exists_registerAssets s with ⟨assets, sounds, done, hr⟩
    rw [hr]
    exact h.congr rfl rfl rfl rfl
  cases hscene : s.registerAssets.findScene id with
  | error e =>
      rw [enter_of_error hscene]
      exact hassets
  | ok scene =>
      rw [enter_of_ok hscene]
      have hmem := List.mem_of_find?_eq_some (scene?_of_findScene hscene)
      exact (hassets.activate hmem).congr rfl rfl rfl rfl

/-- A save that is loaded brings its instances with their pictures. -/
theorem Shows.load (h : s.Shows O K) {slot : String}
    (hO : ∀ save ∈ s.loadable? slot, O save → save.Within K) : (s.load slot).1.Shows O K := by
  rcases load_cases s slot with ⟨e, hload⟩ | ⟨text, save, scene, hget, hparse, hscene, hload⟩
  · rwa [hload]
  · have hsave : save.Within K := (h.saved _ text hget save hparse).elim
      (hO save (loadable?_of_parsed hget hparse hscene)) id
    rw [hload]
    refine ⟨h.templates, List.mem_of_find?_eq_some hscene, ?_, List.forall_mem_nil _, h.saved⟩
    exact List.forall_mem_map.2 fun i hi => (hsave i hi).congr rfl

theorem Shows.conclude (h : s.Shows O K) (dt : R)
    (hO : ∀ save ∈ s.pendingLoad.bind s.loadable?, O save → save.Within K) :
    (conclude dt s).1.Shows O K := by
  rcases request_cases s with ⟨slot, hl, hload⟩ | ⟨hl, ⟨id, scene, hs, hscene⟩ | hs⟩
  · rw [hl, Option.bind_some] at hO
    rw [conclude_of_loaded _ hl hload]
    exact (h.load hO).congr rfl rfl rfl rfl
  · rw [conclude_of_changed _ hl hs hscene]
    exact (h.activate (List.mem_of_find?_eq_some hscene)).congr rfl rfl rfl rfl
  · rw [conclude_of_advanced _ hl hs]
    refine ⟨h.templates, h.scene, ?_, List.forall_mem_nil _, h.saved⟩
    -- What waits becomes live, and some of the others go.
    refine List.forall_mem_append.2 ⟨fun i hi => ?_, h.spawns⟩
    exact h.live i (s.roster.survivors_sublist.subset hi)

end Ends

/-- The saves that can be read later on, if they could be read before or have been made
    since. -/
theorem Shows.saved_later (h : s.Shows O K) (hread : s.ReadsFrom t.slots) :
    ∀ key text, t.slots.get key = .ok (some text) → ∀ save : SaveState R,
      SaveState.codec.parse text = .ok save → O save ∨ save.Within K := by
  intro key text hget save hparse
  rcases hread key text hget with hold | ⟨time, hnew⟩
  · exact h.saved key text hold save hparse
  · -- A save that has been made holds the live instances.
    rw [hnew] at hparse
    cases hparse
    exact .inr h.live

theorem Shows.clearSave (h : s.Shows O K) (slot : String) : (s.clearSave slot).1.Shows O K := by
  have hread := readsFrom_clearSave s slot
  rcases exists_clearSave s slot with ⟨store, hstore⟩
  rw [hstore] at hread ⊢
  exact ⟨h.templates, h.scene, h.live, h.spawns, h.saved_later hread⟩

theorem Shows.save [DecidableEq R] (h : s.Shows O K) (slot : String) :
    (s.save slot).1.Shows O K := by
  have hread := readsFrom_save s slot
  rcases exists_save s slot with ⟨store, hstore⟩
  rw [hstore] at hread ⊢
  exact ⟨h.templates, h.scene, h.live, h.spawns, h.saved_later hread⟩

variable [Planar R] [AudioOutput R B]

/-- What moves by itself keeps its pictures, and what it spawns has those of a template. -/
theorem Shows.begun (h : s.Shows O K) (dt : R) : (s.begun dt).Shows O K := by
  have hscene := h.templates s.scene h.scene
  refine ⟨h.templates, h.scene, ?_, ?_, h.saved⟩
  · rw [map_live_begun, List.forall_mem_map]
    intro i hi
    have hstep := Stepped.within_step hscene (h.live i hi) s.input (elapsedTime dt)
    exact (hstep.subject.syncBar _ _).animate _
  · refine forall_spawns_begun (fun _ _ hi => hi.congr rfl) ?_ h.spawns
    intro name template firer point ht
    exact (hscene template (Scene.mem_of_template? ht)).congr rfl

variable [DecidableEq R]

/-- An action brings in no pictures but those that it requests. -/
theorem Shows.perform (h : s.Shows O K) (binding : Option Binding) (dt : R) (a : Action R)
    (hK : ∀ p, ⟨.image, p⟩ ∈ Deed.fetches ⟨s, binding, a⟩ → K p) :
    (perform binding dt s a).Shows O K := by
  -- What becomes of roster, scene and slots is known from what an action does in general; only
  -- the pictures of the live instances depend on its requests.
  have hf := follows_perform s binding dt a
  have hproject := hf.keeps.project
  refine ⟨?_, ?_, (fetches_perform s binding dt a).live K hK h.live, ?_, ?_⟩
  · rw [hproject]
    exact h.templates
  · rw [hproject, hf.scene]
    exact h.scene
  · rw [hf.spawns, List.flatMap_singleton, List.forall_mem_append]
    refine ⟨h.spawns, fun i hi => ?_⟩
    rw [Deed.spawns, Option.mem_toList, Option.map_eq_some_iff] at hi
    rcases hi with ⟨j, hj, rfl⟩
    exact (Deed.within_newcomer? hj (h.templates s.scene h.scene) hK).congr rfl
  · exact h.saved_later (readsFrom_perform s binding dt a)

theorem Shows.passed (h : s.Shows O K) (dt : R)
    (hK : ∀ p, ⟨.image, p⟩ ∈ ((s.begun dt).deeds (elapsedTime dt)).flatMap Deed.fetches → K p) :
    (s.passed dt).Shows O K := by
  have haccount : Account fun (s : Session R B) (ds : List (Deed R B)) t =>
      (∀ p, ⟨.image, p⟩ ∈ ds.flatMap Deed.fetches → K p) → s.Shows O K → t.Shows O K := by
    refine ⟨fun _ _ hs => hs, fun h h' hds hs => ?_⟩
    rw [List.flatMap_append] at hds
    have hfirst := h (fun p hp => hds p (List.mem_append_left _ hp)) hs
    exact h' (fun p hp => hds p (List.mem_append_right _ hp)) hfirst
  refine runEvents_account haccount (fun t m _ ht => ht.congr rfl rfl rfl rfl) ?_ (s.begun dt) hK
    (h.begun dt)
  intro t binding a ha ht
  rw [List.flatMap_singleton] at ha
  exact ht.perform binding _ a ha

/-- The save that a tick loads, if it loads one. -/
def tickLoads (s : Session R B) (dt : R) : List (SaveState R) :=
  if s.idles dt then []
  else ((s.passed dt).pendingLoad.bind (s.passed dt).loadable?).toList

/-- The save that a call loads, if it loads one. -/
def callLoads (s : Session R B) : HostCall R B → List (SaveState R)
  | .tick dt => s.tickLoads dt
  | .load slot => (s.loadable? slot).toList
  | _ => []

/-- The saves that calls load. -/
def loads (s : Session R B) (calls : List (HostCall R B)) : List (SaveState R) :=
  traced call callLoads s calls

theorem Shows.tick (h : s.Shows O K) (dt : R) (hK : ∀ p, ⟨.image, p⟩ ∈ s.tickFetches dt → K p)
    (hO : ∀ save ∈ s.tickLoads dt, O save → save.Within K) : (s.tick dt).1.Shows O K := by
  unfold tickFetches at hK
  unfold tickLoads at hO
  rcases tick_cases s dt with ⟨_, input, count, htick⟩ | ⟨hplayed, htick⟩
  · rw [htick]
    exact h.congr rfl rfl rfl rfl
  · rw [if_neg hplayed] at hK hO
    rw [htick]
    exact (h.passed dt hK).conclude _ fun save hsave => hO save (Option.mem_toList.2 hsave)

/-- A call brings in no pictures but those that it requests or loads. -/
theorem Shows.call (h : s.Shows O K) {c : HostCall R B}
    (hK : ∀ p, ⟨.image, p⟩ ∈ s.callFetches c → K p)
    (hO : ∀ save ∈ s.callLoads c, O save → save.Within K) : (s.call c).Shows O K := by
  by_cases hc : c.isPassive = true
  · rcases exists_call_of_isPassive s hc with ⟨input, assets, mixer, popup, closed, hcall⟩
    rw [hcall]
    exact h.congr rfl rfl rfl rfl
  cases c
  case enter id => exact h.enter id
  case tick dt => exact h.tick dt hK hO
  case save slot => exact h.save slot
  case load slot => exact h.load fun save hsave => hO save (Option.mem_toList.2 hsave)
  case clearSave slot => exact h.clearSave slot
  all_goals exact absurd rfl hc

theorem Shows.run (h : s.Shows O K) {calls : List (HostCall R B)}
    (hK : ∀ p, ⟨.image, p⟩ ∈ s.fetches calls → K p)
    (hO : ∀ save ∈ s.loads calls, O save → save.Within K) : (s.run calls).Shows O K := by
  induction calls generalizing s with
  | nil => exact h
  | cons c calls ih =>
      have hfirst := h.call (fun p hp => hK p (List.mem_append_left _ hp))
        (fun save hsave => hO save (List.mem_append_left _ hsave))
      exact ih hfirst (fun p hp => hK p (List.mem_append_right _ hp))
        (fun save hsave => hO save (List.mem_append_right _ hsave))

/-- A picture of a save that calls load and that has been in the slots before. -/
def BringsBack (slots : SlotStore) (s : Session R B) (calls : List (HostCall R B)) (p : String) :
    Prop :=
  ∃ save ∈ s.loads calls, slots.Holds save ∧ ∃ i ∈ save.instances, p ∈ i.pictures

/-- A picture that may be shown without having been requested, because such a save holds
    it or because no scene has been entered yet. -/
def LeftOut (slots : SlotStore) (s : Session R B) (calls : List (HostCall R B)) (p : String) :
    Prop :=
  BringsBack slots s calls p ∨
    ((s.run calls).assetsRegistered = false ∧ p ∈ s.project.pictures.keys)

variable {project : Project R} {config : Config R} {slots : SlotStore} {output : B}
  {supply : Supply}

/-- Pictures come from templates, from older saves and from requests. -/
theorem shows_run (hstart : start project config slots output supply = .ok s)
    (calls : List (HostCall R B)) : (s.run calls).Shows slots.Holds fun p =>
      p ∈ s.project.pictures.keys ∨ BringsBack slots s calls p ∨ ⟨.image, p⟩ ∈ s.fetches calls := by
  rw [(isNew_start hstart).project]
  refine (shows_start hstart ?_).run ?_ ?_
  · exact fun scene hscene o ho p hp => .inl (Project.within_pictures hscene ho p hp)
  · exact fun p hp => .inr (.inr hp)
  · exact fun save hsave hold i hi p hp => .inr (.inl ⟨save, hsave, hold, i, hi, hp⟩)

/-- Once registered, the pictures of the project have been requested. -/
theorem fetched_of_registered (hstart : start project config slots output supply = .ok s)
    (calls : List (HostCall R B)) (hdone : (s.run calls).assetsRegistered = true) :
    ∀ p ∈ s.project.pictures.keys, ⟨.image, p⟩ ∈ s.fetches calls := by
  have hbefore : s.assetsRegistered = true →
      ∀ p ∈ s.project.pictures.keys, Fetch.mk .image p ∈ [] := by
    intro h
    rw [(isNew_start hstart).assetsRegistered] at h
    cases h
  have hafter := registered_run hbefore hdone
  rwa [(keeps_run s calls).project] at hafter

/-- What a live instance shows has been requested, or it has been left out. -/
theorem fetched_or_leftOut (hstart : start project config slots output supply = .ok s)
    (calls : List (HostCall R B)) {i : Instance R} (hi : i ∈ (s.run calls).roster.live)
    {p : String} (hp : i.picture? = some p) :
    ⟨.image, p⟩ ∈ s.fetches calls ∨ LeftOut slots s calls p := by
  rcases (shows_run hstart calls).live i hi p (Instance.mem_pictures_of_picture? hp) with
    htemplate | hback | hfetch
  · cases hdone : (s.run calls).assetsRegistered with
    | true => exact .inl (fetched_of_registered hstart calls hdone p htemplate)
    | false => exact .inr (.inr ⟨hdone, htemplate⟩)
  · exact .inr (.inl hback)
  · exact .inl hfetch

/-- What a live instance shows has been requested and is known, and it looks missing only
    if a decoder has failed, unless it has been left out: a load requests nothing. -/
theorem drawn_requested (hstart : start project config slots output supply = .ok s)
    (calls : List (HostCall R B)) (hdelivers : s.Delivers calls) :
    ∀ i ∈ (s.run calls).roster.live, ∀ p, i.picture? = some p →
      LeftOut slots s calls p ∨
        ⟨.image, p⟩ ∈ s.fetches calls ∧
          ((s.run calls).assets.status? (.of p)).isSome = true ∧
          ((s.run calls).paint i = .placeholder false →
            ∃ f ∈ s.fetches calls, AssetId.of f.source = .of p ∧
              AssetRegistry.Fails DataUrl.decode f) := by
  intro i hi p hp
  rcases fetched_or_leftOut hstart calls hi hp with hfetch | hleft
  · have haccounts := AssetRegistry.accounts_empty DataUrl.decode config.decodeMode
    rw [← (isNew_start hstart).assets] at haccounts
    have hrun := accounts_run haccounts hdelivers
    rw [List.nil_append] at hrun
    have hknown := (hrun.known (.of p)).2 ⟨⟨.image, p⟩, hfetch, rfl⟩
    refine .inr ⟨hfetch, hknown, fun hpaint => ?_⟩
    have hfails := hrun.fails hfetch (lookupSource_of_paint hp hpaint)
    exact hfails
  · exact .inl hleft

end Session

/-- An image that can be decoded. -/
def DataUrl.sheet : String := "data:image/png;base64,BBBB"

/-- A sprite without animations. -/
def Object.hero {R : Type} [Scalar R] (still : Option String) : Object R :=
  ⟨"hero", "Hero", .zero, ⟨1, 1⟩, 1, 0, .empty, "Main", true, .empty, [], [],
    .sprite ⟨still, [], none⟩⟩

/-- A project with one object without a picture, which is given one in every tick. -/
def Project.repainting {R : Type} [Scalar R] : Project R :=
  let repaint : Action R := ⟨"1", .object "hero" (.setSprite DataUrl.sheet)⟩
  ⟨.initial, [⟨"main", "Main", [⟨"Main", true, ⟨1, 1⟩⟩], [.hero none],
    [.event ⟨"always", "Always", none, [], [repaint]⟩]⟩], [], .empty⟩

/-- A session of that project on some slots that has not begun yet, without sound. -/
def Session.repainting (slots : SlotStore) : Session Float (SilentOutput Float) :=
  (Session.start .repainting (.ofSettings .initial) slots .initial
    ⟨fun _ => "", fun _ => 0, 0, 0⟩).toOption.get rfl

namespace Session

theorem start_repainting (slots : SlotStore) :
    start .repainting (.ofSettings .initial) slots SilentOutput.initial
      ⟨fun _ => "", fun _ => 0, 0, 0⟩ = .ok (repainting slots) := rfl

/-- The session after its first tick, with empty slots. -/
def repainted : Session Float (SilentOutput Float) :=
  (repainting (.memory .empty)).run [.enter none, .tick 0]

theorem live_repainted :
    repainted.roster.live = [.ofTemplate (.hero (some DataUrl.sheet))] := rfl

theorem picture?_hero :
    (Instance.ofTemplate (.hero (some DataUrl.sheet)) : Instance Float).picture? =
      some DataUrl.sheet := rfl

/-- A picture that an action has set has been requested. -/
theorem drawn_requested_repainting :
    ⟨.image, DataUrl.sheet⟩ ∈ (repainting (.memory .empty)).fetches [.enter none, .tick 0] := by
  have hdelivers : (repainting (.memory .empty)).Delivers [.enter none, .tick 0] := by
    refine ⟨fun d h => ?_, fun d h => ?_, trivial⟩
    · cases h
    · cases h
  have hlive : Instance.ofTemplate (.hero (some DataUrl.sheet)) ∈ repainted.roster.live := by
    rw [live_repainted]
    exact List.mem_singleton_self _
  rcases drawn_requested (start_repainting _) _ hdelivers _ hlive _ picture?_hero with
    (hback | hunregistered) | hrequested
  · -- There are no saves.
    rcases hback with ⟨save, _, ⟨key, text, hget, _⟩, _⟩
    cases hget
  · -- A scene has been entered.
    cases hunregistered.1
  · exact hrequested.1

end Session

/-- The picture can be decoded. -/
theorem DataUrl.not_fails_sheet : ¬ AssetRegistry.Fails DataUrl.decode ⟨.image, sheet⟩ := by
  rintro ⟨e, he⟩
  have hok (id : AssetId) : DataUrl.decode id .image sheet = .ok ⟨id, .image, "image/png", 3⟩ := rfl
  rw [hok] at he
  cases he

namespace Session

/-- All numbers of the session are finite, so it can be saved. -/
theorem isFinite_repainted : (repainted.snapshot repainted.supply.now.1).IsFinite where
  instances := by
    intro i hi
    have hlive : i ∈ repainted.roster.live := hi
    rw [live_repainted, List.mem_singleton] at hlive
    rw [hlive]
    refine ⟨⟨⟨by decide, by decide⟩, ⟨by decide, by decide⟩, by decide, by decide, ?_, ?_, ?_, ?_,
      ?_⟩, by decide, BehaviorStates.isFinite_empty⟩
    · exact List.forall_mem_nil _
    · exact List.forall_mem_nil _
    · exact List.forall_mem_nil _
    · exact List.forall_mem_nil _
    · exact List.forall_mem_nil _
  globals := List.forall_mem_nil _
  view := by
    refine ⟨⟨by decide +kernel, by decide +kernel⟩, by decide +kernel, ?_, ?_,
      ⟨by decide +kernel, by decide +kernel⟩⟩
    · intro b hb
      cases hb
    · intro g hg
      cases hg
  timers := List.forall_mem_nil _

/-- A session on slots into which that one has been saved can load it. -/
theorem load_repainted {slots : Dictionary String} {text : String} {time : UInt64}
    (hget : slots.get? (repainted.slotKey "a") = some text)
    (hparse : SaveState.codec.parse text = .ok (repainted.snapshot time)) :
    (repainting (.memory slots)).run [.enter none, .load "a"] =
      ((repainting (.memory slots)).run [.enter none]).restore (repainted.snapshot time)
        repainted.scene := by
  -- Both sessions have the same project, in which the scene is found by its id.
  have hrest := (isAtRest_start (start_repainting (.memory .empty))).run [.enter none, .tick 0]
  have hload : ((repainting (.memory slots)).run [.enter none]).load "a" = (_, .ok ()) :=
    load_of_parsed (congrArg Except.ok hget) hparse hrest.regular.scene
  exact congrArg Prod.fst hload

/-- A session shows a picture that an action of an earlier session has set before it has
    been saved. Nothing has been requested, so the picture looks missing, but it can be
    decoded. -/
theorem load_draws_unrequested :
    ∃ s t : Session Float (SilentOutput Float),
      start .repainting (.ofSettings .initial) (.memory .empty) .initial
        ⟨fun _ => "", fun _ => 0, 0, 0⟩ = .ok s ∧
      start .repainting (.ofSettings .initial) (s.run [.enter none, .tick 0, .save "a"]).slots
        .initial ⟨fun _ => "", fun _ => 0, 0, 0⟩ = .ok t ∧
      (∃ i ∈ (t.run [.enter none, .load "a"]).roster.live, i.picture? = some DataUrl.sheet) ∧
      (t.run [.enter none, .load "a"]).frame.drawables.map (·.paint) = [.placeholder false] ∧
      t.fetches [.enter none, .load "a"] = [] ∧
      ¬ AssetRegistry.Fails DataUrl.decode ⟨.image, DataUrl.sheet⟩ := by
  have hempty : repainted.slots = .memory .empty := rfl
  have haccepted : (repainted.save "a").2 = .ok () := by
    rw [save_of_finite hempty isFinite_repainted]
  rcases get_of_save_ok hempty haccepted with ⟨text, slots, hslots, hget, hparse⟩
  have hcalls (s : Session Float (SilentOutput Float)) :
      s.run [.enter none, .tick 0, .save "a"] = ((s.run [.enter none, .tick 0]).save "a").1 := rfl
  refine ⟨repainting (.memory .empty), repainting (.memory slots), start_repainting _, ?_, ?_, ?_,
    rfl, DataUrl.not_fails_sheet⟩
  · rw [hcalls, ← repainted, hslots]
    exact start_repainting _
  · rw [load_repainted hget hparse]
    exact ⟨.ofTemplate (.hero (some DataUrl.sheet)), List.mem_singleton_self _, picture?_hero⟩
  · rw [load_repainted hget hparse]
    rfl

end Session

end Playfield
