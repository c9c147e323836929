import Mathlib
import Playfield.Frame.Basic
import Playfield.Proofs.Instance.Gauges
import Playfield.Proofs.Project.Finite
import Playfield.Proofs.Session.Finite
import Playfield.Proofs.Session.Lasting

/-!
# Bars That Are Drawn

How full the bars are that a game draws.

Documents hold only finite numbers. So templates and saves bring bars that show numbers, and
the actions of a project set bars to numbers. What is left are the bars that are bound to a
variable. Variables are computed, and arithmetic on finite numbers can give infinities, and on
these what is no number. An infinite bar is empty or full. But a variable that holds no number
when a tick begins is shown as it is, and a bar that shows it is drawn with a ratio that is no
number either.

This is the only way: a bar whose ratio is not between zero and one is bound to a variable that
has held no number when some tick began (`Session.fill_of_drawn`). And it can be gone, because
nothing forbids to divide by zero (`Session.draws_beyond_full`).

## Main definitions

* `Session.MisreadsAt`, `Session.Misreads`: A bound bar is set to what is no number.
* `Session.Gauges`: All bars of a session show numbers, but for those with some bindings.

## Theorems

* `Scene.IsFinite.of_mem_activeEvents`: What events do in a project with finite numbers.
* `Session.Gauges.begun`, `Session.Gauges.passed`, `Session.Gauges.conclude`: The parts of a
  tick.
* `Session.Gauges.call`, `Session.gauges_run`: All calls.
* `Session.fill_of_drawn`: How full bars are drawn.
* `Session.fill_not_between`: A bar that is not drawn between empty and full.
-/

namespace Playfield

theorem Scene.IsFinite.isGauged_ofTemplate {scene : Scene Float} (h : scene.IsFinite)
    {K : BarReading → Prop} {o : Object Float} (ho : o ∈ scene.objects) :
    (Instance.ofTemplate o).IsGauged K :=
  Instance.isGauged_of_isFinite (h.objects o ho)

theorem Scene.IsFinite.of_mem_activeEvents {R : Type} [Scalar R] {scene : Scene R}
    (h : scene.IsFinite) {e : Event R} (he : e ∈ scene.activeEvents) : e.IsFinite := by
  rcases EventNode.mem_allEvents.1 ((EventNode.activeEvents_sublist _).subset he) with ⟨n, hn, he⟩
  exact h.events n hn e he

theorem Session.bar?_withPicture {R B : Type} (s : Session R B) (source : String)
    (i : Instance R) :
    (s.withPicture source i).2.object.appearance.bar? = i.object.appearance.bar? := by
  unfold withPicture
  split
  · rfl
  · split
    · rfl
    · next a ha => exact Appearance.bar?_of_updateSprite? ha

/-- Only an action that says so sets a bar. -/
theorem Session.kind_of_setBar {R B : Type} [Scalar R] [Numeral R] [Planar R] {s : Session R B}
    {binding : Option Binding} {a : Action R} {x : R}
    (h : s.orderOf? binding a = some (.setBar x)) : ∃ id, a.kind = .object id (.setBar x) := by
  rcases a with ⟨name, kind⟩
  cases kind
  case object id e =>
    cases e <;> simp only [orderOf?, order?, Option.map_eq_some_iff, Option.some.injEq,
      reduceCtorEq, and_false, exists_false] at h
    case setBar y =>
      cases h
      exact ⟨id, rfl⟩
  all_goals cases h

section

variable {B : Type} {K : BarReading → Prop}

/-- What an action makes looks like a template. -/
theorem Deed.isGauged_spawns {d : Deed Float B} (h : d.session.scene.IsFinite) :
    ∀ i ∈ d.spawns, i.IsGauged K := by
  intro i hi
  rw [spawns, Option.mem_toList, Option.map_eq_some_iff] at hi
  rcases hi with ⟨j, hj, rfl⟩
  refine Instance.IsGauged.congr (i := j) ?_ rfl
  rcases cases_newcomer? hj with ⟨_, template, _, _, ht, rfl⟩ | ⟨c, j, _, hcopy, rfl⟩
  · exact (h.isGauged_ofTemplate (Scene.mem_of_template? ht)).congr rfl
  · rcases Session.exists_of_creature? hcopy with ⟨template, _, _, ht, rfl⟩
    exact (h.isGauged_ofTemplate (Scene.mem_of_template? ht)).congr
      (Session.bar?_withPicture _ _ _)

end

namespace Session

section Misread

variable {R B : Type} [Scalar R] [Planar R] [Numeral R] [AudioOutput R B] [DecidableEq R]

/-- A tick is played that sets the bars that are bound to a variable to its value, and this
    value is no number. -/
def MisreadsAt (s : Session R B) (dt : R) (reading : BarReading) : Prop :=
  s.idles dt = false ∧
    ∃ v x, reading.Names (s.stepped dt) s.globals (some v) ∧ v.toNumber? = some x ∧
      Scalar.isNumber x = false

/-- Among some calls is such a tick. -/
def Misreads (s : Session R B) (calls : List (HostCall R B)) (reading : BarReading) : Prop :=
  ∃ before dt after, calls = before ++ .tick dt :: after ∧ (s.run before).MisreadsAt dt reading

variable {s : Session R B} {calls : List (HostCall R B)} {reading : BarReading}

theorem misreads_of_tick {dt : R} (h : s.MisreadsAt dt reading) :
    s.Misreads (.tick dt :: calls) reading := ⟨[], dt, calls, rfl, h⟩

theorem misreads_cons {c : HostCall R B} (h : (s.call c).Misreads calls reading) :
    s.Misreads (c :: calls) reading := by
  rcases h with ⟨before, dt, after, rfl, h⟩
  exact ⟨c :: before, dt, after, rfl, h⟩

end Misread

variable {B : Type} {s t : Session Float B} {K : BarReading → Prop}

/-- A variable that is shown as what is no number holds a value that counts as that. -/
theorem misreadsAt_of_reading? [AudioOutput Float B] {dt x : Float} {reading : BarReading}
    (hplayed : ¬ s.idles dt = true)
    (h : (s.stepped dt).reading? s.globals reading = some x) (hx : Scalar.isNumber x = false) :
    s.MisreadsAt dt reading := by
  rcases Roster.exists_names_of_reading? h with ⟨v, hnames, hshown⟩
  have hzero : Scalar.isNumber (0 : Float) = true := by decide
  refine ⟨Bool.eq_false_iff.2 hplayed, ?_⟩
  cases hshown with
  | number hv => exact ⟨_, x, hnames, hv, hx⟩
  | notNumeric hv => exact absurd hzero (Bool.eq_false_iff.1 hx)
  | missing => exact absurd hzero (Bool.eq_false_iff.1 hx)

/-- All bars of a session with finite templates show numbers, but for those with some
    bindings. -/
structure Gauges (K : BarReading → Prop) (s : Session Float B) : Prop where
  project : s.project.IsFinite
  scene : s.scene ∈ s.project.scenes
  live : ∀ i ∈ s.roster.live, i.IsGauged K
  spawns : ∀ i ∈ s.roster.spawns, i.IsGauged K

theorem Gauges.isFinite_scene (h : s.Gauges K) : s.scene.IsFinite :=
  h.project.scenes s.scene h.scene

/-- Only project, scene and roster matter. -/
theorem Gauges.congr (h : s.Gauges K) (hproject : t.project = s.project)
    (hscene : t.scene = s.scene) (hroster : t.roster = s.roster) : t.Gauges K where
  project := by rw [hproject]; exact h.project
  scene := by rw [hproject, hscene]; exact h.scene
  live := by rw [hroster]; exact h.live
  spawns := by rw [hroster]; exact h.spawns

theorem gauges_start {project : Project Float} {config : Config Float} {slots : SlotStore}
    {output : B} {supply : Supply} (h : start project config slots output supply = .ok s)
    (hproject : project.IsFinite) : s.Gauges K := by
  have hnew := isNew_start h
  rcases hnew.scene with ⟨rest, hscenes⟩
  refine ⟨by rwa [hnew.project], ?_, ?_, ?_⟩
  · rw [hnew.project, hscenes]
    exact List.mem_cons_self
  · rw [hnew.roster]
    exact List.forall_mem_nil _
  · rw [hnew.roster]
    exact List.forall_mem_nil _

section Ends

theorem Gauges.activate (h : s.Gauges K) {scene : Scene Float}
    (hscene : scene ∈ s.project.scenes) : (s.activate scene).Gauges K where
  project := h.project
  scene := hscene
  live := List.forall_mem_map.2 fun _ ho => (h.project.scenes scene hscene).isGauged_ofTemplate ho
  spawns := List.forall_mem_nil _

theorem Gauges.enter (h : s.Gauges K) (id : Option String) : (s.enter id).1.Gauges K := by
  have hassets : s.registerAssets.Gauges K := by
    rcases exists_registerAssets s with ⟨assets, sounds, done, hr⟩
    rw [hr]
    exact h.congr rfl rfl rfl
  cases hscene : s.registerAssets.findScene id with
  | error e =>
      rw [enter_of_error hscene]
      exact hassets
  | ok scene =>
      rw [enter_of_ok hscene]
      have hmem := List.mem_of_find?_eq_some (scene?_of_findScene hscene)
      exact (hassets.activate hmem).congr rfl rfl rfl

/-- A save that can be read is finite, so its bars show numbers. -/
theorem Gauges.load (h : s.Gauges K) (slot : String) : (s.load slot).1.Gauges K := by
  rcases load_cases s slot with ⟨e, hload⟩ | ⟨text, save, scene, hget, hparse, hscene, hload⟩
  · rwa [hload]
  · have hsave := SaveState.isFinite_of_parse hparse
    rw [hload]
    refine ⟨h.project, List.mem_of_find?_eq_some hscene, ?_, List.forall_mem_nil _⟩
    refine List.forall_mem_map.2 fun i hi => ?_
    exact (Instance.isGauged_of_isFinite (hsave.instances i hi).object).congr rfl

theorem Gauges.conclude (h : s.Gauges K) (dt : Float) : (conclude dt s).1.Gauges K := by
  rcases request_cases s with ⟨slot, hl, hload⟩ | ⟨hl, ⟨id, scene, hs, hscene⟩ | hs⟩
  · rw [conclude_of_loaded _ hl hload]
    exact (h.load slot).congr rfl rfl rfl
  · rw [conclude_of_changed _ hl hs hscene]
    exact (h.activate (List.mem_of_find?_eq_some hscene)).congr rfl rfl rfl
  · rw [conclude_of_advanced _ hl hs]
    refine ⟨h.project, h.scene, ?_, List.forall_mem_nil _⟩
    -- What waits becomes live, and some of the others go.
    refine List.forall_mem_append.2 ⟨fun i hi => ?_, h.spawns⟩
    exact h.live i (s.roster.survivors_sublist.subset hi)

end Ends

variable [AudioOutput Float B]

/-- Bars that are set when a tick begins show numbers where their variables do. -/
theorem Gauges.begun (h : s.Gauges K) {dt : Float} (hplayed : ¬ s.idles dt = true)
    (hK : ∀ reading, s.MisreadsAt dt reading → K reading) : (s.begun dt).Gauges K := by
  have hscene := h.isFinite_scene
  refine ⟨h.project, h.scene, ?_, ?_⟩
  · rw [map_live_begun, List.forall_mem_map]
    intro i hi
    have hstep := (h.live i hi).congr (Instance.bar?_step (elapsedTime dt) i s.scene s.input)
    have hsync := hstep.syncBar fun reading x hx hnumber =>
      hK reading (misreadsAt_of_reading? hplayed hx hnumber)
    exact hsync.congr (Instance.bar?_animate _ _)
  · refine forall_spawns_begun (fun _ _ hi => hi.congr rfl) ?_ h.spawns
    intro name template firer point ht
    exact (hscene.isGauged_ofTemplate (Scene.mem_of_template? ht)).congr rfl

/-- An action with finite numbers sets bars to numbers. -/
theorem Gauges.perform (h : s.Gauges K) (binding : Option Binding) (dt : Float)
    {a : Action Float} (ha : a.IsFinite) : (perform binding dt s a).Gauges K := by
  have hf := follows_perform s binding dt a
  have hproject := hf.keeps.project
  refine ⟨?_, ?_, ?_, ?_⟩
  · rw [hproject]
    exact h.project
  · rw [hproject, hf.scene]
    exact h.scene
  · intro j hj
    rcases (descends_perform s binding dt a).cases_of_mem hj with
      hj | ⟨i, hi, order, horder, hij⟩
    · exact h.live j hj
    · refine (h.live i hi).of_result? ?_ hij
      rintro x rfl
      rcases kind_of_setBar horder with ⟨id, hkind⟩
      rw [Action.IsFinite, hkind] at ha
      exact Double.isNumber_of_isFinite ha
  · rw [hf.spawns, List.flatMap_singleton, List.forall_mem_append]
    exact ⟨h.spawns, Deed.isGauged_spawns h.isFinite_scene⟩

theorem Gauges.passed (h : s.Gauges K) {dt : Float} (hplayed : ¬ s.idles dt = true)
    (hK : ∀ reading, s.MisreadsAt dt reading → K reading) : (s.passed dt).Gauges K := by
  have hbegun := h.begun hplayed hK
  have haccount : Account fun (s : Session Float B) (ds : List (Deed Float B)) t =>
      (∀ d ∈ ds, d.action.IsFinite) → s.Gauges K → t.Gauges K := by
    refine ⟨fun _ _ hs => hs, fun h h' hds hs => ?_⟩
    rw [List.forall_mem_append] at hds
    exact h' hds.2 (h hds.1 hs)
  refine runEvents_account haccount (fun t m _ ht => ht.congr rfl rfl rfl) ?_ (s.begun dt) ?_ hbegun
  · intro t binding a ha ht
    exact ht.perform binding _ (ha _ (List.mem_singleton_self _))
  · -- What is done are actions of the project.
    intro d hd
    rcases exists_event_of_mem_deeds hd with ⟨e, he, ha⟩
    exact (hbegun.isFinite_scene.of_mem_activeEvents he).actions _ ha

theorem Gauges.tick (h : s.Gauges K) {dt : Float}
    (hK : ∀ reading, s.MisreadsAt dt reading → K reading) : (s.tick dt).1.Gauges K := by
  rcases tick_cases s dt with ⟨_, input, count, htick⟩ | ⟨hplayed, htick⟩
  · rw [htick]
    exact h.congr rfl rfl rfl
  · rw [htick]
    exact (h.passed hplayed hK).conclude _

theorem Gauges.call (h : s.Gauges K) {c : HostCall Float B}
    (hK : ∀ dt reading, c = .tick dt → s.MisreadsAt dt reading → K reading) :
    (s.call c).Gauges K := by
  by_cases hc : c.isPassive = true
  · rcases exists_call_of_isPassive s hc with ⟨input, assets, mixer, popup, closed, hcall⟩
    rw [hcall]
    exact h.congr rfl rfl rfl
  cases c
  case enter id => exact h.enter id
  case tick dt => exact h.tick fun reading => hK dt reading rfl
  case load slot => exact h.load slot
  case save slot =>
    rcases exists_save s slot with ⟨store, hstore⟩
    rw [Session.call, hstore]
    exact h.congr rfl rfl rfl
  case clearSave slot =>
    rcases exists_clearSave s slot with ⟨store, hstore⟩
    rw [Session.call, hstore]
    exact h.congr rfl rfl rfl
  all_goals exact absurd rfl hc

theorem Gauges.run (h : s.Gauges K) {calls : List (HostCall Float B)}
    (hK : ∀ reading, s.Misreads calls reading → K reading) : (s.run calls).Gauges K := by
  induction calls generalizing s with
  | nil => exact h
  | cons c calls ih =>
      have hfirst : (s.call c).Gauges K := by
        refine h.call ?_
        rintro dt reading rfl hreads
        exact hK reading (misreads_of_tick hreads)
      exact ih hfirst fun reading hreads => hK reading (misreads_cons hreads)

/-! ## What is drawn -/

omit [AudioOutput Float B] in
theorem paintPicture_ne_bar {decoded : Asset → Paint Float} {fill : Float} {label : Option String}
    {b : Bar Float} (h : ∀ a, decoded a ≠ .bar fill label b) (picture : Option String) :
    s.paintPicture decoded picture ≠ .bar fill label b := by
  unfold paintPicture
  split
  · nofun
  · split
    · exact h _
    · nofun
    · nofun

omit [AudioOutput Float B] in
/-- Bars that are drawn are bars of live instances. -/
theorem exists_bar_of_mem_frame {d : Drawable Float} (hd : d ∈ s.frame.drawables) {fill : Float}
    {label : Option String} {b : Bar Float} (hpaint : d.paint = .bar fill label b) :
    ∃ i ∈ s.roster.live, i.object.appearance.bar? = some b ∧ fill = b.fillRatio := by
  simp only [frame, List.mem_flatMap, List.mem_map] at hd
  rcases hd with ⟨l, _, i, hi, rfl⟩
  refine ⟨i, (List.mem_filter.1 hi).1, ?_⟩
  have hpaint : s.paint i = .bar fill label b := hpaint
  unfold paint at hpaint
  split at hpaint
  · exact absurd hpaint (paintPicture_ne_bar (by simp) _)
  · exact absurd hpaint (paintPicture_ne_bar (by simp) _)
  · cases hpaint
  · next c hc =>
    cases hpaint
    exact ⟨Appearance.bar?_eq_some_iff.2 hc, rfl⟩

variable {project : Project Float} {config : Config Float} {slots : SlotStore} {output : B}
  {supply : Supply}

/-- In every session of a project with finite numbers the ratio of a bar that is drawn is between
    zero and one, or it is no number. It is between zero and one exactly if the bar can hold
    nothing or shows a number. A bar that shows no number is bound to a variable, and when some
    tick began this variable has held no number. -/
theorem fill_of_drawn (hproject : project.IsFinite)
    (hstart : start project config slots output supply = .ok s)
    (calls : List (HostCall Float B)) :
    ∀ d ∈ (s.run calls).frame.drawables, ∀ fill label b, d.paint = .bar fill label b →
      (Scalar.isNumber fill = true ↔ 0 ≤ fill ∧ fill ≤ 1) ∧
      (0 ≤ fill ∧ fill ≤ 1 ↔ b.most ≤ 0 ∨ Scalar.isNumber b.current = true) ∧
      (Scalar.isNumber b.current = false →
        ∃ reading, b.reading = some reading ∧ s.Misreads calls reading) := by
  intro d hd fill label b hpaint
  have hgauges : (s.run calls).Gauges (s.Misreads calls) :=
    (gauges_start hstart hproject).run fun _ h => h
  rcases exists_bar_of_mem_frame hd hpaint with ⟨i, hi, hb, rfl⟩
  have hgauged := hgauges.live i hi b hb
  refine ⟨b.isNumber_fillRatio_iff, Bar.fillRatio_mem_iff hgauged.most, fun hnone => ?_⟩
  exact hgauged.current.resolve_left (Bool.eq_false_iff.1 hnone)

end Session

/-- A bar that is bound to a variable. -/
def Object.level : Object Float :=
  ⟨"level", "Level", .zero, ⟨1, 1⟩, 1, 0, .empty, "Main", true, .empty, [], [],
    .bar ⟨100, 0, some ⟨.globalVariable, "hp", none⟩, "", "", "", 0, false, "", "", 1⟩⟩

/-- A project with that bar, in which nothing is divided by nothing in every tick. -/
def Project.draining : Project Float :=
  let drain : Action Float := ⟨"1", .changeGlobal "hp" .div (.number 0)⟩
  ⟨.initial, [⟨"main", "Main", [⟨"Main", true, ⟨1, 1⟩⟩], [.level],
    [.event ⟨"always", "Always", none, [], [drain]⟩]⟩], [], .ofList [("hp", .number 0)]⟩

theorem Project.isFinite_draining : draining.IsFinite where
  resolution := ⟨by decide, by decide⟩
  scenes := by
    refine List.forall_mem_singleton.2 ⟨List.forall_mem_singleton.2 ⟨by decide, by decide⟩, ?_, ?_⟩
    · refine List.forall_mem_singleton.2 ⟨⟨by decide, by decide⟩, ⟨by decide, by decide⟩, by decide,
        by decide, ?_, ?_, ?_, ?_, ⟨by decide, by decide, by decide, by decide⟩⟩
      all_goals exact List.forall_mem_nil _
    · refine List.forall_mem_singleton.2 (List.forall_mem_singleton.2 ⟨?_, ?_⟩)
      · exact List.forall_mem_nil _
      · exact List.forall_mem_singleton.2 (by decide : (0 : Float).isFinite = true)
  sounds := List.forall_mem_nil _
  globals := List.forall_mem_singleton.2 (by decide : (0 : Float).isFinite = true)

namespace Session

/-- A session of that project, without slots and without sound. -/
def draining : Session Float (SilentOutput Float) :=
  (start .draining (.ofSettings .initial) (.memory .empty) .initial
    ⟨fun _ => "", fun _ => 0, 0, 0⟩).toOption.get rfl

theorem start_draining : start .draining (.ofSettings .initial) (.memory .empty)
    SilentOutput.initial ⟨fun _ => "", fun _ => 0, 0, 0⟩ = .ok draining := rfl

/-- The session after two ticks. The first one divides, and the second one shows the result. -/
def drained : Session Float (SilentOutput Float) :=
  draining.run [.enter none, .tick 0.1, .tick 0.1]

/-- What becomes of the bar. -/
def drainedBar : Bar Float :=
  ⟨100, 0 / 0, some ⟨.globalVariable, "hp", none⟩, "", "", "", 0, false, "", "", 1⟩

theorem isNumber_drainedBar : Scalar.isNumber drainedBar.current = false := by decide

/-- It is drawn. -/
theorem exists_mem_frame_drained : ∃ d ∈ drained.frame.drawables,
    d.paint = .bar drainedBar.fillRatio none drainedBar := by
  have hpaints : drained.frame.drawables.map (·.paint) =
      [.bar drainedBar.fillRatio none drainedBar] := rfl
  exact List.mem_map.1 (hpaints ▸ List.mem_singleton_self _)

/-- Its variable is misread. -/
theorem fill_of_drawn_drained : Project.draining.IsFinite ∧
    ∃ reading, drainedBar.reading = some reading ∧
      draining.Misreads [.enter none, .tick 0.1, .tick 0.1] reading := by
  rcases exists_mem_frame_drained with ⟨d, hd, hpaint⟩
  have hfill := fill_of_drawn Project.isFinite_draining start_draining
    [.enter none, .tick 0.1, .tick 0.1] d hd _ _ _ hpaint
  exact ⟨Project.isFinite_draining, hfill.2.2 isNumber_drainedBar⟩

/-- A bar of a project with finite numbers that is not drawn between empty and full. -/
theorem fill_not_between : Project.draining.IsFinite ∧
    start .draining (.ofSettings .initial) (.memory .empty) SilentOutput.initial
      ⟨fun _ => "", fun _ => 0, 0, 0⟩ = .ok draining ∧
    ∃ d ∈ (draining.run [.enter none, .tick 0.1, .tick 0.1]).frame.drawables,
      ∃ fill label b, d.paint = .bar fill label b ∧ ¬ (0 ≤ fill ∧ fill ≤ 1) := by
  rcases exists_mem_frame_drained with ⟨d, hd, hpaint⟩
  refine ⟨Project.isFinite_draining, rfl, d, hd, _, _, _, hpaint, ?_⟩
  decide +kernel

end Session

end Playfield
