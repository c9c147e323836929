import Mathlib
import Playfield.Proofs.Instance.Evolves
import Playfield.Proofs.Session.Distinct
import Playfield.Proofs.Session.Idle
import Playfield.Proofs.Session.RoundTrip

/-!
# Properties That Last

What is true of every instance of a game, now and later.

Instances are copied from templates, change, are saved and are loaded again. A property
that copies have, that every change keeps, and that a load keeps when it fills empty
slots, is a property of all instances of a session at any time: of those that live, of
those that wait, and of those in the saves that the session can read
(`Session.Upholds`).

The saves are where this could fail. A slot can hold anything, and what is loaded from it
is not asked for more than to be a save. So the slots are required to hold what sessions
have left there, which need not have been sessions of the same project
(`Session.Written`). Such a save was written by a session of which the same is true, and
behind every save stands a finite number of others.

## Main definitions

* `Instance.Lasting`: A property of instances that lasts.
* `Session.Descends`: The live instances are what they have been, or changed by an action.
* `Session.Upholds`: All instances of a session have a property.
* `Session.Written`: A text that some session has left in a slot.

## Theorems

* `Session.descends_perform`: Where the instances come from that live after an action.
* `Session.livesOn_perform`: Actions let the live instances evolve.
* `Deed.isFreshCopy_newcomer?`: What they make are fresh copies.
* `Session.Upholds.perform`, `Session.Upholds.begun`: Actions and what moves by itself
  uphold what lasts.
* `Session.invariant_upholds`: So does everything else.
* `Session.Written.instances`: What lasts is true of the instances in written saves.
* `Session.upholds_run`: What lasts is true at any time.
-/

namespace Playfield

/-- A property of instances that lasts: copies of templates have it, an instance that
    evolves keeps it, and so does one whose empty slots are filled. -/
structure Instance.Lasting {R : Type} [Scalar R] (P : Instance R → Prop) : Prop where
  ofTemplate : ∀ o, P (.ofTemplate o)
  evolves : ∀ {i j : Instance R}, i.Evolves j → P i → P j
  ensureStates : ∀ {i : Instance R}, P i → P i.ensureStates

theorem Instance.Lasting.of_isFreshCopy {R : Type} [Scalar R] {P : Instance R → Prop}
    (hP : Lasting P) {scene : Scene R} {i : Instance R} (h : i.IsFreshCopy scene) : P i := by
  rcases h with ⟨o, _, hi⟩
  exact hP.evolves hi (hP.ofTemplate o)

theorem Session.evolves_withPicture {R B : Type} (s : Session R B) (source : String)
    (i : Instance R) : i.Evolves (s.withPicture source i).2 := by
  unfold withPicture
  split
  · exact Instance.Evolves.refl i
  · split
    · exact Instance.Evolves.refl i
    · next a ha =>
      refine Order.evolves_of_updateSprite? (fun p q hq => ?_) ha
      cases hq
      rfl

section Copies

variable {R B : Type} [Scalar R] [Planar R]

/-- What an action makes is a fresh copy of a template of the active scene. -/
theorem Deed.isFreshCopy_newcomer? {d : Deed R B} {i : Instance R} (h : d.newcomer? = some i) :
    i.IsFreshCopy d.session.scene := by
  rcases cases_newcomer? h with ⟨_, template, _, _, ht, rfl⟩ | ⟨c, j, _, hj, rfl⟩
  · exact Instance.isFreshCopy_of_template? ht rfl (Instance.evolves_of_eq rfl rfl rfl rfl)
  · obtain ⟨template, _, _, ht, hcreature⟩ := Session.exists_of_creature? hj
    have hcopy : j.IsFreshCopy d.session.scene := by
      rw [hcreature]
      exact Instance.isFreshCopy_of_template? ht rfl (Instance.evolves_of_eq rfl rfl rfl rfl)
    -- A picture of its own is no part of what is compared.
    exact hcopy.evolves (Session.name_withPicture _ _ _) (Session.evolves_withPicture _ _ _)

theorem Deed.isFreshCopy_spawns (d : Deed R B) : ∀ i ∈ d.spawns, i.IsFreshCopy d.session.scene := by
  intro i hi
  rw [spawns, Option.mem_toList, Option.map_eq_some_iff] at hi
  rcases hi with ⟨j, hj, rfl⟩
  exact (isFreshCopy_newcomer? hj).evolves rfl (Instance.evolves_of_eq rfl rfl rfl rfl)

end Copies

namespace Session

variable {R B : Type} {s t : Session R B}

/-! ## What lives after an action -/

/-- Every live instance of the later session has been one of the former. -/
def LivesOn (s t : Session R B) : Prop := ∀ j ∈ t.roster.live, ∃ i ∈ s.roster.live, i.Evolves j

section Actions

variable [Scalar R] [Numeral R] [Planar R]

/-- The change of one instance that an action asks for. -/
def orderOf? (s : Session R B) (binding : Option Binding) (a : Action R) : Option (Order R) :=
  match a.kind with
  | .object _ (.setSprite source) => some (.setPicture source)
  | .object _ e => s.order? binding e
  | _ => none

/-- Every live instance is at its place, and it is what it has been before an action or what
    the action has made of it. -/
def Descends (binding : Option Binding) (dt : R) (a : Action R) (s t : Session R B) : Prop :=
  List.Forall₂ (fun i j => j = i ∨
    ∃ order, s.orderOf? binding a = some order ∧ order.result? dt i = some j)
    s.roster.live t.roster.live

variable {binding : Option Binding} {dt : R} {a : Action R}

theorem descends_of_eq (h : t.roster.live = s.roster.live) : Descends binding dt a s t := by
  rw [Descends, h, List.forall₂_same]
  exact fun _ _ => .inl rfl

theorem Descends.cases_of_mem (h : Descends binding dt a s t) {j : Instance R}
    (hj : j ∈ t.roster.live) : j ∈ s.roster.live ∨
      ∃ i ∈ s.roster.live, ∃ order, s.orderOf? binding a = some order ∧
        order.result? dt i = some j := by
  rcases exists_of_forall₂ h hj with ⟨i, hi, rfl | ⟨order, horder, hij⟩⟩
  · exact .inl hi
  · exact .inr ⟨i, hi, order, horder, hij⟩

theorem descends_change? {id : String} {order : Order R} (horder : s.orderOf? binding a = some order)
    (h : s.change? id dt order = some t) : Descends binding dt a s t := by
  obtain ⟨k, hk, rfl⟩ := Option.map_eq_some_iff.1 h
  obtain ⟨i, hi, hk⟩ := Option.bind_eq_some_iff.1 hk
  exact Roster.forall₂_modifyFirst (fun _ => .inl rfl) s.roster.live hi
    (.inr ⟨order, horder, hk⟩)

theorem descends_affect? {id name target : String} {e : Effect R}
    (h : s.affect? binding dt id e = some t) :
    Descends binding dt ⟨name, .object target e⟩ s t := by
  cases e
  case destroy =>
    obtain ⟨i, -, rfl⟩ := Option.map_eq_some_iff.1 h
    exact descends_of_eq rfl
  case setSprite source =>
    obtain ⟨u, hu, rfl⟩ := Option.map_eq_some_iff.1 h
    exact descends_change? (t := u) rfl hu
  case fire bullet point =>
    obtain ⟨i, -, rfl⟩ := Option.map_eq_some_iff.1 h
    exact descends_of_eq rfl
  -- The other effects change one instance.
  all_goals
    simp only [affect?] at h
    obtain ⟨order, horder, hchange⟩ := Option.bind_eq_some_iff.1 h
    exact descends_change? horder hchange

variable [AudioOutput R B] [DecidableEq R]

/-- Where the instances come from that live after an action. -/
theorem descends_perform (s : Session R B) (binding : Option Binding) (dt : R) (a : Action R) :
    Descends binding dt a s (perform binding dt s a) := by
  rcases (alters_perform s binding dt a).live with hlive | ⟨id, f, hid, _⟩
  · exact descends_of_eq hlive
  · -- Only effects name an object.
    rcases a with ⟨name, kind⟩
    cases kind <;> simp only [Action.Kind.target?, Option.map_none, reduceCtorEq] at hid
    simp only [perform, affect_eq_affect?]
    cases haffect : s.affect? binding dt _ _ with
    | none => exact descends_of_eq rfl
    | some t => exact descends_affect? haffect

/-- Actions let the live instances evolve. -/
theorem livesOn_perform (s : Session R B) (binding : Option Binding) (dt : R) (a : Action R) :
    LivesOn s (perform binding dt s a) := by
  intro j hj
  rcases (descends_perform s binding dt a).cases_of_mem hj with hj | ⟨i, hi, _, _, hij⟩
  · exact ⟨j, hj, Instance.Evolves.refl j⟩
  · exact ⟨i, hi, Order.evolves_of_result? hij⟩

end Actions

/-! ## What is upheld -/

variable [Scalar R] [Numeral R] {P : Instance R → Prop}

/-- All instances of a session have a property: those that live, and those in each save
    that can be read. Those that wait are fresh copies. -/
structure Upholds (P : Instance R → Prop) (s : Session R B) : Prop where
  live : ∀ i ∈ s.roster.live, P i
  spawns : ∀ i ∈ s.roster.spawns, i.IsFreshCopy s.scene
  saved : ∀ key text, s.slots.get key = .ok (some text) → ∀ save : SaveState R,
    SaveState.codec.parse text = .ok save → ∀ i ∈ save.instances, P i

theorem Upholds.congr (h : s.Upholds P) (hst : s.SharesWorld t) : t.Upholds P where
  live := by rw [hst.roster]; exact h.live
  spawns := by rw [hst.roster, hst.scene]; exact h.spawns
  saved := by rw [hst.slots]; exact h.saved

theorem upholds_start {project : Project R} {config : Config R} {slots : SlotStore} {output : B}
    {supply : Supply} (h : start project config slots output supply = .ok s)
    (hslots : ∀ key text, slots.get key = .ok (some text) → ∀ save : SaveState R,
      SaveState.codec.parse text = .ok save → ∀ i ∈ save.instances, P i) : s.Upholds P := by
  have hnew := isNew_start h
  refine ⟨?_, ?_, ?_⟩
  · rw [hnew.roster]
    exact List.forall_mem_nil _
  · rw [hnew.roster]
    exact List.forall_mem_nil _
  · rw [hnew.slots]
    exact hslots

theorem Upholds.activate (hP : Instance.Lasting P) (h : s.Upholds P) (scene : Scene R) :
    (s.activate scene).Upholds P where
  live := List.forall_mem_map.2 fun o _ => hP.ofTemplate o
  spawns := List.forall_mem_nil _
  saved := h.saved

theorem Upholds.restore (hP : Instance.Lasting P) (h : s.Upholds P) {key text : String}
    {save : SaveState R} (hget : s.slots.get key = .ok (some text))
    (hparse : SaveState.codec.parse text = .ok save) (scene : Scene R) :
    (s.restore save scene).Upholds P where
  live := List.forall_mem_map.2 fun i hi => hP.ensureStates (h.saved key text hget save hparse i hi)
  spawns := List.forall_mem_nil _
  saved := h.saved

/-- What waits becomes live, and some of the others go. -/
theorem Upholds.settle (hP : Instance.Lasting P) (h : s.Upholds P) :
    Upholds P { s with roster := s.roster.applyPending } where
  live := List.forall_mem_append.2 ⟨fun i hi => h.live i (s.roster.survivors_sublist.subset hi),
    fun i hi => hP.of_isFreshCopy (h.spawns i hi)⟩
  spawns := List.forall_mem_nil _
  saved := h.saved

/-- The saves that can be read later on, if they could be read before or have been made
    since. -/
theorem Upholds.saved_later (h : s.Upholds P) (hread : s.ReadsFrom t.slots) :
    ∀ key text, t.slots.get key = .ok (some text) → ∀ save : SaveState R,
      SaveState.codec.parse text = .ok save → ∀ i ∈ save.instances, P i := by
  intro key text hget save hparse
  rcases hread key text hget with hold | ⟨time, hnew⟩
  · exact h.saved key text hold save hparse
  · -- A save that has been made holds the live instances.
    rw [hnew] at hparse
    cases hparse
    exact h.live

theorem Upholds.store (h : s.Upholds P) {slots : SlotStore} (supply : Supply)
    (hread : s.ReadsFrom slots) : Upholds P { s with slots := slots, supply := supply } where
  live := h.live
  spawns := h.spawns
  saved := h.saved_later (t := { s with slots := slots, supply := supply }) hread

variable [Planar R] [AudioOutput R B]

/-- What moves by itself evolves. -/
theorem Upholds.begun (hP : Instance.Lasting P) (h : s.Upholds P) (dt : R) :
    (s.begun dt).Upholds P := by
  refine ⟨?_, ?_, h.saved⟩
  · rw [map_live_begun, List.forall_mem_map]
    intro i hi
    have hstep := Instance.evolves_step s.scene s.input (elapsedTime dt) i
    exact hP.evolves ((hstep.trans (Instance.evolves_syncBar _ _ _)).trans
      (Instance.evolves_animate _ _)) (h.live i hi)
  · refine forall_spawns_begun (P := (·.IsFreshCopy s.scene)) ?_ ?_ h.spawns
    · exact fun i suffix hi => hi.evolves rfl (Instance.evolves_of_eq rfl rfl rfl rfl)
    · intro name template firer point ht
      exact Instance.isFreshCopy_of_template? ht rfl (Instance.evolves_of_eq rfl rfl rfl rfl)

variable [DecidableEq R]

theorem Upholds.perform (hP : Instance.Lasting P) (h : s.Upholds P) (binding : Option Binding)
    (dt : R) (a : Action R) : (perform binding dt s a).Upholds P := by
  have hf := follows_perform s binding dt a
  refine ⟨?_, ?_, h.saved_later (readsFrom_perform s binding dt a)⟩
  · intro j hj
    rcases livesOn_perform s binding dt a j hj with ⟨i, hi, hij⟩
    exact hP.evolves hij (h.live i hi)
  · rw [hf.spawns, hf.scene, List.flatMap_singleton, List.forall_mem_append]
    exact ⟨h.spawns, Deed.isFreshCopy_spawns _⟩

/-- Everything that can happen upholds what lasts. -/
theorem invariant_upholds (hP : Instance.Lasting P) :
    Invariant fun s : Session R B => s.Upholds P where
  congr := Upholds.congr
  activate := fun {_ scene} _ h => h.activate hP scene
  restore := fun {_ _ _ _ scene} hget hparse _ h => h.restore hP hget hparse scene
  settle := fun h => h.settle hP
  store := fun {_ _ supply} hread _ _ h => h.store supply hread
  begun := fun dt h => h.begun hP dt
  perform := fun binding dt a h => h.perform hP binding dt a

/-- A text that some session has left in a slot, between two calls or at a stage of a
    tick, when there was nothing in its slots at first but texts of this kind. The sessions
    can be of different projects and have different audio outputs. -/
inductive Written (R : Type) [Scalar R] [Numeral R] [Planar R] [DecidableEq R] : String → Prop
  | intro {B : Type} [AudioOutput R B] {project : Project R} {config : Config R}
      {slots : SlotStore} {output : B} {supply : Supply} {s t : Session R B}
      (hstart : start project config slots output supply = .ok s)
      (hslots : ∀ key text, slots.get key = .ok (some text) → Written R text)
      (calls : List (HostCall R B)) (dt : R) (ht : t ∈ s.run calls :: (s.run calls).stages dt)
      {key text : String} (hget : t.slots.get key = .ok (some text)) : Written R text

/-- What lasts is true of the instances in written saves. -/
theorem Written.instances (hP : Instance.Lasting P) {text : String} (h : Written R text) :
    ∀ save : SaveState R, SaveState.codec.parse text = .ok save → ∀ i ∈ save.instances, P i := by
  -- The texts that the session has begun with have been written before it.
  induction h with
  | @intro B _ project config slots output supply s t hstart hslots calls dt ht key text hget ih =>
      have hupholds := (invariant_upholds hP).always (upholds_start hstart ih) calls dt t ht
      exact hupholds.saved key text hget

/-- What lasts is true of all instances at any time, in every session that can be
    reached from slots that hold what sessions have written. -/
theorem upholds_run {project : Project R} {config : Config R} {slots : SlotStore} {output : B}
    {supply : Supply} (hP : Instance.Lasting P)
    (hstart : start project config slots output supply = .ok s)
    (hslots : ∀ key text, slots.get key = .ok (some text) → Written R text)
    (calls : List (HostCall R B)) (dt : R) :
    ∀ t ∈ s.run calls :: (s.run calls).stages dt, t.Upholds P := by
  have hbegin := upholds_start hstart fun key text hget => (hslots key text hget).instances hP
  exact (invariant_upholds hP).always hbegin calls dt

/-- What a session on empty slots leaves there has been written by it. -/
theorem written_of_empty {project : Project R} {config : Config R} {output : B} {supply : Supply}
    (hstart : start project config (.memory .empty) output supply = .ok s)
    (calls : List (HostCall R B)) {key text : String}
    (hget : (s.run calls).slots.get key = .ok (some text)) : Written R text := by
  refine .intro hstart (fun key text hfirst => ?_) calls 0 List.mem_cons_self hget
  cases hfirst

end Session

/-- A turning tower. -/
def Object.tower {R : Type} [Scalar R] : Object R :=
  ⟨"tower", "Tower", .zero, ⟨1, 1⟩, 1, 0, .empty, "Main", true, .empty, [],
    [.turret ⟨1, "Tower", "", false⟩, .button],
    .sprite ⟨none, [⟨"turn", "Turn", ["east", "west"], 1, true⟩], some "Turn"⟩⟩

/-- A project with one tower. -/
def Project.guarded {R : Type} [Scalar R] : Project R :=
  ⟨.initial, [⟨"main", "Main", [⟨"Main", true, ⟨1, 1⟩⟩], [.tower], []⟩], [], .empty⟩

/-- A session of that project on some slots that has not begun yet, without sound. -/
def Session.guarded (slots : SlotStore) : Session Float (SilentOutput Float) :=
  (Session.start .guarded (.ofSettings .initial) slots .initial
    ⟨fun _ => "", fun _ => 0, 0, 0⟩).toOption.get rfl

namespace Session

theorem start_guarded (slots : SlotStore) :
    start .guarded (.ofSettings .initial) slots SilentOutput.initial
      ⟨fun _ => "", fun _ => 0, 0, 0⟩ = .ok (guarded slots) := rfl

/-- The session after its first tick, with empty slots. -/
def guarding : Session Float (SilentOutput Float) :=
  (guarded (.memory .empty)).run [.enter none, .tick 1]

/-- The tower after that tick: it has turned, and its gun has cooled down. -/
def turned : Instance Float := { Instance.ofTemplate .tower with
  cursor := ⟨1, 0⟩
  states := { BehaviorStates.empty with turret := some (.turret (-1)) } }

theorem live_guarding : guarding.roster.live = [turned] := by decide +kernel

theorem isFinite_guarding : (guarding.snapshot guarding.supply.now.1).IsFinite where
  instances := by
    intro i hi
    have hlive : i ∈ guarding.roster.live := hi
    rw [live_guarding, List.mem_singleton] at hlive
    rw [hlive]
    refine ⟨⟨⟨by decide, by decide⟩, ⟨by decide, by decide⟩, by decide, by decide, ?_, ?_, ?_, ?_,
      ?_⟩, by decide, ?_⟩
    · exact List.forall_mem_nil _
    · exact List.forall_mem_nil _
    · exact List.forall_mem_nil _
    · exact List.forall_mem_cons.2 ⟨(by decide : Scalar.isFinite (1 : Float) = true),
        List.forall_mem_singleton.2 trivial⟩
    · exact List.forall_mem_singleton.2 (by decide)
    · intro k v h
      cases k <;> cases h
      exact (by decide : Scalar.isFinite (-1 : Float) = true)
  globals := List.forall_mem_nil _
  view := by
    refine ⟨⟨by decide +kernel, by decide +kernel⟩, by decide +kernel, ?_, ?_,
      ⟨by decide +kernel, by decide +kernel⟩⟩
    · intro b hb
      cases hb
    · intro g hg
      cases hg
  timers := List.forall_mem_nil _

/-- There are slots into which a session has saved the turned tower. -/
theorem exists_written_guarding : ∃ slots : SlotStore, ∃ text time,
    (∀ key text, slots.get key = .ok (some text) → Written Float text) ∧
      slots.get (guarding.slotKey "a") = .ok (some text) ∧
      SaveState.codec.parse text = .ok (guarding.snapshot time) := by
  have hempty : guarding.slots = .memory .empty := rfl
  have haccepted : (guarding.save "a").2 = .ok () := by
    rw [save_of_finite hempty isFinite_guarding]
  rcases get_of_save_ok hempty haccepted with ⟨text, slots, hslots, hget, hparse⟩
  have hcalls (s : Session Float (SilentOutput Float)) :
      ((s.run [.enter none, .tick 1]).save "a").1 = s.run [.enter none, .tick 1, .save "a"] := rfl
  refine ⟨.memory slots, text, _, fun key text hkey => ?_, congrArg Except.ok hget, hparse⟩
  rw [← hslots, guarding, hcalls] at hkey
  exact written_of_empty (start_guarded _) _ hkey

/-- A session on such slots can load it. -/
theorem load_guarded {slots : SlotStore} {text : String} {time : UInt64}
    (hget : slots.get (guarding.slotKey "a") = .ok (some text))
    (hparse : SaveState.codec.parse text = .ok (guarding.snapshot time)) :
    ((guarded slots).run [.enter none, .load "a"]).roster.live = [turned] := by
  -- Both sessions have the same project, in which the scene is found by its id.
  have hrest := (isAtRest_start (start_guarded (.memory .empty))).run [.enter none, .tick 1]
  have hload : ((guarded slots).run [.enter none]).load "a" = (_, .ok ()) :=
    load_of_parsed hget hparse hrest.regular.scene
  have hlive : ((guarded slots).run [.enter none, .load "a"]).roster.live =
      guarding.roster.live.map (·.ensureStates) :=
    congrArg (fun e => e.1.roster.live) hload
  rw [hlive, live_guarding]
  rfl

end Session

end Playfield
