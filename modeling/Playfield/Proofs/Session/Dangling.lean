import Mathlib
import Playfield.Proofs.Session.History
import Playfield.Proofs.Session.Rounds

/-!
# Dangling Conditions

Conditions about objects that are not there.

An author can name objects that do not live, and then a condition is false. Which ids are live is
found out when the condition is reached, but it could be found out as well before the tick: while
the events run, the ids of the live instances stay as they are, and so do the scene and what the
input remembers (`Session.Alike`).

It is different with the click. A click is on a live instance, but what is remembered of it is an
id, and before the next tick the host can enter a scene or load a save. Other instances are live
then, and the click is not forgotten. So a condition on a click can hold although nothing of its id
is live. There is only one way to come to this (`Session.Outlives`). The instance was live and had
been clicked when a call replaced it, and since then its id has been remembered, with nothing of it
being live.

There is one more exception, but it is meant to be one. Whether an animation is not playing is asked
the other way round, and is true of nothing. Going through a group is no question. A group that
dangles is not gone through.

## Main definitions

* `HostCall.replaces`: Calls that put other instances in the place of the live ones.
* `Session.Alike`: Sessions in which the same conditions dangle.
* `Session.Dangles`: A condition names an id that nothing live stands for.
* `Session.Outlives`: A clicked id has outlived its instance.

## Theorems

* `Session.holds_of_dangles`: Which dangling conditions hold.
* `Session.clicked_call`: A call remembers a click as before, or it is on a live instance.
* `Session.outlives_iff`: An id is remembered and not live if and only if it outlives its instance.
* `Session.mem_tickHistory`: What the conditions of a tick find is what the tick has found.
* `Session.dangling_holds_iff`: Dangling conditions do not hold, with two exceptions.
-/

namespace Playfield

/-- A call that puts other instances in the place of the live ones, if it succeeds. -/
def HostCall.replaces {R B : Type} : HostCall R B → Bool
  | .enter _ | .load _ => true
  | .input _ | .pointer _ | .click _ | .dismissPopup | .tick _ | .save _ | .clearSave _
  | .teardown | .decoded _ | .played _ => false

theorem Binding.resolve_of_not_binds {b : Option Binding} {id : String}
    (h : binds b id = false) : resolve b id = id := by
  cases b with
  | none => rfl
  | some b =>
      have hne : b.id ≠ id := by simpa [binds] using h
      exact if_neg hne

theorem Roster.get?_eq_none_iff {R : Type} {r : Roster R} {id : String} :
    r.get? id = none ↔ ∀ l ∈ r.labels, l.1 ≠ id := by
  simp [get?, labels]

namespace Session

variable {R B : Type}

/-- An id of a condition stands for nothing live. -/
def IsGone (s : Session R B) (b : Option Binding) (id : String) : Prop :=
  s.roster.get? (Binding.resolve b id) = none

/-- The same ids live in the same scene, and the same is remembered of the input. -/
structure Alike (s t : Session R B) : Prop where
  labels : t.roster.labels = s.roster.labels
  scene : t.scene = s.scene
  input : t.input = s.input

theorem Alike.refl (s : Session R B) : Alike s s := ⟨rfl, rfl, rfl⟩

theorem Alike.trans {s t u : Session R B} (hl : Alike s t) (hr : Alike t u) : Alike s u :=
  ⟨hr.labels.trans hl.labels, hr.scene.trans hl.scene, hr.input.trans hl.input⟩

/-- A condition names an id that stands for nothing live. Where an id stands for a group, the
    scene has no template of it either. -/
inductive Dangles (s : Session R B) (b : Option Binding) : Condition.Kind R → Prop
  | object {id : String} {t : ObjectTest R} : s.IsGone b id → Dangles s b (.object id t)
  | clicked {id : String} : s.IsGone b id → Dangles s b (.clicked id)
  | distanceLeft {id id' : String} {op : Comparison} {x : R} :
    s.IsGone b id → Dangles s b (.distance id id' op x)
  | distanceRight {id id' : String} {op : Comparison} {x : R} :
    s.IsGone b id' → Dangles s b (.distance id id' op x)
  | groupSize {id : String} {op : Comparison} {x : R} : s.IsGone b id →
    s.scene.object? (Binding.resolve b id) = none → Dangles s b (.groupSize id op x)
  /-- In a collision a bound id stands for the bound instance. -/
  | collisionLeft {id id' : String} : s.IsGone b id →
    (Binding.binds b id = true ∨ s.scene.object? id = none) → Dangles s b (.collision id id')
  | collisionRight {id id' : String} : s.IsGone b id' →
    (Binding.binds b id' = true ∨ s.scene.object? id' = none) → Dangles s b (.collision id id')

section Answers

variable {s t : Session R B} {b : Option Binding}

theorem Dangles.congr {kind : Condition.Kind R} (h : s.Dangles b kind) (halike : Alike s t) :
    t.Dangles b kind := by
  have hscene := halike.scene
  have hgone {id : String} (hid : s.IsGone b id) : t.IsGone b id := by
    unfold IsGone at hid ⊢
    rwa [Roster.get?_eq_none_iff, halike.labels, ← Roster.get?_eq_none_iff]
  cases h with
  | object h => exact .object (hgone h)
  | clicked h => exact .clicked (hgone h)
  | distanceLeft h => exact .distanceLeft (hgone h)
  | distanceRight h => exact .distanceRight (hgone h)
  | groupSize h ht => exact .groupSize (hgone h) (by rwa [hscene])
  | collisionLeft h ht => exact .collisionLeft (hgone h) (by rwa [hscene])
  | collisionRight h ht => exact .collisionRight (hgone h) (by rwa [hscene])

theorem group?_eq_none {id : String} (h : s.roster.get? id = none)
    (ht : s.scene.object? id = none) : s.group? id = none := by
  rw [group?, h, ht]
  rfl

theorem side_eq_nil {id : String} (h : s.IsGone b id)
    (ht : Binding.binds b id = true ∨ s.scene.object? id = none) : s.side b id = [] := by
  unfold side
  by_cases hb : Binding.binds b id = true
  · rw [if_pos hb, h]
    rfl
  · rw [if_neg hb, members]
    rw [IsGone, Binding.resolve_of_not_binds (Bool.eq_false_iff.2 hb)] at h
    rw [group?_eq_none h (ht.resolve_left hb)]

variable [Scalar R] [Numeral R]

/-- Of nothing only an inverted question about an animation is true. -/
theorem test_none_iff {t : ObjectTest R} :
    s.test none t = true ↔ ∃ animation, t = .playing animation true := by
  cases t <;> simp [test]

variable [Planar R] {event : String} {c : Condition R}

/-- A dangling condition holds if it asks whether an animation is not playing, or for a click that
    is remembered. -/
theorem holds_of_dangles (h : s.Dangles b c.kind) :
    (s.holds event b c).1 = true ↔
      (∃ id animation, c.kind = .object id (.playing animation true)) ∨
        ∃ id, c.kind = .clicked id ∧ s.input.clicked = some (Binding.resolve b id) := by
  rcases c with ⟨name, kind⟩
  cases h with
  | object hgone =>
      rw [IsGone] at hgone
      simp [holds, hgone, test_none_iff]
  | clicked hgone => simp [holds]
  | distanceLeft hgone =>
      rw [IsGone] at hgone
      simp [holds, hgone]
  | distanceRight hgone =>
      rw [IsGone] at hgone
      simp [holds, hgone]
  | groupSize hgone ht => simp [holds, group?_eq_none hgone ht]
  | collisionLeft hgone ht => simp [holds, collides, side_eq_nil hgone ht]
  | collisionRight hgone ht => simp [holds, collides, side_eq_nil hgone ht]

end Answers

section Clicks

variable [Scalar R] {project : Project R} {config : Config R} {slots : SlotStore} {output : B}
  {supply : Supply} {s : Session R B}

/-- Nothing has been clicked at the beginning. -/
theorem clicked_start (h : start project config slots output supply = .ok s) :
    s.input.clicked = none := by
  unfold start at h
  split at h
  · cases h
  · cases h
    rfl

/-- What is seen at a place is live. -/
theorem get?_of_hitTest {place : Point R} {id : String} (h : s.hitTest place = some id) :
    s.roster.get? id ≠ none := by
  rcases List.exists_of_findSome?_eq_some h with ⟨layer, -, hlayer⟩
  rcases Option.map_eq_some_iff.1 hlayer with ⟨i, hi, rfl⟩
  have hlive : i ∈ s.roster.live :=
    List.mem_reverse.1 (List.mem_of_mem_filter (List.mem_of_find?_eq_some hi))
  intro hgone
  exact List.find?_eq_none.1 hgone i hlive (beq_self_eq_true i.id)

variable [Numeral R] [Planar R] [AudioOutput R B] [DecidableEq R]

/-- A tick forgets what has been clicked, unless the session is closed or the tick comes to no
    end. -/
theorem clicked_tick (s : Session R B) (dt : R) :
    ((s.tick dt).1.input = s.input ∧ (s.tick dt).1.roster = s.roster) ∨
      (s.tick dt).1.input.clicked = none := by
  cases h : s.idles dt with
  | false => exact .inr (by rw [tick_eq_conclude h]; rfl)
  | true =>
      obtain ⟨input, count, rfl | rfl, htick⟩ := tick_of_idles h
      · exact .inl (by rw [htick]; exact ⟨rfl, rfl⟩)
      · exact .inr (by rw [htick]; rfl)

/-- What is remembered of a click after a call has been remembered before, or it is live. The live
    instances stay the same, or they are all replaced. -/
theorem clicked_call (s : Session R B) (c : HostCall R B) :
    (s.call c).input.clicked = s.input.clicked ∧
        ((s.call c).roster = s.roster ∨ c.replaces = true) ∨
      ∀ id, (s.call c).input.clicked = some id → (s.call c).roster.get? id ≠ none := by
  cases c with
  | enter scene =>
      refine .inl ⟨?_, .inr rfl⟩
      rcases exists_registerAssets s with ⟨assets, sounds, done, hr⟩
      dsimp only [call]
      cases hscene : s.registerAssets.findScene scene with
      | error e =>
          rw [enter_of_error hscene, hr]
      | ok found =>
          rw [enter_of_ok hscene]
          dsimp only [activate]
          rw [hr]
  | load slot =>
      refine .inl ⟨?_, .inr rfl⟩
      rcases load_cases s slot with ⟨e, hload⟩ | ⟨text, save, scene, -, -, -, hload⟩
      · rw [call, hload]
      · rw [call, hload]
        rfl
  | click pixel =>
      dsimp only [call]
      unfold click
      split
      · exact .inl ⟨rfl, .inl rfl⟩
      · exact .inr fun id hid => get?_of_hitTest hid
  | tick dt =>
      rcases clicked_tick s dt with ⟨hinput, hroster⟩ | htick
      · exact .inl ⟨congrArg Input.clicked hinput, .inl hroster⟩
      · refine .inr fun id hid => ?_
        rw [call, htick] at hid
        cases hid
  | input e => exact .inl ⟨by cases e <;> rfl, .inl rfl⟩
  | save slot =>
      rcases exists_save s slot with ⟨store, hstore⟩
      rw [call, hstore]
      exact .inl ⟨rfl, .inl rfl⟩
  | clearSave slot =>
      rcases exists_clearSave s slot with ⟨store, hstore⟩
      rw [call, hstore]
      exact .inl ⟨rfl, .inl rfl⟩
  | teardown =>
      dsimp only [call]
      unfold teardown
      split
      · exact .inl ⟨rfl, .inl rfl⟩
      · exact .inl ⟨rfl, .inl rfl⟩
  | pointer pixel => exact .inl ⟨rfl, .inl rfl⟩
  | dismissPopup => exact .inl ⟨rfl, .inl rfl⟩
  | decoded d => exact .inl ⟨rfl, .inl rfl⟩
  | played output => exact .inl ⟨rfl, .inl rfl⟩

/-- An id has outlived its instance in a run. It was clicked and live when a call replaced the
    live instances, and since then it has been remembered and nothing of it has been live. -/
def Outlives (s : Session R B) (calls : List (HostCall R B)) (id : String) : Prop :=
  ∃ before c after, calls = before ++ c :: after ∧ c.replaces = true ∧
    (s.run before).input.clicked = some id ∧ (s.run before).roster.get? id ≠ none ∧
    ∀ later, later <+: after → (s.run (before ++ c :: later)).input.clicked = some id ∧
      (s.run (before ++ c :: later)).roster.get? id = none

/-- What is remembered and not live has outlived its instance. -/
theorem outlives_of_gone (hinit : s.input.clicked = none) (calls : List (HostCall R B))
    {id : String} (hclicked : (s.run calls).input.clicked = some id)
    (hgone : (s.run calls).roster.get? id = none) : s.Outlives calls id := by
  induction calls using List.reverseRecOn with
  | nil => cases hinit.symm.trans hclicked
  | append_singleton calls c ih =>
      have hlast : s.run (calls ++ [c]) = (s.run calls).call c := run_append s calls [c]
      rw [hlast] at hclicked hgone
      rcases clicked_call (s.run calls) c with ⟨hsame, hroster⟩ | hlive
      · rw [hsame] at hclicked
        by_cases hbefore : (s.run calls).roster.get? id = none
        · -- It has outlived its instance before the last call.
          rcases ih hclicked hbefore with ⟨before, c', after, rfl, hc', hb, hlive, hafter⟩
          refine ⟨before, c', after ++ [c], ?_, hc', hb, hlive, fun later hlater => ?_⟩
          · rw [List.append_assoc, List.cons_append]
          · rcases List.prefix_concat_iff.1 hlater with rfl | hlater
            · rw [← List.cons_append, ← List.append_assoc, hlast]
              exact ⟨hsame.trans hclicked, hgone⟩
            · exact hafter later hlater
        · -- It has been live until the last call, which replaces the live instances.
          rcases hroster with hroster | hreplaces
          · rw [hroster] at hgone
            exact absurd hgone hbefore
          · refine ⟨calls, c, [], rfl, hreplaces, hclicked, hbefore, fun later hlater => ?_⟩
            rw [List.prefix_nil.1 hlater, hlast]
            exact ⟨hsame.trans hclicked, hgone⟩
      · exact absurd hgone (hlive id hclicked)

/-- An id is remembered and not live if and only if it has outlived its instance. -/
theorem outlives_iff (hinit : s.input.clicked = none) (calls : List (HostCall R B))
    {id : String} : s.Outlives calls id ↔
      (s.run calls).input.clicked = some id ∧ (s.run calls).roster.get? id = none := by
  constructor
  · rintro ⟨before, c, after, rfl, -, -, -, hafter⟩
    exact hafter after (List.prefix_refl after)
  · rintro ⟨hclicked, hgone⟩
    exact outlives_of_gone hinit calls hclicked hgone

/-- Neither conditions nor actions change what a dangling condition depends on, so all conditions
    of the events find what the events have found. -/
theorem alike_of_mem_inquiries {dt : R} {q : Inquiry R B} (h : q ∈ s.inquiries dt) :
    Alike s q.session := by
  have haccount : Account fun (s : Session R B) (qs : List (Inquiry R B)) (t : Session R B) =>
      Alike s t ∧ ∀ q ∈ qs, Alike s q.session := by
    refine ⟨fun s => ⟨.refl s, List.forall_mem_nil _⟩, fun hl hr => ?_⟩
    refine ⟨hl.1.trans hr.1, fun q hq => ?_⟩
    rcases List.mem_append.1 hq with hq | hq
    · exact hl.2 q hq
    · exact hl.1.trans (hr.2 q hq)
  have hask (q : Inquiry R B) : Alike q.session { q.session with memory := q.memory } ∧
      ∀ p ∈ [q], Alike q.session p.session :=
    ⟨⟨rfl, rfl, rfl⟩, List.forall_mem_singleton.2 (.refl q.session)⟩
  have hperform (t : Session R B) (binding : Option Binding) (a : Action R) :
      Alike t (perform binding dt t a) ∧
        ∀ p ∈ ([] : List (Inquiry R B)), Alike t p.session := by
    have hlocal := actsLocally_perform t binding dt a
    exact ⟨⟨hlocal.labels, hlocal.scene, hlocal.input⟩, List.forall_mem_nil _⟩
  exact (runEvents_inquiries haccount hask hperform s).2 q h

/-- What the conditions of a tick find is what the tick has found. -/
theorem mem_tickHistory {dt : R} {q : Inquiry R B} (h : .inquiry q ∈ s.tickHistory dt) :
    Alike s q.session := by
  -- What moves by itself keeps its id.
  have hbegun : Alike s (s.begun dt) := ⟨Roster.labels_of_becomes (live_begun s dt), rfl, rfl⟩
  unfold tickHistory at h
  split at h
  · cases h
  · rcases List.mem_append.1 h with h | h
    · rcases List.mem_map.1 h with ⟨_, hq, ⟨⟩⟩
      exact hbegun.trans (alike_of_mem_inquiries hq)
    · -- A reset is no evaluation.
      unfold resetIf at h
      split at h
      · cases List.mem_singleton.1 h
      · cases h

/-- Nobody goes through a group of an id that stands for nothing live and for no template. -/
theorem runEvent_of_nobody {e : Event R} {id : String} (hid : e.GoesThrough id)
    (hgone : s.roster.get? id = none) (ht : s.scene.object? id = none) (dt : R) :
    runEvent dt s e = s ∧ eventInquiries dt s e = [] := by
  have hmembers : s.members id = [] := by
    rw [members, group?_eq_none hgone ht]
  refine ⟨(s.visits dt hid).nobody hmembers, ?_⟩
  rw [eventInquiries, hid.group?]
  dsimp only
  rw [hmembers, traced]

/-- A dangling condition does not hold in the events of the next tick. There are two exceptions.
    It asks whether an animation is not playing, or for a click on an id that has outlived its
    instance. Nothing is gone through in a dangling group. -/
theorem dangling_holds_iff (hstart : start project config slots output supply = .ok s)
    (calls : List (HostCall R B)) (dt : R) :
    (∀ q, .inquiry q ∈ (s.run calls).tickHistory dt →
      (s.run calls).Dangles q.binding q.condition.kind →
        (q.holds = true ↔
          (∃ id animation, q.condition.kind = .object id (.playing animation true)) ∨
            ∃ id, q.condition.kind = .clicked id ∧
              s.Outlives calls (Binding.resolve q.binding id))) ∧
    ∀ (t : Session R B) (e : Event R) (id : String), e.GoesThrough id →
      t.roster.get? id = none → t.scene.object? id = none →
        runEvent dt t e = t ∧ eventInquiries dt t e = [] := by
  refine ⟨fun q hq hdangles => ?_, fun t e id hid hgone ht => runEvent_of_nobody hid hgone ht dt⟩
  have halike := mem_tickHistory hq
  rw [Inquiry.holds, holds_of_dangles (hdangles.congr halike), halike.input]
  refine or_congr Iff.rfl (exists_congr fun id => and_congr_right fun hkind => ?_)
  -- The id of the click is one of those that stand for nothing live.
  rw [hkind] at hdangles
  cases hdangles with
  | clicked hgone => exact ((outlives_iff (clicked_start hstart) calls).trans
      (and_iff_left hgone)).symm

end Clicks

end Session

/-- A project with an object in its first scene, and with an event in the other scene that waits
    for a click on that object. -/
def Project.leaving {R : Type} [Scalar R] : Project R :=
  ⟨.initial, [⟨"main", "Main", [⟨"Main", true, ⟨1, 1⟩⟩],
    [⟨"hero", "Hero", .zero, ⟨1, 1⟩, 1, 0, .empty, "Main", true, .empty, [], [],
      .sprite ⟨none, [], none⟩⟩], []⟩,
    ⟨"other", "Other", [], [], [.event ⟨"always", "Always", none,
      [⟨"1", .clicked "hero"⟩], []⟩]⟩], [], .empty⟩

/-- A session of that project that has not begun yet. -/
def Session.leaving : Session Float (SilentOutput Float) :=
  (Session.start .leaving (.ofSettings .initial) (.memory .empty) .initial
    ⟨fun _ => "", fun _ => 0, 0, 0⟩).toOption.get rfl

namespace Session

theorem start_leaving : start .leaving (.ofSettings .initial) (.memory .empty)
    SilentOutput.initial ⟨fun _ => "", fun _ => 0, 0, 0⟩ = .ok leaving := rfl

/-- In the other scene the event asks for a click on an object that is not there. -/
theorem tickHistory_leaving {s : Session Float (SilentOutput Float)} (hclosed : s.closed = false)
    (hpopup : s.popup = none) (houtcome : (s.tick 0).2 = .advanced)
    (hevents : s.scene.activeEvents =
      [⟨"always", "Always", none, [⟨"1", .clicked "hero"⟩], []⟩]) :
    .inquiry ⟨s.begun 0, "always", none, ⟨"1", .clicked "hero"⟩⟩ ∈ s.tickHistory 0 := by
  rw [tickHistory_eq_singleton hclosed hpopup houtcome hevents rfl rfl]
  exact List.mem_singleton_self _

/-- Without a click the condition does not hold. -/
theorem dangling_holds_iff_leaving :
    let s := leaving.run [.enter (some "other")]
    ∃ q, .inquiry q ∈ s.tickHistory 0 ∧ s.Dangles q.binding q.condition.kind ∧
      q.condition.kind = .clicked "hero" ∧ q.holds = false := by
  intro s
  have hq := tickHistory_leaving (s := s) rfl rfl rfl rfl
  have hdangles : s.Dangles none (.clicked "hero") := .clicked rfl
  refine ⟨_, hq, hdangles, rfl, Bool.eq_false_iff.2 fun hholds => ?_⟩
  rcases ((dangling_holds_iff start_leaving _ 0).1 _ hq hdangles).1 hholds with
    ⟨id, animation, hkind⟩ | ⟨id, hkind, houtlives⟩
  · cases hkind
  · cases ((outlives_iff (clicked_start start_leaving) _).1 houtlives).1

/-- After a click on the object in the first scene it does. -/
theorem clicked_holds_dangling :
    ∃ s : Session Float (SilentOutput Float), start .leaving (.ofSettings .initial)
        (.memory .empty) .initial ⟨fun _ => "", fun _ => 0, 0, 0⟩ = .ok s ∧
      ∃ q, .inquiry q ∈ (s.run [.enter none, .click .zero, .enter (some "other")]).tickHistory 0 ∧
        (s.run [.enter none, .click .zero, .enter (some "other")]).Dangles q.binding
          q.condition.kind ∧
        q.condition.kind = .clicked "hero" ∧ q.holds = true := by
  refine ⟨leaving, start_leaving, ?_⟩
  generalize hs : leaving.run [.enter none, .click .zero, .enter (some "other")] = s
  have houtcome : (s.tick 0).2 = .advanced := by
    rw [← hs]
    decide +kernel
  have hclicked : s.input.clicked = some "hero" := by
    rw [← hs]
    decide +kernel
  have hq := tickHistory_leaving (hs ▸ rfl) (hs ▸ rfl) houtcome (hs ▸ rfl)
  have hdangles : s.Dangles none (.clicked "hero") := .clicked (hs ▸ rfl)
  exact ⟨_, hq, hdangles, rfl, (congrArg (· == some "hero") hclicked).trans rfl⟩

end Session

end Playfield
