import Mathlib
import Playfield.Proofs.Session.Deeds
import Playfield.Proofs.Session.Veil
import Playfield.Scalar.Double

/-!
# Loading Is All or Nothing

A load that fails has not been there.

A slot can be refused, be empty, hold no save, or hold one of a scene that the
project does not have. In each case the session is what it was. So a save that is
damaged costs a player nothing but the save.

A load that an action asks for is attempted at the end of the tick, when scene
changes, spawns and destructions are waiting. If it fails the tick has to end as
if nobody had asked. That is said by comparison with the same tick from whose
events every load has been struck (`Session.passedUnasked`). Nothing in a tick
looks at the request before its end, so a tick with the request is one without,
plus the request: all parts of a tick commute with `Session.unasked`, which
forgets it. For conditions and actions this is a case of `Session.veiled_perform`.

## Main definitions

* `Session.unasked`: The session without a request to load.
* `Event.withoutLoads`: An event that does not ask for a load.
* `Session.passedUnasked`: A tick up to its end from whose events all loads are
  struck.

## Theorems

* `Session.load_of_error`, `Session.load_cases`: A failed load changes nothing.
* `Session.unasked_perform`: Actions do not look at the request.
* `Session.passedUnasked_eq`: Without requests a tick is the same otherwise.
* `Session.load_all_or_nothing`: A failed load has not been there.
-/

namespace Playfield

/-- The action is no request to load. -/
def Action.asksNoLoad {R : Type} (a : Action R) : Bool :=
  match a.kind with
  | .load _ => false
  | _ => true

theorem Action.exists_load {R : Type} {a : Action R} (h : a.asksNoLoad = false) :
    ∃ slot, a.kind = .load slot := by
  unfold asksNoLoad at h
  split at h
  · next slot hslot => exact ⟨slot, hslot⟩
  · exact absurd h (by simp)

/-- The event without its requests to load. -/
def Event.withoutLoads {R : Type} (e : Event R) : Event R :=
  { e with actions := e.actions.filter Action.asksNoLoad }

/-- The request is forgotten, and nothing else is exchanged. -/
def Veil.unasked {R : Type} : Veil R := ⟨id, id, fun _ => none⟩

namespace Session

variable {R B : Type}

/-- The session without a request to load. -/
def unasked (s : Session R B) : Session R B := { s with pendingLoad := none }

variable [Scalar R] [Numeral R]

theorem load_of_error {s : Session R B} {slot : String} {e : SaveError}
    (h : (s.load slot).2 = .error e) : (s.load slot).1 = s := by
  unfold load at h ⊢
  split at h
  · rfl
  · rfl
  · split at h
    · rfl
    · split at h
      · rfl
      · cases h

/-- A load changes nothing, or it puts the session into the state of a save. -/
theorem load_cases (s : Session R B) (slot : String) :
    (∃ e, s.load slot = (s, .error e)) ∨
    ∃ text, ∃ save : SaveState R, ∃ scene, s.slots.get (s.slotKey slot) = .ok (some text) ∧
      SaveState.codec.parse text = .ok save ∧ s.project.scene? save.scene = some scene ∧
      s.load slot = (s.restore save scene, .ok ()) := by
  cases hr : (s.load slot).2 with
  | error e => exact .inl ⟨e, Prod.ext (load_of_error hr) hr⟩
  | ok u =>
      rcases exists_of_load_ok hr with ⟨text, save, scene, hget, hparse, hscene⟩
      exact .inr ⟨text, save, scene, hget, hparse, hscene, load_of_parsed hget hparse hscene⟩

theorem reconcile_of_none {s : Session R B} (h : s.pendingLoad = none) :
    s.reconcile = s.unasked.settle := by
  unfold reconcile
  rw [h]
  rfl

theorem reconcile_of_error {s : Session R B} {slot : String} {e : SaveError}
    (h : s.pendingLoad = some slot) (he : (s.load slot).2 = .error e) :
    s.reconcile = s.unasked.settle := by
  -- Whether a load fails does not depend on the request, and a failed one leaves none behind.
  have hu : s.unasked.load slot = (s.unasked, .error e) := by
    have h2 : (s.unasked.load slot).2 = .error e := (load_snd_congr s s.unasked rfl rfl).trans he
    exact Prod.ext (load_of_error h2) h2
  unfold reconcile
  rw [h]
  dsimp only
  rw [show ({ s with pendingLoad := none } : Session R B) = s.unasked from rfl, hu]

variable [Planar R]

theorem unasked_holdAll (event : String) (binding : Option Binding) (cs : List (Condition R))
    (s : Session R B) :
    holdAll event binding cs s.unasked =
      ((holdAll event binding cs s).1, (holdAll event binding cs s).2.unasked) :=
  veiled_holdAll .unasked event binding cs s

variable [AudioOutput R B] [DecidableEq R]

/-- Actions do not look at the request. -/
theorem unasked_perform (s : Session R B) (binding : Option Binding) (dt : R) (a : Action R)
    (ha : a.asksNoLoad = true) :
    perform binding dt s.unasked a = (perform binding dt s a).unasked := by
  refine veiled_perform .unasked s binding dt a fun slot hslot => ?_
  rw [Action.asksNoLoad, hslot] at ha
  cases ha

/-- Doing the actions that ask for no load is doing all of them and forgetting the
    request. -/
theorem unasked_foldl_perform (s : Session R B) (binding : Option Binding) (dt : R)
    (as : List (Action R)) :
    (as.filter Action.asksNoLoad).foldl (perform binding dt) s.unasked =
      (as.foldl (perform binding dt) s).unasked := by
  -- A request that is struck out would only have been forgotten at the end.
  induction as generalizing s with
  | nil => rfl
  | cons a as ih =>
      cases ha : a.asksNoLoad with
      | true =>
          rw [List.filter_cons_of_pos ha, List.foldl_cons, unasked_perform s binding dt a ha]
          exact ih _
      | false =>
          have hload : (perform binding dt s a).unasked = s.unasked := by
            rcases Action.exists_load ha with ⟨slot, hslot⟩
            simp only [perform, hslot]
            rfl
          rw [List.filter_cons_of_neg (by rw [ha]; exact Bool.false_ne_true), List.foldl_cons,
            ← ih, hload]

theorem unasked_runBound (e : Event R) (dt : R) (s : Session R B) (binding : Option Binding) :
    runBound e.withoutLoads dt s.unasked binding = (runBound e dt s binding).unasked := by
  unfold runBound
  have hh := unasked_holdAll e.id binding e.conditions s
  have he : holdAll e.withoutLoads.id binding e.withoutLoads.conditions s.unasked =
    holdAll e.id binding e.conditions s.unasked := rfl
  rw [he, hh]
  rcases holdAll e.id binding e.conditions s with ⟨_ | _, t⟩
  · rfl
  · exact unasked_foldl_perform t binding dt e.actions

theorem unasked_runEvent (dt : R) (s : Session R B) (e : Event R) :
    runEvent dt s.unasked e.withoutLoads = (runEvent dt s e).unasked := by
  have hg : e.withoutLoads.group? = e.group? := rfl
  unfold runEvent
  rw [hg]
  cases e.group? with
  | none => exact unasked_runBound e dt s none
  | some id =>
      have hm : s.unasked.members id = s.members id := rfl
      dsimp only
      rw [hm]
      -- The members are found in the roster, so they are the same on both sides.
      exact List.foldl_hom unasked fun t i => unasked_runBound e dt t _

/-- A tick up to its end from whose events all loads are struck, of a session in
    which no load waits. -/
def passedUnasked (s : Session R B) (dt : R) : Session R B :=
  let t := s.unasked.begun dt
  (t.scene.activeEvents.map Event.withoutLoads).foldl (runEvent (elapsedTime dt)) t

/-- Without requests a tick is the same up to its end, but for the request. -/
theorem passedUnasked_eq (s : Session R B) (dt : R) :
    s.passedUnasked dt = (s.passed dt).unasked := by
  have hb : s.unasked.begun dt = (s.begun dt).unasked := rfl
  unfold passedUnasked passed runEvents
  dsimp only
  rw [hb, List.foldl_map]
  exact List.foldl_hom unasked fun t e => unasked_runEvent _ t e

/-- A failed load has not been there: neither one that the host asks for, nor one
    that an action asks for and that is attempted at the end of the tick, if the tick
    comes to an end. -/
theorem load_all_or_nothing (s : Session R B) :
    (∀ slot e, (s.load slot).2 = .error e → (s.load slot).1 = s) ∧
      ∀ dt slot e, s.closed = false → s.popup = none → ¬ s.Overflows dt →
        (s.passed dt).pendingLoad = some slot → ((s.passed dt).load slot).2 = .error e →
        s.tick dt = conclude (elapsedTime dt) (s.passedUnasked dt) := by
  refine ⟨fun slot e h => load_of_error h, ?_⟩
  intro dt slot e hc hp hover hl he
  -- A load that fails and no load at all are reconciled alike.
  have hr : (s.passed dt).reconcile = (s.passed dt).unasked.reconcile := by
    rw [reconcile_of_error hl he, reconcile_of_none (s := (s.passed dt).unasked) rfl]
    rfl
  rw [tick_eq_conclude (idles_eq_false_iff.2 ⟨hc, hp, hover⟩), passedUnasked_eq]
  unfold conclude
  rw [hr]

end Session

/-- A project with one scene, whose only event does some actions in every tick. -/
def Project.ofActions {R : Type} [Scalar R] (actions : List (Action R)) : Project R :=
  ⟨.initial, [⟨"main", "Main", [], [], [.event ⟨"always", "Always", none, [], actions⟩]⟩], [],
    .empty⟩

/-- A session of such a project that has not begun yet, without sound and with
    empty slots in memory. -/
def Session.ofActions {R : Type} [Scalar R] (actions : List (Action R)) :
    Session R (SilentOutput R) :=
  (Session.start (.ofActions actions) (.ofSettings .initial) (.memory .empty) .initial
    ⟨fun _ => "", fun _ => 0, 0, 0⟩).toOption.get rfl

namespace Session

theorem load_all_or_nothing_empty :
    let s : Session Float (SilentOutput Float) := .ofActions [⟨"1", .load "a"⟩]
    (s.load "a").1 = s ∧ s.tick 0 = conclude (elapsedTime 0) (s.passedUnasked 0) := by
  have h := load_all_or_nothing (.ofActions [⟨"1", .load "a"⟩] : Session Float (SilentOutput Float))
  exact ⟨h.1 "a" (.missing "a") rfl, h.2 0 "a" (.missing "a") rfl rfl nofun rfl rfl⟩

end Session

end Playfield
