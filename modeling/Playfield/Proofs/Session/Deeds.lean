import Mathlib
import Playfield.Proofs.Session.Played
import Playfield.Proofs.Session.Slots

/-!
# Deeds

What the events of a tick have done, as a list.

Which actions are done in a tick, and in which state of the session, is only
known when the events run: conditions look at what has been done before, and an
event that goes through a group runs once for each member. The list of deeds
writes that down. It is computed along the same recursion as the events
themselves, and a deed is an action together with its binding and the session
that it found.

Statements about a tick can then speak of the deeds: what they have spawned,
which ids they have destroyed, which scene and which save were asked for last.
A relation between a session, a list of deeds and a later session that holds of
each deed, and that can be composed, holds of all events (`runEvents_account`).

## Main definitions

* `traced`: What the steps of a fold have noted.
* `Deed`: An action in the session that it found.
* `Deed.spawns`, `Deed.destroys`, `Deed.scene?`, `Deed.load?`, `Deed.camera?`,
  `Deed.writes`: What a deed asks for.
* `Session.deeds`: The deeds of the events of a tick.
* `Session.stages`: The sessions that a tick goes through.

## Theorems

* `Deed.cases_newcomer?`, `Session.exists_of_creature?`: What a deed makes.
* `Session.exists_event_of_mem_deeds`: Deeds are actions of active events.
* `traced_account`, `Session.runEvents_account`: What composes and holds of each
  deed holds of a run.
* `Session.forall_stages`: What actions keep is so throughout.
-/

namespace Playfield

section Traces

variable {σ α β : Type}

/-- What the steps of a fold have noted. -/
def traced (step : σ → α → σ) (note : σ → α → List β) : σ → List α → List β
  | _, [] => []
  | s, a :: as => note s a ++ traced step note (step s a) as

/-- A relation between a state, a list of notes and a later state that can be
    composed. -/
structure Account (P : σ → List β → σ → Prop) : Prop where
  nothing : ∀ s, P s [] s
  append : ∀ {s t u l m}, P s l t → P t m u → P s (l ++ m) u

theorem traced_account {P : σ → List β → σ → Prop} (hP : Account P) {step : σ → α → σ}
    {note : σ → α → List β} (hstep : ∀ s a, P s (note s a) (step s a)) (s : σ) (as : List α) :
    P s (traced step note s as) (as.foldl step s) := by
  -- Each step is accounted for, and the accounts are put together along the list.
  induction as generalizing s with
  | nil => exact hP.nothing s
  | cons a as ih => exact hP.append (hstep s a) (ih (step s a))

/-- What has been noted has been noted at some step. -/
theorem exists_of_mem_traced {step : σ → α → σ} {note : σ → α → List β} {s : σ} {as : List α}
    {b : β} (h : b ∈ traced step note s as) : ∃ t, ∃ a ∈ as, b ∈ note t a := by
  induction as generalizing s with
  | nil => cases h
  | cons a as ih =>
      rcases List.mem_append.1 h with h | h
      · exact ⟨s, a, List.mem_cons_self, h⟩
      · rcases ih h with ⟨t, c, hc, hb⟩
        exact ⟨t, c, List.mem_cons_of_mem a hc, hb⟩

theorem traced_append (step : σ → α → σ) (note : σ → α → List β) (s : σ) (as bs : List α) :
    traced step note s (as ++ bs) =
      traced step note s as ++ traced step note (as.foldl step s) bs := by
  induction as generalizing s with
  | nil => rfl
  | cons a as ih =>
      rw [List.cons_append, traced, traced, ih, List.append_assoc]
      rfl

end Traces

/-- A creature is a copy of a template at some place and on some layer. -/
theorem Session.exists_of_creature? {R B : Type} [Scalar R] [Planar R] {s : Session R B}
    {binding : Option Binding} {c : Creation R} {i : Instance R}
    (h : s.creature? binding c = some i) :
    ∃ template place layer, s.scene.template? c.name = some template ∧
      i = { Instance.ofTemplate template with
        object := { template with position := place, layer := layer } } := by
  unfold creature? at h
  split at h
  · next template place ht _ =>
    cases h
    exact ⟨template, _, _, ht, rfl⟩
  · cases h

/-- An action with its binding, in the session that it found. -/
structure Deed (R B : Type) where
  session : Session R B
  binding : Option Binding
  action : Action R

namespace Deed

variable {R B : Type} [Scalar R] [Numeral R]

section Slots

variable [DecidableEq R]

/-- The slot that a deed writes or empties. -/
def writes (d : Deed R B) : List String :=
  match d.action.kind with
  | .save slot => d.session.savedSlots slot
  | .clearSave slot => [slot]
  | _ => []

theorem writes_save (s : Session R B) (binding : Option Binding) (a slot : String) :
    (⟨s, binding, ⟨a, .save slot⟩⟩ : Deed R B).writes = s.savedSlots slot := by
  simp only [writes]

end Slots

variable [Planar R]

/-- The new instance that a deed makes, under the id of its template. -/
def newcomer? (d : Deed R B) : Option (Instance R) :=
  match d.action.kind with
  | .object target (.fire bullet point) =>
    d.session.shot? (Binding.resolve d.binding target) bullet point
  | .create c =>
    (d.session.creature? d.binding c).map fun i => (d.session.withPicture c.sprite i).2
  | _ => none

omit [Numeral R] in
/-- What a deed makes is a projectile of a template, or a creature with its picture. -/
theorem cases_newcomer? {d : Deed R B} {i : Instance R} (h : d.newcomer? = some i) :
    (∃ name template firer point, d.session.scene.template? name = some template ∧
      i = Instance.projectile firer template point) ∨
    ∃ c j, d.action.kind = .create c ∧ d.session.creature? d.binding c = some j ∧
      i = (d.session.withPicture c.sprite j).2 := by
  unfold newcomer? at h
  split at h
  · next target bullet point _ =>
    unfold Session.shot? at h
    split at h
    · next template firer ht _ =>
      cases h
      exact .inl ⟨bullet, template, firer.object, point, ht, rfl⟩
    · cases h
  · next c hkind =>
    obtain ⟨j, hj, rfl⟩ := Option.map_eq_some_iff.1 h
    exact .inr ⟨c, j, hkind, hj, rfl⟩
  · cases h

/-- The new instance that a deed makes, under an id of its own. -/
def spawns (d : Deed R B) : List (Instance R) :=
  (d.newcomer?.map fun i => (d.session.supply.name i).1).toList

/-- The id of the live instance that a deed destroys. -/
def destroys (d : Deed R B) : List String :=
  match d.action.kind with
  | .object target .destroy =>
    let id := Binding.resolve d.binding target
    if (d.session.roster.get? id).isSome then [id] else []
  | _ => []

/-- The scene that a deed asks for. -/
def scene? (d : Deed R B) : Option String :=
  match d.action.kind with
  | .changeScene scene => some scene
  | _ => none

/-- The slot that a deed asks to be loaded. -/
def load? (d : Deed R B) : Option String :=
  match d.action.kind with
  | .load slot => some slot
  | _ => none

/-- How a deed steers the camera. -/
def camera? (d : Deed R B) : Option (CameraCommand R) :=
  match d.action.kind with
  | .camera c => some c
  | _ => none

end Deed

namespace Session

variable {R B : Type} [Scalar R] [Numeral R] [Planar R]

theorem holdAll_account {P : Session R B → List (Deed R B) → Session R B → Prop} (hP : Account P)
    (hmemory : ∀ s m, P s [] { s with memory := m }) (event : String) (binding : Option Binding)
    (cs : List (Condition R)) (s : Session R B) : P s [] (holdAll event binding cs s).2 := by
  -- Conditions are no deeds, so their account is empty, however many there are.
  induction cs generalizing s with
  | nil => exact hP.nothing s
  | cons c cs ih =>
      unfold holdAll
      split
      · exact hP.append (hmemory s _) (ih _)
      · exact hmemory s _

variable [AudioOutput R B] [DecidableEq R]

/-- The deeds of an event under a binding. -/
def boundDeeds (e : Event R) (dt : R) (s : Session R B) (binding : Option Binding) :
    List (Deed R B) :=
  match holdAll e.id binding e.conditions s with
  | (true, s) => traced (perform binding dt) (fun s a => [⟨s, binding, a⟩]) s e.actions
  | (false, _) => []

/-- The deeds of an event. -/
def eventDeeds (dt : R) (s : Session R B) (e : Event R) : List (Deed R B) :=
  match e.group? with
  | none => boundDeeds e dt s none
  | some id =>
    traced (fun s (i : Instance R) => runBound e dt s (some ⟨id, i.id⟩))
      (fun s i => boundDeeds e dt s (some ⟨id, i.id⟩)) s (s.members id)

/-- The deeds of the active events of the scene, in the order in which they are
    done. -/
def deeds (dt : R) (s : Session R B) : List (Deed R B) :=
  traced (runEvent dt) (eventDeeds dt) s s.scene.activeEvents

theorem mem_of_mem_boundDeeds {e : Event R} {dt : R} {s : Session R B} {binding : Option Binding}
    {d : Deed R B} (h : d ∈ boundDeeds e dt s binding) : d.action ∈ e.actions := by
  unfold boundDeeds at h
  split at h
  · rcases exists_of_mem_traced h with ⟨t, a, ha, hd⟩
    rwa [List.mem_singleton.1 hd]
  · cases h

/-- What is done are actions of active events of the scene. -/
theorem exists_event_of_mem_deeds {dt : R} {s : Session R B} {d : Deed R B}
    (h : d ∈ s.deeds dt) : ∃ e ∈ s.scene.activeEvents, d.action ∈ e.actions := by
  rcases exists_of_mem_traced h with ⟨t, e, he, hd⟩
  refine ⟨e, he, ?_⟩
  unfold eventDeeds at hd
  split at hd
  · exact mem_of_mem_boundDeeds hd
  · rcases exists_of_mem_traced hd with ⟨u, i, _, hd⟩
    exact mem_of_mem_boundDeeds hd

section Account

variable {P : Session R B → List (Deed R B) → Session R B → Prop} {dt : R}

theorem runBound_account (hP : Account P) (hmemory : ∀ s m, P s [] { s with memory := m })
    (hdeed : ∀ s binding a, P s [⟨s, binding, a⟩] (perform binding dt s a)) (e : Event R)
    (s : Session R B) (binding : Option Binding) :
    P s (boundDeeds e dt s binding) (runBound e dt s binding) := by
  -- Conditions first, and if they hold, the actions one after the other.
  have hcond := holdAll_account hP hmemory e.id binding e.conditions s
  unfold boundDeeds runBound
  cases hh : holdAll e.id binding e.conditions s with
  | mk holds t =>
      rw [hh] at hcond
      cases holds with
      | false => exact hcond
      | true =>
          exact hP.append hcond
            (traced_account hP (fun u a => hdeed u binding a) t e.actions)

theorem runEvent_account (hP : Account P) (hmemory : ∀ s m, P s [] { s with memory := m })
    (hdeed : ∀ s binding a, P s [⟨s, binding, a⟩] (perform binding dt s a)) (s : Session R B)
    (e : Event R) : P s (eventDeeds dt s e) (runEvent dt s e) := by
  unfold eventDeeds runEvent
  cases e.group? with
  | none => exact runBound_account hP hmemory hdeed e s none
  | some id => exact traced_account hP (fun t i => runBound_account hP hmemory hdeed e t _) s _

/-- What holds of every deed and composes holds of the events of a tick. -/
theorem runEvents_account (hP : Account P) (hmemory : ∀ s m, P s [] { s with memory := m })
    (hdeed : ∀ s binding a, P s [⟨s, binding, a⟩] (perform binding dt s a)) (s : Session R B) :
    P s (s.deeds dt) (runEvents dt s) :=
  traced_account hP (runEvent_account hP hmemory hdeed) s s.scene.activeEvents

end Account

/-- The sessions that a tick goes through before it is concluded: when the events
    begin, whenever an action is about to be done, and when the events have run. -/
def stages (s : Session R B) (dt : R) : List (Session R B) :=
  s.begun dt :: (((s.begun dt).deeds (elapsedTime dt)).map (·.session) ++ [s.passed dt])

/-- What conditions and actions keep is so from the beginning of the events on. -/
theorem forall_stages {P : Session R B → Prop} {s : Session R B} {dt : R}
    (hmemory : ∀ t m, P t → P { t with memory := m })
    (hperform : ∀ t binding a, P t → P (perform binding (elapsedTime dt) t a))
    (hbegun : P (s.begun dt)) : ∀ t ∈ s.stages dt, P t := by
  have haccount : Account (fun (s : Session R B) (ds : List (Deed R B)) t =>
      P s → (∀ d ∈ ds, P d.session) ∧ P t) := by
    refine ⟨fun _ hs => ⟨by simp, hs⟩, ?_⟩
    intro s t u l m h h' hs
    rw [List.forall_mem_append]
    exact ⟨⟨(h hs).1, (h' (h hs).2).1⟩, (h' (h hs).2).2⟩
  -- Every deed finds the property in the session before, and leaves it in the one after.
  have hrun := runEvents_account haccount (fun t m ht => ⟨by simp, hmemory t m ht⟩)
    (fun t binding a ht => ⟨by simpa using ht, hperform t binding a ht⟩) (s.begun dt) hbegun
  intro t ht
  simp only [stages, List.mem_cons, List.mem_append, List.mem_map, List.not_mem_nil, or_false] at ht
  rcases ht with rfl | ⟨d, hd, rfl⟩ | rfl
  · exact hbegun
  · exact hrun.1 d hd
  · exact hrun.2

end Session

end Playfield
