import Mathlib
import Playfield.Proofs.Session.Local
import Playfield.Proofs.Session.Reachable

/-!
# What Conditions Have Been Asked

What conditions remember, told by what they have been asked.

Two kinds of conditions remember something: whether an event has seen the start of the
scene, and when a repeating condition last held. What they remember is kept in the
session, where evaluations write it and resets wipe it out, and a run of a game has
many of both: each iteration of each event in each tick on the one side, and on the
other entering a scene, changing it and loading a save. So the history of a run is
written down as a list of moments (`Session.history`). It is computed along the same
recursion as the events themselves, and a condition is in it exactly if it is reached.

Only what has happened since the last reset counts. That part of a history is an era,
and what is remembered is a function of it (`Era.Recalls`): there is no other way to
write the memory, and none to wipe it out. Statements about what conditions answer are
then statements about the era before them, and not about the memory.

## Main definitions

* `Inquiry`: A condition that is evaluated, in the session that it finds.
* `Moment`: An evaluation or a reset.
* `Session.inquiries`: The conditions that are evaluated in a tick.
* `Session.history`: The moments of a run.
* `Era`: What has been evaluated since the last reset.
* `Leads`: Each evaluation finds the memory that what comes before it has left.
* `Era.Recalls`: A memory holds what is remembered of an era.

## Theorems

* `Session.runEvents_inquiries`: What holds of each evaluation and composes holds of
  the events of a tick.
* `Session.leads_run`: The history of a run accounts for the memory.
* `Era.recalls_next`: Each moment keeps the memory in line with the era.
* `Session.recalls_history`: Each evaluation finds what is remembered of its era.
* `Session.sceneStart_holds_once`: The start of a scene is seen once by each event.
-/

namespace Playfield

/-- A condition of an event that is evaluated, in the session that it finds. -/
structure Inquiry (R B : Type) where
  session : Session R B
  event : String
  binding : Option Binding
  condition : Condition R

/-- What is of importance to conditions that remember. -/
inductive Moment (R B : Type) where
  | inquiry (q : Inquiry R B)
  /-- A scene has been entered or a save has been loaded, at a time. -/
  | reset (clock : R)

/-- The outcomes of a tick after which nothing is remembered. -/
def Outcome.isReset : Outcome → Bool
  | .sceneChanged _ | .loaded _ => true
  | .advanced | .paused | .closed | .overflowed => false

/-- What composes and holds of each step without notes holds of all of them. -/
theorem Account.foldl {σ α β : Type} {P : σ → List β → σ → Prop} (hP : Account P)
    {step : σ → α → σ} (hstep : ∀ s a, P s [] (step s a)) (s : σ) (as : List α) :
    P s [] (as.foldl step s) := by
  induction as generalizing s with
  | nil => exact hP.nothing s
  | cons a as ih => exact hP.append (hstep s a) (ih (step s a))

variable {R B : Type} [Scalar R] [Numeral R] [Planar R]

namespace Inquiry

/-- The answer to the condition. -/
def holds (q : Inquiry R B) : Bool := (q.session.holds q.event q.binding q.condition).1

/-- What is remembered afterwards. -/
def memory (q : Inquiry R B) : Memory R := (q.session.holds q.event q.binding q.condition).2

/-- When the condition is evaluated. -/
def clock (q : Inquiry R B) : R := q.session.clock

/-- The repeating condition of an id, which holds. -/
def strikes (q : Inquiry R B) (id : String) : Bool :=
  q.condition.id == id && match q.condition.kind with
    | .every _ => q.holds
    | _ => false

/-- An event asks for the start of the scene. -/
def AsksStart (q : Inquiry R B) (event : String) : Prop :=
  q.condition.kind = .sceneStart ∧ q.event = event

variable {q : Inquiry R B}

theorem holds_of_sceneStart (h : q.condition.kind = .sceneStart) :
    q.holds = !q.session.memory.started.contains q.event := by
  simp only [holds, Session.holds, h]

theorem memory_of_sceneStart (h : q.condition.kind = .sceneStart) :
    q.memory = { q.session.memory with started := q.session.memory.started.add q.event } := by
  simp only [memory, Session.holds, h]

theorem holds_of_every {x : R} (h : q.condition.kind = .every x) :
    q.holds = decide (x ≤ q.clock -
      (q.session.memory.lastHeld.get? q.condition.id).getD q.session.memory.since) := by
  simp only [holds, Session.holds, h]
  split
  · next hx => exact (decide_eq_true hx).symm
  · next hx => exact (decide_eq_false hx).symm

theorem memory_of_every {x : R} (h : q.condition.kind = .every x) :
    q.memory = if q.holds = true then { q.session.memory with
      lastHeld := q.session.memory.lastHeld.insert q.condition.id q.clock }
    else q.session.memory := by
  simp only [memory, holds, Session.holds, h]
  split <;> rfl

/-- The other conditions remember nothing. -/
theorem memory_of_other (hstart : q.condition.kind ≠ .sceneStart)
    (hevery : ∀ x, q.condition.kind ≠ .every x) : q.memory = q.session.memory := by
  unfold memory Session.holds
  cases hk : q.condition.kind
  case sceneStart => exact absurd hk hstart
  case every x => exact absurd hk (hevery x)
  case distance id₁ id₂ op d =>
    dsimp only
    split <;> rfl
  all_goals rfl

theorem strikes_of_every {x : R} (h : q.condition.kind = .every x) (id : String) :
    q.strikes id = (q.condition.id == id && q.holds) := by
  simp only [strikes, h]

theorem strikes_of_other (h : ∀ x, q.condition.kind ≠ .every x) (id : String) :
    q.strikes id = false := by
  unfold strikes
  split
  · next x hx => exact absurd hx (h x)
  · rw [Bool.and_false]

end Inquiry

namespace Session

/-- The conditions that are evaluated, in order up to the first that does not hold. -/
def conditionInquiries (event : String) (binding : Option Binding) :
    List (Condition R) → Session R B → List (Inquiry R B)
  | [], _ => []
  | c :: cs, s =>
    let q : Inquiry R B := ⟨s, event, binding, c⟩
    q :: if q.holds then conditionInquiries event binding cs { s with memory := q.memory } else []

theorem holdAll_cons (event : String) (binding : Option Binding) (c : Condition R)
    (cs : List (Condition R)) (s : Session R B) :
    let q : Inquiry R B := ⟨s, event, binding, c⟩
    holdAll event binding (c :: cs) s =
      if q.holds then holdAll event binding cs { s with memory := q.memory }
      else (false, { s with memory := q.memory }) := by
  intro q
  have hq : s.holds event binding c = (q.holds, q.memory) := rfl
  rw [holdAll, hq]
  cases q.holds <;> rfl

/-- The conditions of an event that are evaluated under a binding. -/
def boundInquiries (e : Event R) (s : Session R B) (binding : Option Binding) :
    List (Inquiry R B) :=
  conditionInquiries e.id binding e.conditions s

variable [AudioOutput R B] [DecidableEq R]

/-- The conditions of an event that are evaluated, for each member of its group if it
    goes through one. -/
def eventInquiries (dt : R) (s : Session R B) (e : Event R) : List (Inquiry R B) :=
  match e.group? with
  | none => boundInquiries e s none
  | some id =>
    traced (fun s (i : Instance R) => runBound e dt s (some ⟨id, i.id⟩))
      (fun s i => boundInquiries e s (some ⟨id, i.id⟩)) s (s.members id)

/-- The conditions that are evaluated by the events of a tick, in order. -/
def inquiries (dt : R) (s : Session R B) : List (Inquiry R B) :=
  traced (runEvent dt) (eventInquiries dt) s s.scene.activeEvents

/-- A reset at the present time, or none. -/
def resetIf (reset : Bool) (s : Session R B) : List (Moment R B) :=
  if reset then [.reset s.clock] else []

/-- The moments of a tick. A tick that is not played evaluates nothing. -/
def tickHistory (s : Session R B) (dt : R) : List (Moment R B) :=
  if s.idles dt then []
  else ((s.begun dt).inquiries (elapsedTime dt)).map .inquiry ++
    (s.tick dt).1.resetIf (s.tick dt).2.isReset

/-- The moments of a call. Entering a scene and loading a save are resets if they
    succeed. -/
def callHistory (s : Session R B) : HostCall R B → List (Moment R B)
  | .enter scene => (s.enter scene).1.resetIf (s.enter scene).2.isOk
  | .load slot => (s.load slot).1.resetIf (s.load slot).2.isOk
  | .tick dt => s.tickHistory dt
  | _ => []

/-- The moments of a run. -/
def history (s : Session R B) (calls : List (HostCall R B)) : List (Moment R B) :=
  traced call callHistory s calls

section Account

variable {P : Session R B → List (Inquiry R B) → Session R B → Prop} {dt : R}

omit [AudioOutput R B] [DecidableEq R] in
/-- Conditions leave a session that the evaluations account for, whether they hold or not. -/
theorem holdAll_inquiries (hP : Account P)
    (hask : ∀ q : Inquiry R B, P q.session [q] { q.session with memory := q.memory })
    (event : String) (binding : Option Binding) (cs : List (Condition R)) (s : Session R B) :
    P s (conditionInquiries event binding cs s) (holdAll event binding cs s).2 := by
  induction cs generalizing s with
  | nil => exact hP.nothing s
  | cons c cs ih =>
      have hone := hask ⟨s, event, binding, c⟩
      rw [holdAll_cons, conditionInquiries]
      by_cases hc : (⟨s, event, binding, c⟩ : Inquiry R B).holds = true
      · rw [if_pos hc, if_pos hc]
        exact hP.append hone (ih _)
      · rw [if_neg hc, if_neg hc]
        exact hone

theorem runBound_inquiries (hP : Account P)
    (hask : ∀ q : Inquiry R B, P q.session [q] { q.session with memory := q.memory })
    (hperform : ∀ s binding a, P s [] (perform binding dt s a)) (e : Event R) (s : Session R B)
    (binding : Option Binding) : P s (boundInquiries e s binding) (runBound e dt s binding) := by
  have hall := holdAll_inquiries hP hask e.id binding e.conditions s
  unfold boundInquiries runBound
  cases hh : holdAll e.id binding e.conditions s with
  | mk b t =>
      rw [hh] at hall
      cases b with
      | false => exact hall
      | true =>
          -- Actions evaluate nothing.
          have hacts := hP.append hall (hP.foldl (fun u a => hperform u binding a) t e.actions)
          rwa [List.append_nil] at hacts

/-- What holds of every evaluation and of every action and composes holds of the
    events of a tick. -/
theorem runEvents_inquiries (hP : Account P)
    (hask : ∀ q : Inquiry R B, P q.session [q] { q.session with memory := q.memory })
    (hperform : ∀ s binding a, P s [] (perform binding dt s a)) (s : Session R B) :
    P s (s.inquiries dt) (runEvents dt s) := by
  refine traced_account hP (fun t e => ?_) s s.scene.activeEvents
  unfold eventInquiries runEvent
  cases e.group? with
  | none => exact runBound_inquiries hP hask hperform e t none
  | some id =>
      exact traced_account hP (fun u i => runBound_inquiries hP hask hperform e u _) t _

end Account

end Session

/-- What has been evaluated since the last reset. -/
structure Era (R B : Type) where
  /-- When the last reset was. -/
  since : R
  inquiries : List (Inquiry R B)

namespace Era

/-- Before all resets. The clock is at zero. -/
def first : Era R B := ⟨0, []⟩

/-- An evaluation belongs to the era, and a reset begins another one. -/
def next (e : Era R B) : Moment R B → Era R B
  | .inquiry q => { e with inquiries := e.inquiries ++ [q] }
  | .reset clock => ⟨clock, []⟩

/-- The era after some moments. -/
def after (h : List (Moment R B)) : Era R B := h.foldl next first

/-- When the repeating condition of an id last held in the era, or else when the era
    began. -/
def lastStroke (e : Era R B) (id : String) : R :=
  ((e.inquiries.filter (·.strikes id)).getLast?.map (·.clock)).getD e.since

/-- A memory holds what is remembered of an era. -/
structure Recalls (e : Era R B) (m : Memory R) : Prop where
  since : m.since = e.since
  started : ∀ event, m.started.contains event = true ↔ ∃ p ∈ e.inquiries, p.AsksStart event
  lastHeld : ∀ id, m.lastHeld.get? id = (e.inquiries.filter (·.strikes id)).getLast?.map (·.clock)

theorem recalls_fresh (clock : R) : Recalls (B := B) ⟨clock, []⟩ (.fresh clock) where
  since := rfl
  started := by
    intro event
    simp [Memory.fresh, Dictionary.contains, Dictionary.get?, Dictionary.lookup, Dictionary.empty]
  lastHeld := fun _ => rfl

variable {e : Era R B} {q : Inquiry R B}

theorem recalls_sceneStart (h : e.Recalls q.session.memory) (hk : q.condition.kind = .sceneStart) :
    (e.next (.inquiry q)).Recalls q.memory := by
  rw [Inquiry.memory_of_sceneStart hk]
  refine ⟨h.since, ?_, ?_⟩
  · intro event
    -- The events that have asked before, and the one that asks now.
    rw [Names.contains_add, h.started]
    simp only [next, List.mem_append, List.mem_singleton, or_and_right, exists_or, exists_eq_left]
    simp only [Inquiry.AsksStart, hk, true_and]
    exact or_comm
  · intro id
    have hno : q.strikes id = false := q.strikes_of_other (fun x => by rw [hk]; nofun) id
    simp only [next, List.filter_append, List.filter_cons, hno, List.filter_nil, List.append_nil,
      Bool.false_eq_true, if_false]
    exact h.lastHeld id

theorem recalls_every (h : e.Recalls q.session.memory) {x : R} (hk : q.condition.kind = .every x) :
    (e.next (.inquiry q)).Recalls q.memory := by
  have hstarted (event : String) : (∃ p ∈ (e.next (.inquiry q)).inquiries, p.AsksStart event) ↔
      ∃ p ∈ e.inquiries, p.AsksStart event := by
    simp [next, Inquiry.AsksStart, hk, or_and_right, exists_or]
  rw [Inquiry.memory_of_every hk]
  by_cases hq : q.holds = true
  · rw [if_pos hq]
    refine ⟨h.since, fun event => (h.started event).trans (hstarted event).symm, ?_⟩
    intro id
    dsimp only
    rw [Dictionary.get?_insert]
    -- The condition is the last one with its id, and changes nothing for the others.
    by_cases hid : q.condition.id = id
    · simp [next, List.filter_append, Inquiry.strikes_of_every hk, hid, hq]
    · simp [next, List.filter_append, Inquiry.strikes_of_every hk, hid, h.lastHeld id]
  · rw [if_neg hq]
    refine ⟨h.since, fun event => (h.started event).trans (hstarted event).symm, ?_⟩
    intro id
    rw [Bool.not_eq_true] at hq
    simp [next, List.filter_append, Inquiry.strikes_of_every hk, hq, h.lastHeld id]

/-- Each evaluation keeps the memory in line with the era. -/
theorem recalls_next (h : e.Recalls q.session.memory) :
    (e.next (.inquiry q)).Recalls q.memory := by
  by_cases hstart : q.condition.kind = .sceneStart
  · exact recalls_sceneStart h hstart
  by_cases hevery : ∃ x, q.condition.kind = .every x
  · rcases hevery with ⟨x, hx⟩
    exact recalls_every h hx
  -- Of the other conditions nothing is remembered.
  rw [not_exists] at hevery
  rw [Inquiry.memory_of_other hstart hevery]
  refine ⟨h.since, ?_, ?_⟩
  · intro event
    rw [h.started]
    simp [next, Inquiry.AsksStart, hstart, or_and_right, exists_or]
  · intro id
    simp [next, List.filter_append, Inquiry.strikes_of_other hevery, h.lastHeld id]

end Era

/-- Each evaluation finds the memory that what comes before it has left. -/
def Leads : Memory R → List (Moment R B) → Memory R → Prop
  | m, [], m' => m' = m
  | m, .inquiry q :: h, m' => q.session.memory = m ∧ Leads q.memory h m'
  | _, .reset clock :: h, m' => Leads (.fresh clock) h m'

theorem Leads.append {l m n : Memory R} {h h' : List (Moment R B)} (hl : Leads l h m)
    (hr : Leads m h' n) : Leads l (h ++ h') n := by
  induction h generalizing l with
  | nil => exact (show m = l from hl) ▸ hr
  | cons a h ih =>
      cases a with
      | inquiry q => exact ⟨hl.1, ih hl.2⟩
      | reset clock => exact ih (l := .fresh clock) hl

/-- Each evaluation finds what is remembered of its era. -/
theorem Leads.recalls {m m' : Memory R} {before after : List (Moment R B)} {q : Inquiry R B}
    {e : Era R B} (hl : Leads m (before ++ .inquiry q :: after) m') (he : e.Recalls m) :
    (before.foldl Era.next e).Recalls q.session.memory := by
  induction before generalizing m e with
  | nil => exact hl.1 ▸ he
  | cons a before ih =>
      cases a with
      | inquiry p =>
          -- The evaluation has found the memory, so it leaves what is remembered of one more.
          have hp := hl.1 ▸ he
          exact ih hl.2 (Era.recalls_next hp)
      | reset clock => exact ih (m := .fresh clock) hl (Era.recalls_fresh clock)

namespace Session

theorem leads_resetIf {s t : Session R B} {reset : Bool}
    (h : t.memory = if reset then .fresh t.clock else s.memory) :
    Leads s.memory (t.resetIf reset) t.memory := by
  cases reset with
  | true => exact h
  | false => exact h

theorem leads_enter (s : Session R B) (scene : Option String) :
    Leads s.memory ((s.enter scene).1.resetIf (s.enter scene).2.isOk) (s.enter scene).1.memory := by
  refine leads_resetIf ?_
  rcases exists_registerAssets s with ⟨assets, sounds, done, hr⟩
  cases hscene : s.registerAssets.findScene scene with
  | error e =>
      rw [enter_of_error hscene, hr]
      rfl
  | ok found =>
      rw [enter_of_ok hscene]
      rfl

theorem leads_load (s : Session R B) (slot : String) :
    Leads s.memory ((s.load slot).1.resetIf (s.load slot).2.isOk) (s.load slot).1.memory := by
  refine leads_resetIf ?_
  rcases load_cases s slot with ⟨e, hload⟩ | ⟨text, save, scene, _, _, _, hload⟩
  · rw [hload]
    rfl
  · rw [hload]
    rfl

theorem leads_conclude (s : Session R B) (dt : R) :
    Leads s.memory ((conclude dt s).1.resetIf (conclude dt s).2.isReset)
      (conclude dt s).1.memory := by
  refine leads_resetIf ?_
  rcases request_cases s with ⟨slot, hl, hload⟩ | ⟨hl, ⟨id, scene, hs, hscene⟩ | hs⟩
  · rcases exists_of_load_ok hload with ⟨text, save, scene, hget, hparse, hscene⟩
    rw [conclude_of_loaded _ hl hload, load_of_parsed hget hparse hscene]
    rfl
  · rw [conclude_of_changed _ hl hs hscene]
    rfl
  · rw [conclude_of_advanced _ hl hs]
    rfl

variable [AudioOutput R B] [DecidableEq R]

theorem leads_runEvents (s : Session R B) (dt : R) :
    Leads s.memory ((s.inquiries dt).map .inquiry) (runEvents dt s).memory := by
  have haccount : Account fun (s : Session R B) (qs : List (Inquiry R B)) t =>
      Leads s.memory (qs.map .inquiry) t.memory := by
    refine ⟨fun _ => rfl, fun h h' => ?_⟩
    rw [List.map_append]
    exact h.append h'
  exact runEvents_inquiries haccount (fun q => ⟨rfl, rfl⟩)
    (fun t binding a => (alters_perform t binding dt a).memory) s

theorem leads_tick (s : Session R B) (dt : R) :
    Leads s.memory (s.tickHistory dt) (s.tick dt).1.memory := by
  unfold tickHistory
  rcases tick_cases s dt with ⟨hidle, input, count, htick⟩ | ⟨hplayed, htick⟩
  · rw [if_pos hidle, htick]
    rfl
  · rw [if_neg hplayed, htick]
    -- What steps by itself remembers nothing.
    have hbegun : (s.begun dt).memory = s.memory := rfl
    have hevents := leads_runEvents (s.begun dt) (elapsedTime dt)
    rw [hbegun] at hevents
    exact hevents.append (leads_conclude (s.passed dt) (elapsedTime dt))

theorem leads_call (s : Session R B) (c : HostCall R B) :
    Leads s.memory (s.callHistory c) (s.call c).memory := by
  cases c <;> simp only [call, callHistory]
  case enter scene => exact leads_enter s scene
  case tick dt => exact leads_tick s dt
  case load slot => exact leads_load s slot
  case save slot =>
    rcases exists_save s slot with ⟨store, hstore⟩
    rw [hstore]
    rfl
  case clearSave slot =>
    rcases exists_clearSave s slot with ⟨store, hstore⟩
    rw [hstore]
    rfl
  case click pixel =>
    unfold click
    split <;> rfl
  case teardown =>
    unfold teardown
    split <;> rfl
  -- The others are about input, messages, assets and sound.
  all_goals rfl

/-- The history of a run accounts for the memory. -/
theorem leads_run (s : Session R B) (calls : List (HostCall R B)) :
    Leads s.memory (s.history calls) (s.run calls).memory :=
  traced_account (P := fun (s : Session R B) h t => Leads s.memory h t.memory)
    ⟨fun _ => rfl, fun h h' => h.append h'⟩ leads_call s calls

variable {project : Project R} {config : Config R} {slots : SlotStore} {output : B}
  {supply : Supply} {s : Session R B}

/-- Each evaluation of a run finds what is remembered of its era. -/
theorem recalls_history (hstart : start project config slots output supply = .ok s)
    {calls : List (HostCall R B)} {before after : List (Moment R B)} {q : Inquiry R B}
    (h : s.history calls = before ++ .inquiry q :: after) :
    (Era.after before).Recalls q.session.memory := by
  have hleads := leads_run s calls
  rw [h, (isNew_start hstart).memory] at hleads
  exact hleads.recalls (Era.recalls_fresh 0)

/-- The start of a scene is seen exactly once by the events of an id: an evaluation of
    the condition holds if and only if none of them has evaluated it since the last
    reset. -/
theorem sceneStart_holds_once (hstart : start project config slots output supply = .ok s)
    (calls : List (HostCall R B)) (before after : List (Moment R B)) (q : Inquiry R B)
    (h : s.history calls = before ++ .inquiry q :: after) (hq : q.condition.kind = .sceneStart) :
    q.holds = true ↔ ∀ p ∈ (Era.after before).inquiries,
      p.condition.kind = .sceneStart → p.event ≠ q.event := by
  have hstarted := (recalls_history hstart h).started q.event
  rw [Inquiry.holds_of_sceneStart hq, Bool.not_eq_true', ← Bool.not_eq_true, hstarted]
  simp only [Inquiry.AsksStart, not_exists, not_and, ne_eq]

end Session

namespace Session

variable [AudioOutput R B] [DecidableEq R] {s : Session R B} {dt : R} {e : Event R}
  {c : Condition R}

theorem inquiries_eq_singleton (hevents : s.scene.activeEvents = [e]) (hgroup : e.group? = none)
    (hcondition : e.conditions = [c]) : s.inquiries dt = [⟨s, e.id, none, c⟩] := by
  rw [inquiries, hevents, traced, traced, eventInquiries, hgroup]
  dsimp only
  rw [boundInquiries, hcondition, conditionInquiries, conditionInquiries, ite_self, List.append_nil]

/-- The moments of a tick with a single event that has a single condition. -/
theorem tickHistory_eq_singleton (hclosed : s.closed = false) (hpopup : s.popup = none)
    (houtcome : (s.tick dt).2 = .advanced) (hevents : s.scene.activeEvents = [e])
    (hgroup : e.group? = none) (hcondition : e.conditions = [c]) :
    s.tickHistory dt = [.inquiry ⟨s.begun dt, e.id, none, c⟩] := by
  have hinquiries : (s.begun dt).inquiries (elapsedTime dt) = [⟨s.begun dt, e.id, none, c⟩] :=
    inquiries_eq_singleton hevents hgroup hcondition
  have hplayed : s.idles dt = false :=
    idles_eq_false_iff.2 ⟨hclosed, hpopup, by rw [Overflows, houtcome]; exact nofun⟩
  unfold tickHistory
  rw [hplayed, houtcome, hinquiries]
  rfl

end Session

/-- A project with one scene and one event, which evaluates some conditions in every
    tick. -/
def Project.ofConditions {R : Type} [Scalar R] (conditions : List (Condition R)) : Project R :=
  ⟨.initial, [⟨"main", "Main", [], [], [.event ⟨"always", "Always", none, conditions, []⟩]⟩], [],
    .empty⟩

/-- A session of such a project that has not begun yet, without sound and with empty
    slots in memory. -/
def Session.ofConditions {R : Type} [Scalar R] (conditions : List (Condition R)) :
    Session R (SilentOutput R) :=
  (Session.start (.ofConditions conditions) (.ofSettings .initial) (.memory .empty) .initial
    ⟨fun _ => "", fun _ => 0, 0, 0⟩).toOption.get rfl

/-- A session whose only event waits for the start of the scene. -/
def Session.awaitingStart : Session Float (SilentOutput Float) :=
  .ofConditions [⟨"1", .sceneStart⟩]

namespace Session

theorem start_ofConditions {R : Type} [Scalar R] (conditions : List (Condition R)) :
    start (.ofConditions conditions) (.ofSettings .initial) (.memory .empty) SilentOutput.initial
      ⟨fun _ => "", fun _ => 0, 0, 0⟩ = .ok (ofConditions conditions) := rfl

/-- Of two ticks the event meets the start of the scene in the first. -/
theorem sceneStart_holds_once_awaitingStart :
    ∃ p q, awaitingStart.history [.enter none, .tick 0, .tick 0] =
      [.reset 0, .inquiry p, .inquiry q] ∧ p.holds = true ∧ q.holds = false := by
  have hfirst : (awaitingStart.run [.enter none]).tickHistory 0 =
      [.inquiry ⟨(awaitingStart.run [.enter none]).begun 0, "always", none,
        ⟨"1", .sceneStart⟩⟩] :=
    tickHistory_eq_singleton (e := ⟨"always", "Always", none, [⟨"1", .sceneStart⟩], []⟩)
      rfl rfl rfl rfl rfl rfl
  have hsecond : (awaitingStart.run [.enter none, .tick 0]).tickHistory 0 =
      [.inquiry ⟨(awaitingStart.run [.enter none, .tick 0]).begun 0, "always", none,
        ⟨"1", .sceneStart⟩⟩] :=
    tickHistory_eq_singleton (e := ⟨"always", "Always", none, [⟨"1", .sceneStart⟩], []⟩)
      rfl rfl rfl rfl rfl rfl
  have hhistory : awaitingStart.history [.enter none, .tick 0, .tick 0] =
      [.reset 0] ++ ((awaitingStart.run [.enter none]).tickHistory 0 ++
        ((awaitingStart.run [.enter none, .tick 0]).tickHistory 0 ++ [])) := rfl
  rw [hfirst, hsecond] at hhistory
  have hstart := start_ofConditions (R := Float) [⟨"1", .sceneStart⟩]
  have hp := sceneStart_holds_once hstart _ [.reset 0] [.inquiry _] _ hhistory rfl
  have hq := sceneStart_holds_once hstart _ [.reset 0, .inquiry _] [] _ hhistory rfl
  refine ⟨_, _, hhistory, hp.2 ?_, Bool.eq_false_iff.2 fun h => ?_⟩
  · -- Nothing has been evaluated since the scene was entered.
    intro r hr
    cases hr
  · exact hq.1 h _ (List.mem_singleton_self _) rfl rfl

end Session

end Playfield
