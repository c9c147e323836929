import Mathlib
import Playfield.Proofs.Frame.Pointer
import Playfield.Proofs.Roster.Turrets
import Playfield.Proofs.Session.Intervals
import Playfield.Proofs.Session.Notes
import Playfield.Proofs.Session.Written
import Playfield.Scalar.Rational

/-!
# Timers

A timer tells how much has been played since it was started.

A session keeps of each timer when it was started, by a clock that is no part of a save. What a
save holds is how long the timers have been running, and a load counts back from its own clock.
So what is read off a timer is a difference of two clock values, of which the one may come from
another run.

Nobody has to know that. Timers behave like stopwatches (`Stopwatches`): all that run go on
while time passes, one is set to zero when it is started, a save notes what they show, and a
load puts back what has been noted. The notes of a run are what moves them, and at each
condition, at each save and at the end a session shows what they show (`Stopwatches.Shows`).

All this is said of rational numbers. The clock adds up the ticks of the whole run and not those
since a timer was started, so doubles would be rounded differently.

## Main definitions

* `Session.reading`: How long a timer has been running.
* `Session.stored`: What a load would make of the timers.
* `TimerNote.time`, `TimerNote.total`: The time that passes.
* `Stopwatches`: What is shown and what is noted in slots.
* `Session.Finds`: The sessions that are found in a run, each behind some of its notes.
* `Session.TellsTime`, `Session.KeepsTime`: What timers tell.

## Theorems

* `Stopwatches.running_after`, `Stopwatches.saved_after`: Stopwatches that nobody sets.
* `Stopwatches.Shows.perform`, `Stopwatches.Shows.conclude`: What actions and the end of a tick
  do to timers.
* `Stopwatches.moves_call`: Timers are moved by the notes of a call.
* `Session.timers_keep_time`: What timers tell in every run.
-/

namespace Playfield

namespace TimerNote

variable {B : Type}

/-- The time that passes. -/
def time : TimerNote Rat B → Rat
  | .passed dt => dt
  | _ => 0

/-- The time that passes with some notes. -/
def total (ns : List (TimerNote Rat B)) : Rat := (ns.map time).sum

theorem total_cons (n : TimerNote Rat B) (ns : List (TimerNote Rat B)) :
    total (n :: ns) = n.time + total ns := rfl

theorem total_eq_zero {ns : List (TimerNote Rat B)} (h : ∀ n ∈ ns, n.time = 0) : total ns = 0 :=
  List.sum_eq_zero fun _ hx => by
    rcases List.mem_map.1 hx with ⟨n, hn, rfl⟩
    exact h n hn

end TimerNote

/-- What is shown by name, and what is noted in the slots. -/
structure Stopwatches where
  running : String → Option Rat
  saved : String → String → Option Rat

namespace Session

variable {R B : Type} [Scalar R]

/-- How long a timer has been running. -/
def reading (s : Session R B) (name : String) : Option R :=
  (s.timers.get? name).map fun start => s.clock - start

section Slots

variable [Numeral R] {s : Session R B} {slot text : String} {save : SaveState R}

/-- How long a timer has been running in the save that is in a slot. -/
def stored (s : Session R B) (slot name : String) : Option R :=
  match s.slots.get (s.slotKey slot) with
  | .ok (some text) =>
    match SaveState.codec.parse text with
    | .ok (save : SaveState R) => save.timers.get? name
    | .error _ => none
  | _ => none

theorem stored_of_parsed (hget : s.slots.get (s.slotKey slot) = .ok (some text))
    (hparse : SaveState.codec.parse text = .ok save) (name : String) :
    s.stored slot name = save.timers.get? name := by
  rw [stored, hget]
  dsimp only
  rw [hparse]

end Slots

section Actions

variable [Numeral R] [Planar R] {s t : Session R B}

omit [Scalar R] [Numeral R] [Planar R] in
theorem timers_withPicture (s : Session R B) (source : String) (i : Instance R) :
    (s.withPicture source i).1.timers = s.timers := by
  unfold withPicture
  split
  · rfl
  · split <;> rfl

theorem timers_change? {id : String} {dt : R} {order : Order R}
    (h : s.change? id dt order = some t) : t.timers = s.timers := by
  simp only [change?, Option.map_eq_some_iff, Option.bind_eq_some_iff] at h
  rcases h with ⟨j, _, rfl⟩
  rfl

theorem timers_change (s : Session R B) (id : String) (dt : R) (order : Order R) :
    (s.change id dt order).timers = s.timers := by
  unfold change
  cases h : s.change? id dt order with
  | none => rfl
  | some t => exact timers_change? h

theorem timers_affect (s : Session R B) (binding : Option Binding) (dt : R) (id : String)
    (e : Effect R) : (s.affect binding dt id e).timers = s.timers := by
  cases e
  case destroy =>
    simp only [affect, destroy]
    split <;> rfl
  case setSprite source =>
    simp only [affect, setPicture]
    split
    · next t h =>
      have htimers : t.timers = s.timers := timers_change? h
      exact htimers
    · rfl
  case fire bullet point =>
    simp only [affect, fire]
    split <;> rfl
  -- The other effects change one instance, or nothing.
  all_goals
    simp only [affect]
    split
    · exact timers_change s id dt _
    · rfl

variable [AudioOutput R B] [DecidableEq R]

/-- One kind of action sets a timer, and no other has to do with timers. -/
theorem timers_perform (s : Session R B) (binding : Option Binding) (dt : R) (a : Action R) :
    (perform binding dt s a).timers = match a.kind with
      | .startTimer name => s.timers.insert name s.clock
      | _ => s.timers := by
  rcases a with ⟨id, kind⟩
  cases kind <;> simp only [perform]
  case object target e => exact timers_affect s binding dt _ e
  case create c =>
    unfold create
    split
    · exact timers_withPicture s c.sprite _
    · rfl
  case changeGlobal name op value =>
    unfold changeGlobal
    split <;> rfl
  case save slot =>
    rcases exists_save s slot with ⟨store, hstore⟩
    rw [hstore]
  case clearSave slot =>
    rcases exists_clearSave s slot with ⟨store, hstore⟩
    rw [hstore]
  all_goals rfl

end Actions

end Session

namespace Stopwatches

variable {B : Type} {w : Stopwatches} {ns ms : List (TimerNote Rat B)} {name slot : String}

/-- What becomes of stopwatches with a note. -/
def next (w : Stopwatches) : TimerNote Rat B → Stopwatches
  | .passed dt => { w with running := fun name => (w.running name).map (· + dt) }
  | .asked _ => w
  | .started name => { w with running := Function.update w.running name (some 0) }
  | .saved _ slot => { w with saved := Function.update w.saved slot w.running }
  | .loaded slot => { w with running := w.saved slot }

/-- What becomes of them with several. -/
def after (w : Stopwatches) (ns : List (TimerNote Rat B)) : Stopwatches := ns.foldl next w

theorem after_cons (w : Stopwatches) (n : TimerNote Rat B) (ns : List (TimerNote Rat B)) :
    w.after (n :: ns) = (w.next n).after ns := rfl

theorem after_append (w : Stopwatches) (ns ms : List (TimerNote Rat B)) :
    w.after (ns ++ ms) = (w.after ns).after ms :=
  List.foldl_append

theorem running_next {n : TimerNote Rat B} (h : ¬ n.Sets name) :
    (w.next n).running name = (w.running name).map (· + n.time) := by
  cases n with
  | passed dt => rfl
  | started other => simp [next, TimerNote.time, Function.update_of_ne (Ne.symm h)]
  | loaded slot => exact absurd trivial h
  | asked q => simp [next, TimerNote.time]
  | saved s slot => simp [next, TimerNote.time]

/-- A stopwatch that nobody sets goes on, if it runs. -/
theorem running_after (h : ∀ n ∈ ns, ¬ n.Sets name) :
    (w.after ns).running name = (w.running name).map (· + TimerNote.total ns) := by
  induction ns generalizing w with
  | nil => simp [after, TimerNote.total]
  | cons n ns ih =>
      rw [List.forall_mem_cons] at h
      rw [after_cons, ih h.2, running_next h.1, Option.map_map, TimerNote.total_cons]
      simp only [Function.comp_def, add_assoc]

/-- What is noted in a slot stays there until the slot is written again. -/
theorem saved_after (h : ∀ n ∈ ns, ¬ n.Saves slot) : (w.after ns).saved slot = w.saved slot := by
  induction ns generalizing w with
  | nil => rfl
  | cons n ns ih =>
      rw [List.forall_mem_cons] at h
      rw [after_cons, ih h.2]
      cases n with
      | saved s other => exact Function.update_of_ne (Ne.symm h.1) _ _
      | _ => rfl

theorem running_started (before : List (TimerNote Rat B)) (h : ∀ n ∈ ns, ¬ n.Sets name) :
    (w.after (before ++ .started name :: ns)).running name = some (TimerNote.total ns) := by
  rw [after_append, after_cons, running_after h]
  simp [next]

theorem running_loaded (before : List (TimerNote Rat B)) (h : ∀ n ∈ ns, ¬ n.Sets name) :
    (w.after (before ++ .loaded slot :: ns)).running name =
      ((w.after before).saved slot name).map (· + TimerNote.total ns) := by
  rw [after_append, after_cons, running_after h]
  rfl

theorem saved_saved (first : List (TimerNote Rat B)) (u : Session Rat B)
    (h : ∀ n ∈ ns, ¬ n.Saves slot) :
    (w.after (first ++ .saved u slot :: ns)).saved slot = (w.after first).running := by
  rw [after_append, after_cons, saved_after h]
  exact Function.update_self _ _ _

variable [Numeral Rat] {s t : Session Rat B}

/-- A session shows what the stopwatches show, and holds in its slots what they have noted. -/
structure Shows (w : Stopwatches) (s : Session Rat B) : Prop where
  running : s.reading = w.running
  saved : ∀ {slot text save}, s.slots.get (s.slotKey slot) = .ok (some text) →
    SaveState.codec.parse text = .ok save → save.timers.get? = w.saved slot

namespace Shows

/-- Nothing matters but timers, clock and slots. -/
theorem congr (h : w.Shows s) (htimers : t.timers = s.timers) (hclock : t.clock = s.clock)
    (hconfig : t.config = s.config) (hslots : t.slots = s.slots) : w.Shows t where
  running := by
    funext name
    rw [← h.running, Session.reading, Session.reading, htimers, hclock]
  saved := by
    intro slot text save
    rw [hslots, Session.slotKey, hconfig]
    exact h.saved

/-- Time passes. -/
theorem pass (h : w.Shows s) (dt : Rat) (htimers : t.timers = s.timers)
    (hclock : t.clock = s.clock + dt) (hconfig : t.config = s.config) (hslots : t.slots = s.slots) :
    (w.next (.passed (B := B) dt)).Shows t where
  running := by
    funext name
    simp only [next, ← h.running, Session.reading, htimers, hclock, Option.map_map,
      Function.comp_def, add_sub_right_comm]
  saved := by
    intro slot text save
    rw [hslots, Session.slotKey, hconfig]
    exact h.saved

theorem start (h : w.Shows s) (name : String) :
    (w.next (.started (B := B) name)).Shows
      { s with timers := s.timers.insert name s.clock } where
  running := by
    funext other
    simp only [next, Session.reading, Dictionary.get?_insert]
    by_cases hname : name = other
    · subst hname
      simp
    · rw [if_neg hname, Function.update_of_ne (Ne.symm hname), ← h.running]
      rfl
  saved := h.saved

theorem clearSave (h : w.Shows s) (slot : String) : w.Shows (s.clearSave slot).1 := by
  have hget {other text : String}
      (hread : (s.clearSave slot).1.slots.get (s.slotKey other) = .ok (some text)) :=
    Session.get_of_clearSave hread
  rcases Session.exists_clearSave s slot with ⟨store, hstore⟩
  rw [hstore] at hget ⊢
  exact ⟨h.running, fun hread hparse => h.saved (hget hread) hparse⟩

/-- A save notes what the timers tell, if it succeeds. -/
theorem save (h : w.Shows s) (slot : String) :
    (w.after (s.saveNotes slot)).Shows (s.save slot).1 := by
  have hget {other text : String}
      (hread : (s.save slot).1.slots.get (s.slotKey other) = .ok (some text)) :=
    Session.get_of_save hread
  rcases Session.exists_save s slot with ⟨store, hstore⟩
  rw [hstore] at hget ⊢
  cases hresult : (s.save slot).2 with
  | error e =>
      rw [Session.saveNotes_of_error hresult]
      refine ⟨h.running, ?_⟩
      intro other text save hread hparse
      rcases hget hread with ⟨hok, -⟩ | ⟨-, hread⟩
      · rw [hresult] at hok
        cases hok
      · exact h.saved hread hparse
  | ok u =>
      rw [Session.saveNotes_of_ok hresult]
      refine ⟨h.running, ?_⟩
      intro other text save hread hparse
      simp only [after, List.foldl_cons, List.foldl_nil, next]
      rcases hget hread with ⟨-, rfl, hsnapshot⟩ | ⟨hother, hread⟩
      · -- A snapshot holds how long each timer has been running.
        rw [hsnapshot, Except.ok.injEq] at hparse
        rw [Function.update_self, ← h.running, ← hparse]
        funext name
        rw [Session.snapshot, Dictionary.get?_mapValues, Session.reading]
      · rw [Function.update_of_ne (hother hresult)]
        exact h.saved hread hparse

/-- A load puts back what has been noted. -/
theorem restore (h : w.Shows s) {slot text : String} {save : SaveState Rat} {scene : Scene Rat}
    (hget : s.slots.get (s.slotKey slot) = .ok (some text))
    (hparse : SaveState.codec.parse text = .ok save) :
    (w.next (.loaded (B := B) slot)).Shows (s.restore save scene) where
  running := by
    funext name
    simp only [next, ← h.saved hget hparse, Session.reading, Session.restore,
      Dictionary.get?_mapValues, Option.map_map, Function.comp_def, sub_sub_cancel, Option.map_id']
  saved := h.saved

theorem load (h : w.Shows s) (slot : String) :
    (w.after (if (s.load slot).2.isOk then [.loaded (B := B) slot] else [])).Shows
      (s.load slot).1 := by
  rcases Session.load_cases s slot with ⟨e, hload⟩ | ⟨text, save, scene, hget, hparse, -, hload⟩
  · rw [hload]
    exact h
  · rw [hload]
    exact h.restore hget hparse

/-- At the end of a tick no time passes. Only a load sets timers. -/
theorem conclude (h : w.Shows s) (dt : Rat) :
    (w.after (Session.outcomeNotes (B := B) (Session.conclude dt s).2)).Shows
      (Session.conclude dt s).1 := by
  rcases Session.request_cases s with ⟨slot, hl, hload⟩ | ⟨hl, ⟨id, scene, hs, hscene⟩ | hs⟩
  · have hloaded := h.load slot
    rw [hload] at hloaded
    rw [Session.conclude_of_loaded _ hl hload]
    exact hloaded.congr rfl rfl rfl rfl
  · rw [Session.conclude_of_changed _ hl hs hscene]
    exact h.congr rfl rfl rfl rfl
  · rw [Session.conclude_of_advanced _ hl hs]
    exact h.congr rfl rfl rfl rfl

theorem enter (h : w.Shows s) (scene : Option String) : w.Shows (s.enter scene).1 := by
  rcases Session.exists_registerAssets s with ⟨assets, sounds, done, hr⟩
  have hassets : w.Shows s.registerAssets := by
    rw [hr]
    exact h.congr rfl rfl rfl rfl
  cases hscene : s.registerAssets.findScene scene with
  | error e =>
      rw [Session.enter_of_error hscene]
      exact hassets
  | ok found =>
      rw [Session.enter_of_ok hscene]
      exact hassets.congr rfl rfl rfl rfl

variable [Planar Rat] [AudioOutput Rat B]

/-- An action moves timers by its notes. -/
theorem perform {d : Deed Rat B} (h : w.Shows d.session) (dt : Rat) :
    (w.after d.notes).Shows (Session.perform d.binding dt d.session d.action) := by
  rcases d with ⟨s, binding, a⟩
  have htimers := Session.timers_perform s binding dt a
  have hlocal := Session.actsLocally_perform s binding dt a
  rcases a with ⟨id, kind⟩
  cases kind
  case startTimer name => exact h.start name
  case save slot => exact h.save slot
  case clearSave slot => exact h.clearSave slot
  -- The others have nothing to do with timers or slots.
  all_goals
    refine h.congr htimers hlocal.clock hlocal.config (hlocal.slots.resolve_right ?_)
    rintro ⟨slot, hslot, -⟩
    cases hslot

end Shows

/-- Each session that a note is about shows what the stopwatches show then. -/
inductive Meets : Stopwatches → List (TimerNote Rat B) → Prop
  | nil (w : Stopwatches) : Meets w []
  | cons {w : Stopwatches} {n : TimerNote Rat B} {ns : List (TimerNote Rat B)} :
    (∀ s, n.session? = some s → w.Shows s) → Meets (w.next n) ns → Meets w (n :: ns)

theorem Meets.append (h : w.Meets ns) (h' : (w.after ns).Meets ms) : w.Meets (ns ++ ms) := by
  induction h with
  | nil w => exact h'
  | cons hn _ ih => exact .cons hn (ih h')

theorem Meets.of_append (h : w.Meets (ns ++ ms)) : w.Meets ns ∧ (w.after ns).Meets ms := by
  induction ns generalizing w with
  | nil => exact ⟨.nil w, h⟩
  | cons n ns ih =>
      cases h with
      | cons hn hns => exact ⟨.cons hn (ih hns).1, (ih hns).2⟩

/-- A session that a note is about shows what the stopwatches show behind the notes before. -/
theorem Meets.shows {before later : List (TimerNote Rat B)} {n : TimerNote Rat B}
    (h : w.Meets (before ++ n :: later)) (hn : n.session? = some s) : (w.after before).Shows s := by
  cases h.of_append.2 with
  | cons hshows _ => exact hshows s hn

theorem meets_of_silent (h : ∀ n ∈ ns, n.session? = none) : w.Meets ns := by
  induction ns generalizing w with
  | nil => exact .nil w
  | cons n ns ih =>
      rw [List.forall_mem_cons] at h
      exact .cons (fun s hs => absurd (h.1.symm.trans hs) nofun) (ih h.2)

omit [Numeral Rat] in
theorem silent_outcomeNotes (o : Outcome) :
    ∀ n ∈ Session.outcomeNotes (R := Rat) (B := B) o, n.session? = none := by
  unfold Session.outcomeNotes
  split <;> simp [TimerNote.session?]

/-- A single note about a session. -/
theorem meets_singleton {n : TimerNote Rat B} (hn : n.session? = some s) (h : w.Shows s) :
    w.Meets [n] :=
  .cons (fun _ ht => Option.some.inj (hn.symm.trans ht) ▸ h) (.nil _)

theorem meets_saveNotes (h : w.Shows s) (slot : String) : w.Meets (s.saveNotes slot) := by
  cases hresult : (s.save slot).2 with
  | error e =>
      rw [Session.saveNotes_of_error hresult]
      exact .nil w
  | ok u =>
      rw [Session.saveNotes_of_ok hresult]
      exact meets_singleton rfl h

/-- If a session shows what some stopwatches show, the notes move them so that a later session
    shows what they show then. -/
def Moves (s : Session Rat B) (ns : List (TimerNote Rat B)) (t : Session Rat B) : Prop :=
  ∀ w : Stopwatches, w.Shows s → w.Meets ns ∧ (w.after ns).Shows t

theorem account_moves : Account (Moves (B := B)) where
  nothing _ w h := ⟨.nil w, h⟩
  append {s t u l m} hfirst hlater w h := by
    have ht := hfirst w h
    have hu := hlater _ ht.2
    rw [after_append]
    exact ⟨ht.1.append hu.1, hu.2⟩

variable [Planar Rat] [AudioOutput Rat B]

theorem moves_runEvents (s : Session Rat B) (dt : Rat) :
    Moves s (s.activeNotes dt) (Session.runEvents dt s) := by
  refine Session.runEvents_notes account_moves (fun q w h => ?_) (fun d w h => ⟨?_, h.perform dt⟩) s
  · exact ⟨meets_singleton rfl h, h.congr rfl rfl rfl rfl⟩
  · -- Only the note of a save is about a session.
    unfold Deed.notes
    split
    · exact meets_of_silent (by simp [TimerNote.session?])
    · exact meets_saveNotes h _
    · exact .nil w

theorem moves_tick (s : Session Rat B) (dt : Rat) : Moves s (s.tickNotes dt) (s.tick dt).1 := by
  unfold Session.tickNotes
  rcases Session.tick_cases s dt with ⟨hidle, input, count, htick⟩ | ⟨hplayed, htick⟩
  · rw [if_pos hidle, htick]
    exact fun w h => ⟨.nil w, h.congr rfl rfl rfl rfl⟩
  · rw [if_neg hplayed, htick]
    intro w h
    -- Time passes first, the events follow, and a load comes last.
    have hbegun := h.pass (t := s.begun dt) (elapsedTime dt) rfl rfl rfl rfl
    have hevents := moves_runEvents (s.begun dt) (elapsedTime dt) _ hbegun
    have hend := hevents.2.conclude (elapsedTime dt)
    have hsilent := silent_outcomeNotes (B := B) (Session.conclude (elapsedTime dt) (s.passed dt)).2
    refine ⟨.cons (fun _ ht => nomatch ht) (hevents.1.append (meets_of_silent hsilent)), ?_⟩
    rw [after_cons, after_append]
    exact hend

theorem moves_call (s : Session Rat B) (c : HostCall Rat B) :
    Moves s (s.callNotes c) (s.call c) := by
  by_cases hc : c.isPassive = true
  · rcases Session.exists_call_of_isPassive s hc with ⟨input, assets, mixer, popup, closed, hcall⟩
    have hnotes : s.callNotes c = [] := by
      cases c
      case tick => cases hc
      case save => cases hc
      case load => cases hc
      all_goals rfl
    rw [hcall, hnotes]
    exact fun w h => ⟨.nil w, h.congr rfl rfl rfl rfl⟩
  intro w h
  cases c
  case enter scene => exact ⟨.nil w, h.enter scene⟩
  case tick dt => exact moves_tick s dt w h
  case save slot => exact ⟨meets_saveNotes h slot, h.save slot⟩
  case load slot =>
    refine ⟨meets_of_silent ?_, h.load slot⟩
    simp only [Session.callNotes]
    split <;> simp [TimerNote.session?]
  case clearSave slot => exact ⟨.nil w, h.clearSave slot⟩
  all_goals exact absurd rfl hc

theorem moves_run (s : Session Rat B) (calls : List (HostCall Rat B)) :
    Moves s (s.notes calls) (s.run calls) :=
  traced_account account_moves moves_call s calls

end Stopwatches

namespace Session

section Runs

variable {B : Type} [Numeral Rat] [Planar Rat] [AudioOutput Rat B] {s t : Session Rat B}

/-- A session that is found in a run behind some of its notes: at a condition, at a save or at
    the end. -/
inductive Finds (s : Session Rat B) (calls : List (HostCall Rat B)) :
    List (TimerNote Rat B) → Session Rat B → Prop
  | last : Finds s calls (s.notes calls) (s.run calls)
  | within {before after : List (TimerNote Rat B)} {n : TimerNote Rat B} {t : Session Rat B} :
    s.notes calls = before ++ n :: after → n.session? = some t → Finds s calls before t

/-- What timers tell behind some notes. At first there is something in the slots, and no timer
    runs. -/
structure TellsTime (t : Session Rat B) (stored : String → String → Option Rat)
    (ns : List (TimerNote Rat B)) : Prop where
  absent : ∀ name, (∀ n ∈ ns, ¬ n.Sets name) → t.reading name = none
  /-- A timer tells the time that has passed since it was started last, unless a save has been
      loaded since then. -/
  started : ∀ before name after, ns = before ++ .started name :: after →
    (∀ n ∈ after, ¬ n.Sets name) → t.reading name = some (TimerNote.total after)
  /-- A timer that is loaded goes on from what it told when the slot was saved last. If there
      was none then, there is none. -/
  resumed : ∀ first u slot between name after,
    ns = first ++ .saved u slot :: (between ++ .loaded slot :: after) →
    (∀ n ∈ between, ¬ n.Saves slot) → (∀ n ∈ after, ¬ n.Sets name) →
    t.reading name = (u.reading name).map (· + TimerNote.total after)
  /-- So it is with a save that has been there from the beginning. -/
  restored : ∀ before slot name after, ns = before ++ .loaded slot :: after →
    (∀ n ∈ before, ¬ n.Saves slot) → (∀ n ∈ after, ¬ n.Sets name) →
    t.reading name = (stored slot name).map (· + TimerNote.total after)
  /-- The condition holds if there is such a timer and it tells enough. -/
  holds_iff : ∀ event binding (c : Condition Rat) name seconds, c.kind = .timer name seconds →
    ((t.holds event binding c).1 = true ↔ ∃ x, t.reading name = some x ∧ seconds ≤ x)

/-- What timers do in a run. -/
structure KeepsTime (s : Session Rat B) (calls : List (HostCall Rat B)) : Prop where
  tells : ∀ ns t, s.Finds calls ns t → t.TellsTime s.stored ns
  /-- Whatever the host does, timers go on by the time that a tick lets pass, and by nothing
      else, unless they are set. -/
  goes : ∀ c name, (∀ n ∈ (s.run calls).callNotes c, ¬ n.Sets name) →
    ((s.run calls).call c).reading name =
      ((s.run calls).reading name).map (· + ((s.run calls).passedTime? c).getD 0)

omit [AudioOutput Rat B] in
theorem holds_timer_iff {event : String} {binding : Option Binding} {c : Condition Rat}
    {name : String} {seconds : Rat} (h : c.kind = .timer name seconds) :
    (t.holds event binding c).1 = true ↔ ∃ x, t.reading name = some x ∧ seconds ≤ x := by
  simp only [holds, h, reading]
  cases t.timers.get? name <;> simp

omit [AudioOutput Rat B] in
/-- What is shown by stopwatches of which none has run at first is what the notes tell. -/
theorem tellsTime_of_shows {stored : String → String → Option Rat} {ns : List (TimerNote Rat B)}
    (hmeets : Stopwatches.Meets ⟨fun _ => none, stored⟩ ns)
    (hshows : (Stopwatches.after ⟨fun _ => none, stored⟩ ns).Shows t) :
    t.TellsTime stored ns where
  absent name h := by
    rw [hshows.running, Stopwatches.running_after h]
    rfl
  started before name after hns h := by
    rw [hshows.running, hns, Stopwatches.running_started before h]
  resumed first u slot between name after hns hbetween h := by
    rw [hns] at hmeets
    -- What is put back was noted when the session was saved, and is what that session told.
    rw [hshows.running, hns, ← List.cons_append, ← List.append_assoc,
      Stopwatches.running_loaded _ h, Stopwatches.saved_saved first u hbetween,
      ← (hmeets.shows rfl).running]
  restored before slot name after hns hbefore h := by
    rw [hshows.running, hns, Stopwatches.running_loaded before h, Stopwatches.saved_after hbefore]
  holds_iff _ _ _ _ _ h := holds_timer_iff h

omit [Planar Rat] [AudioOutput Rat B] in
theorem time_saveNotes (s : Session Rat B) (slot : String) :
    ∀ n ∈ s.saveNotes slot, n.time = 0 := by
  intro n hn
  rcases List.mem_map.1 hn with ⟨_, _, rfl⟩
  rfl

/-- While events run no time passes. -/
theorem time_activeNotes (s : Session Rat B) (dt : Rat) : ∀ n ∈ s.activeNotes dt, n.time = 0 := by
  refine runEvents_notes (P := fun _ ns _ => ∀ n ∈ ns, n.time = 0)
    ⟨fun _ => List.forall_mem_nil _, fun h h' => List.forall_mem_append.2 ⟨h, h'⟩⟩ ?_ ?_ s
  · intro q
    exact List.forall_mem_singleton.2 rfl
  · intro d
    unfold Deed.notes
    split
    · exact List.forall_mem_singleton.2 rfl
    · exact time_saveNotes _ _
    · exact List.forall_mem_nil _

/-- Only the first note of a tick that is played lets time pass. -/
theorem total_callNotes (s : Session Rat B) (c : HostCall Rat B) :
    TimerNote.total (s.callNotes c) = (s.passedTime? c).getD 0 := by
  cases c <;> simp only [callNotes, passedTime?, Option.getD_none]
  case tick dt =>
    unfold tickNotes
    split
    · rfl
    · have hlater : ∀ n ∈ (s.begun dt).activeNotes (elapsedTime dt) ++
          outcomeNotes (s.tick dt).2, n.time = 0 := by
        refine List.forall_mem_append.2 ⟨time_activeNotes _ _, ?_⟩
        unfold outcomeNotes
        split <;> simp [TimerNote.time]
      rw [TimerNote.total_cons, TimerNote.total_eq_zero hlater, add_zero]
      rfl
  case save slot => exact TimerNote.total_eq_zero (time_saveNotes s slot)
  case load slot =>
    refine TimerNote.total_eq_zero ?_
    split <;> simp [TimerNote.time]
  all_goals rfl

variable {project : Project Rat} {config : Config Rat} {slots : SlotStore} {output : B}
  {supply : Supply}

omit [Planar Rat] [AudioOutput Rat B] in
/-- At the beginning no stopwatch runs. -/
theorem shows_stopped (hstart : start project config slots output supply = .ok s) :
    Stopwatches.Shows ⟨fun _ => none, s.stored⟩ s where
  running := by
    have htimers : s.timers = .empty := by
      unfold start at hstart
      split at hstart
      · cases hstart
      · cases hstart
        rfl
    funext name
    rw [reading, htimers]
    rfl
  saved := by
    intro slot text save hget hparse
    funext name
    exact (stored_of_parsed hget hparse name).symm

/-- Timers tell the time that has been played. -/
theorem timers_keep_time (hstart : start project config slots output supply = .ok s)
    (calls : List (HostCall Rat B)) : s.KeepsTime calls where
  tells ns t h := by
    have hrun := Stopwatches.moves_run s calls _ (shows_stopped hstart)
    cases h with
    | last => exact tellsTime_of_shows hrun.1 hrun.2
    | within hnotes hn =>
        rw [hnotes] at hrun
        exact tellsTime_of_shows hrun.1.of_append.1 (hrun.1.shows hn)
  goes c name h := by
    -- For one call more the stopwatches may be any that show what the session tells.
    have hself : Stopwatches.Shows ⟨(s.run calls).reading, (s.run calls).stored⟩ (s.run calls) :=
      ⟨rfl, fun hget hparse => funext fun name => (stored_of_parsed hget hparse name).symm⟩
    rw [((Stopwatches.moves_call _ c) _ hself).2.running, Stopwatches.running_after h,
      total_callNotes]

end Runs

end Session

/-- A project whose only event starts a timer with the scene. -/
def Project.timed : Project Rat :=
  ⟨.initial, [⟨"main", "Main", [], [],
    [.event ⟨"begin", "Begin", none, [⟨"1", .sceneStart⟩], [⟨"1", .startTimer "t"⟩]⟩]⟩], [], .empty⟩

namespace Session

def timed : Session Rat (SilentOutput Rat) :=
  (start .timed (.ofSettings .initial) (.memory .empty) .initial
    ⟨fun _ => "", fun _ => 0, 0, 0⟩).toOption.get rfl

theorem start_timed : start .timed (.ofSettings .initial) (.memory .empty) SilentOutput.initial
    ⟨fun _ => "", fun _ => 0, 0, 0⟩ = .ok timed := rfl

theorem notes_timed :
    letI := Rational.numeral
    letI := Rational.upright
    ∃ q p, timed.notes [.enter none, .tick 1, .tick 2] =
      [.passed (elapsedTime 1), .asked q, .started "t", .passed (elapsedTime 2), .asked p] := by
  let _ : Numeral Rat := Rational.numeral
  let _ : Planar Rat := Rational.upright
  exact ⟨_, _, rfl⟩

/-- The timer is started in the first tick. When the slot is loaded, it tells what it told when
    the slot was saved. -/
theorem timers_keep_time_timed :
    letI := Rational.numeral
    letI := Rational.upright
    let first : List (HostCall Rat (SilentOutput Rat)) := [.enter none, .tick 1, .tick 2]
    (timed.run first).reading "t" = some 2 ∧
      (timed.run (first ++ [.save "a", .tick 4, .load "a"])).reading "t" = some 2 := by
  let _ : Numeral Rat := Rational.numeral
  let _ : Planar Rat := Rational.upright
  intro first
  have hkeeps (calls) : timed.KeepsTime calls := timers_keep_time start_timed calls
  have htwo : (timed.run first).reading "t" = some 2 := by
    rcases notes_timed with ⟨q, p, hnotes⟩
    have htells := (hkeeps first).tells _ _ .last
    rw [htells.started [.passed (elapsedTime 1), .asked q] "t" _ hnotes (by simp [TimerNote.Sets])]
    have hpassed : elapsedTime (2 : Rat) = 2 := by decide +kernel
    simp [TimerNote.total, TimerNote.time, hpassed]
  refine ⟨htwo, ?_⟩
  -- One evaluation, so that the run is evaluated once.
  have hruns : ((timed.run first).save "a").2 = .ok () ∧
      (((timed.run first).run [.save "a", .tick 4]).load "a").2.isOk = true ∧
      ∀ n ∈ ((timed.run first).run [.save "a"]).tickNotes 4, ¬ n.Saves "a" := by
    decide +kernel
  rcases hruns with ⟨hsave, hload, hbetween⟩
  -- Without a name of its own the session that is saved would be evaluated at every step.
  generalize hu : timed.run first = u at *
  have hnotes : timed.notes (first ++ [.save "a", .tick 4, .load "a"]) = timed.notes first ++
      .saved u "a" :: ((u.run [.save "a"]).tickNotes 4 ++ [.loaded "a"]) := by
    rw [notes_append, hu, notes_of_returned hsave hload]
  have htells := (hkeeps (first ++ [.save "a", .tick 4, .load "a"])).tells _ _ .last
  rw [htells.resumed _ u "a" _ "t" [] hnotes hbetween (by simp), htwo]
  simp [TimerNote.total]

end Session

end Playfield
