import Mathlib
import Playfield.Proofs.Double.Order
import Playfield.Proofs.Session.History

/-!
# Intervals

A repeating condition holds no more often than its interval allows.

What a repeating condition remembers is when it last held, and what is remembered of an
era is known (`Era.Recalls`). So the answer of an evaluation is known from the era
before it: the time since the last stroke, or since the era began, against the interval
(`Era.Recalls.holds_iff`).

That strokes keep a distance, and that of two members of a group only one is struck in a
tick, are consequences for which time has to be in order. It is measured in doubles, so
it may stand still, and it may come to an end at the infinity, from which no distance
can be taken any more. But it does not turn back, and the distance to an earlier time is
not rounded below the distance to a later one.

## Main definitions

* `Moment.clock`: When a moment is.
* `Session.passedTime?`: The time that a call lets pass.
* `Session.Ages`: Moments that are in order.
* `Session.KeepsIntervals`: What repeating conditions do in a run.

## Theorems

* `Era.Recalls.holds_iff`: The answer to a repeating condition, told by its era.
* `Session.clock_call`: Only a tick that is played lets time pass.
* `Session.clock_callHistory`: The moments of a call are at one time.
* `Session.ages_run`: The moments of a run are in order.
* `Session.every_keeps_interval`: Repeating conditions keep their intervals.
-/

namespace Playfield

namespace Era

variable {R B : Type}

/-- What an era has seen, it has seen before or among the moments that follow. -/
theorem inquiries_foldl_next (h : List (Moment R B)) (e : Era R B) :
    ((h.foldl next e).inquiries.map Moment.inquiry).Sublist
      (e.inquiries.map Moment.inquiry ++ h) := by
  -- An evaluation is taken over, and a reset drops what has been before it.
  induction h generalizing e with
  | nil => simp
  | cons m h ih =>
      rw [List.foldl_cons]
      refine (ih (e.next m)).trans ?_
      cases m with
      | inquiry q => simp [next]
      | reset clock =>
          simp only [next, List.map_nil, List.nil_append]
          exact (List.sublist_cons_self _ _).trans (List.sublist_append_right _ _)

/-- Evaluations alone continue an era. -/
theorem foldl_next_inquiries (qs : List (Inquiry R B)) (e : Era R B) :
    (qs.map Moment.inquiry).foldl next e = { e with inquiries := e.inquiries ++ qs } := by
  induction qs generalizing e with
  | nil => simp
  | cons q qs ih =>
      rw [List.map_cons, List.foldl_cons, ih]
      simp [next]

variable [Scalar R]

/-- What an era has seen is part of the history. -/
theorem inquiries_after (h : List (Moment R B)) :
    ((after h).inquiries.map Moment.inquiry).Sublist h := by
  have hsub := inquiries_foldl_next h first
  rwa [first, List.map_nil, List.nil_append] at hsub

variable [Numeral R] [Planar R] {e : Era R B} {q : Inquiry R B}

/-- A repeating condition holds if its interval has passed since it last held, or since
    the era began. -/
theorem Recalls.holds_iff (h : e.Recalls q.session.memory) {x : R}
    (hq : q.condition.kind = .every x) :
    q.holds = true ↔ x ≤ q.clock - e.lastStroke q.condition.id := by
  rw [Inquiry.holds_of_every hq, decide_eq_true_eq, h.lastHeld, h.since]
  rfl

/-- The last stroke of an id that has been struck is one of its strokes, and no earlier
    than any other in an era that is in order. -/
theorem exists_lastStroke {id : String} {p : Inquiry R B} (hp : p ∈ e.inquiries)
    (hstrikes : p.strikes id = true) : ∃ r ∈ e.inquiries, e.lastStroke id = r.clock ∧
      (e.inquiries.Pairwise (·.clock ≤ ·.clock) → p = r ∨ p.clock ≤ r.clock) := by
  have hmem : p ∈ e.inquiries.filter (·.strikes id) := List.mem_filter.2 ⟨hp, hstrikes⟩
  rcases List.eq_nil_or_concat (e.inquiries.filter (·.strikes id)) with hnil | ⟨ps, r, hlast⟩
  · rw [hnil] at hmem
    cases hmem
  · rw [List.concat_eq_append] at hlast
    have hr : r ∈ e.inquiries.filter (·.strikes id) := by
      rw [hlast]
      exact List.mem_concat_self
    refine ⟨r, List.mem_of_mem_filter hr, ?_, fun hpairs => ?_⟩
    · rw [lastStroke, hlast, List.getLast?_concat]
      rfl
    · -- Either it is the last stroke itself, or one of those before.
      have hsorted := hpairs.filter (·.strikes id)
      rw [hlast, List.pairwise_append] at hsorted
      rw [hlast, List.mem_append, List.mem_singleton] at hmem
      rcases hmem with hbefore | heq
      · exact .inr (hsorted.2.2 p hbefore r (List.mem_singleton_self r))
      · exact .inl heq

end Era

/-- When a moment is. -/
def Moment.clock {R B : Type} : Moment R B → R
  | .inquiry q => q.clock
  | .reset clock => clock

@[simp]
theorem Moment.clock_inquiry {R B : Type} (q : Inquiry R B) : (inquiry q).clock = q.clock := rfl

namespace Session

section Clocks

variable {R B : Type}

theorem clock_resetIf {s : Session R B} {reset : Bool} :
    ∀ m ∈ s.resetIf reset, m.clock = s.clock := by
  intro m hm
  cases reset with
  | false => cases hm
  | true =>
      rw [List.mem_singleton.1 hm]
      rfl

variable [Scalar R]

theorem clock_enter (s : Session R B) (scene : Option String) :
    (s.enter scene).1.clock = s.clock := by
  rcases exists_registerAssets s with ⟨assets, sounds, done, hr⟩
  cases hscene : s.registerAssets.findScene scene with
  | error e => rw [enter_of_error hscene, hr]
  | ok found =>
      rw [enter_of_ok hscene, hr]
      rfl

variable [Numeral R]

theorem clock_load (s : Session R B) (slot : String) : (s.load slot).1.clock = s.clock := by
  rcases load_cases s slot with ⟨e, hload⟩ | ⟨text, save, scene, _, _, _, hload⟩
  · rw [hload]
  · rw [hload]
    rfl

theorem clock_conclude (s : Session R B) (dt : R) : (conclude dt s).1.clock = s.clock := by
  rcases request_cases s with ⟨slot, hl, hload⟩ | ⟨hl, ⟨id, scene, hs, hscene⟩ | hs⟩
  · rw [conclude_of_loaded _ hl hload]
    exact clock_load s slot
  · rw [conclude_of_changed _ hl hs hscene]
    rfl
  · rw [conclude_of_advanced _ hl hs]
    rfl

variable [Planar R] [AudioOutput R B] [DecidableEq R]

/-- The time that a call lets pass, if it is a tick that is played. -/
def passedTime? (s : Session R B) : HostCall R B → Option R
  | .tick dt => if s.idles dt then none else some (elapsedTime dt)
  | _ => none

/-- All conditions of a tick are evaluated at one time. -/
theorem clock_runEvents (s : Session R B) (dt : R) :
    (runEvents dt s).clock = s.clock ∧ ∀ q ∈ s.inquiries dt, q.clock = s.clock := by
  have haccount : Account fun (s : Session R B) (qs : List (Inquiry R B)) t =>
      t.clock = s.clock ∧ ∀ q ∈ qs, q.clock = s.clock := by
    refine ⟨fun s => ⟨rfl, by simp⟩, fun h h' => ⟨h'.1.trans h.1, ?_⟩⟩
    rw [List.forall_mem_append]
    exact ⟨h.2, fun q hq => (h'.2 q hq).trans h.1⟩
  exact runEvents_inquiries haccount (fun q => ⟨rfl, by simp [Inquiry.clock]⟩)
    (fun t binding a => ⟨(follows_perform t binding dt a).clock, by simp⟩) s

theorem clock_tick (s : Session R B) (dt : R) : (s.tick dt).1.clock =
    if s.idles dt then s.clock else s.clock + elapsedTime dt := by
  rcases tick_cases s dt with ⟨hidle, input, count, htick⟩ | ⟨hplayed, htick⟩
  · rw [if_pos hidle, htick]
  · rw [if_neg hplayed, htick, clock_conclude]
    exact (clock_runEvents (s.begun dt) (elapsedTime dt)).1

/-- Only a tick that is played lets time pass. -/
theorem clock_call (s : Session R B) (c : HostCall R B) :
    (s.call c).clock = (s.passedTime? c).elim s.clock (s.clock + ·) := by
  cases c <;> simp only [call, passedTime?]
  case enter scene => exact clock_enter s scene
  case tick dt =>
    rw [clock_tick]
    split <;> rfl
  case load slot => exact clock_load s slot
  case save slot =>
    rcases exists_save s slot with ⟨store, hstore⟩
    rw [hstore]
    rfl
  case clearSave slot =>
    rcases exists_clearSave s slot with ⟨store, hstore⟩
    rw [hstore]
    rfl
  case click pixel =>
    unfold click
    split <;> rfl
  case teardown =>
    unfold teardown
    split <;> rfl
  -- The others are about input, messages, assets and sound.
  all_goals rfl

/-- The moments of a call are at the time at which it ends. -/
theorem clock_callHistory (s : Session R B) (c : HostCall R B) :
    ∀ m ∈ s.callHistory c, m.clock = (s.call c).clock := by
  cases c <;> simp only [call, callHistory, List.not_mem_nil, false_implies, implies_true]
  case enter scene => exact clock_resetIf
  case load slot => exact clock_resetIf
  case tick dt =>
    unfold tickHistory
    split
    · simp
    · next h =>
      have htick := clock_tick s dt
      rw [if_neg h] at htick
      rw [List.forall_mem_append]
      refine ⟨?_, clock_resetIf⟩
      intro m hm
      rcases List.mem_map.1 hm with ⟨q, hq, rfl⟩
      exact ((clock_runEvents (s.begun dt) (elapsedTime dt)).2 q hq).trans htick.symm

/-- Before an evaluation of a tick there are only evaluations. -/
theorem exists_map_of_tickHistory {s : Session R B} {dt : R} {earlier later : List (Moment R B)}
    {q : Inquiry R B} (h : s.tickHistory dt = earlier ++ .inquiry q :: later) :
    ∃ qs : List (Inquiry R B), earlier = qs.map .inquiry := by
  unfold tickHistory at h
  split at h
  · exact absurd h (by simp)
  · -- The reset is the last of the moments, so it is not before another one.
    rcases List.append_eq_append_iff.1 h with ⟨l, hleft, hright⟩ | ⟨l, hleft, hright⟩
    · unfold resetIf at hright
      split at hright
      · cases l with
        | nil => exact absurd hright (by simp)
        | cons m l => exact absurd hright (by simp)
      · exact absurd hright (by simp)
    · rcases List.map_eq_append_iff.1 hleft with ⟨qs, _, _, rfl, _⟩
      exact ⟨qs, rfl⟩

theorem history_concat (s : Session R B) (calls : List (HostCall R B)) (c : HostCall R B) :
    s.history (calls ++ [c]) = s.history calls ++ (s.run calls).callHistory c := by
  unfold history run
  rw [traced_append, traced, traced, List.append_nil]

end Clocks

/-- Moments that are in order and not out of a time. -/
structure Ages {R B : Type} [LE R] (since : R) (h : List (Moment R B)) (now : R) : Prop where
  span : since ≤ now
  after : ∀ m ∈ h, since ≤ m.clock
  before : ∀ m ∈ h, m.clock ≤ now
  chronological : h.Pairwise (·.clock ≤ ·.clock)

section Doubles

variable {B : Type}

/-- Moments that are in order stay so when later ones follow. -/
theorem Ages.append {a b c : Float} {h k : List (Moment Float B)} (hh : Ages a h b)
    (hk : Ages b k c) : Ages a (h ++ k) c where
  span := Double.le_trans hh.span hk.span
  after := List.forall_mem_append.2 ⟨hh.after, fun m hm => Double.le_trans hh.span (hk.after m hm)⟩
  before :=
    List.forall_mem_append.2 ⟨fun m hm => Double.le_trans (hh.before m hm) hk.span, hk.before⟩
  chronological := List.pairwise_append.2 ⟨hh.chronological, hk.chronological,
    fun m hm n hn => Double.le_trans (hh.before m hm) (hk.after n hn)⟩

theorem clock_start {project : Project Float} {config : Config Float} {slots : SlotStore}
    {output : B} {supply : Supply} {s : Session Float B}
    (hstart : start project config slots output supply = .ok s) : 0 ≤ s.clock := by
  rw [(isNew_start hstart).clock]
  exact (by decide : (0 : Float) ≤ 0)

/-- A tick lets a finite time pass that is not negative, whatever the host says. -/
theorem elapsedTime_spec (dt : Float) : 0 ≤ elapsedTime dt ∧ (elapsedTime dt).isFinite = true := by
  unfold elapsedTime
  split
  · next h =>
    rw [Bool.and_eq_true, decide_eq_true_eq] at h
    exact ⟨Double.le_of_lt h.2, h.1⟩
  · exact ⟨by decide, by decide⟩

variable {s : Session Float B}

theorem passedTime?_spec [AudioOutput Float B] {c : HostCall Float B} {dt : Float}
    (h : s.passedTime? c = some dt) : 0 ≤ dt ∧ dt.isFinite = true := by
  cases c
  case tick dt' =>
    simp only [passedTime?] at h
    split at h
    · cases h
    · cases h
      exact elapsedTime_spec dt'
  all_goals cases h

/-- What has been struck before in an era in order, the interval of what holds later
    has passed since. -/
theorem apart_of_holds {before after : List (Moment Float B)} {q : Inquiry Float B} {x : Float}
    (hrecalls : (Era.after before).Recalls q.session.memory)
    (hfirst : ∀ m ∈ before ++ .inquiry q :: after, 0 ≤ m.clock)
    (hsorted : (before ++ .inquiry q :: after).Pairwise (·.clock ≤ ·.clock))
    (hq : q.condition.kind = .every x) (hholds : q.holds = true) :
    ∀ p ∈ (Era.after before).inquiries, p.strikes q.condition.id = true →
      p.clock ≤ q.clock ∧ x ≤ q.clock - p.clock := by
  intro p hp hstrikes
  rw [List.pairwise_append] at hsorted
  have hsub := Era.inquiries_after before
  -- The evaluations of the era are moments of the history.
  have hmoment {r : Inquiry Float B} (hr : r ∈ (Era.after before).inquiries) :
      .inquiry r ∈ before := hsub.subset (List.mem_map_of_mem hr)
  have hlate {r : Inquiry Float B} (hr : r ∈ (Era.after before).inquiries) :
      r.clock ≤ q.clock := by
    have hle := hsorted.2.2 _ (hmoment hr) _ List.mem_cons_self
    rwa [Moment.clock_inquiry, Moment.clock_inquiry] at hle
  have hsortedEra := List.pairwise_map.1 (hsorted.1.sublist hsub)
  simp only [Moment.clock_inquiry] at hsortedEra
  have hzero := hfirst _ (List.mem_append_left _ (hmoment hp))
  rw [Moment.clock_inquiry] at hzero
  rcases Era.exists_lastStroke hp hstrikes with ⟨r, hr, hlast, horder⟩
  have hpr : p.clock ≤ r.clock := by
    rcases horder hsortedEra with rfl | hle
    · exact Double.le_self_right hzero
    · exact hle
  have hpast := (hrecalls.holds_iff hq).1 hholds
  rw [hlast] at hpast
  exact ⟨hlate hp, Double.le_sub_of_le hzero hpr (hlate hr) hpast⟩

variable [AudioOutput Float B]

theorem clock_le_call (h : 0 ≤ s.clock) (c : HostCall Float B) : s.clock ≤ (s.call c).clock := by
  rw [clock_call]
  cases hpassed : s.passedTime? c with
  | none => exact Double.le_self_right h
  | some dt =>
      rcases passedTime?_spec hpassed with ⟨hzero, hfinite⟩
      exact Double.le_add h hzero hfinite

theorem ages_call (h : 0 ≤ s.clock) (c : HostCall Float B) :
    Ages s.clock (s.callHistory c) (s.call c).clock := by
  have hspan := clock_le_call h c
  have hself := Double.le_self_right hspan
  have hclock := clock_callHistory s c
  refine ⟨hspan, fun m hm => ?_, fun m hm => ?_, List.pairwise_of_forall_mem_list ?_⟩
  · rw [hclock m hm]
    exact hspan
  · rw [hclock m hm]
    exact hself
  · intro m hm n hn
    rw [hclock m hm, hclock n hn]
    exact hself

/-- The moments of a run are in order. -/
theorem ages_run (h : 0 ≤ s.clock) (calls : List (HostCall Float B)) :
    Ages s.clock (s.history calls) (s.run calls).clock := by
  have haccount : Account fun (s : Session Float B) (h : List (Moment Float B)) t =>
      0 ≤ s.clock → Ages s.clock h t.clock := by
    refine ⟨fun s hs => ⟨Double.le_self_right hs, by simp, by simp, .nil⟩, fun hh hk hs => ?_⟩
    have hfirst := hh hs
    exact hfirst.append (hk (Double.le_trans hs hfirst.span))
  exact traced_account haccount (fun _ c ht => ages_call ht c) s calls h

/-- What repeating conditions do in a run. -/
structure KeepsIntervals (s : Session Float B) (calls : List (HostCall Float B)) : Prop where
  /-- A repeating condition holds exactly if its interval has passed since a condition of
      its id last held, or since the last reset if none has. -/
  holds_iff : ∀ before q after x, s.history calls = before ++ .inquiry q :: after →
    q.condition.kind = .every x →
    (q.holds = true ↔ x ≤ q.clock - (Era.after before).lastStroke q.condition.id)
  /-- If it holds, its interval has passed since all strokes of its id after the last
      reset. -/
  apart : ∀ before q after x, s.history calls = before ++ .inquiry q :: after →
    q.condition.kind = .every x → q.holds = true →
    ∀ p ∈ (Era.after before).inquiries, p.strikes q.condition.id = true →
      p.clock ≤ q.clock ∧ x ≤ q.clock - p.clock
  chronological : (s.history calls).Pairwise (·.clock ≤ ·.clock)
  /-- The clock goes on in ticks that are played, and by nothing else. -/
  played : ∀ c, ((s.run calls).call c).clock =
    ((s.run calls).passedTime? c).elim (s.run calls).clock ((s.run calls).clock + ·)
  forward : ∀ c, (s.run calls).clock ≤ ((s.run calls).call c).clock
  /-- A condition with a positive interval does not hold in a tick after a stroke of its id
      in the same tick. -/
  once : ∀ dt earlier q later x, (s.run calls).tickHistory dt = earlier ++ .inquiry q :: later →
    q.condition.kind = .every x → 0 < x →
    (∃ p, .inquiry p ∈ earlier ∧ p.strikes q.condition.id = true) → q.holds = false

variable {project : Project Float} {config : Config Float} {slots : SlotStore} {output : B}
  {supply : Supply}

theorem history_holds_iff (hstart : start project config slots output supply = .ok s)
    {calls : List (HostCall Float B)} {before after : List (Moment Float B)} {q : Inquiry Float B}
    {x : Float} (h : s.history calls = before ++ .inquiry q :: after)
    (hq : q.condition.kind = .every x) :
    q.holds = true ↔ x ≤ q.clock - (Era.after before).lastStroke q.condition.id :=
  (recalls_history hstart h).holds_iff hq

theorem history_apart (hstart : start project config slots output supply = .ok s)
    {calls : List (HostCall Float B)} {before after : List (Moment Float B)} {q : Inquiry Float B}
    {x : Float} (h : s.history calls = before ++ .inquiry q :: after)
    (hq : q.condition.kind = .every x) (hholds : q.holds = true) :
    ∀ p ∈ (Era.after before).inquiries, p.strikes q.condition.id = true →
      p.clock ≤ q.clock ∧ x ≤ q.clock - p.clock := by
  have hzero := clock_start hstart
  have hages := ages_run hzero calls
  rw [h] at hages
  exact apart_of_holds (recalls_history hstart h)
    (fun m hm => Double.le_trans hzero (hages.after m hm)) hages.chronological hq hholds

theorem zero_le_clock (hstart : start project config slots output supply = .ok s)
    (calls : List (HostCall Float B)) : 0 ≤ (s.run calls).clock :=
  Double.le_trans (clock_start hstart) (ages_run (clock_start hstart) calls).span

/-- In one tick nothing passes, so there is no second stroke of an id. -/
theorem tickHistory_once (hstart : start project config slots output supply = .ok s)
    (calls : List (HostCall Float B)) {dt x : Float} {earlier later : List (Moment Float B)}
    {p q : Inquiry Float B}
    (h : (s.run calls).tickHistory dt = earlier ++ .inquiry q :: later)
    (hq : q.condition.kind = .every x) (hx : 0 < x) (hp : .inquiry p ∈ earlier)
    (hstrikes : p.strikes q.condition.id = true) : q.holds = false := by
  rcases exists_map_of_tickHistory h with ⟨qs, rfl⟩
  rw [← Bool.not_eq_true]
  intro hholds
  -- The tick continues the run, and the earlier stroke belongs to the same era.
  have hfull : s.history (calls ++ [.tick dt]) =
      (s.history calls ++ qs.map .inquiry) ++ .inquiry q :: later := by
    rw [history_concat, callHistory, h, List.append_assoc]
  have hera : p ∈ (Era.after (s.history calls ++ qs.map .inquiry)).inquiries := by
    rcases List.mem_map.1 hp with ⟨r, hr, heq⟩
    cases heq
    rw [Era.after, List.foldl_append, Era.foldl_next_inquiries]
    exact List.mem_append_right _ hr
  have hpast := (history_apart hstart hfull hq hholds p hera hstrikes).2
  -- Both are at the one time of the tick.
  have hsame := clock_callHistory (s.run calls) (.tick dt)
  rw [callHistory, h, List.forall_mem_append, List.forall_mem_cons] at hsame
  have hpt := hsame.1 _ hp
  have hqt := hsame.2.1
  rw [Moment.clock_inquiry] at hpt hqt
  rw [hpt, hqt] at hpast
  have hclock := clock_le_call (zero_le_clock hstart calls) (.tick dt)
  exact Double.not_le_sub_self hx (Double.le_trans (zero_le_clock hstart calls) hclock) hpast

/-- A repeating condition keeps its interval in every run. -/
theorem every_keeps_interval (hstart : start project config slots output supply = .ok s)
    (calls : List (HostCall Float B)) : s.KeepsIntervals calls where
  holds_iff _ _ _ _ h hq := history_holds_iff hstart h hq
  apart _ _ _ _ h hq := history_apart hstart h hq
  chronological := (ages_run (clock_start hstart) calls).chronological
  played := clock_call (s.run calls)
  forward := clock_le_call (zero_le_clock hstart calls)
  once _ _ _ _ _ h hq hx := by
    rintro ⟨p, hp, hstrikes⟩
    exact tickHistory_once hstart calls h hq hx hp hstrikes

end Doubles

/-- A session whose only event repeats every second. -/
def repeating : Session Float (SilentOutput Float) := .ofConditions [⟨"1", .every 1⟩]

/-- The event is told when the second is over, and not again half a second later. -/
theorem every_keeps_interval_repeating :
    ∃ p q, repeating.history [.enter none, .tick 1, .tick 0.5] =
      [.reset 0, .inquiry p, .inquiry q] ∧ p.holds = true ∧ q.holds = false := by
  have hfirst : ∃ p, (repeating.run [.enter none]).tickHistory 1 = [.inquiry p] ∧
      p.condition = ⟨"1", .every 1⟩ ∧ p.clock = 1 :=
    ⟨_, tickHistory_eq_singleton (e := ⟨"always", "Always", none, [⟨"1", .every 1⟩], []⟩)
      rfl rfl rfl rfl rfl rfl, rfl, rfl⟩
  have hsecond : ∃ q, (repeating.run [.enter none, .tick 1]).tickHistory 0.5 = [.inquiry q] ∧
      q.condition = ⟨"1", .every 1⟩ ∧ q.clock = 1.5 :=
    ⟨_, tickHistory_eq_singleton (e := ⟨"always", "Always", none, [⟨"1", .every 1⟩], []⟩)
      rfl rfl rfl rfl rfl rfl, rfl, rfl⟩
  have hhistory : repeating.history [.enter none, .tick 1, .tick 0.5] =
      [.reset 0] ++ ((repeating.run [.enter none]).tickHistory 1 ++
        ((repeating.run [.enter none, .tick 1]).tickHistory 0.5 ++ [])) := rfl
  rcases hfirst with ⟨p, hp, hpc, hpt⟩
  rcases hsecond with ⟨q, hq, hqc, hqt⟩
  rw [hp, hq] at hhistory
  have hkeeps := every_keeps_interval (start_ofConditions (R := Float) [⟨"1", .every 1⟩])
    [.enter none, .tick 1, .tick 0.5]
  have hpkind : p.condition.kind = .every 1 := by rw [hpc]
  have hqkind : q.condition.kind = .every 1 := by rw [hqc]
  have hstroke : p.holds = true := by
    rw [hkeeps.holds_iff [.reset 0] p [.inquiry q] 1 hhistory hpkind, hpt]
    exact (by decide : (1 : Float) ≤ 1 - 0)
  refine ⟨p, q, hhistory, hstroke, Bool.eq_false_iff.2 fun hholds => ?_⟩
  -- The first evaluation is a stroke of the same era.
  have hstrikes : p.strikes q.condition.id = true := by
    rw [Inquiry.strikes_of_every hpkind, hstroke, hpc, hqc]
    rfl
  have hpast := (hkeeps.apart [.reset 0, .inquiry p] q [] 1 hhistory hqkind hholds p
    (List.mem_singleton_self p) hstrikes).2
  rw [hpt, hqt] at hpast
  exact absurd hpast (by decide)

end Session

end Playfield
