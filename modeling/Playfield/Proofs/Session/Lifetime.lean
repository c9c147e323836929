import Mathlib
import Playfield.Proofs.Instance.Confined
import Playfield.Proofs.Instance.Restored
import Playfield.Proofs.Roster.Places
import Playfield.Proofs.Session.Intervals
import Playfield.Proofs.Session.Lasting

/-!
# How Long Bullets Live

A bullet lives as long as it has been told to.

A bullet counts the time of the ticks in which it is stepped. This count is a slot of its own
behavior, and of all that goes on in a tick nothing else touches it: other behaviors have
slots of their own, bars and animations have none, and actions only set health
(`Session.get_passed`). So what is counted is known after any number of ticks, as the sum of
their times in the order in which they have passed, and with it whether the bullet is still
there: it asks for its own destruction in the tick in which the sum exceeds its lifespan for
the first time, and unless somebody else destroys it before, it goes at the end of that tick.

The sum is one of rounded numbers, and no law of arithmetic is used of it. An instance is
told from others by its place (`Session.placeAfter?`), because ids need not be unique.

## Main definitions

* `Session.continues`: A call that leaves the instances of the scene in being.
* `Session.placeAfter?`: Where an instance is after some calls.
* `Session.times`, `Session.flown`: The times that pass in some calls, and their sum.
* `Session.Spares`: Calls in which nobody else destroys an instance.
* `Session.Flight`: What becomes of a bullet.

## Theorems

* `Order.get_of_result?`: Actions do not set what behaviors count.
* `Session.get_passed`: What an instance remembers in a tick is what its own step has left.
* `Session.position_begun`: Where an instance is in a tick is where its own step has led it.
* `Session.roster_call`: Without a tick the instances stay as they are.
* `Session.played_tick`: What a tick makes of a bullet.
* `Session.bullet_lives_out`: Bullets live as long as they have been told to.
-/

namespace Playfield

namespace Instance

variable {R : Type} [Scalar R] [Planar R] (scene : Scene R) (input : Input R) (dt : R)
  {i : Instance R} {speed lifespan elapsed : R} {fragile : Bool}
  (hi : i.HasOnly (.bullet speed fragile lifespan))
  (hstate : i.states.get .bullet = some (.bullet elapsed))

include hi hstate

/-- When the turn of a bullet comes, it flies on from where its instance is then. -/
theorem exists_turn_bullet : ∃ before after,
    i.object.behaviors = before ++ .bullet speed fragile lifespan :: after ∧
      (∀ c ∈ before, c.kind ≠ .bullet) ∧ (∀ c ∈ after, c.kind ≠ .bullet) ∧
      (i.turn scene input dt before).act scene input dt (.bullet speed fragile lifespan) =
        (i.turn scene input dt before).fly speed lifespan dt elapsed := by
  rcases hi.exists_split with ⟨before, after, hsplit, hbefore, hafter⟩
  have hturn := (get_turn scene input dt i hbefore).trans hstate
  exact ⟨before, after, hsplit, hbefore, hafter, Stepped.act_bullet scene input dt _ hturn⟩

/-- A bullet counts the time, whether it is its last or not. -/
theorem get_step_bullet : (i.step scene input dt).subject.states.get .bullet =
    some (.bullet (elapsed + dt)) := by
  rcases exists_turn_bullet scene input dt hi hstate with ⟨before, after, hsplit, -, hafter, hfly⟩
  rw [step_eq_of_behaviors scene input dt hsplit, Stepped.get_foldl_act _ _ _ _ hafter, hfly,
    Stepped.fly]
  split <;> rfl

/-- A bullet asks to be destroyed if it has outlived itself. -/
theorem destroys_step_bullet : (i.step scene input dt).destroys =
    if lifespan < elapsed + dt then [i.id] else [] := by
  rcases exists_turn_bullet scene input dt hi hstate with
    ⟨before, after, hsplit, hbefore, hafter, hfly⟩
  have hturn : (i.turn scene input dt before).destroys = [] :=
    Stepped.destroys_foldl_act scene input dt _ hbefore
  rw [step_eq_of_behaviors scene input dt hsplit, Stepped.destroys_foldl_act _ _ _ _ hafter, hfly,
    Stepped.fly]
  split
  · exact congrArg₂ (· ++ [·]) hturn (id_turn scene input dt i before)
  · exact hturn

/-- A bullet moves its instance unless it has outlived itself. -/
theorem exists_hasTurn_bullet : ∃ s t : Stepped R,
    i.HasTurn scene input dt (.bullet speed fragile lifespan) s t ∧
      t.subject.object.position = if lifespan < elapsed + dt then s.subject.object.position
        else s.subject.object.position + (s.subject.object.heading.scale speed).scale dt := by
  rcases exists_turn_bullet scene input dt hi hstate with ⟨before, after, hsplit, -, -, hfly⟩
  refine ⟨_, _, ⟨before, after, hsplit, rfl, rfl, step_eq_of_behaviors scene input dt hsplit⟩, ?_⟩
  rw [hfly, Stepped.fly]
  split <;> rfl

end Instance

namespace Order

variable {R : Type} [Scalar R] [Numeral R] [Planar R]

/-- Actions do not set what behaviors count. -/
theorem get_of_result? {dt : R} {i j : Instance R} {order : Order R} {k : Behavior.Kind}
    (hk : k ≠ .health) (h : order.result? dt i = some j) : j.states.get k = i.states.get k := by
  have hhealth (x : R) : (i.setHealth x).states.get k = i.states.get k := by
    cases k <;> first | rfl | exact absurd rfl hk
  cases order <;> simp only [result?, Option.map_eq_some_iff, Option.some.injEq] at h
  case animate a =>
    unfold animate? at h
    split at h <;> cases h
    rfl
  case damage x =>
    rcases h with ⟨y, _, rfl⟩
    exact hhealth _
  case setHealth x =>
    rcases h with ⟨y, _, rfl⟩
    exact hhealth _
  -- The others change the object.
  all_goals
    first
      | (subst h; rfl)
      | (obtain ⟨x, _, rfl⟩ := h; rfl)

end Order

namespace Instance

variable {R : Type} [Scalar R]

theorem states_syncBar [Numeral R] (r : Roster R) (globals : Variables R) (i : Instance R) :
    (r.syncBar globals i).states = i.states := by
  unfold Roster.syncBar
  split
  · split <;> rfl
  · rfl

theorem states_animate (dt : R) (i : Instance R) : (i.animate dt).states = i.states := by
  rcases animate_cases dt i with h | ⟨s, a, cursor, isOver, -, -, -, -, h⟩ <;> rw [h]

theorem position_syncBar [Numeral R] (r : Roster R) (globals : Variables R) (i : Instance R) :
    (r.syncBar globals i).object.position = i.object.position := by
  unfold Roster.syncBar
  split
  · split <;> rfl
  · rfl

theorem position_animate (dt : R) (i : Instance R) :
    (i.animate dt).object.position = i.object.position := by
  rcases animate_cases dt i with h | ⟨s, a, cursor, isOver, -, -, -, -, h⟩ <;> rw [h]

end Instance

namespace Session

variable {R B : Type} [Scalar R] [Numeral R] [Planar R] [AudioOutput R B] [DecidableEq R]

/-- What the instances remember when the events have run is what their own steps have left. -/
theorem get_passed {k : Behavior.Kind} (hk : k ≠ .health) (s : Session R B) (dt : R) :
    (s.passed dt).roster.live.map (·.states.get k) =
      (s.steps dt).map (·.subject.states.get k) := by
  have haccount : Account fun (s : Session R B) (_ : List (Deed R B)) t =>
      t.roster.live.map (·.states.get k) = s.roster.live.map (·.states.get k) :=
    ⟨fun _ => rfl, fun h h' => h'.trans h⟩
  have hperform (t : Session R B) (binding : Option Binding) (a : Action R) :
      (perform binding (elapsedTime dt) t a).roster.live.map (·.states.get k) =
        t.roster.live.map (·.states.get k) := by
    rw [← List.forall₂_eq_eq_eq, List.forall₂_map_left_iff, List.forall₂_map_right_iff]
    refine (descends_perform t binding (elapsedTime dt) a).flip.imp ?_
    rintro j i (rfl | ⟨order, -, hij⟩)
    · rfl
    · exact Order.get_of_result? hk hij
  -- Bars and animations come between the steps and the events.
  have hbegun : (s.begun dt).roster.live.map (·.states.get k) =
      (s.steps dt).map (·.subject.states.get k) := by
    rw [map_live_begun, steps]
    simp only [List.map_map, Function.comp_def, Instance.states_animate, Instance.states_syncBar]
  exact (runEvents_account haccount (fun _ _ => rfl) hperform (s.begun dt)).trans hbegun

omit [DecidableEq R] in
/-- The events of a tick find an instance where its own step has left it. -/
theorem position_begun {s : Session R B} {place : Nat} {i : Instance R}
    (hplace : s.roster.live[place]? = some i) (dt : R) :
    (s.begun dt).roster.live[place]?.map (·.object.position) =
      some (i.step s.scene s.input (elapsedTime dt)).subject.object.position := by
  rw [map_live_begun, List.getElem?_map, hplace, Option.map_some, Option.map_some,
    Instance.position_animate, Instance.position_syncBar]

/-- An instance stays at its place while a tick is played, and is the same object. -/
theorem exists_passed {s : Session R B} {place : Nat} {i : Instance R}
    (hplace : s.roster.live[place]? = some i) (dt : R) :
    ∃ j, (s.passed dt).roster.live[place]? = some j ∧ i.Becomes j ∧
      ∀ k, k ≠ .health → j.states.get k =
        (i.step s.scene s.input (elapsedTime dt)).subject.states.get k := by
  rcases getElem?_of_forall₂ (live_passed s dt) hplace with ⟨j, hj, hij⟩
  refine ⟨j, hj, hij, fun k hk => ?_⟩
  have hget := congrArg (·[place]?) (get_passed hk s dt)
  simp only [List.getElem?_map, hj, steps, hplace, Option.map_some, Option.some.injEq] at hget
  exact hget

/-! ## Places over some calls -/

/-- A call that leaves the instances of the scene in being: nothing is loaded, and no scene is
    entered. -/
def continues (s : Session R B) : HostCall R B → Bool
  | .enter _ | .load _ => false
  | .tick dt => !(s.tick dt).2.isReset
  | _ => true

/-- Where an instance is after a call, if it is still there. Only a tick that is played lets
    something take effect. -/
def nextPlace? (s : Session R B) (place : Nat) : HostCall R B → Option Nat
  | .tick dt =>
    if s.idles dt then some place else (s.passed dt).roster.settledPlace? place
  | _ => some place

/-- Where an instance is after some calls, if it is still there. -/
def placeAfter? (s : Session R B) (place : Nat) : List (HostCall R B) → Option Nat
  | [] => some place
  | c :: calls => (s.nextPlace? place c).bind fun place => (s.call c).placeAfter? place calls

/-- The times that pass in some calls, those of the ticks that are played. -/
def times (s : Session R B) (calls : List (HostCall R B)) : List R :=
  traced call (fun s c => (s.passedTime? c).toList) s calls

theorem placeAfter?_concat (s : Session R B) (place : Nat) (calls : List (HostCall R B))
    (c : HostCall R B) : s.placeAfter? place (calls ++ [c]) =
      (s.placeAfter? place calls).bind fun place => (s.run calls).nextPlace? place c := by
  induction calls generalizing s place with
  | nil =>
      simp only [List.nil_append, placeAfter?, Option.bind_some, Option.bind_fun_some]
      rfl
  | cons d calls ih =>
      simp only [List.cons_append, placeAfter?, ih, Option.bind_assoc]
      rfl

theorem times_concat (s : Session R B) (calls : List (HostCall R B)) (c : HostCall R B) :
    s.times (calls ++ [c]) = s.times calls ++ ((s.run calls).passedTime? c).toList := by
  rw [times, traced_append]
  exact congrArg (s.times calls ++ ·) (List.append_nil _)

section Calls

variable {s : Session R B} {dt x : R}

omit [DecidableEq R] in
theorem cases_of_played (h : s.passedTime? (.tick dt) = some x) :
    s.idles dt = false ∧ x = elapsedTime dt := by
  simp only [passedTime?] at h
  split at h
  · cases h
  · next hplayed => exact ⟨Bool.eq_false_iff.2 hplayed, (Option.some.inj h).symm⟩

/-- A call in which no time passes leaves the instances as they are, if it leaves them in
    being. -/
theorem roster_call {c : HostCall R B} (hc : s.continues c = true) (h : s.passedTime? c = none) :
    (s.call c).roster = s.roster := by
  by_cases hpassive : c.isPassive = true
  · rcases exists_call_of_isPassive s hpassive with ⟨input, assets, mixer, popup, closed, hcall⟩
    rw [hcall]
  cases c
  case enter scene => cases hc
  case load slot => cases hc
  case save slot =>
    rcases exists_save s slot with ⟨store, hstore⟩
    rw [call, hstore]
  case clearSave slot =>
    rcases exists_clearSave s slot with ⟨store, hstore⟩
    rw [call, hstore]
  case tick dt =>
    rcases tick_cases s dt with ⟨_, input, count, htick⟩ | ⟨hplayed, _⟩
    · rw [call, htick]
    · rw [passedTime?, if_neg hplayed] at h
      cases h
  all_goals exact absurd rfl hpassive

/-- And without such a tick nobody moves up. -/
theorem nextPlace?_of_not_played {c : HostCall R B} (h : s.passedTime? c = none) (place : Nat) :
    s.nextPlace? place c = some place := by
  cases c
  case tick dt =>
    simp only [passedTime?] at h
    split at h
    · next hidle => rw [nextPlace?, if_pos hidle]
    · cases h
  all_goals rfl

/-- In a tick that is played, and that leaves the instances in being, what has been asked for
    takes effect. -/
theorem roster_tick (hc : s.continues (.tick dt) = true)
    (h : s.passedTime? (.tick dt) = some x) :
    (s.tick dt).1.roster = (s.passed dt).roster.applyPending := by
  rcases tick_cases s dt with ⟨hidle, _⟩ | ⟨_, htick⟩
  · rw [(cases_of_played h).1] at hidle
    cases hidle
  · rw [continues, htick] at hc
    rw [htick]
    rcases request_cases (s.passed dt) with ⟨slot, hl, hload⟩ | ⟨hl, ⟨id, scene, hs, hscene⟩ | hs⟩
    · rw [conclude_of_loaded _ hl hload] at hc
      cases hc
    · rw [conclude_of_changed _ hl hs hscene] at hc
      cases hc
    · rw [conclude_of_advanced _ hl hs]
      rfl

end Calls

/-- The ids of which a tick asks the destruction, except what the instance at a place asks for
    itself. -/
def othersDestroy (s : Session R B) (dt : R) (place : Nat) : List String :=
  s.roster.destroys ++ ((s.steps dt).eraseIdx place).flatMap (·.destroys) ++
    ((s.begun dt).deeds (elapsedTime dt)).flatMap Deed.destroys

/-- The new instances that a tick asks for. -/
def newborns (s : Session R B) (dt : R) : List (Instance R) :=
  (s.supply.nameAll ((s.steps dt).flatMap (·.spawns))).1 ++
    ((s.begun dt).deeds (elapsedTime dt)).flatMap Deed.spawns

section Ticks

variable {s : Session R B} {place : Nat} {i : Instance R} {dt x : R}

/-- What is destroyed in a tick is destroyed by an instance itself or by others. -/
theorem mem_destroys_passed (hplace : s.roster.live[place]? = some i) (id : String) :
    id ∈ (s.passed dt).roster.destroys ↔ id ∈ s.othersDestroy dt place ∨
      id ∈ (i.step s.scene s.input (elapsedTime dt)).destroys := by
  have hstep : (s.steps dt)[place]? = some (i.step s.scene s.input (elapsedTime dt)) := by
    rw [steps, List.getElem?_map, hplace]
    rfl
  -- The steps are those of the others, and one more.
  rcases List.getElem?_eq_some_iff.1 hstep with ⟨hlt, hget⟩
  have hperm := (List.getElem_cons_eraseIdx_perm hlt).flatMap_right (·.destroys)
  rw [hget, List.flatMap_cons] at hperm
  rw [destroys_passed, requests, othersDestroy]
  simp only [List.mem_append, ← hperm.mem_iff]
  tauto

/-- An instance flies by a bullet of its own, which has counted some time. -/
def IsFlying (s : Session R B) (place : Nat) (id : String) (b : Behavior R) (elapsed : R) : Prop :=
  ∃ i, s.roster.live[place]? = some i ∧ i.id = id ∧ i.HasOnly b ∧
    i.states.get .bullet = some (.bullet elapsed)

variable {id : String} {speed lifespan elapsed : R} {fragile : Bool}

/-- A bullet that has outlived itself in a tick is gone, and with it all of its id. -/
theorem nextPlace?_of_outlived
    (hfly : s.IsFlying place id (.bullet speed fragile lifespan) elapsed)
    (hplayed : s.passedTime? (.tick dt) = some x) (hover : lifespan < elapsed + x) :
    s.nextPlace? place (.tick dt) = none ∧ ∀ j ∈ (s.passed dt).roster.survivors, j.id ≠ id := by
  rcases hfly with ⟨i, hplace, rfl, hi, hstate⟩
  rcases cases_of_played hplayed with ⟨hopen, rfl⟩
  rcases exists_passed hplace dt with ⟨j, hj, hij, -⟩
  have hdestroyed : i.id ∈ (s.passed dt).roster.destroys := by
    rw [mem_destroys_passed hplace, Instance.destroys_step_bullet _ _ _ hi hstate, if_pos hover]
    exact .inr (List.mem_singleton_self _)
  refine ⟨?_, Roster.id_ne_of_mem_survivors hdestroyed⟩
  rw [nextPlace?, if_neg (Bool.eq_false_iff.1 hopen)]
  exact Roster.settledPlace?_of_mem hj (hij.id ▸ hdestroyed)

/-- Another one has counted the time of the tick, if nobody else has destroyed it. -/
theorem exists_nextPlace?
    (hfly : s.IsFlying place id (.bullet speed fragile lifespan) elapsed)
    (hc : s.continues (.tick dt) = true) (hplayed : s.passedTime? (.tick dt) = some x)
    (halone : id ∉ s.othersDestroy dt place) (hover : ¬ lifespan < elapsed + x) :
    ∃ next, s.nextPlace? place (.tick dt) = some next ∧
      (s.call (.tick dt)).IsFlying next id (.bullet speed fragile lifespan) (elapsed + x) := by
  rcases hfly with ⟨i, hplace, rfl, hi, hstate⟩
  have hroster := roster_tick hc hplayed
  rcases cases_of_played hplayed with ⟨hopen, rfl⟩
  rcases exists_passed hplace dt with ⟨j, hj, hij, hget⟩
  have hspared : i.id ∉ (s.passed dt).roster.destroys := by
    rw [mem_destroys_passed hplace, Instance.destroys_step_bullet _ _ _ hi hstate, if_neg hover]
    exact not_or_intro halone List.not_mem_nil
  rcases Roster.exists_settledPlace? hj (hij.id ▸ hspared) with ⟨next, hnext, hlive⟩
  refine ⟨next, ?_, j, ?_, hij.id, ?_, ?_⟩
  · rw [nextPlace?, if_neg (Bool.eq_false_iff.1 hopen), hnext]
  · rw [call, hroster, hlive]
  · rwa [Instance.HasOnly, hij.behaviors]
  · rw [hget .bullet (by decide), Instance.get_step_bullet _ _ _ hi hstate]

end Ticks

/-! ## Flights -/

/-- Calls in which the instances of the scene are left in being, and in which nobody else
    destroys the instance at a place. -/
structure Spares (s : Session R B) (place : Nat) (calls : List (HostCall R B)) : Prop where
  continues : ∀ before c after, calls = before ++ c :: after → (s.run before).continues c = true
  alone : ∀ before dt after x, calls = before ++ .tick dt :: after →
    (s.run before).passedTime? (.tick dt) = some x →
      ∀ next i, s.placeAfter? place before = some next →
        (s.run before).roster.live[next]? = some i →
          i.id ∉ (s.run before).othersDestroy dt next

/-- The sum of the times that pass in some calls, added to what there is before. -/
def flown (s : Session R B) (elapsed : R) (calls : List (HostCall R B)) : R :=
  (s.times calls).foldl (· + ·) elapsed

section Runs

variable {s : Session R B} {place : Nat} {id : String} {speed lifespan elapsed : R}
  {fragile : Bool} {calls later : List (HostCall R B)}

theorem Spares.of_append (h : s.Spares place (calls ++ later)) : s.Spares place calls where
  continues := by
    rintro before c after rfl
    exact h.continues before c (after ++ later) (by rw [List.append_assoc, List.cons_append])
  alone := by
    rintro before dt after x rfl
    exact h.alone before dt (after ++ later) x (by rw [List.append_assoc, List.cons_append])

theorem flown_concat (s : Session R B) (elapsed : R) (calls : List (HostCall R B))
    (c : HostCall R B) : s.flown elapsed (calls ++ [c]) =
      ((s.run calls).passedTime? c).elim (s.flown elapsed calls) (s.flown elapsed calls + ·) := by
  rw [flown, times_concat]
  cases (s.run calls).passedTime? c with
  | none => rw [Option.toList_none, List.append_nil]; rfl
  | some x => exact List.foldl_concat _ _ _ _

/-- What a call makes of a bullet that nobody else destroys: it is gone if its time is over, and
    otherwise it has counted the time of the call. -/
theorem isFlying_call {c : HostCall R B}
    (hfly : s.IsFlying place id (.bullet speed fragile lifespan) elapsed)
    (h : s.Spares place [c]) :
    if ∃ x, s.passedTime? c = some x ∧ lifespan < elapsed + x then s.nextPlace? place c = none
    else ∃ next, s.nextPlace? place c = some next ∧
      (s.call c).IsFlying next id (.bullet speed fragile lifespan)
        ((s.passedTime? c).elim elapsed (elapsed + ·)) := by
  have hc : s.continues c = true := h.continues [] c [] rfl
  cases hpassed : s.passedTime? c with
  | none =>
      -- Nothing has happened to the instances.
      rw [if_neg (by simp)]
      refine ⟨place, nextPlace?_of_not_played hpassed place, ?_⟩
      rwa [IsFlying, roster_call hc hpassed]
  | some x =>
      cases c
      case tick dt =>
        split
        · next hover =>
          rcases hover with ⟨y, hy, hover⟩
          cases hy
          exact (nextPlace?_of_outlived hfly hpassed hover).1
        · next hover =>
          have ⟨i, hplace, hid, _⟩ := hfly
          have halone := h.alone [] dt [] x rfl hpassed place i rfl hplace
          rw [hid] at halone
          exact exists_nextPlace? hfly hc hpassed halone fun hx => hover ⟨x, rfl, hx⟩
      all_goals cases hpassed

theorem Spares.last {c : HostCall R B} (h : s.Spares place (calls ++ [c])) {next : Nat}
    (hnext : s.placeAfter? place calls = some next) : (s.run calls).Spares next [c] where
  continues := by
    intro before d after hd
    cases before with
    | nil =>
        cases hd
        exact h.continues calls c [] rfl
    | cons d before => simp at hd
  alone := by
    intro before dt after x hd
    cases before with
    | nil =>
        cases hd
        rintro hpassed _ i ⟨rfl⟩ hi
        exact h.alone calls dt [] x rfl hpassed next i hnext hi
    | cons d before => simp at hd

/-- A bullet that is still there has counted the times that have passed. -/
theorem isFlying_run (hfly : s.IsFlying place id (.bullet speed fragile lifespan) elapsed)
    (h : s.Spares place calls) : ∀ next, s.placeAfter? place calls = some next →
      (s.run calls).IsFlying next id (.bullet speed fragile lifespan) (s.flown elapsed calls) := by
  induction calls using List.reverseRecOn with
  | nil =>
      rintro next ⟨rfl⟩
      exact hfly
  | append_singleton calls c ih =>
      intro next hnext
      rw [placeAfter?_concat, Option.bind_eq_some_iff] at hnext
      rcases hnext with ⟨now, hnow, hnext⟩
      have hcall := isFlying_call (ih h.of_append now hnow) (h.last hnow)
      rw [flown_concat, run_append]
      split at hcall
      · rw [hcall] at hnext
        cases hnext
      · rcases hcall with ⟨_, hnext', hflying⟩
        rw [hnext] at hnext'
        cases hnext'
        exact hflying

/-- A bullet is there as long as the sum of the times has not exceeded its lifespan. -/
theorem isSome_placeAfter?_iff
    (hfly : s.IsFlying place id (.bullet speed fragile lifespan) elapsed)
    (h : s.Spares place calls) : (s.placeAfter? place calls).isSome ↔
      ∀ ts, ts <+: s.times calls → ts ≠ [] → ¬ lifespan < ts.foldl (· + ·) elapsed := by
  induction calls using List.reverseRecOn with
  | nil => exact iff_of_true rfl fun ts hts hne => absurd (List.prefix_nil.1 hts) hne
  | append_singleton calls c ih =>
      have halive := ih h.of_append
      -- With a time that passes, one more sum is to be compared.
      have hsums : (∀ ts, ts <+: s.times (calls ++ [c]) → ts ≠ [] →
            ¬ lifespan < ts.foldl (· + ·) elapsed) ↔
          (s.placeAfter? place calls).isSome ∧
            ¬ ∃ x, (s.run calls).passedTime? c = some x ∧ lifespan < s.flown elapsed calls + x := by
        rw [halive, times_concat]
        cases (s.run calls).passedTime? c with
        | none => simp
        | some x =>
            have hsum : (s.times calls ++ [x]).foldl (· + ·) elapsed = s.flown elapsed calls + x :=
              List.foldl_concat _ _ _ _
            simp only [Option.toList_some, List.prefix_concat_iff, or_imp, forall_and,
              forall_eq, hsum, Option.some.injEq, exists_eq_left', ne_eq, List.append_eq_nil_iff,
              List.cons_ne_nil, and_false, not_false_eq_true, forall_const]
            exact and_comm
      rw [hsums, placeAfter?_concat]
      cases hplace : s.placeAfter? place calls with
      | none => simp
      | some now =>
          have hcall := isFlying_call (isFlying_run hfly h.of_append now hplace) (h.last hplace)
          rw [Option.bind_some]
          split at hcall
          · next hover => simp [hcall, hover]
          · next hover =>
            rcases hcall with ⟨next, hnext, -⟩
            simp [hnext, hover]

end Runs

end Session

/-! ## New bullets -/

section Births

variable {R B : Type} [Scalar R]

/-- An instance whose bullet, if it has just one, has not counted any time yet. -/
def Instance.IsUnflown (i : Instance R) : Prop :=
  ∀ speed fragile lifespan, i.HasOnly (.bullet speed fragile lifespan) →
    i.states.get .bullet = some (.bullet 0)

theorem Instance.IsUnflown.congr {i j : Instance R} (h : i.IsUnflown)
    (hbehaviors : j.object.behaviors = i.object.behaviors) (hstates : j.states = i.states) :
    j.IsUnflown := by
  intro speed fragile lifespan hj
  rw [HasOnly, hbehaviors] at hj
  rw [hstates]
  exact h speed fragile lifespan hj

/-- What a fresh copy remembers for a behavior of which kind it has no other. -/
theorem Instance.get_ofTemplate {o : Object R} {b : Behavior R} (h : (ofTemplate o).HasOnly b) :
    (ofTemplate o).states.get b.kind = BehaviorState.fresh? b := by
  rcases h.exists_split with ⟨before, after, hsplit, hbefore, hafter⟩
  have hbehaviors : o.behaviors = before ++ b :: after := hsplit
  have hnone {bs : List (Behavior R)} (hbs : ∀ c ∈ bs, c.kind ≠ b.kind) :
      bs.reverse.findSome? (BehaviorState.freshIn? b.kind) = none := by
    rw [List.findSome?_eq_none_iff]
    exact fun c hc => if_neg (hbs c (List.mem_reverse.1 hc))
  have hself : BehaviorState.freshIn? b.kind b = BehaviorState.fresh? b := if_pos rfl
  rw [ofTemplate, BehaviorStates.get_foldl_start, hbehaviors, List.reverse_append,
    List.reverse_cons, List.findSome?_append, List.findSome?_append, hnone hbefore, hnone hafter,
    List.findSome?_singleton, hself, BehaviorStates.get_empty, Option.none_or, Option.or_none,
    Option.or_none]

theorem Instance.isUnflown_ofTemplate (o : Object R) : (ofTemplate o).IsUnflown :=
  fun _ _ _ h => get_ofTemplate h

theorem Session.isUnflown_withPicture (s : Session R B) (source : String) {i : Instance R}
    (h : i.IsUnflown) : (s.withPicture source i).2.IsUnflown := by
  unfold withPicture
  split
  · exact h
  · split
    · exact h
    · exact h.congr rfl rfl

variable [Planar R]

theorem Deed.isUnflown_spawns (d : Deed R B) : ∀ i ∈ d.spawns, i.IsUnflown := by
  intro i hi
  rw [spawns, Option.mem_toList, Option.map_eq_some_iff] at hi
  rcases hi with ⟨j, hj, rfl⟩
  have hunflown : j.IsUnflown := by
    rcases cases_newcomer? hj with ⟨_, template, _, _, _, rfl⟩ | ⟨_, l, _, hl, rfl⟩
    · exact (Instance.isUnflown_ofTemplate template).congr rfl rfl
    · obtain ⟨template, _, _, _, rfl⟩ := Session.exists_of_creature? hl
      refine Session.isUnflown_withPicture _ _ ?_
      exact (Instance.isUnflown_ofTemplate template).congr rfl rfl
  exact hunflown.congr rfl rfl

variable [Numeral R] [AudioOutput R B] [DecidableEq R]

namespace Session

theorem isUnflown_newborns (s : Session R B) (dt : R) : ∀ i ∈ s.newborns dt, i.IsUnflown := by
  rw [newborns, List.forall_mem_append]
  constructor
  · refine forall_shots (fun _ _ hi => hi.congr rfl rfl) ?_
    exact fun _ template _ _ _ => (Instance.isUnflown_ofTemplate template).congr rfl rfl
  · intro i hi
    rcases List.mem_flatMap.1 hi with ⟨d, _, hid⟩
    exact d.isUnflown_spawns i hid

/-- What is live after a tick: those that are left, those that have waited before the tick, and
    the new ones as they have been made. -/
theorem live_tick {s : Session R B} {dt x : R} (hc : s.continues (.tick dt) = true)
    (h : s.passedTime? (.tick dt) = some x) : (s.tick dt).1.roster.live =
      (s.passed dt).roster.survivors ++ s.roster.spawns ++ s.newborns dt := by
  rw [roster_tick hc h, Roster.live_applyPending, spawns_passed, requests, newborns]
  simp only [List.append_assoc]

/-- A bullet that is new after a tick has not been stepped in it. -/
theorem isFlying_newborn {s : Session R B} {dt x speed lifespan : R} {fragile : Bool} {k : Nat}
    {i : Instance R} (hc : s.continues (.tick dt) = true)
    (h : s.passedTime? (.tick dt) = some x) (hk : (s.newborns dt)[k]? = some i)
    (hi : i.HasOnly (.bullet speed fragile lifespan)) :
    (s.tick dt).1.IsFlying ((s.passed dt).roster.survivors.length + s.roster.spawns.length + k)
      i.id (.bullet speed fragile lifespan) 0 := by
  refine ⟨i, ?_, rfl, hi, ?_⟩
  · rw [live_tick hc h, List.getElem?_append_right (by simp), List.length_append,
      Nat.add_sub_cancel_left, hk]
  · exact isUnflown_newborns s dt i (List.mem_of_getElem? hk) speed fragile lifespan hi

/-- What becomes of a bullet in some calls. -/
structure Flight (s : Session R B) (place : Nat) (id : String) (speed lifespan : R)
    (fragile : Bool) (elapsed : R) (calls : List (HostCall R B)) : Prop where
  /-- It is there as long as no sum of the times that have passed has exceeded its lifespan. -/
  lives_iff : (s.placeAfter? place calls).isSome ↔
    ∀ ts, ts <+: s.times calls → ts ≠ [] → ¬ lifespan < ts.foldl (· + ·) elapsed
  counts : ∀ next, s.placeAfter? place calls = some next → (s.run calls).IsFlying next id
    (.bullet speed fragile lifespan) (s.flown elapsed calls)
  /-- In a tick in which the sum does not exceed its lifespan it moves its instance. The step of
      the instance goes on from there, and the events of the tick find it where that ends. -/
  moves : ∀ before dt after x next, calls = before ++ .tick dt :: after →
    (s.run before).passedTime? (.tick dt) = some x → s.placeAfter? place before = some next →
      ¬ lifespan < s.flown elapsed (before ++ [.tick dt]) →
        ∃ i t u, (s.run before).roster.live[next]? = some i ∧
          i.HasTurn (s.run before).scene (s.run before).input x (.bullet speed fragile lifespan)
            t u ∧
          u.subject.object.position =
            t.subject.object.position + (t.subject.object.heading.scale speed).scale x ∧
          ((s.run before).begun dt).roster.live[next]?.map (·.object.position) =
            some (i.step (s.run before).scene (s.run before).input x).subject.object.position
  /-- In the tick in which it does for the first time it does not move it, and afterwards the
      instance is gone, and everything else that has had its id. -/
  ends : ∀ before dt after x next, calls = before ++ .tick dt :: after →
    (s.run before).passedTime? (.tick dt) = some x → s.placeAfter? place before = some next →
      lifespan < s.flown elapsed (before ++ [.tick dt]) →
        (∃ i t u, (s.run before).roster.live[next]? = some i ∧
          i.HasTurn (s.run before).scene (s.run before).input x (.bullet speed fragile lifespan)
            t u ∧
          u.subject.object.position = t.subject.object.position ∧
          ((s.run before).begun dt).roster.live[next]?.map (·.object.position) =
            some (i.step (s.run before).scene (s.run before).input x).subject.object.position) ∧
        s.placeAfter? place (before ++ [.tick dt]) = none ∧
        ∀ j ∈ ((s.run before).passed dt).roster.survivors, j.id ≠ id
  /-- Bullets that are new in a tick stand behind all others when it is over, and have not
      counted any time. -/
  births : ∀ before dt after x, calls = before ++ .tick dt :: after →
    (s.run before).passedTime? (.tick dt) = some x →
      (s.run (before ++ [.tick dt])).roster.live = ((s.run before).passed dt).roster.survivors ++
        (s.run before).roster.spawns ++ (s.run before).newborns dt ∧
      ∀ k i speed fragile lifespan, ((s.run before).newborns dt)[k]? = some i →
        i.HasOnly (.bullet speed fragile lifespan) →
          (s.run (before ++ [.tick dt])).IsFlying
            (((s.run before).passed dt).roster.survivors.length +
              (s.run before).roster.spawns.length + k)
            i.id (.bullet speed fragile lifespan) 0

/-- Bullets live as long as they have been told to. -/
theorem bullet_lives_out {s : Session R B} {place : Nat} {id : String}
    {speed lifespan elapsed : R} {fragile : Bool} {calls : List (HostCall R B)}
    (hfly : s.IsFlying place id (.bullet speed fragile lifespan) elapsed)
    (hspares : s.Spares place calls) :
    s.Flight place id speed lifespan fragile elapsed calls := by
  have hrun (before : List (HostCall R B)) (dt : R) :
      s.run (before ++ [.tick dt]) = ((s.run before).tick dt).1 := run_append s before [.tick dt]
  have hsum {before : List (HostCall R B)} {dt x : R}
      (hpassed : (s.run before).passedTime? (.tick dt) = some x) :
      s.flown elapsed (before ++ [.tick dt]) = s.flown elapsed before + x := by
    rw [flown_concat, hpassed, Option.elim_some]
  constructor
  case lives_iff => exact isSome_placeAfter?_iff hfly hspares
  case counts => exact isFlying_run hfly hspares
  case moves =>
    rintro before dt after x next rfl hpassed hnext hover
    rcases isFlying_run hfly hspares.of_append next hnext with ⟨i, hi, _, honly, hstate⟩
    rcases Instance.exists_hasTurn_bullet (s.run before).scene (s.run before).input x honly hstate
      with ⟨t, u, hturn, hposition⟩
    rw [hsum hpassed] at hover
    rw [if_neg hover] at hposition
    refine ⟨i, t, u, hi, hturn, hposition, ?_⟩
    rw [(cases_of_played hpassed).2]
    exact position_begun hi dt
  case ends =>
    rintro before dt after x next rfl hpassed hnext hover
    rw [hsum hpassed] at hover
    have hnow := isFlying_run hfly hspares.of_append next hnext
    have hgone := nextPlace?_of_outlived hnow hpassed hover
    rcases hnow with ⟨i, hi, _, honly, hstate⟩
    rcases Instance.exists_hasTurn_bullet (s.run before).scene (s.run before).input x honly hstate
      with ⟨t, u, hturn, hposition⟩
    rw [if_pos hover] at hposition
    refine ⟨⟨i, t, u, hi, hturn, hposition, ?_⟩, ?_, hgone.2⟩
    · rw [(cases_of_played hpassed).2]
      exact position_begun hi dt
    · rw [placeAfter?_concat, hnext, Option.bind_some, hgone.1]
  case births =>
    rintro before dt after x rfl hpassed
    have hc := hspares.continues before _ after rfl
    rw [hrun]
    exact ⟨live_tick hc hpassed, fun _ _ _ _ _ hk hi => isFlying_newborn hc hpassed hk hi⟩

end Session

end Births

/-- A shell that flies for a second. -/
def Object.shell : Object Float :=
  ⟨"shell", "Shell", .zero, ⟨1, 1⟩, 1, 0, .empty, "Main", true, .empty, [],
    [.button, .bullet 10 false 1], .sprite ⟨none, [], none⟩⟩

/-- A session with one shell, whose scene has just been entered. -/
def Session.volley : Session Float (SilentOutput Float) :=
  ((Session.start ⟨.initial, [⟨"main", "Main", [⟨"Main", true, ⟨1, 1⟩⟩], [.shell], []⟩], [], .empty⟩
    (.ofSettings .initial) (.memory .empty) .initial
    ⟨fun _ => "", fun _ => 0, 0, 0⟩).toOption.get rfl).run [.enter none]

namespace Session

/-- After three quarters of a second the shell is there, and after one and a half it is not. -/
theorem bullet_lives_out_volley :
    let calls : List (HostCall Float (SilentOutput Float)) := [.tick 0.75, .tick 0.75]
    volley.IsFlying 0 "shell" (.bullet 10 false 1) 0 ∧ volley.Spares 0 calls ∧
      volley.placeAfter? 0 [.tick 0.75] = some 0 ∧ volley.placeAfter? 0 calls = none ∧
      volley.Flight 0 "shell" 10 1 false 0 calls := by
  have hfly : volley.IsFlying 0 "shell" (.bullet 10 false 1) 0 :=
    ⟨.ofTemplate .shell, rfl, rfl, by decide +kernel, by decide +kernel⟩
  have hplace : volley.placeAfter? 0 [.tick 0.75] = some 0 := by decide +kernel
  have halone : volley.othersDestroy 0.75 0 = [] := by decide +kernel
  have halone' : (volley.run [.tick 0.75]).othersDestroy 0.75 0 = [] := by decide +kernel
  have hspares : volley.Spares 0 [.tick 0.75, .tick 0.75] := by
    constructor
    case continues =>
      intro before c after h
      rcases before with _ | ⟨d, _ | ⟨e, before⟩⟩
      · cases h
        decide +kernel
      · cases h
        decide +kernel
      · simp at h
    case alone =>
      intro before dt after x h _ next i hnext _
      rcases before with _ | ⟨d, _ | ⟨e, before⟩⟩
      · cases h
        cases hnext
        exact halone ▸ List.not_mem_nil
      · cases h
        rw [hplace] at hnext
        cases hnext
        exact halone' ▸ List.not_mem_nil
      · simp at h
  exact ⟨hfly, hspares, hplace, by decide +kernel, bullet_lives_out hfly hspares⟩

end Session

end Playfield
