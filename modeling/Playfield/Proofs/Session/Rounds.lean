import Mathlib
import Playfield.Proofs.Session.Local
import Playfield.Proofs.Session.Substitution

/-!
# Going Through a Group

What an event does that goes through a group.

The members of a group are looked up once, when the event is reached. Then one round after
the other is played, and each of them can destroy, make, change or move whatever it likes.
That every member nevertheless gets its round, and gets it as a live instance under its own
id, is due to what actions leave alone: the ids and names of the live instances stay as they
are until the tick is concluded, so a member that has been destroyed in an earlier round is
still in its place.

What a round is is told by rules, and not by the recursion that plays it. The conditions
hold one after the other, each looked at with the memory that those before it have left
(`Session.Passes`). Then either all of them have held, and the actions are done, or one of
them does not hold, and nothing more is looked at (`Session.Round`). What is played is the
one session that the rules lead to (`Session.round_iff`), and so it is for all rounds of an
event (`Session.rounds_iff`).

## Main definitions

* `Event.GoesThrough`: The first condition that goes through a group names some id.
* `Session.Passes`, `Session.Round`, `Session.Rounds`: The rules.
* `Session.StillLives`: An instance lives on under its id and name.
* `Session.Visits`: What an event has done that goes through a group.

## Theorems

* `Session.passes_cases`: Conditions are looked at in order up to the first that does not hold.
* `Session.round_iff`, `Session.rounds_iff`: What is played is what the rules say.
* `Session.labels_runBound`: No round changes ids and names.
* `Session.stillLives_of_labels`: So every instance lives on.
* `Session.runEvents_visits`: An event goes through the members of its group.
-/

namespace Playfield

/-- Conditions of an event may go through groups, and the first one that does names some
    id. -/
def Event.GoesThrough {R : Type} (e : Event R) (id : String) : Prop :=
  ∃ before c after, e.conditions = before ++ c :: after ∧ c.kind = .forEach id ∧
    ∀ d ∈ before, ∀ other, d.kind ≠ .forEach other

theorem Event.GoesThrough.group? {R : Type} {e : Event R} {id : String} (h : e.GoesThrough id) :
    e.group? = some id := by
  rcases h with ⟨before, c, after, hconditions, hc, hbefore⟩
  refine List.findSome?_eq_some_iff.2 ⟨before, c, after, hconditions, ?_, ?_⟩
  · simp only [hc]
  · intro d hd
    split
    · next other hother => exact absurd hother (hbefore d hd other)
    · rfl

namespace Roster

variable {R : Type} {r r' : Roster R}

/-- What is in a place has the same id and name in rosters with the same labels. -/
theorem getElem?_of_labels (h : r'.labels = r.labels) {k : Nat} {i : Instance R}
    (hi : r.live[k]? = some i) : ∃ j, r'.live[k]? = some j ∧ j.id = i.id ∧ j.name = i.name := by
  have hlabel : r'.labels[k]? = some (i.id, i.name) := by
    rw [h, labels, List.getElem?_map, hi]
    rfl
  rw [labels, List.getElem?_map, Option.map_eq_some_iff] at hlabel
  rcases hlabel with ⟨j, hj, hji⟩
  exact ⟨j, hj, (Prod.ext_iff.1 hji).1, (Prod.ext_iff.1 hji).2⟩

theorem index?_eq (r : Roster R) (id : String) :
    r.index? id = r.labels.findIdx? fun l => l.1 == id := by
  rw [labels, List.findIdx?_map]
  rfl

theorem get?_of_index? {id : String} {k : Nat} (h : r.index? id = some k) :
    r.get? id = r.live[k]? := by
  unfold index? at h
  rw [get?, List.find?_eq_bind_findIdx?_getElem?, h]
  rfl

end Roster

namespace Session

variable {R B : Type}

/-- An instance of a session lives on in another one. One of its id and name is in its place,
    and its id stands for that one if it has stood for the instance. -/
def StillLives (s : Session R B) (i : Instance R) (t : Session R B) : Prop :=
  ∃ k j, s.roster.live[k]? = some i ∧ t.roster.live[k]? = some j ∧ j.id = i.id ∧
    j.name = i.name ∧ (s.roster.index? i.id = some k → t.roster.get? i.id = some j)

theorem stillLives_of_labels {s t : Session R B} (h : t.roster.labels = s.roster.labels)
    {i : Instance R} (hi : i ∈ s.roster.live) : s.StillLives i t := by
  rcases List.mem_iff_getElem?.1 hi with ⟨k, hk⟩
  rcases Roster.getElem?_of_labels h hk with ⟨j, hj, hid, hname⟩
  refine ⟨k, j, hk, hj, hid, hname, fun hindex => ?_⟩
  rw [Roster.index?_eq, ← h, ← Roster.index?_eq] at hindex
  rw [Roster.get?_of_index? hindex, hj]

section Conditions

variable [Scalar R] [Numeral R] [Planar R] {event : String} {b : Option Binding}
  {cs : List (Condition R)} {s t : Session R B}

/-- Conditions hold one after the other, and each of them leaves its memory to the next. -/
inductive Passes (event : String) (b : Option Binding) :
    List (Condition R) → Session R B → Session R B → Prop
  | nil (s : Session R B) : Passes event b [] s s
  | cons {c : Condition R} {cs : List (Condition R)} {s t : Session R B} {m : Memory R} :
    s.holds event b c = (true, m) → Passes event b cs { s with memory := m } t →
      Passes event b (c :: cs) s t

theorem Passes.holdAll_append (h : Passes event b cs s t) (rest : List (Condition R)) :
    holdAll event b (cs ++ rest) s = holdAll event b rest t := by
  induction h with
  | nil s => rfl
  | cons hc _ ih =>
      rw [List.cons_append, holdAll, hc]
      exact ih

/-- Either all conditions hold, or one of them is the first that does not. -/
theorem passes_cases (event : String) (b : Option Binding) (cs : List (Condition R))
    (s : Session R B) :
    (∃ t, Passes event b cs s t) ∨
      ∃ before c after t m, cs = before ++ c :: after ∧ Passes event b before s t ∧
        t.holds event b c = (false, m) := by
  induction cs generalizing s with
  | nil => exact .inl ⟨s, .nil s⟩
  | cons c cs ih =>
      rcases hc : s.holds event b c with ⟨_ | _, m⟩
      · exact .inr ⟨[], c, cs, s, m, rfl, .nil s, hc⟩
      · rcases ih { s with memory := m } with ⟨t, ht⟩ | ⟨before, d, after, t, n, rfl, ht, hd⟩
        · exact .inl ⟨t, .cons hc ht⟩
        · exact .inr ⟨c :: before, d, after, t, n, rfl, .cons hc ht, hd⟩

theorem Passes.holdAll_eq (h : Passes event b cs s t) : holdAll event b cs s = (true, t) := by
  have happend := h.holdAll_append []
  rwa [List.append_nil] at happend

theorem Passes.holdAll_stop (h : Passes event b cs s t) {c : Condition R} {m : Memory R}
    (hc : t.holds event b c = (false, m)) (after : List (Condition R)) :
    holdAll event b (cs ++ c :: after) s = (false, { t with memory := m }) := by
  rw [h.holdAll_append, holdAll, hc]

end Conditions

variable [Scalar R] [Numeral R] [Planar R] [AudioOutput R B] [DecidableEq R]

/-- An event is played once: its conditions hold and its actions are done, or a condition
    does not hold, and neither later conditions nor actions are looked at. -/
inductive Round (e : Event R) (dt : R) (b : Option Binding) (s : Session R B) :
    Session R B → Prop
  | acts {t : Session R B} : Passes e.id b e.conditions s t →
      Round e dt b s (e.actions.foldl (perform b dt) t)
  | stops {before after : List (Condition R)} {c : Condition R} {t : Session R B}
      {m : Memory R} : e.conditions = before ++ c :: after → Passes e.id b before s t →
      t.holds e.id b c = (false, m) → Round e dt b s { t with memory := m }

variable {e : Event R} {dt : R} {s t : Session R B}

/-- What is played is what the rules say, and they leave no choice. -/
theorem round_iff {b : Option Binding} : Round e dt b s t ↔ t = runBound e dt s b := by
  constructor
  · intro h
    unfold runBound
    cases h with
    | acts hpasses => rw [hpasses.holdAll_eq]
    | stops hconditions hpasses hc => rw [hconditions, hpasses.holdAll_stop hc]
  · rintro rfl
    -- One of the rules always applies.
    rcases passes_cases e.id b e.conditions s with
      ⟨t, ht⟩ | ⟨before, c, after, t, m, hconditions, ht, hc⟩
    · have hround : Round e dt b s _ := .acts ht
      unfold runBound
      rwa [ht.holdAll_eq]
    · have hround : Round e dt b s _ := .stops hconditions ht hc
      unfold runBound
      rwa [hconditions, ht.holdAll_stop hc]

/-- No round changes the ids and names of the live instances. -/
theorem labels_runBound (e : Event R) (dt : R) (s : Session R B) (b : Option Binding) :
    (runBound e dt s b).roster.labels = s.roster.labels :=
  Roster.labels_of_becomes (runBound_account account_follows
    (fun _ _ => Untouched.follows ⟨rfl, rfl, rfl, rfl, rfl, rfl, rfl, rfl, rfl⟩)
    (fun t b a => follows_perform t b dt a) e s b).live

/-- An event is played once for each of some instances of a session that has been reached, with
    an id standing for the instance. Each instance still lives when it is its turn. -/
inductive Rounds (reached : Session R B) (e : Event R) (dt : R) (id : String) :
    List (Instance R) → Session R B → Session R B → Prop
  | nil (s : Session R B) : Rounds reached e dt id [] s s
  | cons {i : Instance R} {is : List (Instance R)} {s t u : Session R B} :
    reached.StillLives i s → Round e dt (some ⟨id, i.id⟩) s t → Rounds reached e dt id is t u →
      Rounds reached e dt id (i :: is) s u

/-- All rounds of an event are what the rules say. -/
theorem rounds_iff {reached : Session R B} {id : String} {is : List (Instance R)}
    (his : ∀ i ∈ is, i ∈ reached.roster.live) (h : s.roster.labels = reached.roster.labels) :
    Rounds reached e dt id is s t ↔
      t = is.foldl (fun s i => runBound e dt s (some ⟨id, i.id⟩)) s := by
  induction is generalizing s with
  | nil =>
      constructor
      · intro hrounds
        cases hrounds with
        | nil => rfl
      · intro ht
        rw [ht]
        exact .nil s
  | cons i is ih =>
      rw [List.forall_mem_cons] at his
      -- The next round begins with the same ids and names as this one.
      have hnext := ih his.2 ((labels_runBound e dt s (some ⟨id, i.id⟩)).trans h)
      constructor
      · intro hrounds
        cases hrounds with
        | cons _ hround hrest =>
            rw [round_iff] at hround
            rw [hround] at hrest
            exact hnext.1 hrest
      · intro ht
        exact .cons (stillLives_of_labels h his.1) (round_iff.2 rfl) (hnext.2 ht)

/-- What an event does that goes through the group of an id. The group is known by a name,
    which is that of the live instance, or of the template if there is none. -/
structure Visits (s : Session R B) (dt : R) (e : Event R) (id : String) : Prop where
  rounds : ∀ t, Rounds s e dt id (s.members id) s t ↔ t = runEvent dt s e
  nobody : s.members id = [] → runEvent dt s e = s
  members : s.members id = s.roster.live.filter fun i => s.group? id = some i.name
  live : ∀ i, s.roster.get? id = some i → s.group? id = some i.name
  template : s.roster.get? id = none → s.group? id = (s.scene.object? id).map (·.name)
  alike : ∀ other, s.group? other = s.group? id → s.members other = s.members id

theorem visits (s : Session R B) (dt : R) {id : String} (h : e.GoesThrough id) :
    s.Visits dt e id := by
  have hrun : runEvent dt s e =
      (s.members id).foldl (fun s i => runBound e dt s (some ⟨id, i.id⟩)) s := by
    unfold runEvent
    rw [h.group?]
  -- The members are those of the session that the event finds, so all of them live in it.
  refine ⟨fun t => ?_, fun hnobody => ?_, s.members_eq id, ?_, ?_, ?_⟩
  · rw [hrun]
    exact rounds_iff (fun i hi => ((s.mem_members id i).1 hi).1) rfl
  · rw [hrun, hnobody]
    rfl
  · intro i hi
    rw [group?, hi]
    rfl
  · intro hnone
    rw [group?, hnone]
    rfl
  · intro other hother
    unfold members
    rw [hother]

/-- When the events of a tick run and one is reached that goes through a group, it is played
    once for each live member of the group, in their order, and not at all if there is none. -/
theorem runEvents_visits (s : Session R B) (dt : R) {earlier later : List (Event R)}
    {e : Event R} {id : String} (he : s.scene.activeEvents = earlier ++ e :: later)
    (hid : e.GoesThrough id) :
    let reached := earlier.foldl (runEvent dt) s
    runEvents dt s = later.foldl (runEvent dt) (runEvent dt reached e) ∧
      reached.Visits dt e id := by
  intro reached
  refine ⟨?_, visits reached dt hid⟩
  unfold runEvents
  rw [he, List.foldl_append, List.foldl_cons]

end Session

/-- An event that destroys all rocks while a slot is empty. -/
def Event.clearing : Event Float :=
  ⟨"clear", "", none, [⟨"1", .saveExists "a" true⟩, ⟨"2", .forEach "b"⟩],
    [⟨"3", .object "b" .destroy⟩]⟩

/-- A session of two rocks with that event. -/
def Session.clearing : Session Float (SilentOutput Float) :=
  { Session.ofRocks ["a", "b"] with scene := ⟨"main", "Main", [], [], [.event .clearing]⟩ }

namespace Session

/-- Both rocks are destroyed, each in a round of its own. -/
theorem runEvents_visits_clearing :
    clearing.Visits 1 .clearing "b" ∧ (runEvents 1 clearing).roster.destroys = ["a", "b"] := by
  have hevent : Event.clearing.GoesThrough "b" :=
    ⟨[⟨"1", .saveExists "a" true⟩], ⟨"2", .forEach "b"⟩, [], rfl, rfl, by simp⟩
  have hactive : clearing.scene.activeEvents = [] ++ .clearing :: [] := rfl
  exact ⟨(runEvents_visits clearing 1 hactive hevent).2, by decide +kernel⟩

end Session

end Playfield
