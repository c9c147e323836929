import Mathlib
import Playfield.Proofs.Session.History
import Playfield.Proofs.Session.Rounds

/-!
# Marks

What conditions leave behind.

A condition is a question, but two kinds of conditions have to know what they have answered
before. So an event that has seen the start of the scene is marked, and so is a repeating
condition at the time when it has held. It matters that nothing else is marked. If a condition
that does not hold left a mark, or one that is not reached, then the event would not run when
its time comes: the start of the scene would be gone, the interval would begin anew.

What is marked is told without the order in which conditions are looked at (`Session.Marked`),
and it leaves no choice (`Session.Marked.unique`). A condition that holds leaves its own mark
and one that does not hold leaves none, so an event that stops at a condition leaves the marks
of those before it, whatever comes after.

## Main definitions

* `Session.asked`: A session after a condition has been looked at.
* `Session.Marked`: What conditions that have held leave behind.

## Theorems

* `Session.asked_of_not_holds`: A condition that does not hold leaves nothing behind.
* `Session.marked_of_holds`: A condition that holds leaves its own mark.
* `Session.Passes.marked`: Conditions that hold one after the other leave their marks.
* `Session.Passes.inquiries_stop`: Nothing is looked at behind a condition that does not hold.
* `Session.conditions_only_mark`: Conditions have no effects but their marks.
-/

namespace Playfield

namespace Names

theorem add_of_contains {s : Names} {k : String} (h : s.contains k = true) : s.add k = s := by
  refine Dictionary.ext_get? fun l => ?_
  rw [add, Dictionary.get?_insert]
  by_cases hl : k = l
  · rcases Option.isSome_iff_exists.1 h with ⟨u, hu⟩
    rw [if_pos hl, ← hl, hu]
  · rw [if_neg hl]

/-- Names are told apart by what they contain. -/
theorem ext_contains {s t : Names} (h : ∀ k, s.contains k = true ↔ t.contains k = true) :
    s = t := by
  refine Dictionary.ext_get? fun k => ?_
  have hk := h k
  unfold Dictionary.contains at hk
  cases hs : s.get? k <;> cases ht : t.get? k <;> simp [hs, ht] at hk ⊢

end Names

namespace Session

variable {R B : Type}

/-- What conditions of an event that have held leave behind: the event has seen the start of the
    scene if one of them asks for it, and the repeating ones have held just now. -/
structure Marked (event : String) (held : List (Condition R)) (s t : Session R B) : Prop where
  rest : t = { s with memory := t.memory }
  since : t.memory.since = s.memory.since
  struck : ∀ c ∈ held, (∃ x, c.kind = .every x) → t.memory.lastHeld.get? c.id = some s.clock
  /-- The other repeating conditions last held when they did before. -/
  unstruck : ∀ id, (∀ c ∈ held, (∃ x, c.kind = .every x) → c.id ≠ id) →
    t.memory.lastHeld.get? id = s.memory.lastHeld.get? id
  started : ∀ other, t.memory.started.contains other = true ↔
    s.memory.started.contains other = true ∨ other = event ∧ ∃ c ∈ held, c.kind = .sceneStart

section Marked

variable {event : String} {held held' : List (Condition R)} {s t u : Session R B}

theorem marked_nil (event : String) (s : Session R B) : Marked event [] s s where
  rest := rfl
  since := rfl
  struck := nofun
  unstruck _ _ := rfl
  started := by simp

/-- A condition without a mark leaves nothing behind. -/
theorem marked_of_unmarked {c : Condition R} (hstart : c.kind ≠ .sceneStart)
    (hevery : ∀ x, c.kind ≠ .every x) : Marked event [c] s s where
  rest := rfl
  since := rfl
  struck d hd hx := by
    rw [List.mem_singleton.1 hd] at hx
    rcases hx with ⟨x, hx⟩
    exact absurd hx (hevery x)
  unstruck _ _ := rfl
  started := by simp [hstart]

theorem Marked.clock (h : Marked event held s t) : t.clock = s.clock := by
  rw [h.rest]

/-- Marks are left one after the other. -/
theorem Marked.append (hl : Marked event held s t) (hr : Marked event held' t u) :
    Marked event (held ++ held') s u where
  rest := by
    have hu := hr.rest
    rw [hl.rest] at hu
    exact hu
  since := hr.since.trans hl.since
  struck c hc hx := by
    -- The last condition of an id counts, and all of them have held at the same time.
    by_cases hlater : ∃ d ∈ held', (∃ x, d.kind = .every x) ∧ d.id = c.id
    · rcases hlater with ⟨d, hd, hdx, hid⟩
      rw [← hid, hr.struck d hd hdx, hl.clock]
    · rw [hr.unstruck c.id fun d hd hdx hid => hlater ⟨d, hd, hdx, hid⟩]
      rcases List.mem_append.1 hc with hc | hc
      · exact hl.struck c hc hx
      · exact absurd ⟨c, hc, hx, rfl⟩ hlater
  unstruck id hid := by
    rw [hr.unstruck id fun c hc => hid c (List.mem_append_right held hc),
      hl.unstruck id fun c hc => hid c (List.mem_append_left held' hc)]
  started other := by
    rw [hr.started, hl.started, or_assoc, ← and_or_left]
    simp only [List.mem_append, or_and_right, exists_or]

/-- The marks leave no choice. -/
theorem Marked.unique (ht : Marked event held s t) (hu : Marked event held s u) : t = u := by
  have hlastHeld : t.memory.lastHeld = u.memory.lastHeld := by
    refine Dictionary.ext_get? fun id => ?_
    by_cases hid : ∃ c ∈ held, (∃ x, c.kind = .every x) ∧ c.id = id
    · rcases hid with ⟨c, hc, hx, rfl⟩
      rw [ht.struck c hc hx, hu.struck c hc hx]
    · have hunstruck : ∀ c ∈ held, (∃ x, c.kind = .every x) → c.id ≠ id :=
        fun c hc hx hcid => hid ⟨c, hc, hx, hcid⟩
      rw [ht.unstruck id hunstruck, hu.unstruck id hunstruck]
  have hstarted : t.memory.started = u.memory.started :=
    Names.ext_contains fun other => (ht.started other).trans (hu.started other).symm
  have hmemory : t.memory = u.memory := by
    cases hm : t.memory
    cases hm' : u.memory
    have hsince := ht.since.trans hu.since.symm
    simp only [hm, hm'] at hlastHeld hstarted hsince
    rw [hlastHeld, hstarted, hsince]
  rw [ht.rest, hu.rest, hmemory]

end Marked

variable [Scalar R] [Numeral R] [Planar R] {event : String} {b : Option Binding}

/-- A session after a condition of an event has been looked at. -/
def asked (s : Session R B) (event : String) (b : Option Binding) (c : Condition R) :
    Session R B :=
  { s with memory := (s.holds event b c).2 }

/-- A condition that does not hold leaves nothing behind. -/
theorem asked_of_not_holds {s : Session R B} {c : Condition R}
    (h : (s.holds event b c).1 = false) : s.asked event b c = s := by
  have hmemory : (⟨s, event, b, c⟩ : Inquiry R B).memory = s.memory := by
    by_cases hstart : c.kind = .sceneStart
    · -- The event has seen the start of the scene, and is marked already.
      have hseen := Inquiry.holds_of_sceneStart (q := ⟨s, event, b, c⟩) hstart
      rw [Inquiry.holds, h, eq_comm, Bool.not_eq_false'] at hseen
      rw [Inquiry.memory_of_sceneStart hstart, Names.add_of_contains hseen]
    by_cases hevery : ∃ x, c.kind = .every x
    · rcases hevery with ⟨x, hx⟩
      rw [Inquiry.memory_of_every hx, Inquiry.holds, h]
      rfl
    · rw [not_exists] at hevery
      exact Inquiry.memory_of_other hstart hevery
  have hasked : s.asked event b c =
      { s with memory := (⟨s, event, b, c⟩ : Inquiry R B).memory } := rfl
  rw [hasked, hmemory]

/-- A condition that holds leaves its own mark. -/
theorem marked_of_holds {s : Session R B} {c : Condition R}
    (h : (s.holds event b c).1 = true) : Marked event [c] s (s.asked event b c) := by
  have hasked : s.asked event b c =
      { s with memory := (⟨s, event, b, c⟩ : Inquiry R B).memory } := rfl
  rw [hasked]
  by_cases hstart : c.kind = .sceneStart
  · rw [Inquiry.memory_of_sceneStart hstart]
    refine ⟨rfl, rfl, ?_, fun _ _ => rfl, fun other => ?_⟩
    · intro d hd hx
      rw [List.mem_singleton.1 hd, hstart] at hx
      rcases hx with ⟨x, hx⟩
      cases hx
    · have hasks : ∃ d ∈ [c], d.kind = .sceneStart := ⟨c, List.mem_singleton_self c, hstart⟩
      rw [Names.contains_add, and_iff_left hasks, or_comm, @eq_comm _ event]
  by_cases hevery : ∃ x, c.kind = .every x
  · rcases hevery with ⟨x, hx⟩
    have hholds : (⟨s, event, b, c⟩ : Inquiry R B).holds = true := h
    rw [Inquiry.memory_of_every hx, if_pos hholds]
    refine ⟨rfl, rfl, ?_, fun id hid => ?_, ?_⟩
    · intro d hd _
      rw [List.mem_singleton.1 hd]
      exact Dictionary.get?_insert_self _ _ _
    · have hne := hid c (List.mem_singleton_self c) ⟨x, hx⟩
      exact (Dictionary.get?_insert _ _ _ _).trans (if_neg hne)
    · simp [hstart]
  · rw [not_exists] at hevery
    rw [Inquiry.memory_of_other hstart hevery]
    exact marked_of_unmarked hstart hevery

section Passes

variable {s t : Session R B} {before : List (Condition R)}

/-- Conditions that hold one after the other leave their marks. -/
theorem Passes.marked (h : Passes event b before s t) : Marked event before s t := by
  induction h with
  | nil s => exact marked_nil event s
  | cons hc _ ih =>
      have hone := marked_of_holds (congrArg Prod.fst hc)
      rw [asked, hc] at hone
      exact hone.append ih

/-- Nothing is looked at behind a condition that does not hold. -/
theorem Passes.inquiries_stop (h : Passes event b before s t) {c : Condition R}
    (hc : (t.holds event b c).1 = false) (after : List (Condition R)) :
    (conditionInquiries event b (before ++ c :: after) s).map (·.condition) = before ++ [c] := by
  induction h with
  | nil s =>
      rw [List.nil_append, conditionInquiries, Inquiry.holds, hc]
      rfl
  | cons hd _ ih =>
      rw [List.cons_append, conditionInquiries, Inquiry.holds, Inquiry.memory, hd]
      exact congrArg _ (ih hc)

variable [AudioOutput R B] [DecidableEq R]

/-- An event that stops at a condition leaves the session that this condition has found. -/
theorem Passes.runBound_stop {e : Event R} (h : Passes e.id b before s t) {c : Condition R}
    {after : List (Condition R)} (hconditions : e.conditions = before ++ c :: after)
    (hc : (t.holds e.id b c).1 = false) (dt : R) : runBound e dt s b = t := by
  have hstops : Round e dt b s (t.asked e.id b c) := .stops hconditions h (Prod.ext hc rfl)
  rw [← round_iff.1 hstops, asked_of_not_holds hc]

end Passes

variable [AudioOutput R B] [DecidableEq R]

/-- Conditions have no effects but their marks. One that does not hold leaves nothing behind,
    and one that holds leaves its own mark. An event that stops at a condition leaves the marks
    of those before it, and nothing else. It looks at nothing behind the condition, and so nothing
    depends on it. -/
theorem conditions_only_mark (s : Session R B) (b : Option Binding) (e : Event R) (dt : R) :
    (∀ c, (s.holds e.id b c).1 = false → s.asked e.id b c = s) ∧
    (∀ c, (s.holds e.id b c).1 = true → Marked e.id [c] s (s.asked e.id b c)) ∧
    ∀ before c after t, e.conditions = before ++ c :: after → Passes e.id b before s t →
      (t.holds e.id b c).1 = false →
        runBound e dt s b = t ∧ (∀ u, Marked e.id before s u ↔ u = t) ∧
        (boundInquiries e s b).map (·.condition) = before ++ [c] ∧
        ∀ (e' : Event R) rest, e'.id = e.id → e'.conditions = before ++ c :: rest →
          runBound e' dt s b = t := by
  refine ⟨fun c => asked_of_not_holds, fun c => marked_of_holds, ?_⟩
  intro before c after t hconditions hpasses hc
  refine ⟨hpasses.runBound_stop hconditions hc dt, fun u => ⟨fun hu => ?_, ?_⟩, ?_, ?_⟩
  · exact hu.unique hpasses.marked
  · rintro rfl
    exact hpasses.marked
  · rw [boundInquiries, hconditions]
    exact hpasses.inquiries_stop hc after
  · intro e' rest hid hconditions'
    rw [← hid] at hpasses hc
    exact hpasses.runBound_stop hconditions' hc dt

end Session

/-- An event that repeats at once, waits for the start of the scene and then for a key, and would
    repeat again. -/
def Event.awaitingKey : Event Float :=
  ⟨"always", "Always", none,
    [⟨"1", .every 0⟩, ⟨"2", .sceneStart⟩, ⟨"3", .keyDown "Space"⟩, ⟨"4", .every 0⟩], []⟩

namespace Session

/-- Without the key being down it leaves the marks of the two conditions before. -/
theorem conditions_only_mark_awaitingKey :
    let s : Session Float (SilentOutput Float) := .ofConditions Event.awaitingKey.conditions
    Marked "always" [⟨"1", .every 0⟩, ⟨"2", .sceneStart⟩] s (runBound .awaitingKey 0 s none) ∧
      (boundInquiries .awaitingKey s none).map (·.condition.id) = ["1", "2", "3"] := by
  intro s
  have hfirst : s.holds "always" none ⟨"1", .every 0⟩ =
      (true, { s.memory with lastHeld := s.memory.lastHeld.insert "1" s.clock }) :=
    if_pos (by decide : (0 : Float) ≤ 0 - 0)
  have hpasses := Passes.cons hfirst (Passes.cons (c := ⟨"2", .sceneStart⟩) rfl (.nil _))
  rcases (conditions_only_mark s none .awaitingKey 0).2.2 _ _ [⟨"4", .every 0⟩] _ rfl hpasses rfl
    with ⟨hrun, hmarked, hinquiries, -⟩
  refine ⟨hrun ▸ (hmarked _).2 rfl, ?_⟩
  have hids := congrArg (List.map (·.id)) hinquiries
  rwa [List.map_map] at hids

end Session

end Playfield
