import Mathlib
import Playfield.Scalar.Double
import Playfield.Simulation.Bars

/-!
# Bars That Follow Variables

What a bar shows after it has been synchronized.

A bar that is bound to a variable shows the number of the variable, and zero if there is no such
number: the variable may be missing, its owner may not be there, or the value may not be numeric.
The rule is told here by three relations, which of the names leads to which value
(`BarReading.Names`), which number a value shows (`ShownAs`), and what becomes of an instance
(`Roster.Synced`).

A bar may be bound to a variable of an object without an object being named. By the rule it would
show zero, as where the object that is named does not exist. It is left alone instead, and goes on
showing whatever it has shown. This is the only way in which a bound bar is not what its variable
says.

What becomes of an instance depends on the variables of the instances, which synchronizing does
not change. So bars that are synchronized twice are as they are after the first time. And it
depends on which instance an id leads to, but not on where the instances stand: as long as the
ids lead to the same instances, and with distinct ids they do, the order does not matter.

## Main definitions

* `ShownAs`: The number that a value shows.
* `BarReading.Names`: The value that a bar is bound to.
* `Roster.Synced`: What becomes of an instance.

## Theorems

* `Roster.synced_syncBar`: What becomes of an instance is what the rule says.
* `Roster.syncBar_congr`: It depends on the variables to which ids lead.
* `Roster.syncBar_syncBar`, `Roster.syncBars_syncBars`: Once is enough.
* `Roster.get?_of_perm`: Distinct ids lead to the same instances in every order.
* `Roster.syncBars_follows`: Synchronized bars.
* `Roster.syncBars_leaves_unowned`: A bar that is left alone although it is bound.
-/

namespace Playfield

variable {R : Type} [Scalar R] [Numeral R]

/-- The number that a value shows, if there is a value: its number, or zero if it has none. -/
inductive ShownAs : Option (Value R) → R → Prop
  | number {v : Value R} {x : R} : v.toNumber? = some x → ShownAs (some v) x
  | notNumeric {v : Value R} : v.toNumber? = none → ShownAs (some v) 0
  | missing : ShownAs none 0

/-- The value that a bar is bound to, if there is one. A bar that is bound to an object but names
    none is not bound to anything. -/
inductive BarReading.Names (r : Roster R) (globals : Variables R) :
    BarReading → Option (Value R) → Prop
  | global {name : String} {owner : Option String} :
      Names r globals ⟨.globalVariable, name, owner⟩ (globals.get? name)
  | object {name id : String} {i : Instance R} : r.get? id = some i →
      Names r globals ⟨.objectVariable, name, some id⟩ (i.object.vars.get? name)
  | gone {name id : String} : r.get? id = none →
      Names r globals ⟨.objectVariable, name, some id⟩ none

/-- The instance with another bar. -/
def Instance.withBar {R : Type} (i : Instance R) (b : Bar R) : Instance R :=
  { i with object := { i.object with appearance := .bar b } }

namespace Roster

/-- What becomes of an instance when bars are synchronized. -/
inductive Synced (r : Roster R) (globals : Variables R) : Instance R → Instance R → Prop
  | bound {i : Instance R} {b : Bar R} {reading : BarReading} {v : Option (Value R)} {x : R} :
      i.object.appearance = .bar b → b.reading = some reading → reading.Names r globals v →
      ShownAs v x → Synced r globals i (i.withBar { b with current := x })
  | unowned {i : Instance R} {b : Bar R} {name : String} : i.object.appearance = .bar b →
      b.reading = some ⟨.objectVariable, name, none⟩ → Synced r globals i i
  | manual {i : Instance R} {b : Bar R} {reading : BarReading} : i.object.appearance = .bar b →
      b.reading = some reading → reading.source = .manual → Synced r globals i i
  | unbound {i : Instance R} {b : Bar R} : i.object.appearance = .bar b → b.reading = none →
      Synced r globals i i
  | noBar {i : Instance R} : (∀ b, i.object.appearance ≠ .bar b) → Synced r globals i i

variable {r r' : Roster R} {globals : Variables R} {i : Instance R} {id : String}

theorem shownAs_shownNumber (v : Option (Value R)) : ShownAs v (shownNumber v) := by
  unfold shownNumber
  cases v with
  | none => exact .missing
  | some v =>
      cases hv : v.toNumber? with
      | none =>
          rw [Option.bind_some, hv]
          exact .notNumeric hv
      | some x =>
          rw [Option.bind_some, hv]
          exact .number hv

/-- What a bar has to show is the number of what it is bound to. -/
theorem exists_names_of_reading? {reading : BarReading} {x : R}
    (h : r.reading? globals reading = some x) :
    ∃ v, reading.Names r globals v ∧ ShownAs v x := by
  rcases reading with ⟨source, name, owner⟩
  cases source with
  | manual => cases h
  | globalVariable =>
      cases h
      exact ⟨_, .global, shownAs_shownNumber _⟩
  | objectVariable =>
      cases owner with
      | none => cases h
      | some id =>
          cases h
          cases hi : r.get? id with
          | none => exact ⟨_, .gone hi, shownAs_shownNumber _⟩
          | some i => exact ⟨_, .object hi, shownAs_shownNumber _⟩

/-- Nothing is to be shown by a bar that is left to actions, and by one that is bound to an object
    but names none. -/
theorem of_reading?_eq_none {reading : BarReading} (h : r.reading? globals reading = none) :
    reading.source = .manual ∨ ∃ name, reading = ⟨.objectVariable, name, none⟩ := by
  rcases reading with ⟨source, name, owner⟩
  cases source with
  | manual => exact .inl rfl
  | globalVariable => cases h
  | objectVariable =>
      cases owner with
      | none => exact .inr ⟨name, rfl⟩
      | some id => cases h

theorem syncBar_of_some {b : Bar R} {x : R} (hb : i.object.appearance = .bar b)
    (hx : b.reading.bind (r.reading? globals) = some x) :
    r.syncBar globals i = i.withBar { b with current := x } := by
  simp only [syncBar, hb, hx]
  rfl

/-- An instance is left alone, or it has a bar that is set to what it has to show. -/
theorem syncBar_cases (r : Roster R) (globals : Variables R) (i : Instance R) :
    (∃ b x, i.object.appearance = .bar b ∧ b.reading.bind (r.reading? globals) = some x ∧
        r.syncBar globals i = i.withBar { b with current := x }) ∨
      r.syncBar globals i = i ∧
        ∀ b, i.object.appearance = .bar b → b.reading.bind (r.reading? globals) = none := by
  cases hb : i.object.appearance with
  | bar b =>
      cases hx : b.reading.bind (r.reading? globals) with
      | some x => exact .inl ⟨b, x, rfl, hx, syncBar_of_some hb hx⟩
      | none =>
          refine .inr ⟨by simp only [syncBar, hb, hx], fun b' hb' => ?_⟩
          cases hb'
          exact hx
  | sprite | tiledSprite | text =>
      refine .inr ⟨by simp only [syncBar, hb], fun b' hb' => ?_⟩
      cases hb'

/-- What becomes of an instance is what the rule says. -/
theorem synced_syncBar (r : Roster R) (globals : Variables R) (i : Instance R) :
    Synced r globals i (r.syncBar globals i) := by
  rcases syncBar_cases r globals i with ⟨b, x, hb, hx, hsync⟩ | ⟨hsync, hnone⟩
  · rcases Option.bind_eq_some_iff.1 hx with ⟨reading, hreading, hx⟩
    rcases exists_names_of_reading? hx with ⟨v, hnames, hshown⟩
    rw [hsync]
    exact .bound hb hreading hnames hshown
  · rw [hsync]
    -- It has no bar, or one that is not bound, or one that is bound to nothing that is looked up.
    by_cases hbar : ∃ b, i.object.appearance = .bar b
    · rcases hbar with ⟨b, hb⟩
      cases hreading : b.reading with
      | none => exact .unbound hb hreading
      | some reading =>
          have hx := hnone b hb
          rw [hreading, Option.bind_some] at hx
          rcases of_reading?_eq_none hx with hmanual | ⟨name, rfl⟩
          · exact .manual hb hreading hmanual
          · exact .unowned hb hreading
    · exact .noBar (not_exists.1 hbar)

theorem reading?_congr (h : ∀ id, (r'.get? id).map (·.object.vars) =
    (r.get? id).map (·.object.vars)) : r'.reading? globals = r.reading? globals := by
  have hvars (id name : String) : (r'.get? id).bind (·.object.vars.get? name) =
      (r.get? id).bind (·.object.vars.get? name) := by
    have hid := congrArg (fun vars => vars.bind fun vs : Variables R => vs.get? name) (h id)
    rwa [Option.bind_map, Option.bind_map] at hid
  funext reading
  unfold reading?
  split
  · rfl
  · rfl
  · rfl
  · rw [hvars]

/-- What becomes of an instance depends on the roster by the variables to which its ids lead. -/
theorem syncBar_congr (h : ∀ id, (r'.get? id).map (·.object.vars) =
    (r.get? id).map (·.object.vars)) : r'.syncBar globals = r.syncBar globals := by
  funext i
  unfold syncBar
  rw [reading?_congr h]

theorem id_syncBar (r : Roster R) (globals : Variables R) (i : Instance R) :
    (r.syncBar globals i).id = i.id := by
  rcases syncBar_cases r globals i with ⟨b, x, -, -, hsync⟩ | ⟨hsync, -⟩
  · rw [hsync]
    rfl
  · rw [hsync]

theorem vars_syncBar (r : Roster R) (globals : Variables R) (i : Instance R) :
    (r.syncBar globals i).object.vars = i.object.vars := by
  rcases syncBar_cases r globals i with ⟨b, x, -, -, hsync⟩ | ⟨hsync, -⟩
  · rw [hsync]
    rfl
  · rw [hsync]

theorem get?_syncBars (r : Roster R) (globals : Variables R) (id : String) :
    (r.syncBars globals).get? id = (r.get? id).map (r.syncBar globals) := by
  have hid : ((fun i : Instance R => i.id == id) ∘ r.syncBar globals) = fun i => i.id == id := by
    funext i
    rw [Function.comp_apply, id_syncBar]
  rw [get?, get?, syncBars, List.find?_map, hid]

/-- A bar that shows what it has to show is left as it is. -/
theorem syncBar_syncBar (r : Roster R) (globals : Variables R) (i : Instance R) :
    r.syncBar globals (r.syncBar globals i) = r.syncBar globals i := by
  rcases syncBar_cases r globals i with ⟨b, x, hb, hx, hsync⟩ | ⟨hsync, -⟩
  · rw [hsync]
    exact syncBar_of_some (b := { b with current := x }) rfl hx
  · rw [hsync, hsync]

theorem syncBars_syncBars (r : Roster R) (globals : Variables R) :
    (r.syncBars globals).syncBars globals = r.syncBars globals := by
  -- The second time ids lead to instances with other bars, but with the same variables.
  have hsame : (r.syncBars globals).syncBar globals = r.syncBar globals := by
    refine syncBar_congr fun id => ?_
    rw [get?_syncBars, Option.map_map]
    exact congrArg (fun f => (r.get? id).map f) (funext (vars_syncBar r globals))
  rw [syncBars, hsame]
  simp only [syncBars, List.map_map]
  congr 1
  exact List.map_congr_left fun i _ => syncBar_syncBar r globals i

omit [Scalar R] [Numeral R] in
theorem id_of_get? (h : r.get? id = some i) : i.id = id := by
  have hid := List.find?_some h
  rwa [beq_iff_eq] at hid

omit [Scalar R] [Numeral R] in
/-- With distinct ids an id leads to the instance that has it. -/
theorem get?_eq_some_iff (hdistinct : (r.live.map (·.id)).Nodup) :
    r.get? id = some i ↔ i ∈ r.live ∧ i.id = id := by
  constructor
  · exact fun h => ⟨List.mem_of_find?_eq_some h, id_of_get? h⟩
  · rintro ⟨hi, rfl⟩
    cases h : r.get? i.id with
    | none => exact absurd (List.find?_eq_none.1 h i hi) (by simp)
    | some j =>
        rw [List.inj_on_of_nodup_map hdistinct (List.mem_of_find?_eq_some h) hi (id_of_get? h)]

omit [Scalar R] [Numeral R] in
/-- So it leads to the same instance in every order. -/
theorem get?_of_perm (hdistinct : (r.live.map (·.id)).Nodup) (hperm : r'.live.Perm r.live)
    (id : String) : r'.get? id = r.get? id := by
  have hdistinct' := (hperm.map (·.id)).nodup_iff.2 hdistinct
  ext i
  rw [get?_eq_some_iff hdistinct', get?_eq_some_iff hdistinct, hperm.mem_iff]

/-- After bars have been synchronized each instance is what the rule makes of it, and what waits
    is as before. Doing it again changes nothing. And it does not matter in which order the
    instances come, if their ids are distinct, or at least lead to the same instances. -/
theorem syncBars_follows (r : Roster R) (globals : Variables R) :
    List.Forall₂ (Synced r globals) r.live (r.syncBars globals).live ∧
      (r.syncBars globals).spawns = r.spawns ∧ (r.syncBars globals).destroys = r.destroys ∧
      (r.syncBars globals).syncBars globals = r.syncBars globals ∧
      ∃ f : Instance R → Instance R, ∀ r' : Roster R, r'.live.Perm r.live →
        ((r.live.map (·.id)).Nodup ∨ ∀ id, r'.get? id = r.get? id) →
        (r'.syncBars globals).live = r'.live.map f := by
  refine ⟨?_, rfl, rfl, syncBars_syncBars r globals, r.syncBar globals, fun r' hperm hsame => ?_⟩
  · rw [syncBars, List.forall₂_map_right_iff, List.forall₂_same]
    exact fun i _ => synced_syncBar r globals i
  · have hget (id : String) : r'.get? id = r.get? id := by
      rcases hsame with hdistinct | hsame
      · exact get?_of_perm hdistinct hperm id
      · exact hsame id
    rw [syncBars, syncBar_congr fun id => congrArg _ (hget id)]

/-- A bar that starts at five and is bound to a variable. -/
def bar (id : String) (reading : BarReading) : Instance Float :=
  .ofTemplate ⟨id, "Bar", .zero, ⟨1, 1⟩, 1, 0, .empty, "", true, .empty, [], [],
    .bar ⟨100, 5, some reading, "", "", "", 0, false, "", "", 1⟩⟩

/-- An object with a variable. -/
def owner : Instance Float :=
  .ofTemplate ⟨"hero", "Hero", .zero, ⟨1, 1⟩, 1, 0, .ofList [("mana", .text "40")], "", true, .empty,
    [], [], .sprite ⟨none, [], none⟩⟩

/-- A bar before the object to whose variable it is bound. -/
def metered : Roster Float := .ofLive [bar "bar" ⟨.objectVariable, "mana", some "hero"⟩, owner]

theorem syncBars_follows_metered :
    let reversed := Roster.ofLive metered.live.reverse
    reversed.live.Perm metered.live ∧ (metered.live.map (·.id)).Nodup ∧
      ∃ f : Instance Float → Instance Float,
        (metered.syncBars .empty).live = metered.live.map f ∧
        (reversed.syncBars .empty).live = reversed.live.map f ∧
        (metered.syncBars .empty).live.filterMap (·.object.appearance.bar?) =
          [⟨100, 40, some ⟨.objectVariable, "mana", some "hero"⟩, "", "", "", 0, false, "", "", 1⟩] := by
  have hperm : (Roster.ofLive metered.live.reverse).live.Perm metered.live :=
    List.reverse_perm metered.live
  have hdistinct : (metered.live.map (·.id)).Nodup := by decide
  rcases (syncBars_follows metered .empty).2.2.2.2 with ⟨f, hf⟩
  exact ⟨hperm, hdistinct, f, hf metered (List.Perm.refl _) (.inl hdistinct),
    hf _ hperm (.inl hdistinct), by decide +kernel⟩

/-- A bar that is bound to a variable of no object shows five before and after, not zero. -/
theorem syncBars_leaves_unowned :
    let r := Roster.ofLive [bar "bar" ⟨.objectVariable, "mana", none⟩]
    ((r.syncBars .empty).live.filterMap (·.object.appearance.bar?)).map (·.current) = [5] ∧
      (5 : Float) ≠ 0 := by
  exact ⟨rfl, by decide⟩

end Roster

end Playfield
