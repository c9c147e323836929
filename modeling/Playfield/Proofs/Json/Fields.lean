import Mathlib
import Playfield.Proofs.Json.Holds

/-!
# What Records Hold

Which records come back from a document, field by field.

A field says by itself how a value is written, when it is left out and what a
missing one counts as. `FieldCarries` is what `Codec.Carries` is for codecs: with these
three, the values with some property come back, and what is read or missing has some
property. A description of a record is built one field after the other, and
`Fields.Carries` follows it. The fields that are there must come back whatever stands
among them, because the fields that follow and those of another description stand in
the same object. So what is asked of an object is only that it spells the names of the
description as they have been written.

## Main definitions

* `Numbered.Spells`: The members of a name are those that have been written.
* `FieldCarries`: What comes back in a field, and what is read of it.
* `Fields.Carries`, `Fields.Holds`: The same for the fields of a record.

## Theorems

* `FieldCarries.required`, `FieldCarries.optional` and so on: The kinds of fields.
* `Fields.Carries.field`, `Fields.Carries.free`: One more field.
* `Codec.carries_record`: A record comes back if its fields do.
-/

namespace Playfield

namespace Numbered

/-- The members of a name are those that have been written under it. -/
def Spells (ms : Numbered) (ws : Json.Members) (name : String) : Prop :=
  (named name ms).map (·.2) = ws.filter (·.1 == name)

/-- Nothing is held or kept under a name under which nothing is written. -/
theorem filter_map_eq_nil (f : Json → Json) {ws : Json.Members} {name : String}
    (h : ∀ m ∈ ws, m.1 ≠ name) : (ws.map fun m => (m.1, f m.2)).filter (·.1 == name) = [] := by
  rw [List.filter_eq_nil_iff]
  intro m hm
  rcases List.mem_map.1 hm with ⟨w, hw, rfl⟩
  intro heq
  exact h w hw (eq_of_beq heq)

theorem filter_heldMembers_eq_nil {ws : Json.Members} {name : String}
    (h : ∀ m ∈ ws, m.1 ≠ name) : (Json.heldMembers ws).filter (·.1 == name) = [] := by
  rw [Json.heldMembers_eq_map]
  exact filter_map_eq_nil Json.held h

theorem map_ofMembers (ms : Json.Members) : (ofMembers ms).map (·.2) = ms := by
  unfold ofMembers
  rw [List.map_map]
  exact List.zipIdx_map_fst 0 ms

theorem spells_ofMembers (ms : Json.Members) (name : String) : Spells (ofMembers ms) ms name := by
  have h : ((ofMembers ms).map (·.2)).filter (·.1 == name) =
      (named name (ofMembers ms)).map (·.2) := List.filter_map
  rw [Spells, ← h, map_ofMembers]

/-- Dropping other names changes nothing. -/
theorem named_others {names : List String} {name : String} (h : name ∉ names) (ms : Numbered) :
    named name (others names ms) = named name ms := by
  unfold named others
  rw [List.filter_filter]
  refine List.filter_congr fun m _ => ?_
  by_cases hm : (m.2.1 == name) = true
  · have hname : m.2.1 = name := by simpa using hm
    have hcontains : names.contains m.2.1 = false := by
      rw [hname]
      simpa using h
    rw [hm, hcontains]
    rfl
  · rw [Bool.not_eq_true] at hm
    rw [hm, Bool.false_and]

theorem spells_others {names : List String} {name : String} {ms : Numbered} {ws : Json.Members}
    (h : name ∉ names) (hms : Spells ms ws name) : Spells (others names ms) ws name := by
  rw [Spells, named_others h]
  exact hms

theorem check_ok {fault : Json → Option Fault} {ms : Numbered}
    (h : ∀ m ∈ ms, fault m.2.2 = none) : check fault ms = .ok () := by
  induction ms with
  | nil => rfl
  | cons m ms ih =>
      rw [check, h m List.mem_cons_self]
      exact ih fun n hn => h n (List.mem_cons_of_mem m hn)

theorem of_check {fault : Json → Option Fault} {ms : Numbered} (h : check fault ms = .ok ()) :
    ∀ m ∈ ms, fault m.2.2 = none := by
  induction ms with
  | nil => exact List.forall_mem_nil _
  | cons m ms ih =>
      rw [check] at h
      split at h
      · cases h
      · next hm => exact List.forall_mem_cons.2 ⟨hm, ih h⟩

/-- Something is known of all members. -/
def All (T : Json → Prop) (ms : Numbered) : Prop := ∀ m ∈ ms, T m.2.2

theorem all_ofMembers {T : Json → Prop} {ms : Json.Members} (h : ∀ m ∈ ms, T m.2) :
    All T (ofMembers ms) := by
  intro m hm
  have hmem : m.2 ∈ (ofMembers ms).map (·.2) := List.mem_map_of_mem hm
  rw [map_ofMembers] at hmem
  exact h m.2 hmem

theorem All.others {T : Json → Prop} {ms : Numbered} (h : All T ms) (names : List String) :
    All T (ms.others names) :=
  fun m hm => h m (List.mem_of_mem_filter hm)

/-- The members of an object that has been written are plain. -/
theorem all_isPlain_held {k : ℕ∞} {ms : Json.Members} (h : ∀ m ∈ ms, Json.Plain k m.2) :
    All Json.IsPlain (ofMembers (Json.heldMembers ms)) := by
  refine all_ofMembers fun m hm => ?_
  rw [Json.heldMembers_eq_map] at hm
  rcases List.mem_map.1 hm with ⟨w, hw, rfl⟩
  exact Json.isPlain_held (h w hw).isPlain

theorem check_passed {ms : Numbered} (h : All Json.IsPlain ms) :
    check Json.passed? ms = .ok () :=
  check_ok fun m hm => Json.passed?_of_isPlain (h m hm)

theorem check_fault {ms : Numbered} (h : All Json.IsPlain ms) : check Json.fault? ms = .ok () :=
  check_ok fun m hm => Json.fault?_of_isPlain (h m hm)

variable {α : Type} {name : String} {absent : Option α} {value : Json → Except ReadError α}
  {ms : Numbered} {a : α}

theorem exists_named {ws : Json.Members} {j : Json} (hms : Spells ms ws name)
    (hws : ws.filter (·.1 == name) = [(name, j)]) : ∃ i, named name ms = [(i, name, j)] := by
  have hmap : (named name ms).map (·.2) = [(name, j)] := hms.trans hws
  cases hn : named name ms with
  | nil =>
      rw [hn] at hmap
      cases hmap
  | cons m more =>
      rw [hn, List.map_cons, List.cons.injEq, List.map_eq_nil_iff] at hmap
      rcases hmap with ⟨hm, rfl⟩
      rcases m with ⟨i, n, j'⟩
      cases hm
      exact ⟨i, rfl⟩

/-- A member that has been written is read. -/
theorem read_of_spells {ws : Json.Members} {j : Json} (hms : Spells ms ws name)
    (hws : ws.filter (·.1 == name) = [(name, j)]) (hvalue : value j = .ok a) :
    read name absent value ms = .ok a := by
  rcases exists_named hms hws with ⟨i, hn⟩
  unfold read
  rw [hn]
  dsimp only
  rw [hvalue]

/-- Nothing else is read in its place. -/
theorem value_of_read {ws : Json.Members} {j : Json} (hms : Spells ms ws name)
    (hws : ws.filter (·.1 == name) = [(name, j)]) (h : read name absent value ms = .ok a) :
    value j = .ok a := by
  rcases exists_named hms hws with ⟨i, hn⟩
  unfold read at h
  rw [hn] at h
  dsimp only at h
  cases hvalue : value j with
  | error e =>
      rw [hvalue] at h
      cases h
  | ok b =>
      rw [hvalue] at h
      cases h
      rfl

/-- One that has been left out counts as absent. -/
theorem read_of_spells_nothing {ws : Json.Members} (hms : Spells ms ws name)
    (hws : ws.filter (·.1 == name) = []) : read name (some a) value ms = .ok a := by
  have hmap : (named name ms).map (·.2) = [] := hms.trans hws
  unfold read
  rw [List.map_eq_nil_iff.1 hmap]

/-- What is read is absent or stands somewhere. -/
theorem of_read (h : read name absent value ms = .ok a) :
    absent = some a ∨ ∃ m ∈ ms, value m.2.2 = .ok a := by
  unfold read at h
  split at h
  · cases h
    exact Or.inl rfl
  · cases h
  · next i n j more hn =>
    have hmem : (i, n, j) ∈ ms := by
      have hmem : (i, n, j) ∈ named name ms := by
        rw [hn]
        exact List.mem_cons_self
      exact List.mem_of_mem_filter hmem
    split at h
    · cases h
    · next hvalue =>
      cases h
      exact Or.inr ⟨_, hmem, hvalue⟩
    · cases h

end Numbered

/-- The values of a field with the property `P` come back, and a value that is read from a
    tree of which `T` is known, or that counts where the field is missing, has the
    property `Q`. -/
structure FieldCarries {B : Type} (write : B → Option Json)
    (read : Source → Json → Except ReadError B) (absent : Option B) (k : ℕ∞) (P : B → Prop)
    (T : Json → Prop) (Q : B → Prop) : Prop where
  plain : ∀ b j, write b = some j → Json.Plain k j
  read_write : ∀ src b j, P b → write b = some j → read src j.held = .ok b
  left_out : ∀ b, write b = none → absent = some b
  of_read : ∀ src j b, T j → read src j = .ok b → Q b
  of_absent : ∀ b, absent = some b → Q b

namespace FieldCarries

variable {B : Type} {c : Codec B} {k : ℕ∞} {P Q : B → Prop} {T : Json → Prop}

theorem required (h : c.Carries k P T Q) :
    FieldCarries (fun b => some (c.write b)) c.read none k P T Q := by
  refine ⟨?_, ?_, ?_, h.of_read, ?_⟩
  · intro b j hj
    cases hj
    exact h.plain b
  · intro src b j hb hj
    cases hj
    exact h.read_write src b hb
  · intro b hb
    cases hb
  · intro b hb
    cases hb

theorem defaulting {d : B} (h : c.Carries k P T Q) (hd : Q d) :
    FieldCarries (fun b => some (c.write b)) c.read (some d) k P T Q := by
  have hreq := required h
  refine ⟨hreq.plain, hreq.read_write, ?_, h.of_read, ?_⟩
  · intro b hb
    cases hb
  · intro b hb
    cases hb
    exact hd

/-- What is not `null` is read by the codec. -/
theorem readNullable_of_read {src : Source} {j : Json} {b : B}
    (hnull : ∀ src, ∃ e, c.read src .null = .error e) (h : c.read src j = .ok b) :
    Fields.readNullable c src j = .ok (some b) := by
  unfold Fields.readNullable
  split
  · rcases hnull src with ⟨e, he⟩
    rw [he] at h
    cases h
  · rw [h]

theorem of_readNullable {src : Source} {j : Json} {o : Option B}
    (h : Fields.readNullable c src j = .ok o) : ∀ b ∈ o, c.read src j = .ok b := by
  intro b hb
  unfold Fields.readNullable at h
  split at h
  · cases h
    cases hb
  · split at h
    · next hread =>
      cases h
      cases hb
      exact hread
    · cases h

/-- A value that is not written must not be what is read from `null`. -/
theorem optional (h : c.Carries k P T Q) (hnull : ∀ src, ∃ e, c.read src .null = .error e) :
    FieldCarries (fun o : Option B => o.map c.write) (Fields.readNullable c) (some none) k
      (fun o => ∀ b ∈ o, P b) T fun o => ∀ b ∈ o, Q b := by
  refine ⟨?_, ?_, ?_, ?_, ?_⟩
  · intro o j hj
    rcases Option.map_eq_some_iff.1 hj with ⟨b, _, rfl⟩
    exact h.plain b
  · intro src o j ho hj
    rcases Option.map_eq_some_iff.1 hj with ⟨b, rfl, rfl⟩
    exact readNullable_of_read hnull (h.read_write src b (ho b rfl))
  · intro o ho
    rw [Option.map_eq_none_iff.1 ho]
  · intro src j o hj hread b hb
    exact h.of_read src j b hj (of_readNullable hread b hb)
  · intro o ho b hb
    cases ho
    cases hb

theorem nullable (h : c.Carries k P T Q) (hnull : ∀ src, ∃ e, c.read src .null = .error e) :
    FieldCarries (fun o : Option B => some ((o.map c.write).getD .null)) (Fields.readNullable c)
      (some none) k (fun o => ∀ b ∈ o, P b) T fun o => ∀ b ∈ o, Q b := by
  have hopt := optional h hnull
  refine ⟨?_, ?_, ?_, hopt.of_read, hopt.of_absent⟩
  · intro o j hj
    cases hj
    cases o with
    | none => exact .null
    | some b => exact h.plain b
  · intro src o j ho hj
    cases hj
    cases o with
    | none => rfl
    | some b => exact hopt.read_write src (some b) _ ho rfl
  · intro o ho
    cases ho

theorem imp {write : B → Option Json} {read : Source → Json → Except ReadError B}
    {absent : Option B} {P' Q' : B → Prop} (h : FieldCarries write read absent k P T Q)
    (hP : ∀ b, P' b → P b) (hQ : ∀ b, Q b → Q' b) :
    FieldCarries write read absent k P' T Q' :=
  ⟨h.plain, fun src b j hb => h.read_write src b j (hP b hb), h.left_out,
    fun src j b hj hread => hQ b (h.of_read src j b hj hread),
    fun b hb => hQ b (h.of_absent b hb)⟩

/-- A text may be left out. -/
theorem optionalText : FieldCarries (fun o : Option String => o.map Codec.text.write)
    (Fields.readNullable .text) (some none) k (fun _ => True) T fun _ => True :=
  (optional Codec.carries_text fun _ => ⟨_, rfl⟩).imp (fun _ _ _ _ => trivial) fun _ _ => trivial

/-- A text may be `null`. -/
theorem nullableText : FieldCarries
    (fun o : Option String => some ((o.map Codec.text.write).getD .null))
    (Fields.readNullable .text) (some none) k (fun _ => True) T fun _ => True :=
  (nullable Codec.carries_text fun _ => ⟨_, rfl⟩).imp (fun _ _ _ _ => trivial) fun _ _ => trivial

theorem unlessEmpty {c : Codec (List B)} {P Q : List B → Prop} (h : c.Carries k P T Q)
    (hnil : Q []) :
    FieldCarries (fun bs : List B => if bs.isEmpty then none else some (c.write bs)) c.read
      (some []) k P T Q := by
  refine ⟨?_, ?_, ?_, h.of_read, ?_⟩
  · intro bs j hj
    split at hj
    · cases hj
    · cases hj
      exact h.plain bs
  · intro src bs j hbs hj
    split at hj
    · cases hj
    · cases hj
      exact h.read_write src bs hbs
  · intro bs hbs
    split at hbs
    · next hempty => rw [List.isEmpty_iff.1 hempty]
    · cases hbs
  · intro bs hbs
    cases hbs
    exact hnil

end FieldCarries

namespace Fields

variable {S A B : Type}

/-- The records that are made of values with the property `P` come back, and what is made of
    trees of which `T` is known has the property `Q`. -/
structure Carries (r : Fields S A) (k : ℕ∞) (P : S → Prop) (T : Json → Prop) (Q : A → Prop) :
    Prop where
  names : ∀ s, ∀ m ∈ r.write s, m.1 ∈ r.names
  plain : ∀ s, ∀ m ∈ r.write s, Json.Plain k m.2
  readMembers_write : ∀ src s ms, P s → r.names.Nodup →
    (∀ n ∈ r.names, Numbered.Spells ms (Json.heldMembers (r.write s)) n) →
    r.readMembers src ms = .ok (r.value s)
  of_readMembers : ∀ src ms a, Numbered.All T ms → r.readMembers src ms = .ok a → Q a
  of_readItems : ∀ src js a js', (∀ j ∈ js, T j) →
    r.readItems src js = .ok (a, js') → Q a ∧ ∀ j ∈ js', T j

/-- Documents hold the records that are made of some values and no others. -/
abbrev Holds (r : Fields S A) (k : Nat) (P : S → Prop) (Q : A → Prop) : Prop :=
  r.Carries k P Json.InRange Q

namespace Carries

theorem start {make : A} {k : ℕ∞} {P : S → Prop} {T : Json → Prop} {Q : A → Prop}
    (h : Q make) : (Fields.start make : Fields S A).Carries k P T Q := by
  refine ⟨?_, ?_, ?_, ?_, ?_⟩
  · intro s m hm
    cases hm
  · intro s m hm
    cases hm
  · intro src s ms _ _ _
    rfl
  · intro src ms a _ ha
    cases ha
    exact h
  · intro src js a js' hjs ha
    cases ha
    exact ⟨h, hjs⟩

theorem imp {r : Fields S A} {k : ℕ∞} {P : S → Prop} {T : Json → Prop} {Q Q' : A → Prop}
    (h : r.Carries k P T Q) (hQ : ∀ a, Q a → Q' a) : r.Carries k P T Q' :=
  ⟨h.names, h.plain, h.readMembers_write,
    fun src ms a hms ha => hQ a (h.of_readMembers src ms a hms ha),
    fun src js a js' hjs ha =>
      ⟨hQ a (h.of_readItems src js a js' hjs ha).1, (h.of_readItems src js a js' hjs ha).2⟩⟩

section

variable {r : Fields S (B → A)} {name : String} {get : S → B} {write : B → Option Json}
  {read : Source → Json → Except ReadError B} {absent : Option B} {k : ℕ∞}

/-- What a description has written lies before what another field adds. -/
theorem map_write_field (F : Json → Json) (s : S) :
    (((r.field name get write read absent).write s).map fun m => (m.1, F m.2)) =
      ((r.write s).map fun m => (m.1, F m.2)) ++
        ((write (get s)).map fun j => (name, F j)).toList := by
  change (r.write s ++ ((write (get s)).map fun j => (name, j)).toList).map _ = _
  rw [List.map_append]
  cases write (get s) <;> rfl

theorem filter_field (F : Json → Json) {n : String} (hn : n ≠ name) (s : S) :
    (((r.field name get write read absent).write s).map fun m => (m.1, F m.2)).filter
        (·.1 == n) =
      ((r.write s).map fun m => (m.1, F m.2)).filter (·.1 == n) := by
  have hne : (name == n) = false := beq_false_of_ne (Ne.symm hn)
  rw [map_write_field, List.filter_append]
  cases write (get s) with
  | none => exact List.append_nil _
  | some j =>
      rw [Option.map_some, Option.toList_some, List.filter_cons_of_neg (by simpa using hne)]
      exact List.append_nil _

theorem filter_field_self (F : Json → Json) (hnames : ∀ s, ∀ m ∈ r.write s, m.1 ∈ r.names)
    (hname : name ∉ r.names) (s : S) :
    (((r.field name get write read absent).write s).map fun m => (m.1, F m.2)).filter
        (·.1 == name) =
      ((write (get s)).map fun j => (name, F j)).toList := by
  -- The fields before write other names.
  have hnone : ((r.write s).map fun m => (m.1, F m.2)).filter (·.1 == name) = [] := by
    refine Numbered.filter_map_eq_nil F fun m hm heq => ?_
    exact hname (heq ▸ hnames s m hm)
  rw [map_write_field, List.filter_append, hnone, List.nil_append]
  cases write (get s) with
  | none => rfl
  | some j =>
      rw [Option.map_some, Option.toList_some, List.filter_cons_of_pos (by simp), List.filter_nil]

theorem readMembers_field_ok {src : Source} {ms : Numbered} {a : A} :
    (r.field name get write read absent).readMembers src ms = .ok a ↔
      ∃ f b, r.readMembers src ms = .ok f ∧
        Numbered.read name absent (read src) ms = .ok b ∧ f b = a := by
  unfold Fields.field
  dsimp only
  constructor
  · intro h
    split at h
    · next f b hboth =>
      rw [Located.both_ok] at hboth
      cases h
      exact ⟨f, b, hboth.1, hboth.2, rfl⟩
    · cases h
  · rintro ⟨f, b, hf, hb, rfl⟩
    rw [(Located.both_ok _ _ (f, b)).2 ⟨hf, hb⟩]

/-- One more field. -/
theorem field {P : S → Prop} {PB QB : B → Prop} {T : Json → Prop} {Q : A → Prop}
    (hfield : FieldCarries write read absent k PB T QB) (hget : ∀ s, P s → PB (get s))
    (h : r.Carries k P T fun f => ∀ b, QB b → Q (f b)) :
    (r.field name get write read absent).Carries k P T Q := by
  refine ⟨?_, ?_, ?_, ?_, ?_⟩
  · intro s m hm
    rcases List.mem_append.1 hm with hm | hm
    · exact List.mem_append_left _ (h.names s m hm)
    · rcases Option.map_eq_some_iff.1 (Option.mem_toList.1 hm) with ⟨j, _, rfl⟩
      exact List.mem_append_right _ (List.mem_singleton.2 rfl)
  · intro s m hm
    rcases List.mem_append.1 hm with hm | hm
    · exact h.plain s m hm
    · rcases Option.map_eq_some_iff.1 (Option.mem_toList.1 hm) with ⟨j, hj, rfl⟩
      exact hfield.plain (get s) j hj
  · intro src s ms hs hnodup hms
    rcases List.nodup_append.1 (show (r.names ++ [name]).Nodup from hnodup) with
      ⟨hnodup, _, hdisjoint⟩
    -- The names before and the new one do not meet, so neither sees the members of the other.
    have hname : name ∉ r.names := fun hmem =>
      hdisjoint name hmem name (List.mem_singleton.2 rfl) rfl
    have hself : (Json.heldMembers ((r.field name get write read absent).write s)).filter
        (·.1 == name) = ((write (get s)).map fun j => (name, j.held)).toList := by
      rw [Json.heldMembers_eq_map]
      exact filter_field_self Json.held h.names hname s
    have hspells := hms name (List.mem_append_right _ (List.mem_singleton.2 rfl))
    rw [readMembers_field_ok]
    refine ⟨r.value s, get s, ?_, ?_, rfl⟩
    · refine h.readMembers_write src s ms hs hnodup fun n hn => ?_
      have hne : n ≠ name := fun heq => hname (heq ▸ hn)
      rw [Numbered.Spells, hms n (List.mem_append_left _ hn), Json.heldMembers_eq_map,
        Json.heldMembers_eq_map, filter_field Json.held hne]
    · cases hwrite : write (get s) with
      | none =>
          rw [hwrite] at hself
          rw [hfield.left_out (get s) hwrite]
          exact Numbered.read_of_spells_nothing hspells hself
      | some j =>
          rw [hwrite] at hself
          exact Numbered.read_of_spells hspells hself
            (hfield.read_write src (get s) j (hget s hs) hwrite)
  · intro src ms a hms ha
    rcases readMembers_field_ok.1 ha with ⟨f, b, hf, hb, rfl⟩
    refine h.of_readMembers src ms f hms hf b ?_
    -- What is missing counts as a value with the property, and what is there has been read.
    rcases Numbered.of_read hb with habsent | ⟨m, hm, hread⟩
    · exact hfield.of_absent b habsent
    · exact hfield.of_read src m.2.2 b (hms m hm) hread
  · intro src js a js' hjs ha
    unfold Fields.field at ha
    dsimp only at ha
    split at ha
    · cases ha
    · next f hf =>
      rcases h.of_readItems src js f [] hjs hf with ⟨hQ, hrest⟩
      split at ha
      · next b =>
        cases ha
        exact ⟨hQ b (hfield.of_absent b rfl), hrest⟩
      · cases ha
    · next f j rest hf =>
      rcases h.of_readItems src js f (j :: rest) hjs hf with ⟨hQ, hrest⟩
      split at ha
      · next b hb =>
        cases ha
        refine ⟨hQ b (hfield.of_read src j b (hrest j List.mem_cons_self) hb), ?_⟩
        exact fun i hi => hrest i (List.mem_cons_of_mem j hi)
      · cases ha

/-- One more field of which nothing is asked. -/
theorem free {P : S → Prop} {T : Json → Prop} {Q : A → Prop}
    (hfield : FieldCarries write read absent k (fun _ => True) T fun _ => True)
    (h : r.Carries k P T fun f => ∀ b, Q (f b)) :
    (r.field name get write read absent).Carries k P T Q := by
  exact field hfield (fun _ _ => trivial) (h.imp fun _ hf b _ => hf b)

end

/-- Something else is made of the fields. -/
theorem map {r : Fields S A} {f : A → B} {k : ℕ∞} {P : S → Prop} {T : Json → Prop}
    {Q : B → Prop} (h : r.Carries k P T fun a => Q (f a)) : (Fields.map f r).Carries k P T Q := by
  refine ⟨h.names, h.plain, ?_, ?_, ?_⟩
  · intro src s ms hs hnodup hms
    have hread := h.readMembers_write src s ms hs hnodup hms
    unfold Fields.map
    dsimp only
    rw [hread]
  · intro src ms b hms hb
    unfold Fields.map at hb
    dsimp only at hb
    split at hb
    · next a ha =>
      cases hb
      exact h.of_readMembers src ms a hms ha
    · cases hb
  · intro src js b js' hjs hb
    unfold Fields.map at hb
    dsimp only at hb
    split at hb
    · next a rest ha =>
      cases hb
      exact h.of_readItems src js a _ hjs ha
    · cases hb

end Carries

end Fields

namespace Codec

variable {α : Type} {r : Fields α α} {P Q : α → Prop}

/-- A record is read from an object if its fields are and the rest can be skipped. -/
theorem read_record_object {src : Source} {ms : Json.Members} {a : α}
    (hread : r.readMembers src (Numbered.ofMembers ms) = .ok a)
    (hothers : ((Numbered.ofMembers ms).others r.names).check Json.passed? = .ok ()) :
    (record r).read src (.object ms) = .ok a := by
  have hboth := (Located.both_ok _ _ (a, ())).2 ⟨hread, hothers⟩
  change readRecord r src (.object ms) = _
  unfold readRecord
  dsimp only
  rw [hboth]

/-- A record comes back if its fields do. -/
theorem carries_record {k : ℕ∞} {T T' : Json → Prop} (hnames : r.names.Nodup)
    (hvalue : ∀ a, r.value a = a) (hT : Json.Descends T T') (h : r.Carries k P T' Q) :
    (record r).Carries (k + 1) P T Q := by
  refine ⟨fun a => .object (h.plain a), ?_, ?_⟩
  · intro src a ha
    have hnumbered := Numbered.all_isPlain_held (h.plain a)
    -- The object holds the fields of the record and no other members.
    have hread : r.readMembers src (Numbered.ofMembers (Json.heldMembers (r.write a))) = .ok a := by
      rw [h.readMembers_write src a _ ha hnames fun n _ => Numbered.spells_ofMembers _ n, hvalue]
    exact read_record_object hread (Numbered.check_passed (hnumbered.others r.names))
  · intro src j a hj hread
    change readRecord r src j = _ at hread
    unfold readRecord at hread
    split at hread
    · next ms =>
      dsimp only at hread
      split at hread
      · next b u hboth =>
        rw [Located.both_ok] at hboth
        cases hread
        exact h.of_readMembers src _ _ (Numbered.all_ofMembers (hT.members ms hj)) hboth.1
      · cases hread
    · next js =>
      split at hread
      · cases hread
      · next b hitems =>
        cases hread
        exact (h.of_readItems src js _ [] (hT.items js hj) hitems).1
      · cases hread
      · cases hread
    · cases hread

theorem holds_record {k : Nat} (hnames : r.names.Nodup) (hvalue : ∀ a, r.value a = a)
    (h : r.Holds k P P) : (record r).Holds (k + 1) P :=
  carries_record hnames hvalue Json.descends_inRange h

end Codec

end Playfield
