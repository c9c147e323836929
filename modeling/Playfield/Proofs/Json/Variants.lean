import Mathlib
import Playfield.Proofs.Json.Fields

/-!
# What Types with Several Forms Hold

Which values come back from a document if a tag tells their form.

The members of a form stand beside the tag, and in a flattened record also beside
the fields around it. All of them are told apart by their names. So each form has to
avoid the names that are taken, the tag itself among them, and then it finds
its own members in the object as if it were alone there.

## Main definitions

* `Variant.Carries`: Which values of a form come back, and what is read of it.
* `Variant.Covers`: The forms of a type, one for each value.

## Theorems

* `Variant.Carries.of`: A form comes back if its fields do.
* `Variant.Carries.ofNothing`, `Variant.Carries.ofOne` and so on: The small forms.
* `Codec.readTagged_write`: A form is found again by its tag.
* `Codec.carries_tagged`, `Codec.carries_flattened`: Types with several forms.
-/

namespace Playfield

namespace Variant

variable {S A : Type}

/-- The values of a form with the property `P` come back from an object in which some names
    are taken, and a value that is made of trees of which `T` is known has the property `Q`. -/
structure Carries (v : Variant A) (taken : List String) (k : ℕ∞) (P : A → Prop)
    (T : Json → Prop) (Q : A → Prop) : Prop where
  names : ∀ a ws, v.write? a = some ws → ∀ m ∈ ws, m.1 ∉ taken
  plain : ∀ a ws, v.write? a = some ws → ∀ m ∈ ws, Json.Plain k m.2
  readMembers_write : ∀ src a ws ms, P a → v.write? a = some ws →
    (∀ n, n ∉ taken → Numbered.Spells ms (Json.heldMembers ws) n) →
    v.readMembers src ms = .ok a
  of_readMembers : ∀ src ms a, Numbered.All T ms → v.readMembers src ms = .ok a → Q a
  of_readItems : ∀ src js a js', (∀ j ∈ js, T j) → v.readItems src js = .ok (a, js') → Q a

section

variable {tag : String} {taken : List String} {k : ℕ∞} {P Q : A → Prop} {T : Json → Prop}

/-- A form comes back if its fields do. Where the view of a form is a pattern, the values with
    a view are those that the fields make. -/
theorem Carries.of {view : A → Option S} {r : Fields S A} {PS : S → Prop}
    (hnames : (r.names ++ taken).Nodup) (hview : ∀ s, P (r.value s) → PS s)
    (h : r.Carries k PS T Q)
    (hvalue : ∀ a s, view a = some s → r.value s = a := by
      intro _ _ hs
      split at hs <;> cases hs
      rfl) :
    (Variant.of tag view r).Carries taken k P T Q := by
  rcases List.nodup_append.1 hnames with ⟨hnodup, _, hdisjoint⟩
  have htaken : ∀ n ∈ r.names, n ∉ taken := fun n hn hmem => hdisjoint n hn n hmem rfl
  refine ⟨?_, ?_, ?_, h.of_readMembers, ?_⟩
  · intro a ws hws m hm
    rcases Option.map_eq_some_iff.1 hws with ⟨s, _, rfl⟩
    exact htaken m.1 (h.names s m hm)
  · intro a ws hws
    rcases Option.map_eq_some_iff.1 hws with ⟨s, _, rfl⟩
    exact h.plain s
  · intro src a ws ms ha hws hms
    rcases Option.map_eq_some_iff.1 hws with ⟨s, hs, rfl⟩
    rw [← hvalue a s hs] at ha ⊢
    exact h.readMembers_write src s ms (hview s ha) hnodup fun n hn => hms n (htaken n hn)
  · intro src js a js' hjs ha
    exact (h.of_readItems src js a js' hjs ha).1

/-- A form without fields. -/
theorem Carries.ofNothing {view : A → Option Unit} {make : A} (hnames : taken.Nodup)
    (hQ : Q make)
    (hvalue : ∀ a s, view a = some s → make = a := by
      intro _ _ hs
      split at hs <;> cases hs
      rfl) :
    (Variant.of tag view (Fields.start make)).Carries taken k P T Q :=
  .of hnames (fun _ h => h) (.start hQ) hvalue

variable {B C : Type} {first second third : String}
  {write : C → Option Json} {read : Source → Json → Except ReadError C} {absent : Option C}
  {PC QC : C → Prop}

/-- A form with one field. -/
theorem Carries.ofOne {view : A → Option C} {make : C → A} (hnames : (first :: taken).Nodup)
    (h : FieldCarries write read absent k PC T QC) (hP : ∀ c, P (make c) → PC c)
    (hQ : ∀ c, QC c → Q (make c))
    (hvalue : ∀ a s, view a = some s → make s = a := by
      intro _ _ hs
      split at hs <;> cases hs
      rfl) :
    (Variant.of tag view ((Fields.start make).field first (fun s => s) write read absent)).Carries
      taken k P T Q :=
  .of hnames hP (.field h (fun _ hs => hs) (.start hQ)) hvalue

/-- A form with a text and nothing else. -/
theorem Carries.ofText {view : A → Option String} {make : String → A}
    (hnames : (first :: taken).Nodup) (hQ : ∀ s, Q (make s))
    (hvalue : ∀ a s, view a = some s → make s = a := by
      intro _ _ hs
      split at hs <;> cases hs
      rfl) :
    (Variant.of tag view ((Fields.start make).required first .text fun s => s)).Carries
      taken k P T Q :=
  .ofOne hnames (.required Codec.carries_text) (fun _ _ => trivial) (fun s _ => hQ s) hvalue

/-- A form with a text and one more field. -/
theorem Carries.ofTwo {view : A → Option (String × C)} {make : String → C → A}
    (hnames : (first :: second :: taken).Nodup) (h : FieldCarries write read absent k PC T QC)
    (hP : ∀ s c, P (make s c) → PC c) (hQ : ∀ s c, QC c → Q (make s c))
    (hvalue : ∀ a s, view a = some s → make s.1 s.2 = a := by
      intro _ _ hs
      split at hs <;> cases hs
      rfl) :
    (Variant.of tag view (((Fields.start make).required first .text (·.1)).field second (·.2)
      write read absent)).Carries taken k P T Q :=
  .of hnames (fun s => hP s.1 s.2)
    (.field h (fun _ hs => hs) (.free (.required Codec.carries_text) (.start hQ))) hvalue

/-- A form with a text, something in which no number can be lost, and one more field. -/
theorem Carries.ofThree {b : Codec B} {view : A → Option (String × B × C)}
    {make : String → B → C → A} (hnames : (first :: second :: third :: taken).Nodup)
    (hb : b.Carries k (fun _ => True) T fun _ => True)
    (h : FieldCarries write read absent k PC T QC) (hP : ∀ s b c, P (make s b c) → PC c)
    (hQ : ∀ s b c, QC c → Q (make s b c))
    (hvalue : ∀ a s, view a = some s → make s.1 s.2.1 s.2.2 = a := by
      intro _ _ hs
      split at hs <;> cases hs
      rfl) :
    (Variant.of tag view ((((Fields.start make).required first .text (·.1)).required second b
      (·.2.1)).field third (·.2.2) write read absent)).Carries taken k P T Q :=
  .of hnames (fun s => hP s.1 s.2.1 s.2.2)
    (.field h (fun _ hs => hs) (.free (.required hb) (.free (.required Codec.carries_text)
      (.start hQ)))) hvalue

end

/-- The forms of a type. Each has a tag of its own, and every value has a form. -/
structure Covers (vs : List (Variant A)) (taken : List String) (k : ℕ∞) (P : A → Prop)
    (T : Json → Prop) (Q : A → Prop) : Prop where
  tags : (vs.map (·.tag)).Nodup
  applies : ∀ a, vs.any (fun v => (v.write? a).isSome) = true
  carries : ∀ v ∈ vs, v.Carries taken k P T Q

/-- The forms of a type of which documents hold the values with a property and no others. -/
abbrev Cover (vs : List (Variant A)) (taken : List String) (k : Nat) (P : A → Prop) : Prop :=
  Covers vs taken k P Json.InRange P

/-- A form is found by its tag. -/
theorem find?_tag {vs : List (Variant A)} (h : (vs.map (·.tag)).Nodup) {v : Variant A}
    (hv : v ∈ vs) : vs.find? (fun w => w.tag == v.tag) = some v := by
  induction vs with
  | nil => cases hv
  | cons w vs ih =>
      rw [List.map_cons, List.nodup_cons] at h
      rcases List.mem_cons.1 hv with rfl | hv
      · exact List.find?_cons_of_pos (by simp)
      · have hne : w.tag ≠ v.tag := fun heq => h.1 (List.mem_map.2 ⟨v, hv, heq.symm⟩)
        rw [List.find?_cons_of_neg (by simpa using hne)]
        exact ih h.2 hv

end Variant

namespace Codec

variable {α β : Type} {vs : List (Variant β)} {taken : List String} {P Q : β → Prop}

/-- The tag that is written is that of a form of the value. -/
theorem exists_writeTagged {b : β} (h : ∃ v ∈ vs, (v.write? b).isSome = true) :
    ∃ v ∈ vs, ∃ ws, v.write? b = some ws ∧ writeTagged vs b = ("type", .text v.tag) :: ws := by
  -- The first form that applies is written, and one of them does.
  induction vs with
  | nil =>
      rcases h with ⟨v, hv, _⟩
      cases hv
  | cons w vs ih =>
      rw [writeTagged]
      cases hw : w.write? b with
      | some ws => exact ⟨w, List.mem_cons_self, ws, hw, rfl⟩
      | none =>
          have htail : ∃ v ∈ vs, (v.write? b).isSome = true := by
            rcases h with ⟨v, hv, hsome⟩
            rcases List.mem_cons.1 hv with rfl | hv
            · rw [hw] at hsome
              cases hsome
            · exact ⟨v, hv, hsome⟩
          rcases ih htail with ⟨v, hv, hrest⟩
          exact ⟨v, List.mem_cons_of_mem w hv, hrest⟩

theorem readTag_tag (h : (vs.map (·.tag)).Nodup) (src : Source) {v : Variant β} (hv : v ∈ vs) :
    readTag vs src (.text v.tag) = .ok v := by
  unfold readTag
  dsimp only
  rw [Variant.find?_tag h hv]

theorem mem_of_readTag {src : Source} {j : Json} {v : Variant β}
    (h : readTag vs src j = .ok v) : v ∈ vs := by
  unfold readTag at h
  split at h
  · split at h
    · next hfind =>
      cases h
      exact List.mem_of_find?_eq_some hfind
    · cases h
  · split at h
    · split at h
      · next hget =>
        cases h
        exact List.mem_of_getElem? hget
      · cases h
    · cases h
  · cases h

/-- A form is read behind its tag if nothing is wrong with what stands beside it. -/
theorem readTagged_eq_ok {v : Variant β} {src : Source} {ms : Numbered} {b : β}
    (htag : Numbered.read "type" none (readTag vs src) ms = .ok v) (hplain : ms.All Json.IsPlain)
    (hread : v.readMembers .kept (ms.others ["type"]) = .ok b) : readTagged vs src ms = .ok b := by
  have hboth := (Located.both_ok _ _ (v, ())).2
    ⟨htag, Numbered.check_fault (hplain.others ["type"])⟩
  unfold readTagged
  dsimp only
  rw [hboth]
  dsimp only
  rw [hread]

section

variable {k : ℕ∞} {T : Json → Prop} (h : Variant.Covers vs ("type" :: taken) k P T Q)

include h

theorem plain_writeTagged (b : β) : ∀ m ∈ writeTagged vs b, Json.Plain k m.2 := by
  rcases exists_writeTagged (List.any_eq_true.1 (h.applies b)) with ⟨v, hv, ws, hws, hwrite⟩
  rw [hwrite]
  intro m hm
  rcases List.mem_cons.1 hm with rfl | hm
  · exact .text v.tag
  · exact (h.carries v hv).plain b ws hws m hm

/-- Nothing is written under the names around a form. -/
theorem names_writeTagged (htype : "type" ∉ taken) (b : β) :
    ∀ m ∈ writeTagged vs b, m.1 ∉ taken := by
  rcases exists_writeTagged (List.any_eq_true.1 (h.applies b)) with ⟨v, hv, ws, hws, hwrite⟩
  rw [hwrite]
  intro m hm
  rcases List.mem_cons.1 hm with rfl | hm
  · exact htype
  · exact fun hmem => (h.carries v hv).names b ws hws m hm (List.mem_cons_of_mem "type" hmem)

/-- A form is found again by its tag. -/
theorem readTagged_write (htype : "type" ∉ taken) (src : Source) {b : β} {ms : Numbered}
    (hb : P b) (hplain : ms.All Json.IsPlain)
    (hms : ∀ n, n ∉ taken → Numbered.Spells ms (Json.heldMembers (writeTagged vs b)) n) :
    readTagged vs src ms = .ok b := by
  rcases exists_writeTagged (List.any_eq_true.1 (h.applies b)) with ⟨v, hv, ws, hws, hwrite⟩
  have hform := h.carries v hv
  have hheld : Json.heldMembers (writeTagged vs b) =
      ("type", .text v.tag) :: Json.heldMembers ws := by
    rw [hwrite]
    rfl
  rw [hheld] at hms
  -- No form has a field called `type`, so the tag is the only member of that name.
  have htag : Numbered.read "type" none (readTag vs src) ms = .ok v := by
    refine Numbered.read_of_spells (hms "type" htype) ?_ (readTag_tag h.tags src hv)
    have hnil : (Json.heldMembers ws).filter (·.1 == "type") = [] := by
      refine Numbered.filter_heldMembers_eq_nil fun m hm heq => ?_
      exact hform.names b ws hws m hm (heq ▸ List.mem_cons_self)
    rw [List.filter_cons_of_pos (by simp), hnil]
  -- Without the tag, what is left under names that are not taken are the fields of the form.
  have hread : v.readMembers .kept (ms.others ["type"]) = .ok b := by
    refine hform.readMembers_write .kept b ws _ hb hws fun n hn => ?_
    have hn' : n ≠ "type" ∧ n ∉ taken := by
      constructor
      · intro heq
        exact hn (heq ▸ List.mem_cons_self)
      · exact fun hmem => hn (List.mem_cons_of_mem "type" hmem)
    have hspells := hms n hn'.2
    rw [Numbered.Spells, List.filter_cons_of_neg (by simpa using hn'.1.symm)] at hspells
    exact Numbered.spells_others (by simpa using hn'.1) hspells
  exact readTagged_eq_ok htag hplain hread

theorem of_readTagged {src : Source} {ms : Numbered} {b : β} (hms : ms.All T)
    (hread : readTagged vs src ms = .ok b) : Q b := by
  unfold readTagged at hread
  dsimp only at hread
  split at hread
  · cases hread
  · next v u hboth =>
    rw [Located.both_ok] at hboth
    have hv : v ∈ vs := by
      rcases Numbered.of_read hboth.1 with hnone | ⟨m, _, htag⟩
      · cases hnone
      · exact mem_of_readTag htag
    split at hread
    · next c hc =>
      cases hread
      exact (h.carries v hv).of_readMembers .kept _ _ (hms.others ["type"]) hc
    · cases hread

end

/-- A type with several forms comes back if its forms do. -/
theorem carries_tagged {k : ℕ∞} {T T' : Json → Prop} (hT : Json.Descends T T')
    (h : Variant.Covers vs ["type"] k P T' Q) : (tagged vs).Carries (k + 1) P T Q := by
  refine ⟨fun b => .object (plain_writeTagged h b), ?_, ?_⟩
  · intro src b hb
    change readTagged vs src (Numbered.ofMembers (Json.heldMembers (writeTagged vs b))) = _
    exact readTagged_write h List.not_mem_nil src hb
      (Numbered.all_isPlain_held (plain_writeTagged h b)) fun n _ => Numbered.spells_ofMembers _ n
  · intro src j b hj hread
    cases j with
    | object ms => exact of_readTagged h (Numbered.all_ofMembers (hT.members ms hj)) hread
    | list js =>
        cases js with
        | nil => cases hread
        | cons j js =>
            unfold tagged at hread
            dsimp only at hread
            split at hread
            · cases hread
            · cases hread
            next v htag hfault =>
            split at hread
            · next c hitems =>
              cases hread
              refine (h.carries v (mem_of_readTag htag)).of_readItems .kept js _ _ ?_ hitems
              exact fun i hi => hT.items _ hj i (List.mem_cons_of_mem j hi)
            · cases hread
            · cases hread
    | _ => cases hread

theorem holds_tagged {k : Nat} (h : Variant.Cover vs ["type"] k P) :
    (tagged vs).Holds (k + 1) P :=
  carries_tagged Json.descends_inRange h

/-- So does a record with such a part among its fields. -/
theorem carries_flattened {k : ℕ∞} {T T' : Json → Prop} {r : Fields α (β → α)} {get : α → β}
    {PA QA : α → Prop} (hnodup : r.names.Nodup) (htype : "type" ∉ r.names)
    (hvalue : ∀ a, r.value a (get a) = a) (hT : Json.Descends T T')
    (hr : r.Carries k PA T' fun f => ∀ b, Q b → QA (f b)) (hget : ∀ a, PA a → P (get a))
    (h : Variant.Covers vs ("type" :: r.names) k P T' Q) :
    (flattened r vs get).Carries (k + 1) PA T QA := by
  have hplain : ∀ a, ∀ m ∈ r.write a ++ writeTagged vs (get a), Json.Plain k m.2 := by
    intro a m hm
    rcases List.mem_append.1 hm with hm | hm
    · exact hr.plain a m hm
    · exact plain_writeTagged h (get a) m hm
  refine ⟨fun a => .object (hplain a), ?_, ?_⟩
  · intro src a ha
    -- the members of the form and those around it do not meet
    have houter : ∀ n ∈ r.names, (Json.heldMembers (r.write a ++ writeTagged vs (get a))).filter
        (·.1 == n) = (Json.heldMembers (r.write a)).filter (·.1 == n) := by
      intro n hn
      have hnil : (Json.heldMembers (writeTagged vs (get a))).filter (·.1 == n) = [] := by
        refine Numbered.filter_heldMembers_eq_nil fun m hm heq => ?_
        exact names_writeTagged h htype (get a) m hm (heq ▸ hn)
      rw [Json.heldMembers_append, List.filter_append, hnil, List.append_nil]
    have hinner : ∀ n, n ∉ r.names → (Json.heldMembers (r.write a ++ writeTagged vs (get a))).filter
        (·.1 == n) = (Json.heldMembers (writeTagged vs (get a))).filter (·.1 == n) := by
      intro n hn
      have hnil : (Json.heldMembers (r.write a)).filter (·.1 == n) = [] := by
        refine Numbered.filter_heldMembers_eq_nil fun m hm heq => ?_
        exact hn (heq ▸ hr.names a m hm)
      rw [Json.heldMembers_append, List.filter_append, hnil, List.nil_append]
    change (flattened r vs get).read src
      (.object (Json.heldMembers (r.write a ++ writeTagged vs (get a)))) = _
    have hspells := Numbered.spells_ofMembers
      (Json.heldMembers (r.write a ++ writeTagged vs (get a)))
    have hnumbered := Numbered.all_isPlain_held (hplain a)
    generalize Json.heldMembers (r.write a ++ writeTagged vs (get a)) = held at *
    have hfields : r.readMembers src (Numbered.ofMembers held) = .ok (r.value a) := by
      refine hr.readMembers_write src a _ ha hnodup fun n hn => ?_
      rw [Numbered.Spells, ← houter n hn]
      exact hspells n
    have hform : readTagged vs .kept ((Numbered.ofMembers held).others r.names) =
        .ok (get a) := by
      refine readTagged_write h htype .kept (hget a ha) (hnumbered.others r.names) fun n hn => ?_
      rw [Numbered.Spells, ← hinner n hn]
      exact Numbered.spells_others hn (hspells n)
    have hboth := (Located.both_ok _ _ (r.value a, ())).2
      ⟨hfields, Numbered.check_fault (hnumbered.others r.names)⟩
    unfold flattened
    dsimp only
    rw [hboth]
    dsimp only
    rw [hform]
    exact congrArg Except.ok (hvalue a)
  · intro src j a hj hread
    cases j with
    | object ms =>
        unfold flattened at hread
        dsimp only at hread
        split at hread
        · cases hread
        next f u hboth =>
        rw [Located.both_ok] at hboth
        have hnumbered := Numbered.all_ofMembers (hT.members ms hj)
        split at hread
        · next b hform =>
          cases hread
          exact hr.of_readMembers src _ f hnumbered hboth.1 b
            (of_readTagged h (hnumbered.others r.names) hform)
        · cases hread
    | _ => cases hread

theorem holds_flattened {k : Nat} {r : Fields α (β → α)} {get : α → β} {PA : α → Prop}
    (hnodup : r.names.Nodup) (htype : "type" ∉ r.names) (hvalue : ∀ a, r.value a (get a) = a)
    (hr : r.Holds k PA fun f => ∀ b, P b → PA (f b)) (hget : ∀ a, PA a → P (get a))
    (h : Variant.Cover vs ("type" :: r.names) k P) : (flattened r vs get).Holds (k + 1) PA :=
  carries_flattened hnodup htype hvalue Json.descends_inRange hr hget h

end Codec

end Playfield
