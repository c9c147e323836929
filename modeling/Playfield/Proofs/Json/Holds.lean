import Mathlib
import Playfield.Json.Codec
import Playfield.Proofs.Json.InRange
import Playfield.Proofs.Json.Layout
import Playfield.Proofs.Scalar.Lawful

/-!
# What Documents Hold

Which values come back from a document, codec by codec.

A document writes `null` for a number that is not finite, and what is made of a
`null` when it is read depends on where it stands. So a value that has such a
number in it may be refused or come back as another value. A law of a codec says
which values come back as they were, and what can be said of a value that has been
read, whatever it has been read from (`Codec.Carries`). What it has been read from
is some tree of which something is known, and each part of the value has been read
from a part of the tree, of which something else may be known (`Json.Descends`).

Mostly the two sides meet. Trees whose numbers are in range give values with just the
property that makes a value come back, so documents hold exactly the values with the
property (`Codec.Holds`). Each way to make a codec of others has a law that makes the
property of the whole out of those of the parts.

## Main definitions

* `Json.Descends`: What is known of a tree says something about its parts.
* `Codec.Carries`: What comes back, and what is read.
* `Codec.Holds`: Documents hold the values with a property and no others.

## Theorems

* `Codec.parse_eq_ok_iff`, `Codec.parseTree_eq_ok_iff`: Texts and trees from outside.
* `Codec.Holds.parse_write_iff`: What comes back as it was has the property.
* `Codec.holds_number`: Numbers come back if they are finite.
* `Codec.holds_named`: Names come back if the table knows them.
* `Codec.carries_list`, `Codec.carries_dictionary`: Lists and dictionaries.
-/

namespace Playfield

namespace Json

/-- What is known of a tree says something about its parts. -/
structure Descends (T T' : Json → Prop) : Prop where
  items : ∀ js, T (.list js) → ∀ j ∈ js, T' j
  members : ∀ ms, T (.object ms) → ∀ m ∈ ms, T' m.2

theorem descends_inRange : Descends InRange InRange := by
  constructor
  · intro js hjs
    cases hjs with
    | list h => exact h
  · intro ms hms
    cases hms with
    | object h => exact h

end Json

namespace Codec

variable {α : Type}

/-- The values with the property `P` come back, and a value that is read from a tree of
    which `T` is known has the property `Q`. What is written is nested at most so deep. -/
structure Carries (c : Codec α) (k : ℕ∞) (P : α → Prop) (T : Json → Prop) (Q : α → Prop) :
    Prop where
  plain : ∀ a, Json.Plain k (c.write a)
  read_write : ∀ src a, P a → c.read src (c.write a).held = .ok a
  of_read : ∀ src j a, T j → c.read src j = .ok a → Q a

/-- Documents hold the values with a property and no others. -/
abbrev Holds (c : Codec α) (k : Nat) (P : α → Prop) : Prop := c.Carries k P Json.InRange P

theorem Carries.mono {c : Codec α} {k l : ℕ∞} {P P' Q Q' : α → Prop} {T T' : Json → Prop}
    (h : c.Carries k P T Q) (hk : k ≤ l) (hP : ∀ a, P' a → P a) (hT : ∀ j, T' j → T j)
    (hQ : ∀ a, Q a → Q' a) : c.Carries l P' T' Q' :=
  ⟨fun a => (h.plain a).mono hk, fun src a ha => h.read_write src a (hP a ha),
    fun src j a hj hread => hQ a (h.of_read src j a (hT j hj) hread)⟩

/-- A law with a bound is one without. -/
theorem Carries.unbounded {c : Codec α} {k : ℕ∞} {P Q : α → Prop} {T : Json → Prop}
    (h : c.Carries k P T Q) : c.Carries ⊤ P T Q :=
  h.mono le_top (fun _ ha => ha) (fun _ hj => hj) fun _ ha => ha

/-- Whoever knows more of a tree than that it is in range may use what is known of those. -/
theorem Holds.within {c : Codec α} {k : Nat} {P : α → Prop} {T : Json → Prop} (h : c.Holds k P)
    (hT : ∀ j, T j → j.InRange) : c.Carries ⊤ P T P :=
  h.mono le_top (fun _ ha => ha) hT fun _ ha => ha

theorem Holds.depth_write_le {c : Codec α} {k : Nat} {P : α → Prop} (h : c.Holds k P) (a : α) :
    (c.write a).depth ≤ k := by
  exact_mod_cast (h.plain a).depth_le

/-- What is read of a text has been read of its tree. -/
theorem read_of_parse {c : Codec α} {text : String} {a : α} (h : c.parse text = .ok a) :
    c.read .text (Json.read text).root = .ok a := by
  unfold parse at h
  dsimp only at h
  split at h
  · cases h
  · next hread =>
    split at h
    · cases h
    · cases h
      exact hread

/-- What is read of a text is what is read of its tree if nothing is left over. -/
theorem parse_eq_ok_iff {c : Codec α} {text : String} {j : Json}
    (hread : Json.read text = ⟨j, false⟩) (a : α) :
    c.parse text = .ok a ↔ c.read .text j = .ok a := by
  unfold parse
  rw [hread]
  dsimp only
  cases c.read .text j with
  | error e => exact ⟨nofun, nofun⟩
  | ok b =>
      dsimp only
      rw [if_neg Bool.false_ne_true, Except.ok.injEq, Except.ok.injEq]

theorem parseTree_eq_ok_iff {c : Codec α} {j : Json} (a : α) :
    c.parseTree j = .ok a ↔ c.read .tree j = .ok a := by
  unfold parseTree
  cases c.read .tree j with
  | error e => exact ⟨nofun, nofun⟩
  | ok b => rw [Except.ok.injEq, Except.ok.injEq]

/-- What is read of a written text is what is read of the tree that it holds. -/
theorem parse_write {c : Codec α} {k : Nat} {P : α → Prop} (h : c.Holds k P)
    (hk : k ≤ Json.depthLimit) (a b : α) :
    c.parse (c.write a).compact = .ok b ↔ c.read .text (c.write a).held = .ok b :=
  parse_eq_ok_iff (Json.read_compact (h.plain a).isPlain ((h.depth_write_le a).trans hk)) b

/-- Whatever comes back from a written document has the property. -/
theorem Holds.of_parse_write {c : Codec α} {k : Nat} {P : α → Prop} (h : c.Holds k P)
    (hk : k ≤ Json.depthLimit) {a b : α} (hb : c.parse (c.write a).compact = .ok b) : P b :=
  h.of_read .text _ b (Json.isPlain_held (h.plain a).isPlain).inRange
    ((parse_write h hk a b).1 hb)

/-- A value comes back from a document as it was exactly if it has the property. -/
theorem Holds.parse_write_iff {c : Codec α} {k : Nat} {P : α → Prop} (h : c.Holds k P)
    (hk : k ≤ Json.depthLimit) (a : α) : c.parse (c.write a).compact = .ok a ↔ P a := by
  constructor
  · exact h.of_parse_write hk
  · intro ha
    exact (parse_write h hk a a).2 (h.read_write .text a ha)

theorem carries_text {k : ℕ∞} {T : Json → Prop} :
    text.Carries k (fun _ => True) T fun _ => True :=
  ⟨fun s => .text s, fun _ _ _ => rfl, fun _ _ _ _ _ => trivial⟩

theorem holds_text (k : Nat) : text.Holds k fun _ => True := carries_text

theorem carries_bool {k : ℕ∞} {T : Json → Prop} :
    bool.Carries k (fun _ => True) T fun _ => True :=
  ⟨fun b => .bool b, fun _ _ _ => rfl, fun _ _ _ _ _ => trivial⟩

theorem holds_bool (k : Nat) : bool.Holds k fun _ => True := carries_bool

theorem holds_count (k : Nat) : count.Holds k fun _ => True := by
  refine ⟨?_, ?_, fun _ _ _ _ _ => trivial⟩
  · intro n
    have hn : n.toNat < 2 ^ 64 := n.toBitVec.isLt
    refine .int ?_
    rw [Decimal.isWordSized, Bool.and_eq_true, decide_eq_true_eq, decide_eq_true_eq, Nat.pow_eq,
      Nat.pow_eq]
    omega
  · intro src n _
    change (if 0 ≤ (n.toNat : Int) then Except.ok (UInt64.ofNat (n.toNat : Int).toNat)
      else .error .mismatch) = _
    rw [if_pos (Int.natCast_nonneg _), Int.toNat_natCast, UInt64.ofNat_toNat]

section Numbers

variable {R : Type} [Scalar R] [Numeral R] [Numeral.Lawful R]

theorem plain_ofNumber (k : ℕ∞) (x : R) : Json.Plain k (ofNumber x) := by
  unfold ofNumber
  split
  · next d hd =>
    exact .real (Numeral.Lawful.isNormal_of_toDecimal? hd) (Numeral.isOutOfRange_of_toDecimal? hd)
  · exact .nonFinite _

/-- A finite number has a decimal, and the decimal is what a document holds. -/
theorem exists_held_ofNumber {x : R} (hx : Scalar.isFinite x = true) :
    ∃ d, (ofNumber x).held = .real d ∧ (Numeral.ofDecimal d : R) = x := by
  unfold ofNumber
  split
  · next d hd => exact ⟨d, rfl, Numeral.Lawful.ofDecimal_of_toDecimal? hd⟩
  · next hd =>
    rw [Numeral.toDecimal?_eq_none_iff, hx] at hd
    cases hd

theorem isFinite_ofReal {d : Decimal} (h : d.isOutOfRange = false) :
    Scalar.isFinite (Numeral.ofDecimal d : R) = true := by
  rw [Numeral.Lawful.isFinite_ofDecimal, h]
  rfl

/-- A number comes back if it is finite. -/
theorem holds_number (k : Nat) :
    (number : Codec R).Holds k fun x => Scalar.isFinite x = true := by
  refine ⟨plain_ofNumber k, ?_, ?_⟩
  · intro src x hx
    rcases exists_held_ofNumber hx with ⟨d, hd, hread⟩
    change number.read src (ofNumber x).held = _
    rw [hd]
    exact congrArg Except.ok hread
  · intro src j x hj hread
    cases hj with
    | int h =>
        cases hread
        exact Numeral.isFinite_ofInt h
    | real h =>
        cases hread
        exact isFinite_ofReal h
    | _ => cases hread

end Numbers

/-- Names come back if the table knows them all. -/
theorem holds_named (k : Nat) {table : List (String × α)} {name : α → String}
    (h : ∀ a, find? table (name a) = .ok a) : (named table name).Holds k fun _ => True :=
  ⟨fun a => .text (name a), fun _ a _ => h a, fun _ _ _ _ _ => trivial⟩

section Lists

variable {c : Codec α} {k : ℕ∞} {P Q : α → Prop} {T T' : Json → Prop}

theorem readAll_write (h : c.Carries k P T Q) (src : Source) {as : List α} (has : ∀ a ∈ as, P a) :
    readAll (c.read src) ((as.map c.write).map Json.held) = .ok as := by
  induction as with
  | nil => rfl
  | cons a as ih =>
      have ha : c.read src (c.write a).held = .ok a := h.read_write src a (has a List.mem_cons_self)
      rw [List.map_cons, List.map_cons, readAll, ha]
      dsimp only
      rw [ih fun b hb => has b (List.mem_cons_of_mem a hb)]

theorem of_readAll {read : Json → Except ReadError α} {js : List Json} {as : List α}
    (h : readAll read js = .ok as) : ∀ a ∈ as, ∃ j ∈ js, read j = .ok a := by
  -- Reading stops at the first item that is not read, so all of them have been.
  induction js generalizing as with
  | nil =>
      cases h
      intro a ha
      cases ha
  | cons j js ih =>
      rw [readAll] at h
      split at h
      · cases h
      next b hb =>
      split at h
      · next bs hbs =>
        cases h
        intro a ha
        rcases List.mem_cons.1 ha with rfl | ha
        · exact ⟨j, List.mem_cons_self, hb⟩
        · rcases ih hbs a ha with ⟨i, hi, hread⟩
          exact ⟨i, List.mem_cons_of_mem j hi, hread⟩
      · cases h

/-- A list comes back if all of it does, and what is read has been read item by item. -/
theorem carries_list (hT : Json.Descends T T') (h : c.Carries k P T' Q) :
    c.list.Carries (k + 1) (fun as => ∀ a ∈ as, P a) T fun as => ∀ a ∈ as, Q a := by
  refine ⟨?_, ?_, ?_⟩
  · intro as
    refine .list fun j hj => ?_
    rcases List.mem_map.1 hj with ⟨a, _, rfl⟩
    exact h.plain a
  · intro src as has
    change readAll (c.read src) (Json.heldItems (as.map c.write)) = _
    rw [Json.heldItems_eq_map]
    exact readAll_write h src has
  · intro src j as hj hread a ha
    cases j with
    | list js =>
        rcases of_readAll hread a ha with ⟨i, hi, hread⟩
        exact h.of_read src i a (hT.items js hj i hi) hread
    | _ => cases hread

theorem holds_list {k : Nat} (h : c.Holds k P) : c.list.Holds (k + 1) fun as => ∀ a ∈ as, P a :=
  carries_list Json.descends_inRange h

theorem readEntries_write (h : c.Carries k P T Q) (src : Source) {es : List (String × α)}
    (hes : ∀ e ∈ es, P e.2) :
    readEntries (c.read src) ((es.map fun e => (e.1, c.write e.2)).map fun m => (m.1, m.2.held)) =
      .ok es := by
  induction es with
  | nil => rfl
  | cons e es ih =>
      have he : c.read src (c.write e.2).held = .ok e.2 :=
        h.read_write src e.2 (hes e List.mem_cons_self)
      rw [List.map_cons, List.map_cons, readEntries, he]
      dsimp only
      rw [ih fun b hb => hes b (List.mem_cons_of_mem e hb)]

theorem of_readEntries {read : Json → Except ReadError α} {ms : Json.Members}
    {es : List (String × α)} (h : readEntries read ms = .ok es) :
    ∀ e ∈ es, ∃ m ∈ ms, read m.2 = .ok e.2 := by
  induction ms generalizing es with
  | nil =>
      cases h
      intro e he
      cases he
  | cons m ms ih =>
      rw [readEntries] at h
      split at h
      · cases h
      next b hb =>
      split at h
      · next bs hbs =>
        cases h
        intro e he
        rcases List.mem_cons.1 he with rfl | he
        · exact ⟨m, List.mem_cons_self, hb⟩
        · rcases ih hbs e he with ⟨n, hn, hread⟩
          exact ⟨n, List.mem_cons_of_mem m hn, hread⟩
      · cases h

/-- A dictionary comes back if all its values do. -/
theorem carries_dictionary (hT : Json.Descends T T') (h : c.Carries k P T' Q) :
    c.dictionary.Carries (k + 1) (fun d => ∀ e ∈ d.entries, P e.2) T
      fun d => ∀ e ∈ d.entries, Q e.2 := by
  refine ⟨?_, ?_, ?_⟩
  · intro d
    refine .object fun m hm => ?_
    rcases List.mem_map.1 hm with ⟨e, _, rfl⟩
    exact h.plain e.2
  · intro src d hd
    have hread : readEntries (c.read src)
        (Json.heldMembers (d.entries.map fun e => (e.1, c.write e.2))) = .ok d.entries := by
      rw [Json.heldMembers_eq_map]
      exact readEntries_write h src hd
    change c.dictionary.read src
      (.object (Json.heldMembers (d.entries.map fun e => (e.1, c.write e.2)))) = _
    unfold dictionary
    dsimp only
    rw [hread]
    exact congrArg Except.ok d.ofList_entries
  · intro src j d hj hread e he
    cases j with
    | object ms =>
        unfold dictionary at hread
        dsimp only at hread
        split at hread
        · next es hes =>
          cases hread
          rcases of_readEntries hes e (Dictionary.mem_of_mem_ofList he) with ⟨m, hm, hread⟩
          exact h.of_read src m.2 e.2 (hT.members ms hj m hm) hread
        · cases hread
    | _ => cases hread

theorem holds_dictionary {k : Nat} (h : c.Holds k P) :
    c.dictionary.Holds (k + 1) fun d => ∀ e ∈ d.entries, P e.2 :=
  carries_dictionary Json.descends_inRange h

end Lists

end Codec

end Playfield
