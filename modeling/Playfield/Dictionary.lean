/-!
# Dictionaries

Maps from names to values, in the order of the names.

Wherever a name stands for something (variables, attachment points, timers,
save slots) the order in which a program meets the names is the order of the
names themselves, never the order of arrival: it decides how a document is
written and in which order playbacks are stopped. So the order is part of the
type. A dictionary is a list of entries with strictly ascending names, and that
makes it canonical: two dictionaries that answer every look-up alike are equal.

## Main definitions

* `Dictionary`: Entries in ascending order of their names.
* `Dictionary.get?`, `insert`, `erase`: Reading and changing one entry.
* `Dictionary.ofList`: The last of several entries with one name counts.
* `Dictionary.mapValues`, `filterValues`: Changing all entries.
* `Names`: A set of names.

## Theorems

* `Dictionary.get?_insert_self`, `get?_insert_ne`: An insertion changes exactly
  one look-up.
* `Dictionary.get?_erase_self`, `get?_erase_ne`: So does a removal.
* `Dictionary.mem_keys_iff`: The names are those behind which there is a value.
* `Dictionary.get?_mapValues`, `get?_filterValues`: A look-up goes through a change
  and through a selection of values.
* `Dictionary.ext_get?`: Look-ups determine the dictionary.
* `Dictionary.keys_congr`: A set of names determines their order.
* `Dictionary.ofList_entries`: So do its own entries.
* `Names.mem_keys_foldl_add`: Names that are added one after the other.
-/

namespace Playfield

/-- A map from names to values, in ascending order of the names. -/
structure Dictionary (α : Type) where
  entries : List (String × α)
  sorted : entries.Pairwise (fun a b => a.1 < b.1)
  deriving DecidableEq

namespace Dictionary

variable {α β : Type}

/-- No entry. -/
def empty : Dictionary α := ⟨[], List.Pairwise.nil⟩

instance : Inhabited (Dictionary α) := ⟨empty⟩

/-- The value behind a name in a list of entries. -/
def lookup (k : String) : List (String × α) → Option α
  | [] => none
  | (k', v) :: es => if k' = k then some v else lookup k es

/-- Puts an entry at its place, replacing one of the same name. -/
def insertEntry (k : String) (v : α) : List (String × α) → List (String × α)
  | [] => [(k, v)]
  | (k', v') :: es =>
    if k < k' then (k, v) :: (k', v') :: es
    else if k' = k then (k, v) :: es
    else (k', v') :: insertEntry k v es

theorem mem_insertEntry {k : String} {v : α} {e : String × α} {es : List (String × α)}
    (h : e ∈ insertEntry k v es) : e = (k, v) ∨ e ∈ es := by
  induction es with
  | nil => simpa [insertEntry] using h
  | cons a es ih =>
    simp only [insertEntry] at h
    split at h
    · simpa using h
    · split at h
      · rcases List.mem_cons.1 h with h | h
        · exact Or.inl h
        · exact Or.inr (List.mem_cons_of_mem _ h)
      · rcases List.mem_cons.1 h with h | h
        · exact Or.inr (h ▸ List.mem_cons_self)
        · exact (ih h).imp id (List.mem_cons_of_mem _)

theorem insertEntry_sorted (k : String) (v : α) {es : List (String × α)}
    (h : es.Pairwise (fun a b => a.1 < b.1)) :
    (insertEntry k v es).Pairwise (fun a b => a.1 < b.1) := by
  induction es with
  | nil => simp [insertEntry]
  | cons a es ih =>
    obtain ⟨k', v'⟩ := a
    rw [List.pairwise_cons] at h
    simp only [insertEntry]
    split
    · next hlt =>
      refine List.pairwise_cons.2 ⟨fun b hb => ?_, List.pairwise_cons.2 h⟩
      rcases List.mem_cons.1 hb with rfl | hb
      · exact hlt
      · exact String.lt_trans hlt (h.1 b hb)
    · next hlt =>
      split
      · next heq => exact List.pairwise_cons.2 ⟨fun b hb => heq ▸ h.1 b hb, h.2⟩
      · next hne =>
        refine List.pairwise_cons.2 ⟨fun b hb => ?_, ih h.2⟩
        rcases mem_insertEntry hb with rfl | hb
        · -- neither below nor equal, so above
          by_cases hgt : k' < k
          · exact hgt
          · exact absurd (String.le_antisymm (String.not_lt.1 hlt) (String.not_lt.1 hgt)) hne
        · exact h.1 b hb

/-- The value behind a name. -/
def get? (d : Dictionary α) (k : String) : Option α := lookup k d.entries

/-- Sets the value behind a name. -/
def insert (d : Dictionary α) (k : String) (v : α) : Dictionary α :=
  ⟨insertEntry k v d.entries, insertEntry_sorted k v d.sorted⟩

/-- Forgets a name. -/
def erase (d : Dictionary α) (k : String) : Dictionary α :=
  ⟨d.entries.filter (fun e => decide (e.1 ≠ k)), d.sorted.filter _⟩

/-- Whether there is a value behind a name. -/
def contains (d : Dictionary α) (k : String) : Bool := (d.get? k).isSome

/-- The names, in order. -/
def keys (d : Dictionary α) : List String := d.entries.map (·.1)

/-- The number of entries. -/
def size (d : Dictionary α) : Nat := d.entries.length

/-- The dictionary of a list of entries, of which the last of a name counts. -/
def ofList (es : List (String × α)) : Dictionary α :=
  es.foldl (fun d e => d.insert e.1 e.2) empty

/-- The same names with changed values. -/
def mapValues (f : α → β) (d : Dictionary α) : Dictionary β :=
  ⟨d.entries.map (fun e => (e.1, f e.2)), by
    rw [List.pairwise_map]
    exact d.sorted⟩

/-- The entries whose value passes a test. -/
def filterValues (p : α → Bool) (d : Dictionary α) : Dictionary α :=
  ⟨d.entries.filter (fun e => p e.2), d.sorted.filter _⟩

theorem lookup_insertEntry_self (k : String) (v : α) (es : List (String × α)) :
    lookup k (insertEntry k v es) = some v := by
  induction es with
  | nil => simp [insertEntry, lookup]
  | cons a es ih =>
    simp only [insertEntry]
    split
    · simp [lookup]
    · split
      · simp [lookup]
      · next hne => simp [lookup, hne, ih]

theorem lookup_insertEntry_ne {k k' : String} (h : k ≠ k') (v : α) (es : List (String × α)) :
    lookup k' (insertEntry k v es) = lookup k' es := by
  induction es with
  | nil => simp [insertEntry, lookup, h]
  | cons a es ih =>
    obtain ⟨k'', v''⟩ := a
    simp only [insertEntry]
    split
    · simp [lookup, h]
    · split
      · next heq => simp [lookup, h, heq]
      · simp only [lookup, ih]

theorem get?_insert_self (d : Dictionary α) (k : String) (v : α) :
    (d.insert k v).get? k = some v :=
  lookup_insertEntry_self k v d.entries

theorem get?_insert_ne (d : Dictionary α) {k k' : String} (h : k ≠ k') (v : α) :
    (d.insert k v).get? k' = d.get? k' :=
  lookup_insertEntry_ne h v d.entries

theorem lookup_filter_self (k : String) (es : List (String × α)) :
    lookup k (es.filter (fun e => decide (e.1 ≠ k))) = none := by
  induction es with
  | nil => rfl
  | cons a es ih =>
    by_cases h : a.1 = k
    · simpa [h] using ih
    · simpa [h, lookup] using ih

theorem lookup_filter_ne {k k' : String} (h : k ≠ k') (es : List (String × α)) :
    lookup k' (es.filter (fun e => decide (e.1 ≠ k))) = lookup k' es := by
  induction es with
  | nil => rfl
  | cons a es ih =>
    by_cases ha : a.1 = k
    · have hk : a.1 ≠ k' := fun e => h (ha.symm.trans e)
      simpa [ha, lookup, hk, h] using ih
    · simp only [ne_eq, ha, not_false_eq_true, decide_true, List.filter_cons_of_pos, lookup]
      simp only [ne_eq] at ih
      rw [ih]

theorem get?_erase_self (d : Dictionary α) (k : String) : (d.erase k).get? k = none :=
  lookup_filter_self k d.entries

theorem get?_erase_ne (d : Dictionary α) {k k' : String} (h : k ≠ k') :
    (d.erase k).get? k' = d.get? k' :=
  lookup_filter_ne h d.entries

theorem get?_insert (d : Dictionary α) (k k' : String) (v : α) :
    (d.insert k v).get? k' = if k = k' then some v else d.get? k' := by
  by_cases h : k = k'
  · rw [if_pos h, h, get?_insert_self]
  · rw [if_neg h, get?_insert_ne d h]

theorem get?_erase (d : Dictionary α) (k k' : String) :
    (d.erase k).get? k' = if k = k' then none else d.get? k' := by
  by_cases h : k = k'
  · rw [if_pos h, h, get?_erase_self]
  · rw [if_neg h, get?_erase_ne d h]

theorem lookup_isSome_iff {k : String} {es : List (String × α)} :
    (lookup k es).isSome ↔ k ∈ es.map (·.1) := by
  induction es with
  | nil => simp [lookup]
  | cons a es ih =>
    by_cases h : a.1 = k
    · simp [lookup, h]
    · simp only [lookup, if_neg h, ih, List.map_cons, List.mem_cons, Ne.symm h, false_or]

theorem mem_keys_iff {d : Dictionary α} {k : String} : k ∈ d.keys ↔ (d.get? k).isSome :=
  lookup_isSome_iff.symm

theorem get?_mapValues (f : α → β) (d : Dictionary α) (k : String) :
    (d.mapValues f).get? k = (d.get? k).map f := by
  simp only [get?, mapValues]
  induction d.entries with
  | nil => rfl
  | cons a es ih =>
    by_cases h : a.1 = k
    · simp [lookup, h]
    · simpa [lookup, h] using ih

theorem lookup_eq_none_of_lt {k : String} {es : List (String × α)}
    (h : ∀ e ∈ es, k < e.1) : lookup k es = none := by
  induction es with
  | nil => rfl
  | cons a es ih =>
    have ha : a.1 ≠ k := fun e => String.lt_irrefl k (e ▸ h a List.mem_cons_self)
    simpa [lookup, ha] using ih fun e he => h e (List.mem_cons_of_mem _ he)

theorem lookup_filter_values (p : α → Bool) (k : String) {es : List (String × α)}
    (h : es.Pairwise (fun a b => a.1 < b.1)) :
    lookup k (es.filter (fun e => p e.2)) = (lookup k es).filter p := by
  induction es with
  | nil => rfl
  | cons a es ih =>
    rw [List.pairwise_cons] at h
    by_cases hk : a.1 = k
    · -- no later entry has this name, whether the first one stays or not
      have hnone : lookup k es = none := lookup_eq_none_of_lt fun e he => hk ▸ h.1 e he
      by_cases hp : p a.2 = true
      · simp [lookup, hk, hp, Option.filter]
      · simp [lookup, hk, hp, ih h.2, hnone, Option.filter]
    · by_cases hp : p a.2 = true
      · simp [lookup, hk, hp, ih h.2]
      · simp [lookup, hk, hp, ih h.2]

theorem get?_filterValues (p : α → Bool) (d : Dictionary α) (k : String) :
    (d.filterValues p).get? k = (d.get? k).filter p :=
  lookup_filter_values p k d.sorted

theorem entries_eq_of_lookup {es fs : List (String × α)}
    (he : es.Pairwise (fun a b => a.1 < b.1)) (hf : fs.Pairwise (fun a b => a.1 < b.1))
    (h : ∀ k, lookup k es = lookup k fs) : es = fs := by
  induction es generalizing fs with
  | nil =>
    cases fs with
    | nil => rfl
    | cons b fs => simpa [lookup] using h b.1
  | cons a es ih =>
    rw [List.pairwise_cons] at he
    cases fs with
    | nil => simpa [lookup] using h a.1
    | cons b fs =>
      rw [List.pairwise_cons] at hf
      -- the least names agree: a smaller one would be missing on the other side
      have hkey : a.1 = b.1 := by
        by_cases hlt : a.1 < b.1
        · have hnone : lookup a.1 (b :: fs) = none := by
            refine lookup_eq_none_of_lt fun e hm => ?_
            rcases List.mem_cons.1 hm with rfl | hm
            · exact hlt
            · exact String.lt_trans hlt (hf.1 e hm)
          exact absurd ((h a.1).trans hnone) (by simp [lookup])
        · by_cases hgt : b.1 < a.1
          · have hnone : lookup b.1 (a :: es) = none := by
              refine lookup_eq_none_of_lt fun e hm => ?_
              rcases List.mem_cons.1 hm with rfl | hm
              · exact hgt
              · exact String.lt_trans hgt (he.1 e hm)
            exact absurd ((h b.1).symm.trans hnone) (by simp [lookup])
          · exact String.le_antisymm (String.not_lt.1 hgt) (String.not_lt.1 hlt)
      have hval : a.2 = b.2 := by
        have := h a.1
        simpa [lookup, hkey] using this
      have htail : es = fs := by
        refine ih he.2 hf.2 fun k => ?_
        by_cases hk : a.1 = k
        · rw [← hk, lookup_eq_none_of_lt he.1, hkey, lookup_eq_none_of_lt hf.1]
        · have := h k
          simpa [lookup, hk, hkey ▸ hk] using this
      rw [htail, Prod.ext hkey hval]

theorem ext_get? {d e : Dictionary α} (h : ∀ k, d.get? k = e.get? k) : d = e := by
  have := entries_eq_of_lookup d.sorted e.sorted h
  cases d
  cases e
  simp_all

theorem erase_of_get?_eq_none {d : Dictionary α} {k : String} (h : d.get? k = none) :
    d.erase k = d := by
  refine ext_get? fun k' => ?_
  rw [get?_erase]
  by_cases hk : k = k'
  · rw [if_pos hk, ← hk, h]
  · rw [if_neg hk]

theorem keys_mapValues (f : α → β) (d : Dictionary α) : (d.mapValues f).keys = d.keys := by
  simp [keys, mapValues, Function.comp_def]

/-- Dictionaries with the same names have them in the same order. -/
theorem keys_congr {d : Dictionary α} {e : Dictionary β} (h : ∀ k, k ∈ d.keys ↔ k ∈ e.keys) :
    d.keys = e.keys := by
  have hunit : d.mapValues (fun _ => ()) = e.mapValues (fun _ => ()) := by
    refine ext_get? fun k => ?_
    have hk := h k
    rw [mem_keys_iff, mem_keys_iff] at hk
    rw [get?_mapValues, get?_mapValues]
    cases hd : d.get? k <;> cases he : e.get? k <;> simp [hd, he] at hk ⊢
  rw [← keys_mapValues (fun _ => ()) d, hunit, keys_mapValues]

theorem insertEntry_of_lt {k : String} {v : α} {es : List (String × α)}
    (h : ∀ e ∈ es, e.1 < k) : insertEntry k v es = es ++ [(k, v)] := by
  induction es with
  | nil => rfl
  | cons a es ih =>
    have ha : a.1 < k := h a List.mem_cons_self
    have hlt : ¬ k < a.1 := fun hk => String.lt_irrefl k (String.lt_trans hk ha)
    have hne : a.1 ≠ k := fun hk => String.lt_irrefl k (hk ▸ ha)
    simp only [insertEntry, if_neg hlt, if_neg hne, List.cons_append]
    rw [ih fun e he => h e (List.mem_cons_of_mem a he)]

/-- Entries that come in order are put behind those that are there. -/
theorem entries_foldl_insert {d : Dictionary α} {es : List (String × α)}
    (h : (d.entries ++ es).Pairwise (fun a b => a.1 < b.1)) :
    (es.foldl (fun d e => d.insert e.1 e.2) d).entries = d.entries ++ es := by
  induction es generalizing d with
  | nil => simp
  | cons e es ih =>
    have hinsert : (d.insert e.1 e.2).entries = d.entries ++ [e] :=
      insertEntry_of_lt fun a ha => (List.pairwise_append.1 h).2.2 a ha e List.mem_cons_self
    rw [List.foldl_cons, ih (by simpa [hinsert] using h), hinsert, List.append_assoc]
    rfl

theorem ofList_entries (d : Dictionary α) : ofList d.entries = d := by
  have h : (ofList d.entries).entries = d.entries :=
    entries_foldl_insert (d := empty) (by simpa [empty] using d.sorted)
  exact ext_get? fun k => congrArg (lookup k) h

theorem mem_foldl_insert {d : Dictionary α} {es : List (String × α)} {e : String × α}
    (h : e ∈ (es.foldl (fun d e => d.insert e.1 e.2) d).entries) : e ∈ d.entries ∨ e ∈ es := by
  induction es generalizing d with
  | nil => exact Or.inl h
  | cons a es ih =>
    rcases ih h with h | h
    · rcases mem_insertEntry h with h | h
      · exact Or.inr (h ▸ List.mem_cons_self)
      · exact Or.inl h
    · exact Or.inr (List.mem_cons_of_mem a h)

/-- Nothing is in a dictionary but what it has been made of. -/
theorem mem_of_mem_ofList {es : List (String × α)} {e : String × α}
    (h : e ∈ (ofList es).entries) : e ∈ es := by
  rcases mem_foldl_insert h with h | h
  · cases h
  · exact h

end Dictionary

/-- A set of names. -/
abbrev Names : Type := Dictionary Unit

namespace Names

/-- Adds a name. -/
def add (s : Names) (k : String) : Names := s.insert k ()

theorem contains_add (s : Names) (k l : String) :
    (s.add k).contains l = true ↔ k = l ∨ s.contains l = true := by
  unfold Dictionary.contains add
  rw [Dictionary.get?_insert]
  by_cases h : k = l
  · simp [h]
  · simp [h]

theorem mem_keys_foldl_add {ks : List String} {s : Names} {l : String} :
    l ∈ (ks.foldl add s).keys ↔ l ∈ s.keys ∨ l ∈ ks := by
  induction ks generalizing s with
  | nil => simp
  | cons k ks ih =>
      have hadd : l ∈ (s.add k).keys ↔ k = l ∨ l ∈ s.keys := by
        rw [Dictionary.mem_keys_iff, Dictionary.mem_keys_iff]
        exact contains_add s k l
      rw [List.foldl_cons, ih, hadd, List.mem_cons, eq_comm (a := l), or_assoc, or_left_comm]

end Names

end Playfield
