import Mathlib
import Playfield.Scalar.Double
import Playfield.Session.Actions

/-!
# References in Texts

A text is cut at its references, in one way only, and what stands for a reference is put in its
place.

Where a reference begins can be seen from the text behind that place alone: the opening, a name,
and the closing brace. So a text can be said to be cut at its references without saying how they
are looked for: in front of each reference stands a stretch in which none begins, and the cut
goes on behind the reference. There is one such cut, and no variable has a say in it.

The text that is shown follows the cut. Stretches are kept. For a reference the variable of its
name is shown as it is; what it shows may look like a reference and is not looked at again. An
opening that is not followed by a name and a brace is part of a stretch, whatever follows it
instead: another opening, a character that is in no name, or nothing.

## Main definitions

* `Fragment.IsName`, `Fragment.Begins`: A reference at the beginning of a text.
* `Fragment.IsPlain`: A stretch in which no reference begins.
* `Fragment.Cuts`: A text is cut at its references.
* `Fragment.shown`: What is put in the place of a reference.

## Theorems

* `Fragment.reference?_eq_some_iff`: The reference that is found is the one that is there.
* `Fragment.split_append`, `Fragment.split_reference`: The fragments of a stretch and of a
  reference.
* `Fragment.Cuts.split_eq`, `Fragment.fragments_injective`: A cut is told by the fragments.
* `Fragment.exists_cuts`: Every text can be cut.
* `renderGlobals_substitutes`: What a text with references shows.
-/

namespace Playfield

namespace Fragment

/-- A name is not empty, and all its characters are word characters. -/
def IsName (name : List Char) : Prop := name ≠ [] ∧ ∀ c ∈ name, CharClass.word.mem c = true

/-- A reference stands at the beginning of a text. -/
def Begins (cs : List Char) : Prop :=
  ∃ name rest, IsName name ∧ cs = source (.reference name) ++ rest

/-- In no place of a stretch a reference begins, given what follows the stretch. -/
def IsPlain (stretch rest : List Char) : Prop :=
  ∀ n < stretch.length, ¬ Begins ((stretch ++ rest).drop n)

/-- A text is cut at its references: into parts, each a stretch without a reference and the name
    of the reference behind it, and a last stretch. -/
inductive Cuts : List Char → List (List Char × List Char) → List Char → Prop
  | last {stretch : List Char} (hplain : IsPlain stretch []) : Cuts stretch [] stretch
  | part {stretch name rest last : List Char} {parts : List (List Char × List Char)}
      (hname : IsName name) (hplain : IsPlain stretch (source (.reference name) ++ rest))
      (hrest : Cuts rest parts last) :
      Cuts (stretch ++ (source (.reference name) ++ rest)) ((stretch, name) :: parts) last

variable {name rest stretch cs : List Char}

theorem source_reference (name rest : List Char) :
    source (.reference name) ++ rest = opening ++ (name ++ '\x7d' :: rest) := by
  simp [source]

theorem reference?_source (h : IsName name) (rest : List Char) :
    reference? (source (.reference name) ++ rest) = some (name, rest) := by
  have hclosing : CharClass.word.mem '\x7d' = false := by decide
  have htake : (name ++ '\x7d' :: rest).takeWhile CharClass.word.mem = name := by
    rw [List.takeWhile_append_of_pos h.2, List.takeWhile_cons_of_neg (by simp [hclosing]),
      List.append_nil]
  have hdrop : (name ++ '\x7d' :: rest).dropWhile CharClass.word.mem = '\x7d' :: rest := by
    rw [List.dropWhile_append_of_pos h.2, List.dropWhile_cons_of_neg (by simp [hclosing])]
  have hempty : name.isEmpty = false := List.isEmpty_eq_false_iff.2 h.1
  rw [source_reference, reference?, Text.after?_append]
  simp only [htake, hdrop, hempty]
  rfl

theorem isName_of_reference? (h : reference? cs = some (name, rest)) : IsName name := by
  unfold reference? at h
  split at h
  · cases h
  simp only at h
  split at h
  · split at h
    · cases h
    · next hempty =>
      simp only [Option.some.injEq, Prod.mk.injEq] at h
      rw [h.1] at hempty
      exact ⟨fun hnil => hempty (List.isEmpty_iff.2 hnil),
        fun c hc => List.mem_takeWhile_imp (h.1 ▸ hc)⟩
  · cases h

/-- The reference that is found is the one that is there. -/
theorem reference?_eq_some_iff : reference? cs = some (name, rest) ↔
    IsName name ∧ cs = source (.reference name) ++ rest := by
  constructor
  · exact fun h => ⟨isName_of_reference? h, source_reference? h⟩
  · rintro ⟨hname, rfl⟩
    exact reference?_source hname rest

theorem reference?_eq_none_iff : reference? cs = none ↔ ¬ Begins cs := by
  constructor
  · rintro hnone ⟨name, rest, hname, rfl⟩
    rw [reference?_source hname] at hnone
    cases hnone
  · intro h
    by_contra hsome
    obtain ⟨⟨name, rest⟩, hfound⟩ := Option.ne_none_iff_exists'.1 hsome
    exact h ⟨name, rest, reference?_eq_some_iff.1 hfound⟩

instance (name : List Char) : Decidable (IsName name) :=
  decidable_of_iff (name ≠ [] ∧ name.all CharClass.word.mem = true)
    (and_congr_right fun _ => List.all_eq_true)

instance (cs : List Char) : Decidable (Begins cs) :=
  decidable_of_iff (¬ reference? cs = none) (not_congr reference?_eq_none_iff |>.trans not_not)

instance (stretch rest : List Char) : Decidable (IsPlain stretch rest) :=
  inferInstanceAs (Decidable (∀ n < stretch.length, _))

theorem isPlain_nil (rest : List Char) : IsPlain [] rest := fun _ hn => absurd hn (Nat.not_lt_zero _)

theorem isPlain_cons {c : Char} :
    IsPlain (c :: stretch) rest ↔ ¬ Begins (c :: (stretch ++ rest)) ∧ IsPlain stretch rest := by
  constructor
  · intro h
    exact ⟨h 0 (Nat.succ_pos _), fun n hn => h (n + 1) (Nat.succ_lt_succ hn)⟩
  · rintro ⟨hfirst, hothers⟩ n hn
    cases n with
    | zero => exact hfirst
    | succ n => exact hothers n (Nat.lt_of_succ_lt_succ hn)

theorem isPlain_append {front back : List Char} :
    IsPlain (front ++ back) rest ↔ IsPlain front (back ++ rest) ∧ IsPlain back rest := by
  induction front with
  | nil => simp [isPlain_nil]
  | cons c cs ih =>
      rw [List.cons_append, isPlain_cons, isPlain_cons, ih, List.append_assoc, and_assoc]

/-- A reference begins with the first character of an opening. -/
theorem isPlain_of_not_mem (h : '$' ∉ stretch) (rest : List Char) : IsPlain stretch rest := by
  induction stretch with
  | nil => exact isPlain_nil rest
  | cons c cs ih =>
      rw [List.mem_cons, not_or] at h
      refine isPlain_cons.2 ⟨?_, ih h.2⟩
      rintro ⟨name, more, -, heq⟩
      exact h.1 (List.cons.inj heq).1.symm

/-- An opening with which no reference begins is part of a stretch. -/
theorem isPlain_opening (h : ¬ Begins (opening ++ rest)) : IsPlain opening rest :=
  isPlain_cons.2 ⟨h, isPlain_of_not_mem (by decide) rest⟩

theorem split_cons_of_not_begins {c : Char} (h : ¬ Begins (c :: cs)) :
    split (c :: cs) = .literal c :: split cs := by
  rw [split]
  split
  · next found more hfound =>
    rw [reference?_eq_none_iff.2 h] at hfound
    cases hfound
  · rfl

/-- The characters of a stretch stand for themselves, and the text behind it is cut by itself. -/
theorem split_append (h : IsPlain stretch rest) :
    split (stretch ++ rest) = stretch.map .literal ++ split rest := by
  induction stretch with
  | nil => rfl
  | cons c cs ih =>
      obtain ⟨hfirst, hothers⟩ := isPlain_cons.1 h
      rw [List.cons_append, split_cons_of_not_begins hfirst, ih hothers]
      rfl

theorem split_reference (h : IsName name) (rest : List Char) :
    split (source (.reference name) ++ rest) = .reference name :: split rest := by
  have hfound := reference?_source h rest
  generalize source (.reference name) ++ rest = cs at hfound
  cases cs with
  | nil => cases hfound
  | cons c cs =>
      rw [split]
      split
      · next found more hmore =>
        rw [hfound] at hmore
        cases hmore
        rfl
      · next hnone =>
        rw [hfound] at hnone
        cases hnone

/-- The fragments of a text that is cut into parts and a last stretch. -/
def fragments (parts : List (List Char × List Char)) (last : List Char) : List Fragment :=
  parts.flatMap (fun p => p.1.map .literal ++ [.reference p.2]) ++ last.map .literal

theorem fragments_cons (stretch name : List Char) (parts : List (List Char × List Char))
    (last : List Char) : fragments ((stretch, name) :: parts) last =
      stretch.map .literal ++ .reference name :: fragments parts last := by
  simp [fragments]

theorem Cuts.split_eq {last : List Char} {parts : List (List Char × List Char)}
    (h : Cuts cs parts last) : split cs = fragments parts last := by
  induction h with
  | last hplain =>
      have hsplit := split_append hplain
      rwa [List.append_nil, split, List.append_nil] at hsplit
  | part hname hplain hrest ih =>
      rw [split_append hplain, split_reference hname, ih, fragments_cons]

/-- A stretch and the reference behind it can be told from the fragments. -/
theorem literals_injective {s t n m : List Char} {fs gs : List Fragment}
    (h : s.map literal ++ reference n :: fs = t.map literal ++ reference m :: gs) :
    s = t ∧ n = m ∧ fs = gs := by
  induction s generalizing t with
  | nil =>
      cases t with
      | nil => simpa using h
      | cons d ds => simp at h
  | cons c cs ih =>
      cases t with
      | nil => simp at h
      | cons d ds =>
          simp only [List.map_cons, List.cons_append, List.cons.injEq, literal.injEq] at h
          have hrest := ih h.2
          exact ⟨by rw [h.1, hrest.1], hrest.2⟩

/-- So can all parts and the last stretch. -/
theorem fragments_injective {parts parts' : List (List Char × List Char)} {last last' : List Char}
    (h : fragments parts last = fragments parts' last') : parts = parts' ∧ last = last' := by
  have hinj : Function.Injective literal := fun _ _ => literal.inj
  induction parts generalizing parts' with
  | nil =>
      rcases parts' with _ | ⟨⟨t, m⟩, parts'⟩
      · exact ⟨rfl, hinj.list_map h⟩
      · -- A last stretch has no references.
        have hmem : reference m ∈ fragments [] last := by simp [h, fragments_cons]
        simp [fragments] at hmem
  | cons p parts ih =>
      rcases p with ⟨s, n⟩
      rcases parts' with _ | ⟨⟨t, m⟩, parts'⟩
      · have hmem : reference n ∈ fragments [] last' := by simp [← h, fragments_cons]
        simp [fragments] at hmem
      · rw [fragments_cons, fragments_cons] at h
        obtain ⟨rfl, rfl, hrest⟩ := literals_injective h
        obtain ⟨rfl, rfl⟩ := ih hrest
        exact ⟨rfl, rfl⟩

/-- A character where no reference begins belongs to the stretch behind it. -/
theorem Cuts.exists_cons {c : Char} {parts : List (List Char × List Char)} {last : List Char}
    (h : Cuts cs parts last) (hc : ¬ Begins (c :: cs)) :
    ∃ parts' last', Cuts (c :: cs) parts' last' := by
  cases h with
  | last hplain =>
      refine ⟨[], c :: cs, .last (isPlain_cons.2 ⟨?_, hplain⟩)⟩
      rwa [List.append_nil]
  | part hname hplain hrest => exact ⟨_, _, .part hname (isPlain_cons.2 ⟨hc, hplain⟩) hrest⟩

/-- Every text can be cut. -/
theorem exists_cuts (cs : List Char) : ∃ parts last, Cuts cs parts last := by
  -- On the text that is left, from one fragment to the next.
  induction cs using split.induct with
  | case1 => exact ⟨[], [], .last (isPlain_nil [])⟩
  | case2 c cs name rest hfound hlt ih =>
      obtain ⟨parts, last, hcuts⟩ := ih
      obtain ⟨hname, htext⟩ := reference?_eq_some_iff.1 hfound
      rw [htext]
      exact ⟨_, _, .part hname (isPlain_nil _) hcuts⟩
  | case3 c cs hnone ih =>
      obtain ⟨parts, last, hcuts⟩ := ih
      exact hcuts.exists_cons (reference?_eq_none_iff.1 hnone)

/-- The stretches and the references make up the text. -/
theorem Cuts.source_eq {parts : List (List Char × List Char)} {last : List Char}
    (h : Cuts cs parts last) :
    parts.flatMap (fun p => p.1 ++ source (.reference p.2)) ++ last = cs := by
  induction h with
  | last hplain => rfl
  | part hname hplain hrest ih =>
      rw [List.flatMap_cons, List.append_assoc, ih, List.append_assoc]

theorem Cuts.unique {parts parts' : List (List Char × List Char)} {last last' : List Char}
    (h : Cuts cs parts last) (h' : Cuts cs parts' last') : parts' = parts ∧ last' = last :=
  fragments_injective (h'.split_eq.symm.trans h.split_eq)

section Globals

variable {R : Type} [Scalar R] [Numeral R] (globals : Variables R)

/-- What is put in the place of a reference: the display form of the variable, or the reference
    as it was written if there is no such variable. -/
def shown (name : List Char) : List Char :=
  match globals.get? (String.ofList name) with
  | some v => v.display.toList
  | none => source (.reference name)

/-- What is put in the place of a fragment. -/
def filled : Fragment → List Char
  | .literal c => [c]
  | .reference name => shown globals name

theorem flatMap_filled_literals (cs : List Char) :
    (cs.map literal).flatMap (filled globals) = cs := by
  induction cs with
  | nil => rfl
  | cons c cs ih => rw [List.map_cons, List.flatMap_cons, ih]; rfl

theorem flatMap_filled_fragments (parts : List (List Char × List Char)) (last : List Char) :
    (fragments parts last).flatMap (filled globals) =
      parts.flatMap (fun p => p.1 ++ shown globals p.2) ++ last := by
  induction parts with
  | nil => exact flatMap_filled_literals globals last
  | cons p parts ih =>
      rw [fragments_cons, List.flatMap_append, List.flatMap_cons, ih, flatMap_filled_literals,
        List.flatMap_cons, List.append_assoc, List.append_assoc]
      rfl

end Globals

end Fragment

section Globals

open Fragment

variable {R : Type} [Scalar R] [Numeral R] (globals : Variables R)

theorem renderGlobals_ofList (cs : List Char) :
    renderGlobals globals (String.ofList cs) =
      String.ofList ((split cs).flatMap (filled globals)) := by
  rw [renderGlobals, String.toList_ofList]
  congr 2
  funext f
  cases f <;> rfl

theorem renderGlobals_append {front rest : List Char} (h : IsPlain front rest) :
    renderGlobals globals (String.ofList (front ++ rest)) =
      String.ofList front ++ renderGlobals globals (String.ofList rest) := by
  rw [renderGlobals_ofList, renderGlobals_ofList, split_append h, List.flatMap_append,
    flatMap_filled_literals, String.ofList_append]

theorem renderGlobals_reference {name : List Char} (h : IsName name) (rest : List Char) :
    renderGlobals globals (String.ofList (source (.reference name) ++ rest)) =
      String.ofList (shown globals name) ++ renderGlobals globals (String.ofList rest) := by
  rw [renderGlobals_ofList, renderGlobals_ofList, split_reference h, List.flatMap_cons,
    String.ofList_append]
  rfl

theorem renderGlobals_of_cuts {text : String} {parts : List (List Char × List Char)}
    {last : List Char} (h : Cuts text.toList parts last) : renderGlobals globals text =
      String.ofList (parts.flatMap (fun p => p.1 ++ shown globals p.2) ++ last) := by
  rw [← flatMap_filled_fragments, ← h.split_eq, ← renderGlobals_ofList, String.ofList_toList]

/-- A text stays as it is if none of the variables exists that it refers to. -/
theorem renderGlobals_of_missing {text : String} {parts : List (List Char × List Char)}
    {last : List Char} (h : Cuts text.toList parts last)
    (hmissing : ∀ p ∈ parts, globals.get? (String.ofList p.2) = none) :
    renderGlobals globals text = text := by
  have hshown : parts.flatMap (fun p => p.1 ++ shown globals p.2) =
      parts.flatMap fun p => p.1 ++ source (.reference p.2) :=
    List.flatMap_congr fun p hp => by rw [shown, hmissing p hp]
  rw [renderGlobals_of_cuts globals h, hshown, h.source_eq, String.ofList_toList]

theorem renderGlobals_of_isPlain {text : String} (h : IsPlain text.toList []) :
    renderGlobals globals text = text :=
  renderGlobals_of_missing globals (.last h) fun _ hp => absurd hp List.not_mem_nil

end Globals

open Fragment

variable {R : Type} [Scalar R] [Numeral R]

/-- What a text with references shows. Each text is cut at its references in one way, and no
    variable has a say in that. Shown are the stretches as they are, for each reference to a
    variable that exists its display form, and the other references as they were written. So a
    text in which no reference begins stays as it is, and so does one of whose variables none
    exists. What a variable shows is not looked at again: the text goes on behind the reference.
    An opening with which no reference begins stays, and the text goes on behind it. -/
theorem renderGlobals_substitutes :
    (∀ text : String, ∃ parts last, Cuts text.toList parts last ∧
      (∀ parts' last', Cuts text.toList parts' last' → parts' = parts ∧ last' = last) ∧
      ∀ globals : Variables R,
        renderGlobals globals text =
          String.ofList (parts.flatMap (fun p => p.1 ++ shown globals p.2) ++ last) ∧
        ((∀ p ∈ parts, globals.get? (String.ofList p.2) = none) →
          renderGlobals globals text = text)) ∧
    (∀ (globals : Variables R) (text : String), IsPlain text.toList [] →
      renderGlobals globals text = text) ∧
    (∀ (globals : Variables R) (front name rest : List Char) (v : Value R),
      IsPlain front (source (.reference name) ++ rest) → IsName name →
        globals.get? (String.ofList name) = some v →
          renderGlobals globals (String.ofList (front ++ (source (.reference name) ++ rest))) =
            String.ofList front ++ v.display ++ renderGlobals globals (String.ofList rest)) ∧
    ∀ (globals : Variables R) (front rest : List Char),
      IsPlain front (opening ++ rest) → ¬ Begins (opening ++ rest) →
        renderGlobals globals (String.ofList (front ++ (opening ++ rest))) =
          String.ofList (front ++ opening) ++ renderGlobals globals (String.ofList rest) := by
  refine ⟨fun text => ?_, fun globals text => renderGlobals_of_isPlain globals, ?_, ?_⟩
  · obtain ⟨parts, last, hcuts⟩ := exists_cuts text.toList
    exact ⟨parts, last, hcuts, fun parts' last' h' => hcuts.unique h', fun globals =>
      ⟨renderGlobals_of_cuts globals hcuts, renderGlobals_of_missing globals hcuts⟩⟩
  · intro globals front name rest v hplain hname hv
    rw [renderGlobals_append globals hplain, renderGlobals_reference globals hname, shown, hv]
    simp only [String.ofList_toList, String.append_assoc]
  · intro globals front rest hplain hnone
    have hstretch : IsPlain (front ++ opening) rest :=
      isPlain_append.2 ⟨hplain, isPlain_opening hnone⟩
    rw [← List.append_assoc, renderGlobals_append globals hstretch]

/-- A reference inside an opening, to a variable that shows a reference to itself, and behind it
    an opening that nothing follows. -/
theorem renderGlobals_substitutes_nested :
    let value : Value Float := .text "$\x7bglobal.name\x7d"
    let globals : Variables Float := Dictionary.empty.insert "name" value
    let name := "name".toList
    let rest := "\x7d $\x7bglobal.".toList
    IsPlain opening (source (.reference name) ++ rest) ∧ IsName name ∧
      globals.get? (String.ofList name) = some value ∧ IsPlain rest [] ∧
      renderGlobals globals (String.ofList (opening ++ (source (.reference name) ++ rest))) =
        "$\x7bglobal.$\x7bglobal.name\x7d\x7d $\x7bglobal." := by
  intro value globals name rest
  have hplain : IsPlain opening (source (.reference name) ++ rest) :=
    isPlain_opening (by decide +kernel)
  have hname : IsName name := by decide +kernel
  have hvalue : globals.get? (String.ofList name) = some value := by decide +kernel
  have hrest : IsPlain rest [] := by decide +kernel
  have h := renderGlobals_substitutes (R := Float)
  refine ⟨hplain, hname, hvalue, hrest, ?_⟩
  rw [h.2.2.1 globals opening name rest value hplain hname hvalue,
    h.2.1 globals (String.ofList rest) (by rwa [String.toList_ofList])]
  decide +kernel

end Playfield
