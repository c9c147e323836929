import Mathlib
import Playfield.Proofs.Json.Reading

/-!
# Reading Trees That Were Written

The text of a plain tree is read as what a document holds of the tree.

A tree is written in front of whatever follows it, and it is read in front of whatever
follows it: where a value may come, the text of the tree brings the reader to where it
would be had it been handed the value (`Reader.Reads`). The claim is carried from the
leaves to the root. How the text is broken into lines does not matter on the way. The
reader passes over blanks between tokens, so the claim is proved once, for every layout
that puts only blanks there, and the two printers are two layouts.

The frames around a value count. A list or an object that is opened inside too many
others is read, but it is refused, so a tree that is nested too deep is kept with
refusals in it (`Json.kept`). They are faults for everyone who keeps the tree, and where
there are none the tree is kept as a document holds it.

## Main definitions

* `Json.kept`: What a reader keeps of a tree inside of some lists and objects.
* `Json.Layout`: How a tree is spread over a text.
* `Reader.Reads`: A tree is read in front of anything that may follow it.

## Theorems

* `Json.kept_eq_held`, `Json.depth_le_of_fault?_kept`: What is not nested too deep is kept
  as it is, and what is nested too deep has a fault.
* `Reader.reads_list`, `Reader.reads_object`: Lists and objects, from their parts.
* `Reader.reads_of_isPlain`: Plain trees.
* `Json.read_pretty`: The indented text of a plain tree, however deep.
* `Json.read_compact`: The one line of a plain tree, if it is not nested too deep.
-/

namespace Playfield

namespace Json

/-- A list or an object with some others around it. It is refused if these are too many. -/
def limited (around : Nat) (j : Json) : Json := if around < depthLimit then j else .refused j

mutual

/-- What a reader keeps of a tree that is written inside of some lists and objects. -/
def kept (around : Nat) : Json → Json
  | .nonFinite _ => .null
  | .list js => limited around (.list (keptItems (around + 1) js))
  | .object ms => limited around (.object (keptMembers (around + 1) ms))
  | j => j

/-- What a reader keeps of the items of a list. -/
def keptItems (around : Nat) : List Json → List Json
  | [] => []
  | j :: js => kept around j :: keptItems around js

/-- What a reader keeps of the members of an object. -/
def keptMembers (around : Nat) : List (String × Json) → List (String × Json)
  | [] => []
  | (n, j) :: ms => (n, kept around j) :: keptMembers around ms

end

theorem keptItems_eq_map (around : Nat) (js : List Json) :
    keptItems around js = js.map (kept around) := by
  induction js with
  | nil => rfl
  | cons j js ih => rw [keptItems, ih, List.map_cons]

theorem keptMembers_eq_map (around : Nat) (ms : Members) :
    keptMembers around ms = ms.map fun m => (m.1, kept around m.2) := by
  induction ms with
  | nil => rfl
  | cons m ms ih => rw [keptMembers, ih, List.map_cons]

mutual

/-- What is not nested too deep is kept as a document holds it. -/
theorem kept_eq_held {around : Nat} (j : Json) (h : around + j.depth ≤ depthLimit) :
    kept around j = held j := by
  cases j with
  | list js =>
      rw [depth] at h
      rw [kept, held, limited, if_pos (by omega), keptItems_eq_held js (by omega)]
  | object ms =>
      rw [depth] at h
      rw [kept, held, limited, if_pos (by omega), keptMembers_eq_held ms (by omega)]
  | _ => rfl

theorem keptItems_eq_held {around : Nat} (js : List Json)
    (h : around + depthItems js ≤ depthLimit) : keptItems around js = heldItems js := by
  cases js with
  | nil => rfl
  | cons j js =>
      rw [depthItems] at h
      rw [keptItems, heldItems, kept_eq_held j (by omega), keptItems_eq_held js (by omega)]

theorem keptMembers_eq_held {around : Nat} (ms : Members)
    (h : around + depthMembers ms ≤ depthLimit) : keptMembers around ms = heldMembers ms := by
  cases ms with
  | nil => rfl
  | cons m ms =>
      rw [depthMembers] at h
      rw [keptMembers, heldMembers, kept_eq_held m.2 (by omega), keptMembers_eq_held ms (by omega)]

end

mutual

/-- What is nested too deep has a fault for someone who keeps it. -/
theorem depth_le_of_fault?_kept {around : Nat} (ha : around ≤ depthLimit) (j : Json)
    (h : fault? (kept around j) = none) : around + j.depth ≤ depthLimit := by
  cases j with
  | list js =>
      rw [kept, limited] at h
      split at h
      · next hlt =>
        have := depthItems_le_of_fault?_kept hlt js h
        rw [depth]
        omega
      · cases h
  | object ms =>
      rw [kept, limited] at h
      split at h
      · next hlt =>
        have := depthMembers_le_of_fault?_kept hlt ms h
        rw [depth]
        omega
      · cases h
  | _ => exact ha

theorem depthItems_le_of_fault?_kept {around : Nat} (ha : around ≤ depthLimit) (js : List Json)
    (h : faultItems? (keptItems around js) = none) : around + depthItems js ≤ depthLimit := by
  cases js with
  | nil => exact ha
  | cons j js =>
      rw [keptItems, faultItems?, Option.or_eq_none_iff] at h
      have := depth_le_of_fault?_kept ha j h.1
      have := depthItems_le_of_fault?_kept ha js h.2
      rw [depthItems]
      omega

theorem depthMembers_le_of_fault?_kept {around : Nat} (ha : around ≤ depthLimit) (ms : Members)
    (h : faultMembers? (keptMembers around ms) = none) :
    around + depthMembers ms ≤ depthLimit := by
  cases ms with
  | nil => exact ha
  | cons m ms =>
      rw [keptMembers, faultMembers?, Option.or_eq_none_iff] at h
      have := depth_le_of_fault?_kept ha m.2 h.1
      have := depthMembers_le_of_fault?_kept ha ms h.2
      rw [depthMembers]
      omega

end

end Json

namespace Reader

theorem accept_expected (j : Json) (s : State) (e : Expected) :
    accept j { s with expected := e } = accept j s := by
  rcases s with ⟨mode, _ | ⟨f, fs⟩, expected, result⟩
  · rfl
  · rfl

theorem accept_of_stack {s : State} {f : Frame} {st : List Frame} (hs : s.stack = f :: st)
    (j : Json) : accept j s = { s with expected := .commaOrEnd, stack := f.push j :: st } := by
  unfold accept
  rw [hs]

/-- What a frame holds once it is complete. -/
def Frame.whole : Frame → Json
  | .list js => .list js.reverse
  | .object ms _ => .object ms.reverse

/-- A frame that is nested too deep is refused when it is closed. -/
theorem close_of_stack {s : State} {f : Frame} {st : List Frame} (hs : s.stack = f :: st) :
    close s = accept (Json.limited st.length f.whole) { s with stack := st } := by
  have hclose : f.close st = Json.limited st.length f.whole := by
    unfold Frame.close Json.limited
    by_cases h : st.length < Json.depthLimit
    · have hdrop : (st.drop (Json.depthLimit - 1)).isEmpty = true := by
        rw [List.isEmpty_iff, List.drop_eq_nil_iff]
        omega
      rw [if_pos hdrop, if_pos h]
      cases f <;> rfl
    · have hdrop : ¬ (st.drop (Json.depthLimit - 1)).isEmpty = true := by
        rw [List.isEmpty_iff, List.drop_eq_nil_iff]
        unfold Json.depthLimit at h ⊢
        omega
      rw [if_neg hdrop, if_neg h]
      cases f <;> rfl
  unfold close
  rw [hs]
  dsimp only
  rw [hclose]

/-- Blanks between two tokens do not matter. -/
theorem run_blanks {s : State} (h : IsBetween s) {bs : List Char} (hbs : ∀ c ∈ bs, c ∈ blanks)
    (rest : List Char) : run s (bs ++ rest) = run s rest := by
  induction bs with
  | nil => rfl
  | cons b bs ih =>
      have hblank : b = ' ' ∨ b = '\n' ∨ b = '\t' ∨ b = '\r' := by
        simpa [blanks] using hbs b List.mem_cons_self
      have hstep : step s b = s := by
        rw [step_between h, stepBetween, if_pos hblank]
      rw [List.cons_append, run_cons, hstep]
      exact ih fun c hc => hbs c (List.mem_cons_of_mem b hc)

theorem ends_blanks {bs : List Char} (hbs : ∀ c ∈ bs, c ∈ blanks) {rest : List Char}
    (hends : Ends rest) : Ends (bs ++ rest) := by
  cases bs with
  | nil => exact hends
  | cons b bs =>
      intro c hc
      rw [List.cons_append, List.head?_cons, Option.mem_some_iff] at hc
      exact List.mem_append_right _ (hc ▸ hbs b List.mem_cons_self)

end Reader

namespace Json

/-- How a tree is spread over a text: the blanks in front of what stands on a level, and
    those behind a colon. -/
structure Layout where
  gap : Nat → List Char
  space : List Char
  gap_blank : ∀ n, ∀ c ∈ gap n, c ∈ Reader.blanks
  space_blank : ∀ c ∈ space, c ∈ Reader.blanks

namespace Layout

/-- No blanks. -/
def oneLine : Layout := ⟨fun _ => [], [], fun _ _ h => absurd h List.not_mem_nil,
  fun _ h => absurd h List.not_mem_nil⟩

/-- A line for each value. -/
def indented : Layout where
  gap n := '\n' :: List.replicate (2 * n) ' '
  space := [' ']
  gap_blank := by simp [Reader.blanks]
  space_blank := by simp [Reader.blanks]

variable (l : Layout)

mutual

/-- A tree in some layout, in front of a text. -/
def chars : Nat → Json → List Char → List Char
  | _, .list [], rest => '[' :: ']' :: rest
  | n, .list (j :: js), rest => '[' :: (l.gap (n + 1) ++ chars (n + 1) j (items n js rest))
  | _, .object [], rest => '\x7b' :: '\x7d' :: rest
  | n, .object ((name, j) :: ms), rest =>
    '\x7b' :: (l.gap (n + 1) ++
      (quote name ++ ':' :: (l.space ++ chars (n + 1) j (members n ms rest))))
  | _, j, rest => leafChars j ++ rest

/-- The items after the first, and the end of the list. -/
def items : Nat → List Json → List Char → List Char
  | n, [], rest => l.gap n ++ ']' :: rest
  | n, j :: js, rest => ',' :: (l.gap (n + 1) ++ chars (n + 1) j (items n js rest))

/-- The members after the first, and the end of the object. -/
def members : Nat → List (String × Json) → List Char → List Char
  | n, [], rest => l.gap n ++ '\x7d' :: rest
  | n, (name, j) :: ms, rest =>
    ',' :: (l.gap (n + 1) ++
      (quote name ++ ':' :: (l.space ++ chars (n + 1) j (members n ms rest))))

end

end Layout

mutual

theorem compactChars_eq (n : Nat) (j : Json) (rest : List Char) :
    compactChars j rest = Layout.oneLine.chars n j rest := by
  cases j with
  | list js =>
      cases js with
      | nil => rfl
      | cons j js =>
          rw [compactChars, Layout.chars, compactItems_eq n js rest, compactChars_eq (n + 1) j _]
          rfl
  | object ms =>
      cases ms with
      | nil => rfl
      | cons m ms =>
          rw [compactChars, Layout.chars, compactMembers_eq n ms rest,
            compactChars_eq (n + 1) m.2 _]
          rfl
  | _ => rfl

theorem compactItems_eq (n : Nat) (js : List Json) (rest : List Char) :
    compactItems js rest = Layout.oneLine.items n js rest := by
  cases js with
  | nil => rfl
  | cons j js =>
      rw [compactItems, Layout.items, compactItems_eq n js rest, compactChars_eq (n + 1) j _]
      rfl

theorem compactMembers_eq (n : Nat) (ms : Members) (rest : List Char) :
    compactMembers ms rest = Layout.oneLine.members n ms rest := by
  cases ms with
  | nil => rfl
  | cons m ms =>
      rw [compactMembers, Layout.members, compactMembers_eq n ms rest,
        compactChars_eq (n + 1) m.2 _]
      rfl

end

mutual

theorem prettyChars_eq (n : Nat) (j : Json) (rest : List Char) :
    prettyChars n j rest = Layout.indented.chars n j rest := by
  cases j with
  | list js =>
      cases js with
      | nil => rfl
      | cons j js =>
          rw [prettyChars, Layout.chars, prettyItems_eq n js rest, prettyChars_eq (n + 1) j _]
          rfl
  | object ms =>
      cases ms with
      | nil => rfl
      | cons m ms =>
          rw [prettyChars, Layout.chars, prettyMembers_eq n ms rest, prettyChars_eq (n + 1) m.2 _]
          rfl
  | _ => rfl

theorem prettyItems_eq (n : Nat) (js : List Json) (rest : List Char) :
    prettyItems n js rest = Layout.indented.items n js rest := by
  cases js with
  | nil => rfl
  | cons j js =>
      rw [prettyItems, Layout.items, prettyItems_eq n js rest, prettyChars_eq (n + 1) j _]
      rfl

theorem prettyMembers_eq (n : Nat) (ms : Members) (rest : List Char) :
    prettyMembers n ms rest = Layout.indented.members n ms rest := by
  cases ms with
  | nil => rfl
  | cons m ms =>
      rw [prettyMembers, Layout.members, prettyMembers_eq n ms rest, prettyChars_eq (n + 1) m.2 _]
      rfl

end

end Json

namespace Reader

variable {l : Json.Layout}

/-- A tree is read in front of anything that may follow it. -/
def Reads (l : Json.Layout) (j : Json) : Prop :=
  ∀ (n : Nat) (s : State) (rest : List Char), IsReady s → Ends rest →
    run s (l.chars n j rest) = run (accept (j.kept s.stack.length) s) rest

theorem ends_items (n : Nat) (js : List Json) (rest : List Char) : Ends (l.items n js rest) := by
  cases js with
  | nil =>
      rw [Json.Layout.items]
      refine ends_blanks (l.gap_blank n) fun c hc => ?_
      rw [List.head?_cons, Option.mem_some_iff] at hc
      exact hc ▸ by decide
  | cons j js =>
      rw [Json.Layout.items]
      intro c hc
      rw [List.head?_cons, Option.mem_some_iff] at hc
      exact hc ▸ by decide

theorem ends_members (n : Nat) (ms : Json.Members) (rest : List Char) :
    Ends (l.members n ms rest) := by
  cases ms with
  | nil =>
      rw [Json.Layout.members]
      refine ends_blanks (l.gap_blank n) fun c hc => ?_
      rw [List.head?_cons, Option.mem_some_iff] at hc
      exact hc ▸ by decide
  | cons m ms =>
      rw [Json.Layout.members]
      intro c hc
      rw [List.head?_cons, Option.mem_some_iff] at hc
      exact hc ▸ by decide

/-- The items behind the first, and the end of the list. -/
theorem run_items {js : List Json} (h : ∀ j ∈ js, Reads l j) {s : State} {acc : List Json}
    {st : List Frame} (hb : IsBetween s) (he : s.expected = .commaOrEnd)
    (hs : s.stack = .list acc :: st) (n : Nat) (rest : List Char) :
    run s (l.items n js rest) =
      run (accept (Json.limited st.length
        (.list (acc.reverse ++ Json.keptItems (st.length + 1) js)))
          { s with stack := st }) rest := by
  -- On the items that are left; what has been read of the list stands in its frame,
  -- in reverse.
  induction js generalizing s acc with
  | nil =>
      have hclose : step s ']' = close s := by
        rw [step_between hb]
        change feed .closeList s = _
        unfold feed
        rw [he, hs]
      rw [Json.Layout.items, run_blanks hb (l.gap_blank n), run_cons, hclose, close_of_stack hs,
        Json.keptItems, List.append_nil, Frame.whole]
  | cons j js ih =>
      have hcomma : step s ',' = { s with expected := .value } := by
        rw [step_between hb]
        change feed .comma s = _
        unfold feed
        rw [he, hs]
      -- Behind the comma a value is read like any other, one level further down.
      have hready : IsReady { s with expected := .value } := ⟨⟨hb.mode, hb.result⟩, Or.inl rfl⟩
      have hlength : ({ s with expected := .value } : State).stack.length = st.length + 1 := by
        dsimp only
        rw [hs, List.length_cons]
      have htail := @ih (fun i hi => h i (List.mem_cons_of_mem j hi))
        { s with
          expected := .commaOrEnd
          stack := .list (j.kept (st.length + 1) :: acc) :: st }
        (j.kept (st.length + 1) :: acc) ⟨hb.mode, hb.result⟩ rfl rfl
      rw [Json.Layout.items, run_cons, hcomma, run_blanks hready.toIsBetween (l.gap_blank _),
        h j List.mem_cons_self _ _ _ hready (ends_items n js rest), hlength, accept_expected,
        accept_of_stack hs]
      refine htail.trans ?_
      rw [Json.keptItems, List.reverse_cons, List.append_assoc, List.singleton_append]
      exact congrArg (run · rest) (accept_expected _ { s with stack := st } _)

/-- One member of an object. -/
theorem run_member {name : String} {j : Json} (h : Reads l j) {s : State} {acc : Json.Members}
    {before : Option String} {st : List Frame} (hb : IsBetween s)
    (he : s.expected = .name ∨ s.expected = .nameOrEnd) (hs : s.stack = .object acc before :: st)
    (n : Nat) {rest : List Char} (hends : Ends rest) :
    run s (Json.quote name ++ ':' :: (l.space ++ l.chars n j rest)) =
      run { s with
        expected := .commaOrEnd
        stack := .object ((name, j.kept (st.length + 1)) :: acc) (some "") :: st } rest := by
  have hquote : mayQuote s.expected = true := by
    rcases he with he | he
    · rw [he]; rfl
    · rw [he]; rfl
  -- The name goes into the frame and waits there for its value.
  have hname : feed (.quoted (some name)) s =
      { s with stack := .object acc (some name) :: st, expected := .colon } := by
    unfold feed
    rcases he with he | he
    · rw [he]
      unfold feedName
      rw [hs]
    · rw [he]
      unfold feedName
      rw [hs]
  have hcolon : step { s with stack := .object acc (some name) :: st, expected := .colon } ':' =
      { s with stack := .object acc (some name) :: st, expected := .value } := by
    have hb' : IsBetween { s with stack := .object acc (some name) :: st, expected := .colon } :=
      ⟨hb.mode, hb.result⟩
    rw [step_between hb']
    rfl
  have hready : IsReady { s with stack := .object acc (some name) :: st, expected := .value } :=
    ⟨⟨hb.mode, hb.result⟩, Or.inl rfl⟩
  rw [run_quote hb hquote, hname, run_cons, hcolon, run_blanks hready.toIsBetween l.space_blank,
    h _ _ _ hready hends]
  rfl

/-- The members behind the first, and the end of the object. -/
theorem run_members {ms : Json.Members} (h : ∀ m ∈ ms, Reads l m.2) {s : State}
    {acc : Json.Members} {before : Option String} {st : List Frame} (hb : IsBetween s)
    (he : s.expected = .commaOrEnd) (hs : s.stack = .object acc before :: st) (n : Nat)
    (rest : List Char) :
    run s (l.members n ms rest) =
      run (accept (Json.limited st.length
        (.object (acc.reverse ++ Json.keptMembers (st.length + 1) ms)))
          { s with stack := st }) rest := by
  -- On the members that are left, as for lists.
  induction ms generalizing s acc before with
  | nil =>
      have hclose : step s '\x7d' = close s := by
        rw [step_between hb]
        change feed .closeObject s = _
        unfold feed
        rw [he, hs]
      rw [Json.Layout.members, run_blanks hb (l.gap_blank n), run_cons, hclose, close_of_stack hs,
        Json.keptMembers, List.append_nil, Frame.whole]
  | cons m ms ih =>
      rcases m with ⟨name, j⟩
      have hcomma : step s ',' = { s with expected := .name } := by
        rw [step_between hb]
        change feed .comma s = _
        unfold feed
        rw [he, hs]
      have hbetween : IsBetween { s with expected := .name } := ⟨hb.mode, hb.result⟩
      have htail := @ih (fun i hi => h i (List.mem_cons_of_mem _ hi))
        { s with
          expected := .commaOrEnd
          stack := .object ((name, j.kept (st.length + 1)) :: acc) (some "") :: st }
        ((name, j.kept (st.length + 1)) :: acc) (some "") ⟨hb.mode, hb.result⟩ rfl rfl
      have hmember := @run_member l name j (h (name, j) List.mem_cons_self)
        { s with expected := .name } acc before st hbetween (Or.inl rfl) hs (n + 1)
        (l.members n ms rest) (ends_members n ms rest)
      rw [Json.Layout.members, run_cons, hcomma, run_blanks hbetween (l.gap_blank _), hmember]
      refine htail.trans ?_
      rw [Json.keptMembers, List.reverse_cons, List.append_assoc, List.singleton_append]
      exact congrArg (run · rest) (accept_expected _ { s with stack := st } _)

theorem reads_list {js : List Json} (h : ∀ j ∈ js, Reads l j) : Reads l (.list js) := by
  intro n s rest hs _
  have hopen : step s '[' = { s with stack := .list [] :: s.stack, expected := .itemOrEnd } := by
    rw [step_between hs.toIsBetween, ← feed_openList hs]
    rfl
  have hready : IsReady { s with stack := .list [] :: s.stack, expected := .itemOrEnd } :=
    ⟨⟨hs.mode, hs.result⟩, Or.inr rfl⟩
  -- The first item is not preceded by a comma, so it is read apart from the others.
  cases js with
  | nil =>
      have hclose : step { s with stack := .list [] :: s.stack, expected := .itemOrEnd } ']' =
          close { s with stack := .list [] :: s.stack, expected := .itemOrEnd } := by
        rw [step_between hready.toIsBetween]
        rfl
      rw [Json.Layout.chars, run_cons, run_cons, hopen, hclose, close_of_stack rfl]
      exact congrArg (run · rest) (accept_expected _ s _)
  | cons j js =>
      have htail := @run_items l js (fun i hi => h i (List.mem_cons_of_mem j hi))
        { s with
          expected := .commaOrEnd
          stack := .list [j.kept (s.stack.length + 1)] :: s.stack }
        [j.kept (s.stack.length + 1)] s.stack ⟨hs.mode, hs.result⟩ rfl rfl n rest
      rw [Json.Layout.chars, run_cons, hopen, run_blanks hready.toIsBetween (l.gap_blank _),
        h j List.mem_cons_self _ _ _ hready (ends_items n js rest)]
      exact htail.trans (congrArg (run · rest) (accept_expected _ s _))

theorem reads_object {ms : Json.Members} (h : ∀ m ∈ ms, Reads l m.2) : Reads l (.object ms) := by
  intro n s rest hs _
  have hopen : step s '\x7b' =
      { s with stack := .object [] (some "") :: s.stack, expected := .nameOrEnd } := by
    rw [step_between hs.toIsBetween, ← feed_openObject hs]
    rfl
  have hbetween : IsBetween
      { s with stack := .object [] (some "") :: s.stack, expected := .nameOrEnd } :=
    ⟨hs.mode, hs.result⟩
  -- The first member is not preceded by a comma either.
  cases ms with
  | nil =>
      have hclose :
          step { s with stack := .object [] (some "") :: s.stack, expected := .nameOrEnd } '\x7d' =
          close { s with stack := .object [] (some "") :: s.stack, expected := .nameOrEnd } := by
        rw [step_between hbetween]
        rfl
      rw [Json.Layout.chars, run_cons, run_cons, hopen, hclose, close_of_stack rfl]
      exact congrArg (run · rest) (accept_expected _ s _)
  | cons m ms =>
      rcases m with ⟨name, j⟩
      have hmember := @run_member l name j (h (name, j) List.mem_cons_self)
        { s with stack := .object [] (some "") :: s.stack, expected := .nameOrEnd }
        [] (some "") s.stack hbetween (Or.inr rfl) rfl (n + 1) (l.members n ms rest)
        (ends_members n ms rest)
      have htail := @run_members l ms (fun i hi => h i (List.mem_cons_of_mem _ hi))
        { s with
          expected := .commaOrEnd
          stack := .object [(name, j.kept (s.stack.length + 1))] (some "") :: s.stack }
        [(name, j.kept (s.stack.length + 1))] (some "") s.stack ⟨hs.mode, hs.result⟩ rfl rfl n rest
      rw [Json.Layout.chars, run_cons, hopen, run_blanks hbetween (l.gap_blank _), hmember]
      exact htail.trans (congrArg (run · rest) (accept_expected _ s _))

/-- A plain tree that is written is read as what a reader keeps of it. -/
theorem reads_of_isPlain {j : Json} (h : j.IsPlain) : Reads l j := by
  induction h with
  | null => exact fun n s rest hs _ => run_null hs rest
  | bool b => exact fun n s rest hs _ => run_bool hs b rest
  | int h =>
      intro n s rest hs hends
      rcases Decimal.Parts.exists_toString_eq_int h with ⟨p, hp, htext, hread⟩
      have hrun := run_number hs hp hends
      rw [numberValue, hread, ← htext] at hrun
      exact hrun
  | real hn hr =>
      intro n s rest hs hends
      rcases Decimal.Parts.exists_write_eq_real hn hr with ⟨p, hp, htext, hread⟩
      have hrun := run_number hs hp hends
      rw [numberValue, hread, ← htext] at hrun
      exact hrun
  | nonFinite name => exact fun n s rest hs _ => run_null hs rest
  | text t =>
      intro n s rest hs _
      have hquote : mayQuote s.expected = true := by
        rcases hs.expected with he | he
        · rw [he]; rfl
        · rw [he]; rfl
      have hrun := run_quote hs.toIsBetween hquote t rest
      rw [feed_quoted hs] at hrun
      exact hrun
  | list _ ih => exact reads_list ih
  | object _ ih => exact reads_object ih

end Reader

namespace Json

variable {j : Json}

/-- A plain tree in any layout is read as what a reader keeps of it. -/
theorem read_chars (h : IsPlain j) (l : Layout) :
    Json.read (String.ofList (l.chars 0 j [])) = ⟨j.kept 0, false⟩ := by
  have hready : Reader.IsReady Reader.start := ⟨⟨rfl, rfl⟩, Or.inl rfl⟩
  have hrun := Reader.reads_of_isPlain (l := l) h 0 Reader.start [] hready fun c hc => by cases hc
  -- Reading begins where a value may come, with nothing around it.
  have hread : Json.read (String.ofList (l.chars 0 j [])) =
      Reader.run Reader.start (l.chars 0 j []) := by
    rw [Json.read, String.toList_ofList]
    rfl
  rw [hread, hrun]
  rfl

/-- A plain tree that is written on one line is read as what a document holds of it, if it is
    not nested too deep. -/
theorem read_compact (h : IsPlain j) (hd : j.depth ≤ depthLimit) :
    Json.read j.compact = ⟨j.held, false⟩ := by
  rw [compact, compactChars_eq 0, read_chars h, kept_eq_held j (by omega)]

/-- An indented plain tree is read as what a reader keeps of it. -/
theorem read_pretty (h : IsPlain j) : Json.read j.pretty = ⟨j.kept 0, false⟩ := by
  rw [pretty, prettyChars_eq, read_chars h]

end Json

end Playfield
