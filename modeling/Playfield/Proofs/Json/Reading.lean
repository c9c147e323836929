import Mathlib
import Playfield.Json.Reader
import Playfield.Proofs.Decimal.Document
import Playfield.Proofs.Json.Plain

/-!
# Reading Tokens That Were Written

A token that stands in front of the rest of a text is read as what it was written from.

The reader is a machine that moves from character to character. So the claim about a
token is a claim about the machine: where the token may come, its characters bring the
machine to where it would be had it been handed the value. Words and quoted texts say
themselves where they end. A number does not, so what follows must not continue it
(`Ends`).

## Main definitions

* `Reader.run`: What the machine makes of the rest of a text.
* `Reader.IsReady`: A value may come next.
* `Reader.Ends`: No number goes on in front of this text.

## Theorems

* `Reader.run_null`, `Reader.run_bool`: Words.
* `Reader.run_number`, `Reader.run_quote`: Tokens that are taken character by
  character.
-/

namespace Playfield

namespace Reader

/-- What the machine makes of the rest of a text. -/
def run (s : State) (cs : List Char) : Document := finish (cs.foldl step s)

theorem run_cons (s : State) (c : Char) (cs : List Char) :
    run s (c :: cs) = run (step s c) cs := rfl

theorem run_append (s : State) (cs ds : List Char) :
    run s (cs ++ ds) = run (cs.foldl step s) ds := by
  rw [run, run, List.foldl_append]

/-- The machine stands between two tokens and has not stopped. -/
structure IsBetween (s : State) : Prop where
  mode : s.mode = .between
  result : s.result = none

/-- A value may come next. -/
structure IsReady (s : State) : Prop extends IsBetween s where
  expected : s.expected = .value ∨ s.expected = .itemOrEnd

theorem step_between {s : State} (h : IsBetween s) (c : Char) : step s c = stepBetween c s := by
  rw [step, h.result, h.mode]
  rfl

/-- The characters that may stand between any two tokens. -/
def blanks : List Char := [' ', '\n', '\t', '\r']

/-- The text ends, or a character comes that stands between values. -/
def Ends (cs : List Char) : Prop := ∀ c ∈ cs.head?, c ∈ [',', ']', '\x7d'] ++ blanks

theorem between_eq {s : State} (h : IsBetween s) : { s with mode := .between } = s := by
  rcases s with ⟨mode, stack, expected, result⟩
  obtain rfl : mode = .between := h.mode
  rfl

theorem isBetween_accept {s : State} (h : IsBetween s) (j : Json) : IsBetween (accept j s) := by
  unfold accept
  split
  · exact ⟨h.mode, h.result⟩
  · exact ⟨h.mode, h.result⟩

theorem feed_leaf {s : State} (h : IsReady s) (j : Json) : feed (.leaf j) s = accept j s := by
  unfold feed
  rcases h.expected with he | he
  · rw [he]; rfl
  · rw [he]; rfl

theorem feed_quoted {s : State} (h : IsReady s) (t : String) :
    feed (.quoted (some t)) s = accept (.text t) s := by
  unfold feed
  rcases h.expected with he | he
  · rw [he]; rfl
  · rw [he]; rfl

theorem feed_openList {s : State} (h : IsReady s) :
    feed .openList s = { s with stack := .list [] :: s.stack, expected := .itemOrEnd } := by
  unfold feed
  rcases h.expected with he | he
  · rw [he]; rfl
  · rw [he]; rfl

theorem feed_openObject {s : State} (h : IsReady s) :
    feed .openObject s =
      { s with stack := .object [] (some "") :: s.stack, expected := .nameOrEnd } := by
  unfold feed
  rcases h.expected with he | he
  · rw [he]; rfl
  · rw [he]; rfl

/-- The characters with which neither a word nor a number begins. -/
def marks : List Char := [' ', '\n', '\t', '\r', '[', ']', '\x7b', '\x7d', ',', ':', '"']

theorem step_opening {s : State} (h : IsReady s) {c : Char} (hc : c ∉ marks) {m : Mode}
    (hm : opening? c = some m) : step s c = { s with mode := m } := by
  -- Where a value may come, a word or a number may begin.
  have hword : mayWord s.expected = true := by
    rcases h.expected with he | he
    · rw [he]; rfl
    · rw [he]; rfl
  rw [step_between h.toIsBetween]
  -- None of the characters that are looked for first has come.
  simp only [marks, List.mem_cons, List.not_mem_nil, or_false, not_or] at hc
  unfold stepBetween
  simp only [hc, or_self, if_false]
  rw [hword, hm]

/-! ## Words -/

theorem run_word {s : State} (hr : s.result = none) (j : Json) {left : List Char} (rest : List Char)
    (hne : left ≠ []) :
    run { s with mode := .word left j } (left ++ rest) =
      run (feed (.leaf j) { s with mode := .between }) rest := by
  induction left with
  | nil => exact absurd rfl hne
  | cons c cs ih =>
      have hstep : step { s with mode := .word (c :: cs) j } c =
          stepWord c (c :: cs) j { s with mode := .word (c :: cs) j } := by
        rw [step, hr]
        rfl
      rw [List.cons_append, run_cons, hstep]
      cases cs with
      | nil => rw [stepWord, if_pos rfl]; rfl
      | cons d ds =>
          rw [stepWord, if_pos rfl]
          · exact ih (List.cons_ne_nil d ds)
          · exact fun hc => by cases hc

theorem run_literal {s : State} (h : IsReady s) {c : Char} {left : List Char} {j : Json}
    (rest : List Char) (hc : c ∉ marks) (hm : opening? c = some (.word left j)) (hne : left ≠ []) :
    run s (c :: (left ++ rest)) = run (accept j s) rest := by
  rw [run_cons, step_opening h hc hm, run_word h.result j rest hne, between_eq h.toIsBetween,
    feed_leaf h]

theorem run_null {s : State} (h : IsReady s) (rest : List Char) :
    run s ("null".toList ++ rest) = run (accept .null s) rest :=
  run_literal h rest (by decide) rfl (by decide)

theorem run_bool {s : State} (h : IsReady s) (b : Bool) (rest : List Char) :
    run s ((if b then "true" else "false").toList ++ rest) = run (accept (.bool b) s) rest := by
  cases b with
  | true => exact run_literal h rest (by decide) rfl (by decide)
  | false => exact run_literal h rest (by decide) rfl (by decide)

/-! ## Numbers -/

theorem step_number {s : State} (hr : s.result = none) (p : Decimal.Phase) (reversed : List Char)
    (c : Char) : step { s with mode := .number p reversed } c =
      stepNumber c p reversed { s with mode := .number p reversed } := by
  rw [step, hr]
  rfl

theorem foldl_number {s : State} (hr : s.result = none) {p q : Decimal.Phase} {cs : List Char}
    (hscan : p.scan? cs = some q) (reversed : List Char) :
    cs.foldl step { s with mode := .number p reversed } =
      { s with mode := .number q (cs.reverse ++ reversed) } := by
  -- The machine goes along with the phases, and keeps the characters in reverse.
  induction cs generalizing p reversed with
  | nil =>
      cases hscan
      rfl
  | cons c cs ih =>
      rw [Decimal.Phase.scan?] at hscan
      cases hnext : p.next? c with
      | none =>
          rw [hnext] at hscan
          cases hscan
      | some p' =>
          rw [hnext] at hscan
          have hstep : step { s with mode := .number p reversed } c =
              { s with mode := .number p' (c :: reversed) } := by
            rw [step_number hr, stepNumber, hnext]
          rw [List.foldl_cons, hstep, ih hscan, List.reverse_cons, List.append_assoc]
          rfl

theorem isDigit_of_ends : ∀ c ∈ [',', ']', '\x7d'] ++ blanks,
    Decimal.isDigit c = false ∧ c ≠ '.' ∧ ¬ (c = 'e' ∨ c = 'E') := by
  simp [blanks, Decimal.isDigit]

/-- A number is complete where it is followed by what stands between values. -/
theorem run_endOfNumber {s : State} (h : IsReady s) {q : Decimal.Phase} (hq : q.isComplete = true)
    (reversed : List Char) {rest : List Char} (hends : Ends rest) :
    run { s with mode := .number q reversed } rest =
      run (accept (numberValue reversed.reverse) s) rest := by
  have hfeed : feed (.leaf (numberValue reversed.reverse)) { s with mode := .between } =
      accept (numberValue reversed.reverse) s := by
    rw [between_eq h.toIsBetween, feed_leaf h]
  -- Either the text ends here, or the next character is no part of the number and is read again
  -- by the machine between two tokens.
  have hbetween := isBetween_accept h.toIsBetween (numberValue reversed.reverse)
  cases rest with
  | nil =>
      have hend : atEnd { s with mode := .number q reversed } =
          accept (numberValue reversed.reverse) s := by
        rw [← hfeed, atEnd]
        dsimp only
        rw [if_pos hq]
      have hstay : atEnd (accept (numberValue reversed.reverse) s) =
          accept (numberValue reversed.reverse) s := by
        rw [atEnd, hbetween.mode]
      have hnone : ({ s with mode := .number q reversed } : State).result = none := h.result
      rw [run, run, List.foldl_nil, List.foldl_nil, finish, finish, hend, hstay, hnone,
        hbetween.result]
      rfl
  | cons c cs =>
      rcases isDigit_of_ends c (hends c rfl) with ⟨hdigit, hpoint, hmark⟩
      rcases Decimal.Parts.next?_of_stop hq hdigit hpoint hmark with ⟨hnext, hbefore⟩
      rw [run_cons, run_cons, step_number h.result, stepNumber, hnext, step_between hbetween]
      dsimp only
      rw [if_pos hbefore, hfeed]

theorem opening_of_digit {c : Char} (hc : c = '-' ∨ Decimal.isDigit c = true) :
    c ∉ marks ∧ opening? c = (Decimal.Phase.start? c).map fun p => .number p [c] := by
  rcases hc with rfl | hc
  · exact ⟨by decide, rfl⟩
  · -- No mark is a digit, and no word begins with one.
    have hmarks : ∀ d ∈ marks, Decimal.isDigit d = false := by simp [marks, Decimal.isDigit]
    refine ⟨fun hmem => ?_, ?_⟩
    · rw [hmarks c hmem] at hc
      cases hc
    · unfold opening?
      split
      · cases hc
      · cases hc
      · cases hc
      · rfl

theorem run_number {s : State} (h : IsReady s) {p : Decimal.Parts} (hp : p.IsDocument)
    {rest : List Char} (hends : Ends rest) :
    run s (p.toChars ++ rest) = run (accept (numberValue p.toChars) s) rest := by
  rcases Decimal.Parts.scan?_toChars hp with ⟨c, cs, q, hcs, hstart, hscan⟩
  have hc : c = '-' ∨ Decimal.isDigit c = true := by
    rw [← Decimal.Phase.start?_eq_some_iff, hstart]
    rfl
  rcases opening_of_digit hc with ⟨hmark, hopening⟩
  rw [hstart] at hopening
  rw [hcs, List.cons_append, run_cons, step_opening h hmark hopening, run_append,
    foldl_number h.result hscan, run_endOfNumber h (Decimal.Parts.isComplete_lastPhase p) _ hends]
  simp

/-! ## Quoted texts -/

theorem step_quoted {s : State} (hr : s.result = none) (cs : List Char) (escape : Escape)
    (high : Option Nat) (lone : Bool) (c : Char) :
    step { s with mode := .quoted cs escape high lone } c =
      stepQuoted c cs escape high lone { s with mode := .quoted cs escape high lone } := by
  rw [step, hr]
  rfl

/-- The machine between two characters of a quoted text, of which the last is in front. -/
def inQuotes (s : State) (cs : List Char) : State := { s with mode := .quoted cs .none none false }

theorem foldl_escape {s : State} (hr : s.result = none) (cs : List Char) {e c : Char}
    (hu : e ≠ 'u') (he : escaped? e = some c) :
    ['\\', e].foldl step (inQuotes s cs) = inQuotes s (c :: cs) := by
  have hslash : step (inQuotes s cs) '\\' =
      { s with mode := .quoted cs .backslash none false } := by
    rw [inQuotes, step_quoted hr]
    rfl
  rw [List.foldl_cons, hslash, List.foldl_cons, List.foldl_nil, step_quoted hr, stepQuoted,
    if_neg hu, he]
  rfl

/-- A digit of a code unit. -/
theorem hexValue?_digitChar : ∀ d < 16, hexValue? (Nat.digitChar d) = some d ∧
    (Nat.digitChar d).utf8Size = 1 := by decide

theorem step_unit {s : State} (hr : s.result = none) (cs : List Char) {missing value d : Nat}
    (hd : d < 16) (hm : 1 < missing) :
    step { s with mode := .quoted cs (.unit missing (some value)) none false } (Nat.digitChar d) =
      { s with mode := .quoted cs (.unit (missing - 1) (some (16 * value + d))) none false } := by
  rcases hexValue?_digitChar d hd with ⟨hvalue, hsize⟩
  rw [step_quoted hr]
  unfold stepQuoted
  rw [hvalue, hsize]
  dsimp only
  rw [if_pos hm]

theorem step_lastUnit {s : State} (hr : s.result = none) (cs : List Char) {value d : Nat}
    (hd : d < 16) :
    step { s with mode := .quoted cs (.unit 1 (some value)) none false } (Nat.digitChar d) =
      { s with mode := addUnit (16 * value + d) cs none false } := by
  rcases hexValue?_digitChar d hd with ⟨hvalue, hsize⟩
  rw [step_quoted hr]
  unfold stepQuoted
  rw [hvalue, hsize]
  rfl

theorem foldl_control {s : State} (hr : s.result = none) (cs : List Char) {c : Char}
    (hc : c.toNat < 0x20) :
    ['\\', 'u', '0', '0', Nat.digitChar (c.toNat / 16), Nat.digitChar (c.toNat % 16)].foldl step
      (inQuotes s cs) = inQuotes s (c :: cs) := by
  have hslash : step (inQuotes s cs) '\\' =
      { s with mode := .quoted cs .backslash none false } := by
    rw [inQuotes, step_quoted hr]
    rfl
  have hu : step { s with mode := .quoted cs .backslash none false } 'u' =
      { s with mode := .quoted cs (.unit 4 (some 0)) none false } := by
    rw [step_quoted hr]
    rfl
  -- The two digits that are written are those of the code unit.
  have hunit : 16 * (16 * (16 * (16 * 0 + 0) + 0) + c.toNat / 16) + c.toNat % 16 = c.toNat := by
    omega
  have hadd : addUnit c.toNat cs none false = .quoted (c :: cs) .none none false := by
    rw [addUnit, if_neg (by omega)]
    dsimp only
    rw [if_neg (by omega), Char.ofNat_toNat]
    rfl
  have hzero : '0' = Nat.digitChar 0 := rfl
  simp only [List.foldl_cons, List.foldl_nil]
  rw [hslash, hu, hzero, step_unit hr cs (by norm_num) (by norm_num),
    step_unit hr cs (by norm_num) (by norm_num), step_unit hr cs (by omega) (by norm_num),
    step_lastUnit hr cs (by omega), hunit, hadd]
  rfl

/-- A character comes back from between quotes. -/
theorem foldl_quoteChar {s : State} (hr : s.result = none) (cs : List Char) (c : Char) :
    (Json.quoteChar c).foldl step (inQuotes s cs) = inQuotes s (c :: cs) := by
  unfold Json.quoteChar
  split
  · next h =>
    rcases h with rfl | rfl
    · exact foldl_escape hr cs (by decide) rfl
    · exact foldl_escape hr cs (by decide) rfl
  next h =>
  split
  · next h8 => exact foldl_escape hr cs (by decide) (h8 ▸ rfl)
  split
  · next hc => exact foldl_escape hr cs (by decide) (hc ▸ rfl)
  split
  · next hn => exact foldl_escape hr cs (by decide) (hn ▸ rfl)
  split
  · next hr' => exact foldl_escape hr cs (by decide) (hr' ▸ rfl)
  split
  · next ht => exact foldl_escape hr cs (by decide) (ht ▸ rfl)
  split
  · next hc => exact foldl_control hr cs hc
  · next hc =>
    rw [not_or] at h
    rw [List.foldl_cons, List.foldl_nil, inQuotes, step_quoted hr, stepQuoted, if_neg h.1,
      if_neg h.2, if_neg hc]
    rfl

theorem foldl_quote {s : State} (hr : s.result = none) (ds cs : List Char) :
    (ds.flatMap Json.quoteChar).foldl step (inQuotes s cs) = inQuotes s (ds.reverse ++ cs) := by
  -- The characters in front of the last one pile up in reverse.
  induction ds generalizing cs with
  | nil => rfl
  | cons d ds ih =>
      rw [List.flatMap_cons, List.foldl_append, foldl_quoteChar hr, ih, List.reverse_cons,
        List.append_assoc]
      rfl

theorem run_quote {s : State} (h : IsBetween s) (hq : mayQuote s.expected = true) (t : String)
    (rest : List Char) :
    run s (Json.quote t ++ rest) = run (feed (.quoted (some t)) s) rest := by
  -- The quotes at both ends, and the characters between them.
  have hopen : step s '"' = inQuotes s [] := by
    rw [step_between h]
    change (if mayQuote s.expected then inQuotes s [] else feed .bad s) = _
    rw [if_pos hq]
  have hclose : step (inQuotes s t.toList.reverse) '"' =
      feed (.quoted (some t)) { s with mode := .between } := by
    rw [inQuotes, step_quoted h.result, stepQuoted, if_pos rfl]
    dsimp only
    rw [List.reverse_reverse, String.ofList_toList]
    rfl
  rw [Json.quote, List.cons_append, run_cons, hopen, List.append_assoc, run_append,
    foldl_quote h.result, List.append_nil, List.singleton_append, run_cons, hclose, between_eq h]

end Reader

end Playfield
