import Mathlib
import Playfield.Proofs.Decimal.Normal

/-!
# Document Numbers

What a document writes for a number is read back as that number.

Writing and reading take a number apart in different ways. The layout of documents
has four forms, by how large the number is; reading knows a grammar of optional
pieces and goes through it character by character. The pieces are where the two
meet: `Parts.IsDocument` says which pieces a document number may have, the text of
such pieces is scanned to its end and cut into the same pieces again, and each of
the four forms is the text of some.

## Main definitions

* `Decimal.Parts.toChars`: The text of pieces.
* `Decimal.Parts.IsDocument`: The pieces that a document number may have.
* `Decimal.Phase.scan?`: The phase after several characters.

## Theorems

* `Decimal.Parts.span_toChars`: Cutting undoes putting together.
* `Decimal.Parts.scan?_toChars`: A document number is scanned to its end.
* `Decimal.Parts.exists_write_eq_real`: A normal decimal in range is read back as it
  was written.
* `Decimal.Parts.exists_toString_eq_int`: So is an integer of 64 bits.
-/

namespace Playfield

namespace Decimal

/-- Every character is a digit. -/
def AllDigits (cs : List Char) : Prop := ∀ c ∈ cs, isDigit c = true

/-- The next character, if there is one, is none of a run of digits. -/
def StopsDigits (cs : List Char) : Prop := ∀ c ∈ cs.head?, isDigit c = false

theorem AllDigits.append {cs ds : List Char} (hc : AllDigits cs) (hd : AllDigits ds) :
    AllDigits (cs ++ ds) := fun c h => (List.mem_append.1 h).elim (hc c) (hd c)

theorem allDigits_replicate (n : Nat) : AllDigits (List.replicate n '0') := by
  intro c h
  rw [List.eq_of_mem_replicate h]
  rfl

theorem allDigits_toDigits (n : Nat) : AllDigits (Nat.toDigits 10 n) := by
  intro c h
  have hc := Nat.isDigit_of_mem_toDigits (by norm_num) (by norm_num) h
  simpa [isDigit, Char.isDigit, Char.le_def] using hc

theorem spanDigits_append {ds rest : List Char} (hd : AllDigits ds) (hr : StopsDigits rest) :
    spanDigits (ds ++ rest) = (ds, rest) := by
  have htake : rest.takeWhile isDigit = [] := by
    cases rest with
    | nil => rfl
    | cons c cs => rw [List.takeWhile_cons, hr c rfl]; rfl
  have hdrop : rest.dropWhile isDigit = rest := by
    cases rest with
    | nil => rfl
    | cons c cs => rw [List.dropWhile_cons, hr c rfl]; rfl
  rw [spanDigits, List.takeWhile_append_of_pos hd, List.dropWhile_append_of_pos hd, htake, hdrop,
    List.append_nil]

theorem ofDigits_eq (cs : List Char) : ofDigits cs = Nat.ofDigitChars 10 cs 0 :=
  Nat.ofDigitChars_eq_foldl.symm

theorem ofDigits_toDigits (n : Nat) : ofDigits (Nat.toDigits 10 n) = n := by
  rw [ofDigits_eq, Nat.ofDigitChars_ten_toDigits]

theorem ofDigits_append_replicate (cs : List Char) (n : Nat) :
    ofDigits (cs ++ List.replicate n '0') = ofDigits cs * 10 ^ n := by
  rw [ofDigits_eq, Nat.ofDigitChars_append, Nat.ofDigitChars_replicate_zero, ← ofDigits_eq,
    mul_comm]

theorem ofDigits_replicate_append (cs : List Char) (n : Nat) :
    ofDigits (List.replicate n '0' ++ cs) = ofDigits cs := by
  rw [ofDigits_eq, Nat.ofDigitChars_append, Nat.ofDigitChars_replicate_zero, mul_zero,
    ← ofDigits_eq]

namespace Parts

/-- A sign as it stands in front of digits. -/
def signChars : Option Bool → List Char
  | none => []
  | some true => ['-']
  | some false => ['+']

/-- A fraction behind its point. -/
def fractionChars : Option (List Char) → List Char
  | none => []
  | some f => '.' :: f

/-- A power behind its mark. -/
def powerChars (sign : Option Bool) : Option (List Char) → List Char
  | none => []
  | some ds => 'e' :: (signChars sign ++ ds)

/-- The text that is cut into the pieces. -/
def toChars (p : Parts) : List Char :=
  signChars p.sign ++ (p.whole ++ (fractionChars p.fraction ++ powerChars p.powerSign p.power))

/-- The pieces of a number as documents write it. -/
structure IsDocument (p : Parts) : Prop where
  sign : p.sign ≠ some false
  whole : p.whole = ['0'] ∨
    ∃ c cs, p.whole = c :: cs ∧ c ≠ '0' ∧ isDigit c = true ∧ AllDigits cs
  fraction : ∀ f ∈ p.fraction, f ≠ [] ∧ AllDigits f
  power : ∀ ds ∈ p.power, ds ≠ [] ∧ AllDigits ds
  powerSign : p.power = none → p.powerSign = none

theorem spanSign_append {s : Option Bool} {rest : List Char}
    (h : ∀ c ∈ rest.head?, isDigit c = true) : spanSign (signChars s ++ rest) = (s, rest) := by
  rcases s with _ | _ | _
  · cases rest with
    | nil => rfl
    | cons c cs =>
        have hc := h c rfl
        unfold spanSign signChars
        split
        · next heq =>
          rw [List.nil_append, List.cons.injEq] at heq
          rw [heq.1] at hc
          cases hc
        · next heq =>
          rw [List.nil_append, List.cons.injEq] at heq
          rw [heq.1] at hc
          cases hc
        · rfl
  · rfl
  · rfl

theorem IsDocument.whole_spec {p : Parts} (h : p.IsDocument) :
    p.whole ≠ [] ∧ AllDigits p.whole := by
  rcases h.whole with h0 | ⟨c, cs, hw, -, hc, hcs⟩
  · rw [h0]
    exact ⟨by simp, by simp [AllDigits, isDigit]⟩
  · rw [hw]
    exact ⟨by simp, fun d hd => (List.mem_cons.1 hd).elim (fun e => e ▸ hc) (hcs d)⟩

theorem head?_append_of_digits {cs rest : List Char} (hne : cs ≠ []) (hd : AllDigits cs) :
    ∀ c ∈ (cs ++ rest).head?, isDigit c = true := by
  intro c hc
  cases cs with
  | nil => exact absurd rfl hne
  | cons d ds =>
      rw [List.cons_append, List.head?_cons, Option.mem_some_iff] at hc
      exact hc ▸ hd d List.mem_cons_self

theorem stopsDigits_powerChars (s : Option Bool) (ds : Option (List Char)) :
    StopsDigits (powerChars s ds) := by
  cases ds with
  | none => intro c hc; cases hc
  | some ds =>
      intro c hc
      rw [powerChars, List.head?_cons, Option.mem_some_iff] at hc
      rw [← hc]
      rfl

theorem stopsDigits_tail (p : Parts) :
    StopsDigits (fractionChars p.fraction ++ powerChars p.powerSign p.power) := by
  cases p.fraction with
  | none => exact stopsDigits_powerChars _ _
  | some f =>
      intro c hc
      rw [fractionChars, List.cons_append, List.head?_cons, Option.mem_some_iff] at hc
      rw [← hc]
      rfl

/-- The last cut, which takes the power if there is one. -/
def cutPower (sign : Option Bool) (whole : List Char) (fraction : Option (List Char)) :
    List Char → Parts × List Char
  | [] => (⟨sign, whole, fraction, none, none⟩, [])
  | c :: cs =>
    if c = 'e' ∨ c = 'E' then
      (⟨sign, whole, fraction, (spanSign cs).1, some (spanDigits (spanSign cs).2).1⟩,
        (spanDigits (spanSign cs).2).2)
    else (⟨sign, whole, fraction, none, none⟩, c :: cs)

theorem cutPower_powerChars {p : Parts} (h : p.IsDocument) :
    cutPower p.sign p.whole p.fraction (powerChars p.powerSign p.power) = (p, []) := by
  rcases p with ⟨sign, whole, fraction, powerSign, power⟩
  cases power with
  | none =>
      obtain rfl : powerSign = none := h.powerSign rfl
      rfl
  | some ds =>
      rcases h.power ds rfl with ⟨hnil, hall⟩
      -- Nothing follows the power, so its digits are all that is left to be cut.
      have hhead := @head?_append_of_digits ds [] hnil hall
      have hspan := @spanDigits_append ds [] hall (by intro c hc; cases hc)
      rw [List.append_nil] at hhead hspan
      rw [powerChars, cutPower, if_pos (Or.inl rfl), spanSign_append hhead]
      dsimp only
      rw [hspan]

/-- A document number is cut into the pieces that it was put together from. -/
theorem span_toChars {p : Parts} (h : p.IsDocument) : span p.toChars = (p, []) := by
  rcases h.whole_spec with ⟨hne, hdig⟩
  -- The digits of the whole part end where the point, the mark or nothing follows.
  have hstop := stopsDigits_tail p
  have hcut := cutPower_powerChars h
  unfold span toChars
  rw [spanSign_append (head?_append_of_digits hne hdig)]
  dsimp only
  rw [spanDigits_append hdig hstop]
  dsimp only
  cases hf : p.fraction with
  | some f =>
      have hspan : spanDigits (f ++ powerChars p.powerSign p.power) =
          (f, powerChars p.powerSign p.power) :=
        spanDigits_append (h.fraction f hf).2 (stopsDigits_powerChars _ _)
      change cutPower p.sign p.whole (some (spanDigits (f ++ powerChars p.powerSign p.power)).1)
        (spanDigits (f ++ powerChars p.powerSign p.power)).2 = _
      rw [hspan, ← hf]
      exact hcut
  | none =>
      rw [hf] at hcut
      rw [fractionChars, List.nil_append]
      cases hp : p.power with
      | none =>
          rw [hp] at hcut
          exact hcut
      | some ds =>
          rw [hp] at hcut
          exact hcut

end Parts

namespace Phase

/-- The phase after more characters, if the number goes on with all of them. -/
def scan? : Phase → List Char → Option Phase
  | p, [] => some p
  | p, c :: cs => (p.next? c).bind (scan? · cs)

theorem scan?_append (p : Phase) (cs ds : List Char) :
    p.scan? (cs ++ ds) = (p.scan? cs).bind (scan? · ds) := by
  induction cs generalizing p with
  | nil => rfl
  | cons c cs ih =>
      rw [List.cons_append, scan?, scan?]
      cases p.next? c with
      | none => rfl
      | some q => exact ih q

/-- A run of digits goes on until something else comes. -/
theorem scan?_digits {p : Phase} (hp : p = .whole ∨ p = .fraction ∨ p = .power) {cs : List Char}
    (h : AllDigits cs) : p.scan? cs = some p := by
  induction cs with
  | nil => rfl
  | cons c cs ih =>
      have hc := h c List.mem_cons_self
      have hnext : p.next? c = some p := by
        rcases hp with rfl | rfl | rfl
        · rw [next?, if_pos hc]
        · rw [next?, if_pos hc]
        · rw [next?, if_pos hc]
      rw [scan?, hnext]
      exact ih fun d hd => h d (List.mem_cons_of_mem c hd)

theorem scan?_of_next {p q : Phase} (hq : q = .whole ∨ q = .fraction ∨ q = .power)
    {cs : List Char} (hne : cs ≠ []) (h : AllDigits cs)
    (hnext : ∀ c, isDigit c = true → p.next? c = some q) : p.scan? cs = some q := by
  cases cs with
  | nil => exact absurd rfl hne
  | cons c cs =>
      rw [scan?, hnext c (h c List.mem_cons_self)]
      exact scan?_digits hq fun d hd => h d (List.mem_cons_of_mem c hd)

end Phase

namespace Parts

/-- The phase in which a document number ends. -/
def lastPhase (p : Parts) : Phase :=
  match p.power, p.fraction with
  | some _, _ => .power
  | none, some _ => .fraction
  | none, none => if p.whole = ['0'] then .zero else .whole

theorem scan?_fractionChars {p : Parts} (h : p.IsDocument) {q : Phase}
    (hpoint : q.next? '.' = some .point) :
    q.scan? (fractionChars p.fraction) = some (if p.fraction.isSome then .fraction else q) := by
  cases hf : p.fraction with
  | none => rfl
  | some f =>
      rcases h.fraction f hf with ⟨hne, hall⟩
      rw [fractionChars, Phase.scan?, hpoint]
      exact Phase.scan?_of_next (Or.inr (Or.inl rfl)) hne hall fun c hc => by
        rw [Phase.next?, if_pos hc]

theorem scan?_powerChars {p : Parts} (h : p.IsDocument) {q : Phase}
    (hmark : q.next? 'e' = some .mark) :
    q.scan? (powerChars p.powerSign p.power) = some (if p.power.isSome then .power else q) := by
  cases hp : p.power with
  | none => rfl
  | some ds =>
      rcases h.power ds hp with ⟨hne, hall⟩
      rw [powerChars, Phase.scan?, hmark]
      -- With a sign or without one, the digits lead into the phase of the power.
      have hsigned : Phase.scan? .powerSign ds = some .power :=
        Phase.scan?_of_next (Or.inr (Or.inr rfl)) hne hall fun c hc => by
          rw [Phase.next?, if_pos hc]
      rcases p.powerSign with _ | _ | _
      · refine Phase.scan?_of_next (Or.inr (Or.inr rfl)) hne hall fun c hc => ?_
        have hsign : ¬ (c = '+' ∨ c = '-') := by
          rintro (rfl | rfl)
          · cases hc
          · cases hc
        rw [Phase.next?, if_neg hsign, if_pos hc]
      · exact hsigned
      · exact hsigned

/-- The phase behind the digits in front of the point. -/
def wholePhase (p : Parts) : Phase := if p.whole = ['0'] then .zero else .whole

theorem scan?_tail {p : Parts} (h : p.IsDocument) :
    p.wholePhase.scan? (fractionChars p.fraction ++ powerChars p.powerSign p.power) =
      some p.lastPhase := by
  have hwhole : p.wholePhase = .zero ∨ p.wholePhase = .whole := by
    unfold wholePhase
    split
    · exact Or.inl rfl
    · exact Or.inr rfl
  have hpoint : p.wholePhase.next? '.' = some .point := by
    rcases hwhole with hw | hw
    · rw [hw]; rfl
    · rw [hw]; rfl
  -- A power may begin behind a fraction and behind the whole part alike.
  have hmark : (if p.fraction.isSome then Phase.fraction else p.wholePhase).next? 'e' =
      some .mark := by
    split
    · rfl
    · rcases hwhole with hw | hw
      · rw [hw]; rfl
      · rw [hw]; rfl
  rw [Phase.scan?_append, scan?_fractionChars h hpoint, Option.bind_some,
    scan?_powerChars h hmark]
  unfold lastPhase wholePhase
  cases p.power with
  | some ds => rfl
  | none =>
      cases p.fraction with
      | some f => rfl
      | none => rfl

theorem scan?_whole {p : Parts} (h : p.IsDocument) :
    ∃ c cs, p.whole = c :: cs ∧ Phase.start? c = Phase.sign.next? c ∧
      ∃ q, Phase.start? c = some q ∧ q.scan? cs = some p.wholePhase := by
  unfold wholePhase
  rcases h.whole with hw | ⟨c, cs, hw, h0, hc, hcs⟩
  · refine ⟨'0', [], hw, rfl, .zero, rfl, ?_⟩
    rw [if_pos hw]
    rfl
  · have hminus : c ≠ '-' := by
      rintro rfl
      cases hc
    have hstart : Phase.start? c = some .whole := by
      rw [Phase.start?, if_neg hminus, if_neg h0, if_pos hc]
    have hnext : Phase.sign.next? c = some .whole := by
      rw [Phase.next?, if_neg h0, if_pos hc]
    refine ⟨c, cs, hw, hstart.trans hnext.symm, .whole, hstart, ?_⟩
    rw [if_neg (fun hz => h0 (by rw [hw, List.cons.injEq] at hz; exact hz.1))]
    exact Phase.scan?_digits (Or.inl rfl) hcs

/-- The machine of phases takes a document number to its end. -/
theorem scan?_toChars {p : Parts} (h : p.IsDocument) :
    ∃ c cs q, p.toChars = c :: cs ∧ Phase.start? c = some q ∧ q.scan? cs = some p.lastPhase := by
  rcases scan?_whole h with ⟨c, cs, hw, hsign, q, hstart, hscan⟩
  have hrest : q.scan? (cs ++ (fractionChars p.fraction ++ powerChars p.powerSign p.power)) =
      some p.lastPhase := by
    rw [Phase.scan?_append, hscan]
    exact scan?_tail h
  unfold toChars
  rw [hw]
  cases hs : p.sign with
  | none => exact ⟨c, _, q, rfl, hstart, hrest⟩
  | some negative =>
      cases negative with
      | false => exact absurd hs h.sign
      | true =>
          refine ⟨'-', c :: (cs ++ (fractionChars p.fraction ++ powerChars p.powerSign p.power)),
            .sign, rfl, rfl, ?_⟩
          rw [Phase.scan?, ← hsign, hstart]
          exact hrest

/-- A complete number ends in front of a character that is no part of any number. -/
theorem next?_of_stop {q : Phase} (hq : q.isComplete = true) {c : Char} (hd : isDigit c = false)
    (hpoint : c ≠ '.') (hmark : ¬ (c = 'e' ∨ c = 'E')) :
    q.next? c = none ∧ q.endsBefore c = true := by
  have hends : q.endsBefore c = true := by
    rw [Phase.endsBefore, hq, hd, Bool.and_false]
    rfl
  refine ⟨?_, hends⟩
  cases q with
  | sign => cases hq
  | point => cases hq
  | mark => cases hq
  | powerSign => cases hq
  | zero => rw [Phase.next?, if_neg hpoint, if_neg hmark]
  | whole => rw [Phase.next?, hd, if_neg (by simp), if_neg hpoint, if_neg hmark]
  | fraction => rw [Phase.next?, hd, if_neg (by simp), if_neg hmark]
  | power => rw [Phase.next?, hd, if_neg (by simp)]

theorem isComplete_lastPhase (p : Parts) : p.lastPhase.isComplete = true := by
  unfold lastPhase
  split
  · rfl
  · rfl
  · split
    · rfl
    · rfl

/-- The digits of a number that is not zero do not begin with a zero. -/
theorem toDigits_of_pos {n : Nat} (h : 0 < n) :
    ∃ c cs, Nat.toDigits 10 n = c :: cs ∧ c ≠ '0' ∧ isDigit c = true ∧ AllDigits cs := by
  -- The first digit of a number is that of its tenth, as long as there is one.
  have hall := allDigits_toDigits n
  have hhead : ∃ c cs, Nat.toDigits 10 n = c :: cs ∧ c ≠ '0' := by
    induction n using Nat.strong_induction_on with
    | _ n ih =>
      rcases Nat.lt_or_ge n 10 with hlt | hge
      · refine ⟨Nat.digitChar n, [], Nat.toDigits_of_lt_base hlt, ?_⟩
        rw [Ne, Nat.digitChar_eq_zero]
        omega
      · rcases ih (n / 10) (by omega) (by omega) (allDigits_toDigits _) with ⟨c, cs, hcs, hc⟩
        refine ⟨c, cs ++ [Nat.digitChar (n % 10)], ?_, hc⟩
        rw [Nat.toDigits_of_base_le (by norm_num) hge, hcs]
        rfl
  rcases hhead with ⟨c, cs, hcs, hc⟩
  rw [hcs] at hall
  exact ⟨c, cs, hcs, hc, hall c List.mem_cons_self, fun d hd => hall d (List.mem_cons_of_mem c hd)⟩

theorem toDigits_spec (n : Nat) : Nat.toDigits 10 n = ['0'] ∨
    ∃ c cs, Nat.toDigits 10 n = c :: cs ∧ c ≠ '0' ∧ isDigit c = true ∧ AllDigits cs := by
  rcases Nat.eq_zero_or_pos n with rfl | h
  · exact Or.inl (Nat.toDigits_zero 10)
  · exact Or.inr (toDigits_of_pos h)

/-- The pieces of a whole number. -/
def ofWhole (negative : Bool) (n : Nat) : Parts :=
  ⟨if negative then some true else none, Nat.toDigits 10 n, none, none, none⟩

theorem isDocument_ofWhole (negative : Bool) (n : Nat) : (ofWhole negative n).IsDocument := by
  refine ⟨?_, toDigits_spec n, ?_, ?_, fun _ => rfl⟩
  · cases negative with
    | false => exact fun h => by cases h
    | true => exact fun h => by cases h
  · intro f hf
    cases hf
  · intro ds hds
    cases hds

theorem toString_eq (n : Int) :
    (toString n).toList = signText (decide (n < 0)) ++ Nat.toDigits 10 n.natAbs := by
  cases n with
  | ofNat m =>
      have h : ¬ Int.ofNat m < 0 := Int.not_lt.2 (Int.natCast_nonneg m)
      rw [Int.toString_eq_repr, Int.repr, Nat.toList_repr, decide_eq_false h]
      rfl
  | negSucc m =>
      have h : Int.negSucc m < 0 := by omega
      rw [Int.toString_eq_repr, Int.repr, String.toList_append, Nat.toList_repr, decide_eq_true h]
      rfl

theorem toString_eq_toChars (n : Int) :
    (toString n).toList = (ofWhole (decide (n < 0)) n.natAbs).toChars := by
  rw [toString_eq]
  unfold ofWhole toChars
  cases decide (n < 0) with
  | false => exact (List.append_nil _).symm
  | true => exact congrArg _ (List.append_nil _).symm

/-- The pieces of a number with a fraction and no power. -/
def ofFraction (negative : Bool) (whole fraction : List Char) : Parts :=
  ⟨if negative then some true else none, whole, some fraction, none, none⟩

theorem signChars_eq (negative : Bool) :
    signChars (if negative then some true else none) = signText negative := by
  cases negative <;> rfl

theorem getD_sign (negative : Bool) :
    (if negative then some true else none).getD false = negative := by
  cases negative <;> rfl

theorem sign_ne (negative : Bool) : (if negative then some true else none) ≠ some false := by
  cases negative <;> exact fun h => by cases h

theorem isDocument_ofFraction {negative : Bool} {whole fraction : List Char}
    (hwhole : whole = ['0'] ∨
      ∃ c cs, whole = c :: cs ∧ c ≠ '0' ∧ isDigit c = true ∧ AllDigits cs)
    (hne : fraction ≠ []) (hall : AllDigits fraction) :
    (ofFraction negative whole fraction).IsDocument := by
  refine ⟨sign_ne negative, hwhole, ?_, ?_, fun _ => rfl⟩
  · intro f hf
    cases hf
    exact ⟨hne, hall⟩
  · intro ds hds
    cases hds

theorem toChars_ofFraction (negative : Bool) (whole fraction : List Char) :
    (ofFraction negative whole fraction).toChars =
      signText negative ++ (whole ++ '.' :: fraction) := by
  unfold ofFraction toChars
  dsimp only
  rw [signChars_eq]
  simp [fractionChars, powerChars]

/-- The digits of a number before and after a point denote it, if they are the digits of
    the decimal with zeros around them. -/
theorem toDecimal_ofFraction {d : Decimal} (h : d.IsNormal) {whole fraction : List Char} (k : Nat)
    (hdigits : ofDigits (whole ++ fraction) = d.digits * 10 ^ k)
    (hlength : d.exponent - k = -(fraction.length : Int)) :
    (ofFraction d.negative whole fraction).toDecimal = d := by
  unfold ofFraction toDecimal
  simp only [Option.getD_none, Option.getD_some, getD_sign]
  rw [hdigits]
  -- Without a power the exponent is what the places behind the point make it.
  have hexp : (ofDigits [] : Int) - (fraction.length : Int) = d.exponent - k := by
    rw [hlength]
    exact Int.zero_sub _
  simp only [Bool.false_eq_true, if_false]
  rw [hexp]
  exact normalize_shift h k

/-- The text of a number that is written out, cut at its point. `zeros` is how many zeros
    stand behind its digits. -/
structure Split (d : Decimal) (text whole fraction : List Char) (zeros : Nat) : Prop where
  text : text = whole ++ '.' :: fraction
  head : whole = ['0'] ∨ ∃ c cs, whole = c :: cs ∧ c ≠ '0' ∧ isDigit c = true ∧ AllDigits cs
  ne : fraction ≠ []
  tail : AllDigits fraction
  digits : ofDigits (whole ++ fraction) = d.digits * 10 ^ zeros
  length : d.exponent - zeros = -(fraction.length : Int)

/-- The text of a number that is written out, with its point. -/
def pointed (d : Decimal) : List Char :=
  d.positional ++ if d.isZero || decide (0 ≤ d.exponent) then ['.', '0'] else []

theorem split_of_zero {d : Decimal} (h : d.IsNormal) (h0 : d.digits = 0) :
    Split d (pointed d) ['0'] ['0'] 1 := by
  have hzero : d.isZero = true := by rw [isZero, h0]; rfl
  have hexp : d.exponent = 0 := by
    rcases h with h | h
    · exact h.2
    · rw [h0] at h
      omega
  refine ⟨?_, Or.inl rfl, by simp, allDigits_replicate 1, ?_, ?_⟩
  · rw [pointed, positional, hzero]
    rfl
  · rw [h0, zero_mul]
    rfl
  · rw [hexp]
    rfl

theorem split_of_whole {d : Decimal} (h0 : 0 < d.digits) (he : 0 ≤ d.exponent) :
    Split d (pointed d) (Nat.toDigits 10 d.digits ++ List.replicate d.exponent.toNat '0') ['0']
      (d.exponent.toNat + 1) := by
  have hzero : d.isZero = false := by rw [isZero, beq_eq_false_iff_ne]; omega
  refine ⟨?_, Or.inr ?_, by simp, allDigits_replicate 1, ?_, ?_⟩
  · rw [pointed, positional, hzero, decide_eq_true he]
    simp [he]
  · rcases toDigits_of_pos h0 with ⟨c, cs, hcs, hc, hdig, hall⟩
    exact ⟨c, _, by rw [hcs, List.cons_append], hc, hdig, hall.append (allDigits_replicate _)⟩
  · rw [List.append_assoc, show (['0'] : List Char) = List.replicate 1 '0' from rfl,
      List.replicate_append_replicate, ofDigits_append_replicate, ofDigits_toDigits]
  · rw [List.length_singleton]
    omega

theorem split_of_fraction {d : Decimal} (h0 : 0 < d.digits) (he : d.exponent < 0)
    (ho : 0 < d.order) :
    Split d (pointed d) ((Nat.toDigits 10 d.digits).take d.order.toNat)
      ((Nat.toDigits 10 d.digits).drop d.order.toNat) 0 := by
  have hzero : d.isZero = false := by rw [isZero, beq_eq_false_iff_ne]; omega
  -- The point stands between the digits, `order` places from the left.
  have hlen : (Nat.toDigits 10 d.digits).length = d.order.toNat + (-d.exponent).toNat := by
    have horder : d.order = ((Nat.toDigits 10 d.digits).length : Int) + d.exponent := rfl
    omega
  have hall := allDigits_toDigits d.digits
  refine ⟨?_, Or.inr ?_, ?_, ?_, ?_, ?_⟩
  · rw [pointed, positional, hzero, decide_eq_false (by omega)]
    simp [not_le.2 he, ho]
  · rcases toDigits_of_pos h0 with ⟨c, cs, hcs, hc, hdig, hcs'⟩
    obtain ⟨k, hk⟩ : ∃ k, d.order.toNat = k + 1 := ⟨d.order.toNat - 1, by omega⟩
    exact ⟨c, cs.take k, by rw [hcs, hk, List.take_succ_cons], hc, hdig,
      fun x hx => hcs' x (List.mem_of_mem_take hx)⟩
  · intro hnil
    have := congrArg List.length hnil
    rw [List.length_drop, List.length_nil] at this
    omega
  · exact fun x hx => hall x (List.mem_of_mem_drop hx)
  · rw [List.take_append_drop, ofDigits_toDigits, pow_zero, mul_one]
  · rw [List.length_drop]
    omega

theorem split_of_small {d : Decimal} (h0 : 0 < d.digits) (he : d.exponent < 0)
    (ho : d.order ≤ 0) :
    Split d (pointed d) ['0']
      (List.replicate (-d.order).toNat '0' ++ Nat.toDigits 10 d.digits) 0 := by
  have hzero : d.isZero = false := by rw [isZero, beq_eq_false_iff_ne]; omega
  have horder : d.order = ((Nat.toDigits 10 d.digits).length : Int) + d.exponent := rfl
  refine ⟨?_, Or.inl rfl, ?_, ?_, ?_, ?_⟩
  · rw [pointed, positional, hzero, decide_eq_false (by omega)]
    simp [not_le.2 he, not_lt.2 ho]
  · intro hnil
    exact Nat.toDigits_ne_nil (List.append_eq_nil_iff.1 hnil).2
  · exact (allDigits_replicate _).append (allDigits_toDigits _)
  · rw [← List.append_assoc, show (['0'] : List Char) = List.replicate 1 '0' from rfl,
      List.replicate_append_replicate, ofDigits_replicate_append, ofDigits_toDigits, pow_zero,
      mul_one]
  · rw [List.length_append, List.length_replicate]
    omega

theorem exists_split {d : Decimal} (h : d.IsNormal) :
    ∃ whole fraction zeros, Split d (pointed d) whole fraction zeros := by
  rcases Nat.eq_zero_or_pos d.digits with h0 | h0
  · exact ⟨_, _, _, split_of_zero h h0⟩
  rcases lt_or_ge d.exponent 0 with he | he
  · rcases lt_or_ge 0 d.order with ho | ho
    · exact ⟨_, _, _, split_of_fraction h0 he ho⟩
    · exact ⟨_, _, _, split_of_small h0 he ho⟩
  · exact ⟨_, _, _, split_of_whole h0 he⟩

/-- The pieces of a number with a power, of which the first digit stands in front of the point. -/
def ofPower (negative : Bool) (c : Char) (cs : List Char) (power : Int) : Parts :=
  ⟨if negative then some true else none, [c], if cs = [] then none else some cs,
    some (decide (power < 0)), some (Nat.toDigits 10 power.natAbs)⟩

theorem isDocument_ofPower {negative : Bool} {c : Char} {cs : List Char} (power : Int)
    (h0 : c ≠ '0') (hc : isDigit c = true) (hcs : AllDigits cs) :
    (ofPower negative c cs power).IsDocument := by
  refine ⟨sign_ne negative, Or.inr ⟨c, [], rfl, h0, hc, by intro d hd; cases hd⟩, ?_, ?_, ?_⟩
  · intro f hf
    unfold ofPower at hf
    dsimp only at hf
    split at hf
    · cases hf
    · next hne =>
      cases hf
      exact ⟨hne, hcs⟩
  · intro ds hds
    cases hds
    exact ⟨Nat.toDigits_ne_nil, allDigits_toDigits _⟩
  · intro h
    cases h

/-- The text of the power shows its sign, whichever it is. -/
theorem powerChars_eq (order : Int) :
    powerChars (some (decide (order - 1 < 0))) (some (Nat.toDigits 10 (order - 1).natAbs)) =
      'e' :: ((if decide (1 ≤ order) = true then ['+'] else []) ++
        (toString (order - 1)).toList) := by
  rw [toString_eq, powerChars]
  by_cases h : 1 ≤ order
  · rw [decide_eq_true h, decide_eq_false (by omega)]
    rfl
  · rw [decide_eq_false h, decide_eq_true (by omega)]
    rfl

theorem toChars_ofPower {d : Decimal} {c : Char} {cs : List Char}
    (hcs : Nat.toDigits 10 d.digits = c :: cs) :
    (ofPower d.negative c cs (d.order - 1)).toChars =
      signText d.negative ++ d.exponential true := by
  unfold ofPower toChars exponential
  dsimp only
  rw [signChars_eq, powerChars_eq, hcs]
  cases cs with
  | nil => rfl
  | cons c' cs' => rfl

theorem toDecimal_ofPower {d : Decimal} (h : d.IsNormal) {c : Char} {cs : List Char}
    (hcs : Nat.toDigits 10 d.digits = c :: cs) :
    (ofPower d.negative c cs (d.order - 1)).toDecimal = d := by
  -- A single digit has no point behind it, and no fraction counts as an empty one.
  have hfraction : (if cs = [] then none else some cs).getD [] = cs := by
    split
    · next hnil => exact hnil.symm
    · rfl
  have hdigits : ofDigits ([c] ++ cs) = d.digits := by
    rw [List.singleton_append, ← hcs, ofDigits_toDigits]
  have hpower : (if decide (d.order - 1 < 0) = true then -((d.order - 1).natAbs : Int)
      else ((d.order - 1).natAbs : Int)) = d.order - 1 := by
    split
    · next hneg =>
      rw [decide_eq_true_eq] at hneg
      omega
    · next hneg =>
      rw [decide_eq_true_eq] at hneg
      omega
  -- The power counts from behind the first digit, the exponent from behind the last.
  have hexp : d.order - 1 - (cs.length : Int) = d.exponent := by
    have horder : d.order = ((Nat.toDigits 10 d.digits).length : Int) + d.exponent := rfl
    rw [hcs, List.length_cons] at horder
    omega
  unfold ofPower toDecimal
  simp only [hfraction, getD_sign, Option.getD_some, ofDigits_toDigits, hpower, hdigits, hexp]
  exact normalize_of_isNormal h

/-- The pieces of a document number, as the layout of documents writes them. -/
theorem exists_write_eq {d : Decimal} (h : d.IsNormal) :
    ∃ p : Parts, p.IsDocument ∧ d.write .document = p.toChars ∧ p.toDecimal = d ∧
      (p.fraction.isSome ∨ p.power.isSome) := by
  -- A layout writes a number out or with a power, and both are cut into pieces that denote it.
  by_cases hpos : (d.isZero || Layout.document.isPositional d.order) = true
  · rcases exists_split h with ⟨whole, fraction, zeros, hsplit⟩
    refine ⟨ofFraction d.negative whole fraction, isDocument_ofFraction hsplit.head hsplit.ne
      hsplit.tail, ?_, toDecimal_ofFraction h zeros hsplit.digits hsplit.length, Or.inl rfl⟩
    rw [toChars_ofFraction, ← hsplit.text, write, if_pos hpos]
    rfl
  · have hzero : d.digits ≠ 0 := by
      intro h0
      rw [isZero, h0] at hpos
      exact hpos rfl
    rcases toDigits_of_pos (Nat.pos_of_ne_zero hzero) with ⟨c, cs, hcs, hc, hdig, hall⟩
    refine ⟨_, isDocument_ofPower (d.order - 1) hc hdig hall, ?_, toDecimal_ofPower h hcs,
      Or.inr rfl⟩
    rw [toChars_ofPower hcs, write, if_neg hpos]
    rfl

/-- A normal decimal in range is read back as it was written. -/
theorem exists_write_eq_real {d : Decimal} (h : d.IsNormal) (hrange : d.isOutOfRange = false) :
    ∃ p : Parts, p.IsDocument ∧ d.write .document = p.toChars ∧ ofWritten p.toChars = .real d := by
  rcases exists_write_eq h with ⟨p, hdoc, hwrite, hval, hreal⟩
  refine ⟨p, hdoc, hwrite, ?_⟩
  -- With a fraction or a power the number is not taken for an integer.
  have hint : (p.fraction.isNone && p.power.isNone) = false := by
    rcases hreal with hf | hp
    · rw [← Option.not_isSome, hf]; rfl
    · rw [← Option.not_isSome p.power, hp]; exact Bool.and_false _
  rw [ofWritten, span_toChars hdoc, toWritten]
  dsimp only
  rw [hint, hval, hrange]
  rfl

theorem exists_toString_eq_int {n : Int} (h : isWordSized n = true) :
    ∃ p : Parts, p.IsDocument ∧ (toString n).toList = p.toChars ∧ ofWritten p.toChars = .int n := by
  have hdoc := isDocument_ofWhole (decide (n < 0)) n.natAbs
  refine ⟨_, hdoc, toString_eq_toChars n, ?_⟩
  rw [ofWritten, span_toChars hdoc, toWritten]
  unfold ofWhole
  dsimp only
  rw [ofDigits_toDigits]
  by_cases hneg : n < 0
  · have hn : -(n.natAbs : Int) = n := by omega
    -- Only a zero with a sign would be read as a real number.
    have hz : (n == 0) = false := by
      rw [beq_eq_false_iff_ne]
      omega
    rw [decide_eq_true hneg]
    simp only [if_true, Option.getD_some, hn, h, hz, Option.isNone_none, Bool.and_self,
      Bool.and_false, Bool.not_false]
  · have hn : (n.natAbs : Int) = n := by omega
    rw [decide_eq_false hneg]
    simp only [hn, h, Option.getD_none, Option.isNone_none, Bool.false_eq_true, if_false,
      Bool.and_self, Bool.false_and, Bool.not_false, if_true]

end Parts

end Decimal

end Playfield
