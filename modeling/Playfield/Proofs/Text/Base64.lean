import Mathlib

/-!
# Base64

Bytes as text, and which texts are bytes.

Three bytes are four digits of six bits each. One or two bytes at the end are two or three
digits, and what is missing of the four is made up by signs of padding. The last of those digits
has bits that no byte is made of. They are written as zeros, and reading takes no notice of them,
so some texts are read that are never written.

## Main definitions

* `Base64.alphabet`: The digits in order.
* `Base64.encode`: The text of some bytes.
* `Base64.decode?`: The bytes of a text.
* `Base64.IsPayload`: Digits and padding, in groups of four.

## Theorems

* `Base64.decode?_encode`: Bytes come back.
* `Base64.exists_decode?`: Digits and padding are read, and how many bytes they are.
* `Base64.exists_isPayload`: Nothing else is read.
-/

namespace Playfield

namespace Base64

/-- The digits, in the order of their values. -/
def alphabet : List Char :=
  "ABCDEFGHIJKLMNOPQRSTUVWXYZabcdefghijklmnopqrstuvwxyz0123456789+/".toList

/-- The digit of a value. -/
def digit (v : Nat) : Char := alphabet.getD v 'A'

/-- The value of a digit. -/
def value? (c : Char) : Option Nat := alphabet.idxOf? c

/-- The text of some bytes. -/
def encode : List UInt8 → List Char
  | [] => []
  | [x] =>
    let n := x.toNat * 16
    [digit (n / 64), digit (n % 64), '=', '=']
  | [x, y] =>
    let n := (x.toNat * 256 + y.toNat) * 4
    [digit (n / 4096), digit (n / 64 % 64), digit (n % 64), '=']
  | x :: y :: z :: rest =>
    let n := (x.toNat * 256 + y.toNat) * 256 + z.toNat
    digit (n / 262144) :: digit (n / 4096 % 64) :: digit (n / 64 % 64) :: digit (n % 64) ::
      encode rest

/-- The bytes of a group of four characters. Only the last group may have padding. -/
def group? (isLast : Bool) (a b c d : Char) : Option (List UInt8) :=
  match value? a, value? b, value? c, value? d with
  | some x, some y, some z, some w =>
    let n := ((x * 64 + y) * 64 + z) * 64 + w
    some [.ofNat (n / 65536), .ofNat (n / 256), .ofNat n]
  | some x, some y, some z, none =>
    let n := (x * 64 + y) * 64 + z
    if isLast ∧ d = '=' then some [.ofNat (n / 1024), .ofNat (n / 4)] else none
  | some x, some y, none, none =>
    let n := x * 64 + y
    if isLast ∧ c = '=' ∧ d = '=' then some [.ofNat (n / 16)] else none
  | _, _, _, _ => none

/-- The bytes of a text. -/
def decode? : List Char → Option (List UInt8)
  | [] => some []
  | a :: b :: c :: d :: rest =>
    (group? rest.isEmpty a b c d).bind fun bytes => (decode? rest).map (bytes ++ ·)
  | _ => none

/-- A text is made of digits and at most two signs of padding behind them, and can be cut into
    groups of four. -/
structure IsPayload (digits : List Char) (padding : Nat) (text : List Char) : Prop where
  eq_append : text = digits ++ List.replicate padding '='
  alphabetic : ∀ c ∈ digits, c ∈ alphabet
  padding_le : padding ≤ 2
  length_mod : text.length % 4 = 0

theorem value?_digit {v : Nat} (h : v < 64) : value? (digit v) = some v := by
  have htable : ∀ v < 64, value? (digit v) = some v := by decide +kernel
  exact htable v h

theorem value?_padding : value? '=' = none := by decide +kernel

theorem not_mem_padding : '=' ∉ alphabet := by decide +kernel

theorem exists_value? {c : Char} (h : c ∈ alphabet) : ∃ v, value? c = some v :=
  Option.isSome_iff_exists.mp (by simpa [value?] using h)

theorem mem_of_value? {c : Char} {v : Nat} (h : value? c = some v) : c ∈ alphabet := by
  have hsome : (alphabet.idxOf? c).isSome := by rw [← value?, h]; rfl
  simpa using hsome

/-- A byte is told by the last eight bits of a number. -/
theorem ofNat_eq {n : Nat} (x : UInt8) (h : n % 256 = x.toNat) : UInt8.ofNat n = x :=
  UInt8.toNat_inj.mp (by rw [UInt8.toNat_ofNat', h])

theorem group?_three (isLast : Bool) (x y z : UInt8) {n : Nat}
    (hn : n = (x.toNat * 256 + y.toNat) * 256 + z.toNat) :
    group? isLast (digit (n / 262144)) (digit (n / 4096 % 64)) (digit (n / 64 % 64))
      (digit (n % 64)) = some [x, y, z] := by
  have hx := x.toNat_lt
  have hy := y.toNat_lt
  have hz := z.toNat_lt
  have hvalue : ((n / 262144 * 64 + n / 4096 % 64) * 64 + n / 64 % 64) * 64 + n % 64 = n := by
    omega
  rw [group?, value?_digit (by omega), value?_digit (by omega), value?_digit (by omega),
    value?_digit (by omega)]
  dsimp only
  rw [hvalue, ofNat_eq x (by omega), ofNat_eq y (by omega),
    ofNat_eq z (by omega)]

theorem group?_two (x y : UInt8) {n : Nat} (hn : n = (x.toNat * 256 + y.toNat) * 4) :
    group? true (digit (n / 4096)) (digit (n / 64 % 64)) (digit (n % 64)) '=' =
      some [x, y] := by
  have hx := x.toNat_lt
  have hy := y.toNat_lt
  have hvalue : (n / 4096 * 64 + n / 64 % 64) * 64 + n % 64 = n := by omega
  rw [group?, value?_digit (by omega), value?_digit (by omega), value?_digit (by omega),
    value?_padding]
  dsimp only
  rw [if_pos ⟨rfl, rfl⟩, hvalue, ofNat_eq x (by omega), ofNat_eq y (by omega)]

theorem group?_one (x : UInt8) {n : Nat} (hn : n = x.toNat * 16) :
    group? true (digit (n / 64)) (digit (n % 64)) '=' '=' = some [x] := by
  have hx := x.toNat_lt
  have hvalue : n / 64 * 64 + n % 64 = n := by omega
  rw [group?, value?_digit (by omega), value?_digit (by omega), value?_padding]
  dsimp only
  rw [if_pos ⟨rfl, rfl, rfl⟩, hvalue, ofNat_eq x (by omega)]

/-- Bytes come back. -/
theorem decode?_encode (bytes : List UInt8) : decode? (encode bytes) = some bytes := by
  induction bytes using encode.induct with
  | case1 => rfl
  | case2 x => rw [encode, decode?, List.isEmpty_nil, group?_one x rfl]; rfl
  | case3 x y => rw [encode, decode?, List.isEmpty_nil, group?_two x y rfl]; rfl
  | case4 x y z rest ih => rw [encode, decode?, group?_three _ x y z rfl, ih]; rfl

theorem IsPayload.digits_eq {digits text : List Char} {padding : Nat}
    (h : IsPayload digits padding text) : digits = text.take (text.length - padding) := by
  have hlength := congrArg List.length h.eq_append
  rw [List.length_append, List.length_replicate] at hlength
  rw [h.eq_append, List.take_left' (by rw [← h.eq_append]; omega)]

/-- In front of more text all four characters of a group are digits. -/
theorem IsPayload.tail {digits rest : List Char} {padding : Nat} {a b c d : Char}
    (h : IsPayload digits padding (a :: b :: c :: d :: rest)) (hrest : rest ≠ []) :
    ∃ digits', digits = a :: b :: c :: d :: digits' ∧ IsPayload digits' padding rest := by
  have hpos := List.length_pos_iff.mpr hrest
  have hmod := h.length_mod
  have hpadding := h.padding_le
  have hdigits := h.digits_eq
  simp only [List.length_cons] at hmod hdigits
  -- four or more characters follow, of which two are padding at the most
  rw [show rest.length + 1 + 1 + 1 + 1 - padding = rest.length - padding + 1 + 1 + 1 + 1 by omega]
    at hdigits
  simp only [List.take_succ_cons] at hdigits
  subst hdigits
  have heq := h.eq_append
  simp only [List.cons_append, List.cons.injEq, true_and] at heq
  exact ⟨_, rfl, heq, fun x hx => h.alphabetic x (by simp [hx]), hpadding, by omega⟩

/-- Groups without padding may stand in front of more text. -/
theorem IsPayload.append {digits digits' text text' : List Char} {padding : Nat}
    (h : IsPayload digits 0 text) (h' : IsPayload digits' padding text') :
    IsPayload (digits ++ digits') padding (text ++ text') where
  eq_append := by rw [h.eq_append, h'.eq_append]; simp
  alphabetic := by
    intro c hc
    exact (List.mem_append.mp hc).elim (h.alphabetic c) (h'.alphabetic c)
  padding_le := h'.padding_le
  length_mod := by
    have hmod := h.length_mod
    have hmod' := h'.length_mod
    rw [List.length_append]
    omega

/-- A group has no padding, or one sign of it, or two. -/
theorem IsPayload.group {digits : List Char} {padding : Nat} {a b c d : Char}
    (h : IsPayload digits padding [a, b, c, d]) :
    padding = 0 ∧ digits = [a, b, c, d] ∨ padding = 1 ∧ digits = [a, b, c] ∧ d = '=' ∨
      padding = 2 ∧ digits = [a, b] ∧ c = '=' ∧ d = '=' := by
  have hdigits : digits = [a, b, c, d].take (4 - padding) := h.digits_eq
  obtain ⟨heq, -, hpadding, -⟩ := h
  subst hdigits
  interval_cases padding
  · exact .inl ⟨rfl, rfl⟩
  · simpa using heq
  · simpa using heq

/-- A group of digits and padding is read. -/
theorem exists_group? {digits : List Char} {padding : Nat} {isLast : Bool} {a b c d : Char}
    (h : IsPayload digits padding [a, b, c, d]) (hlast : padding = 0 ∨ isLast = true) :
    ∃ bytes, group? isLast a b c d = some bytes ∧ bytes.length + padding = 3 := by
  have halphabetic := h.alphabetic
  obtain ⟨rfl, rfl⟩ | ⟨rfl, rfl, rfl⟩ | ⟨rfl, rfl, rfl, rfl⟩ := h.group
  · obtain ⟨x, hx⟩ := exists_value? (halphabetic a (by simp))
    obtain ⟨y, hy⟩ := exists_value? (halphabetic b (by simp))
    obtain ⟨z, hz⟩ := exists_value? (halphabetic c (by simp))
    obtain ⟨w, hw⟩ := exists_value? (halphabetic d (by simp))
    simp [group?, hx, hy, hz, hw]
  · obtain ⟨x, hx⟩ := exists_value? (halphabetic a (by simp))
    obtain ⟨y, hy⟩ := exists_value? (halphabetic b (by simp))
    obtain ⟨z, hz⟩ := exists_value? (halphabetic c (by simp))
    simp [group?, hx, hy, hz, value?_padding, hlast.resolve_left]
  · obtain ⟨x, hx⟩ := exists_value? (halphabetic a (by simp))
    obtain ⟨y, hy⟩ := exists_value? (halphabetic b (by simp))
    simp [group?, hx, hy, value?_padding, hlast.resolve_left]

/-- Nothing else is read. -/
theorem isPayload_of_group? {isLast : Bool} {a b c d : Char} {bytes : List UInt8}
    (h : group? isLast a b c d = some bytes) :
    ∃ digits padding, IsPayload digits padding [a, b, c, d] ∧ (padding = 0 ∨ isLast = true) := by
  unfold group? at h
  split at h
  · next hx hy hz hw =>
      refine ⟨[a, b, c, d], 0, ⟨rfl, ?_, by simp, by simp⟩, .inl rfl⟩
      simp [mem_of_value? hx, mem_of_value? hy, mem_of_value? hz, mem_of_value? hw]
  · next hx hy hz hw =>
      split at h
      · next hguard =>
          obtain ⟨hlast, rfl⟩ := hguard
          refine ⟨[a, b, c], 1, ⟨rfl, ?_, by simp, by simp⟩, .inr hlast⟩
          simp [mem_of_value? hx, mem_of_value? hy, mem_of_value? hz]
      · cases h
  · next hx hy hz hw =>
      split at h
      · next hguard =>
          obtain ⟨hlast, rfl, rfl⟩ := hguard
          refine ⟨[a, b], 2, ⟨rfl, ?_, by simp, by simp⟩, .inr hlast⟩
          simp [mem_of_value? hx, mem_of_value? hy]
      · cases h
  · cases h

theorem decode?_group (a b c d : Char) (rest : List Char) (bytes : List UInt8) :
    decode? (a :: b :: c :: d :: rest) = some bytes ↔
      ∃ front back, group? rest.isEmpty a b c d = some front ∧ decode? rest = some back ∧
        bytes = front ++ back := by
  simp only [decode?, Option.bind_eq_some_iff, Option.map_eq_some_iff]
  tauto

/-- Digits and padding are read, four characters as three bytes, and each sign of padding is one
    byte less. -/
theorem exists_decode? {digits text : List Char} {padding : Nat}
    (h : IsPayload digits padding text) :
    ∃ bytes, decode? text = some bytes ∧ bytes.length + padding = text.length / 4 * 3 := by
  induction text using decode?.induct generalizing digits with
  | case1 =>
      have hnil := h.eq_append
      simp only [List.nil_eq, List.append_eq_nil_iff, List.replicate_eq_nil_iff] at hnil
      exact ⟨[], rfl, by simp [hnil.2]⟩
  | case2 a b c d rest ih =>
      rcases eq_or_ne rest [] with rfl | hrest
      · obtain ⟨bytes, hbytes, hlength⟩ := exists_group? h (.inr rfl)
        exact ⟨bytes, (decode?_group ..).mpr ⟨bytes, [], hbytes, rfl, by simp⟩, by simpa⟩
      · obtain ⟨digits', rfl, htail⟩ := h.tail hrest
        have hfour : IsPayload [a, b, c, d] 0 [a, b, c, d] :=
          ⟨by simp, fun x hx => h.alphabetic x (by simp at hx ⊢; tauto), by simp, by simp⟩
        obtain ⟨front, hfront, hfront_length⟩ := exists_group? hfour (.inl rfl)
        obtain ⟨back, hback, hback_length⟩ := ih htail
        refine ⟨front ++ back, (decode?_group ..).mpr ⟨front, back, hfront, hback, rfl⟩, ?_⟩
        simp only [List.length_append, List.length_cons]
        omega
  | case3 text hnil hcons =>
      have hmod := h.length_mod
      match text, hnil, hcons with
      | [_], _, _ | [_, _], _, _ | [_, _, _], _, _ => simp at hmod
      | a :: b :: c :: d :: rest, _, hcons => exact (hcons a b c d rest rfl).elim

/-- Only digits and padding are read. -/
theorem exists_isPayload {text : List Char} {bytes : List UInt8} (h : decode? text = some bytes) :
    ∃ digits padding, IsPayload digits padding text := by
  induction text using decode?.induct generalizing bytes with
  | case1 => exact ⟨[], 0, rfl, by simp, by simp, rfl⟩
  | case2 a b c d rest ih =>
      obtain ⟨front, back, hfront, hback, -⟩ := (decode?_group ..).mp h
      obtain ⟨digits, padding, hgroup, hlast⟩ := isPayload_of_group? hfront
      rcases hlast with rfl | hlast
      · obtain ⟨digits', padding', htail⟩ := ih hback
        exact ⟨_, _, hgroup.append htail⟩
      · obtain rfl := List.isEmpty_iff.mp hlast
        exact ⟨digits, padding, hgroup⟩
  | case3 text hnil hcons => simp [decode?] at h

end Base64

end Playfield
