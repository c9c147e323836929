import Playfield.Dictionary
import Playfield.Json.Printer
import Playfield.Json.Reader
import Playfield.Scalar.Basic

/-!
# Codecs

How the types of a game are written to JSON and read from it.

A type is described once, and the description serves both directions. A record
is described by its constructor and one line for each field: the name, the codec
of the value, what a missing field means, and how the field is got from the
record. A type with several forms is a list of variants, told apart by a tag.

Reading is forgiving where documents are written by hand. Unknown members are
skipped, a record may be given as the list of its fields in order, and so may a
variant, behind its tag. It is strict about the rest: a field that occurs twice,
a missing field without a default and a value of another type are mismatches.

Which of several errors is reported follows the order of the text. So the fields
of an object are not read one after the other in the order of the description;
each is read on its own, and the error that stands first in the text is kept
(`Located.both`). A field that is missing is noticed at the end of the object.

A variant has to be read to its end before its fields are, because the tag may
be its last member. Whatever is wrong with the text inside it comes first then.
Afterwards the reader no longer stands in the text but in a tree that has been
kept, and there it is more forgiving: a kind may be counted instead of named, and
what comes too much is a mismatch and not malformed. Trees that were never text
are read by rules of their own. So every reader is told its `Source`.

## Main definitions

* `ReadError`: Why a tree is not read.
* `Source`: Where the tree comes from.
* `Codec`: A way to write a type and to read it.
* `Fields`: The fields of a record, in order.
* `Variant`: One form of a type that has several.
* `Codec.record`, `Codec.tagged`, `Codec.flattened`: Codecs from descriptions.
* `Codec.parse`: Reads a whole text.

## Theorems

* `Located.both_ok`: Two parts are read if and only if both are.
-/

namespace Playfield

/-- Why a tree is not read. -/
inductive ReadError where
  | mismatch
  | broken (f : Fault)
  deriving DecidableEq

/-- The error for a value of another type. -/
def ReadError.unexpected : Json → ReadError
  | .cut c => .broken c.kept
  | .unclosed f _ => .broken f
  | .refused _ | .misnamed _ => .broken .malformed
  | _ => .mismatch

/-- Where the tree comes from: from a text that is being read, from a part of one
    that has been kept because a tag decides what it is, or from elsewhere. -/
inductive Source where
  | text
  | kept
  | tree
  deriving DecidableEq

namespace Source

/-- The error where a value goes on after all of it has been read. -/
def surplus : Source → ReadError
  | .text => .broken .malformed
  | .kept | .tree => .mismatch

/-- Whether a tag may be the number of a form instead of its name. -/
def countsForms : Source → Bool
  | .kept => true
  | .text | .tree => false

/-- Whether a value can be that of a name without further data. -/
def isUnit : Source → Json → Bool
  | _, .null => true
  | .kept, .object [] => true
  | _, _ => false

end Source

/-- What is read, or the first error and the number of the member it is in; an
    error without a number is noticed at the end. -/
abbrev Located (α : Type) : Type := Except (Option Nat × ReadError) α

namespace Located

variable {α β : Type}

/-- Whether the first place comes before the second. -/
def before : Option Nat → Option Nat → Bool
  | some i, some j => decide (i < j)
  | some _, none => true
  | none, _ => false

/-- Both parts, or the error that stands first. -/
def both : Located α → Located β → Located (α × β)
  | .ok a, .ok b => .ok (a, b)
  | .error e, .ok _ => .error e
  | .ok _, .error e => .error e
  | .error e, .error e' => .error (if before e'.1 e.1 then e' else e)

theorem both_ok (a : Located α) (b : Located β) (x : α × β) :
    both a b = .ok x ↔ a = .ok x.1 ∧ b = .ok x.2 := by
  obtain ⟨x, y⟩ := x
  cases a <;> cases b <;> simp [both]

end Located

/-- A way to write a type and to read it. -/
structure Codec (α : Type) where
  write : α → Json
  read : Source → Json → Except ReadError α

/-- The members of an object with their numbers. -/
abbrev Numbered : Type := List (Nat × String × Json)

namespace Numbered

/-- Numbers the members of an object. -/
def ofMembers (ms : Json.Members) : Numbered := (ms.zipIdx).map (fun m => (m.2, m.1))

/-- The members of a name. -/
def named (name : String) (ms : Numbered) : Numbered := ms.filter (fun m => m.2.1 == name)

/-- The members of other names. -/
def others (names : List String) (ms : Numbered) : Numbered :=
  ms.filter (fun m => !names.contains m.2.1)

/-- Passes if no member has a fault of the given kind. -/
def check (fault : Json → Option Fault) : Numbered → Located Unit
  | [] => .ok ()
  | (i, _, j) :: ms =>
    match fault j with
    | some f => .error (some i, .broken f)
    | none => check fault ms

/-- Reads the member of a name, which must be the only one. -/
def read {α : Type} (name : String) (absent : Option α) (value : Json → Except ReadError α)
    (ms : Numbered) : Located α :=
  match named name ms, absent with
  | [], some a => .ok a
  | [], none => .error (none, .mismatch)
  | (i, _, j) :: more, _ =>
    match value j, more with
    | .error e, _ => .error (some i, e)
    | .ok a, [] => .ok a
    | .ok _, (k, _, _) :: _ => .error (some k, .mismatch)

end Numbered

/-- The fields of a record in order. `S` is what they are taken from when they
    are written, and `A` what is made of them when they are read; `value` says
    what is made of what has been written. -/
structure Fields (S A : Type) where
  names : List String
  value : S → A
  write : S → Json.Members
  readMembers : Source → Numbered → Located A
  readItems : Source → List Json → Except ReadError (A × List Json)

namespace Fields

variable {S A B : Type}

/-- No field yet, and the function that waits for them. -/
def start (make : A) : Fields S A where
  names := []
  value _ := make
  write _ := []
  readMembers _ _ := .ok make
  readItems _ js := .ok (make, js)

/-- One more field. It is left out of an object if `write` gives nothing, and a
    missing one counts as `absent` if that is given. -/
def field (r : Fields S (B → A)) (name : String) (get : S → B) (write : B → Option Json)
    (read : Source → Json → Except ReadError B) (absent : Option B) : Fields S A where
  names := r.names ++ [name]
  value s := r.value s (get s)
  write s := r.write s ++ ((write (get s)).map fun j => (name, j)).toList
  readMembers src ms :=
    match Located.both (r.readMembers src ms) (Numbered.read name absent (read src) ms) with
    | .ok (f, b) => .ok (f b)
    | .error e => .error e
  readItems src js :=
    match r.readItems src js with
    | .error e => .error e
    | .ok (f, []) =>
      match absent with
      | some b => .ok (f b, [])
      | none => .error .mismatch
    | .ok (f, j :: js) =>
      match read src j with
      | .ok b => .ok (f b, js)
      | .error e => .error e

/-- A field that must be there. -/
def required (r : Fields S (B → A)) (name : String) (c : Codec B) (get : S → B) : Fields S A :=
  r.field name get (fun b => some (c.write b)) c.read none

/-- A field that counts as a default where it is missing. -/
def defaulting (r : Fields S (B → A)) (name : String) (c : Codec B) (d : B) (get : S → B) :
    Fields S A :=
  r.field name get (fun b => some (c.write b)) c.read (some d)

/-- Reads `null` as nothing. -/
def readNullable (c : Codec B) (src : Source) : Json → Except ReadError (Option B)
  | .null => .ok none
  | j =>
    match c.read src j with
    | .ok b => .ok (some b)
    | .error e => .error e

/-- A field that is only written if there is a value. -/
def optional (r : Fields S (Option B → A)) (name : String) (c : Codec B) (get : S → Option B) :
    Fields S A :=
  r.field name get (fun b => b.map c.write) (readNullable c) (some none)

/-- A field that is written as `null` if there is no value. -/
def nullable (r : Fields S (Option B → A)) (name : String) (c : Codec B) (get : S → Option B) :
    Fields S A :=
  r.field name get (fun b => some ((b.map c.write).getD .null)) (readNullable c) (some none)

/-- A list that is only written if it is not empty. -/
def unlessEmpty (r : Fields S (List B → A)) (name : String) (c : Codec (List B))
    (get : S → List B) : Fields S A :=
  r.field name get (fun b => if b.isEmpty then none else some (c.write b)) c.read (some [])

/-- Makes something else of the fields. -/
def map (f : A → B) (r : Fields S A) : Fields S B where
  names := r.names
  value s := f (r.value s)
  write := r.write
  readMembers src ms :=
    match r.readMembers src ms with
    | .ok a => .ok (f a)
    | .error e => .error e
  readItems src js :=
    match r.readItems src js with
    | .ok (a, js) => .ok (f a, js)
    | .error e => .error e

end Fields

/-- One form of a type that has several. -/
structure Variant (A : Type) where
  tag : String
  write? : A → Option Json.Members
  readMembers : Source → Numbered → Located A
  readItems : Source → List Json → Except ReadError (A × List Json)

/-- The form with a tag and the fields that `view` finds in it. -/
def Variant.of {S A : Type} (tag : String) (view : A → Option S) (r : Fields S A) : Variant A where
  tag := tag
  write? a := (view a).map r.write
  readMembers := r.readMembers
  readItems := r.readItems

namespace Codec

variable {α β : Type}

/-- Text. -/
def text : Codec String where
  write := .text
  read
    | _, .text s => .ok s
    | _, j => .error (.unexpected j)

/-- Truth values. -/
def bool : Codec Bool where
  write := .bool
  read
    | _, .bool b => .ok b
    | _, j => .error (.unexpected j)

/-- Counts of 64 bits. -/
def count : Codec UInt64 where
  write n := .int n.toNat
  read
    | _, .int n => if 0 ≤ n then .ok (UInt64.ofNat n.toNat) else .error .mismatch
    | _, j => .error (.unexpected j)

/-- The tree of a number. -/
def ofNumber {R : Type} [Scalar R] [Numeral R] (x : R) : Json :=
  match Numeral.toDecimal? Decimal.Layout.document.tie x with
  | some d => .real d
  | none => .nonFinite (Numeral.nonFiniteName x)

/-- Numbers. -/
def number {R : Type} [Scalar R] [Numeral R] : Codec R where
  write := ofNumber
  read
    | _, .int n => .ok (Numeral.ofDecimal (Decimal.ofInt n))
    | _, .real d => .ok (Numeral.ofDecimal d)
    | _, j => .error (.unexpected j)

/-- Reads every item, up to the first that is not read. -/
def readAll (read : Json → Except ReadError α) : List Json → Except ReadError (List α)
  | [] => .ok []
  | j :: js =>
    match read j with
    | .error e => .error e
    | .ok a =>
      match readAll read js with
      | .ok as => .ok (a :: as)
      | .error e => .error e

/-- Lists. -/
def list (c : Codec α) : Codec (List α) where
  write as := .list (as.map c.write)
  read
    | src, .list js => readAll (c.read src) js
    | _, j => .error (.unexpected j)

/-- Reads every member, up to the first that is not read. -/
def readEntries (read : Json → Except ReadError α) :
    Json.Members → Except ReadError (List (String × α))
  | [] => .ok []
  | (n, j) :: ms =>
    match read j with
    | .error e => .error e
    | .ok a =>
      match readEntries read ms with
      | .ok es => .ok ((n, a) :: es)
      | .error e => .error e

/-- Dictionaries. The last of several members of a name counts. -/
def dictionary (c : Codec α) : Codec (Dictionary α) where
  write d := .object (d.entries.map fun e => (e.1, c.write e.2))
  read
    | src, .object ms =>
      match readEntries (c.read src) ms with
      | .ok es => .ok (Dictionary.ofList es)
      | .error e => .error e
    | _, j => .error (.unexpected j)

/-- The value of a name. -/
def find? (table : List (String × α)) (name : String) : Except ReadError α :=
  match table.find? (fun e => e.1 == name) with
  | some e => .ok e.2
  | none => .error .mismatch

/-- Reads the value of a name from the members of an object, of which there must
    be one, without further data. -/
def readNamed (table : List (String × α)) (src : Source) : Json.Members → Except ReadError α
  | [] => .error src.surplus
  | (s, j) :: ms =>
    match j, find? table s with
    | .unclosed f _, _ => .error (.broken f)
    | .misnamed _, _ => .error (.broken .malformed)
    | _, .error e => .error e
    | j, .ok a =>
      if src.isUnit j then
        match ms with
        | [] => .ok a
        | (_, .unclosed f false) :: _ => .error (.broken f)
        | _ :: _ => .error src.surplus
      else .error (.unexpected j)

/-- Values that are written as their names. A name may also be given as the only
    member of an object. -/
def named (table : List (String × α)) (name : α → String) : Codec α where
  write a := .text (name a)
  read
    | _, .text s => find? table s
    | src, .object ms => readNamed table src ms
    | _, .cut c => .error (.broken c.named)
    | _, .unclosed f _ => .error (.broken f)
    | _, .refused _ => .error (.broken .malformed)
    | src, _ => .error src.surplus

/-- Both ends of a description of a record: object or list. -/
def readRecord {S A : Type} (r : Fields S A) (src : Source) : Json → Except ReadError A
  | .object ms =>
    let ms := Numbered.ofMembers ms
    match Located.both (r.readMembers src ms) ((ms.others r.names).check Json.passed?) with
    | .ok (a, _) => .ok a
    | .error e => .error e.2
  | .list js =>
    match r.readItems src js with
    | .error e => .error e
    | .ok (a, []) => .ok a
    | .ok (_, .unclosed f false :: _) => .error (.broken f)
    | .ok (_, _ :: _) => .error src.surplus
  | j => .error (.unexpected j)

/-- Records. -/
def record (r : Fields α α) : Codec α where
  write a := .object (r.write a)
  read := readRecord r

/-- The members of the first variant that applies, the tag in front. -/
def writeTagged (vs : List (Variant α)) (a : α) : Json.Members :=
  match vs with
  | [] => []
  | v :: vs =>
    match v.write? a with
    | some ms => ("type", .text v.tag) :: ms
    | none => writeTagged vs a

/-- The variant of a tag. Where forms are counted, a number is a position. -/
def readTag (vs : List (Variant α)) (src : Source) : Json → Except ReadError (Variant α)
  | .text s =>
    match vs.find? (fun v => v.tag == s) with
    | some v => .ok v
    | none => .error .mismatch
  | .int n =>
    if src.countsForms ∧ 0 ≤ n then
      match vs[n.toNat]? with
      | some v => .ok v
      | none => .error .mismatch
    else .error .mismatch
  | j => .error (.unexpected j)

/-- Reads the members of a variant, of which one is the tag. -/
def readTagged (vs : List (Variant α)) (src : Source) (ms : Numbered) : Except ReadError α :=
  let tag := Numbered.read "type" none (readTag vs src) ms
  let rest := ms.others ["type"]
  match Located.both tag (rest.check Json.fault?) with
  | .error e => .error e.2
  | .ok (v, _) =>
    match v.readMembers .kept rest with
    | .ok a => .ok a
    | .error e => .error e.2

/-- Types with several forms. -/
def tagged (vs : List (Variant α)) : Codec α where
  write a := .object (writeTagged vs a)
  read
    | src, .object ms => readTagged vs src (Numbered.ofMembers ms)
    | _, .list [] => .error .mismatch
    | src, .list (j :: js) =>
      match readTag vs src j, Json.faultItems? js with
      | .error e, _ => .error e
      | .ok _, some f => .error (.broken f)
      | .ok v, none =>
        match v.readItems .kept js with
        | .ok (a, []) => .ok a
        | .ok (_, _ :: _) => .error .mismatch
        | .error e => .error e
    | _, j => .error (.unexpected j)

/-- Records one part of which has several forms, whose members stand among the
    fields of the record. They are never given as lists. -/
def flattened (r : Fields α (β → α)) (vs : List (Variant β)) (get : α → β) : Codec α where
  write a := .object (r.write a ++ writeTagged vs (get a))
  read
    | src, .object ms =>
      let ms := Numbered.ofMembers ms
      let others := ms.others r.names
      match Located.both (r.readMembers src ms) (others.check Json.fault?) with
      | .error e => .error e.2
      | .ok (f, _) =>
        match readTagged vs .kept others with
        | .ok b => .ok (f b)
        | .error e => .error e
    | _, j => .error (.unexpected j)

/-- Why a whole text is not read. -/
inductive DocumentError where
  | malformed
  | truncated
  | mismatch
  deriving DecidableEq

/-- The error of a whole text. -/
def DocumentError.ofRead : ReadError → DocumentError
  | .mismatch => .mismatch
  | .broken .malformed => .malformed
  | .broken .truncated => .truncated

/-- Reads a whole text. -/
def parse (c : Codec α) (text : String) : Except DocumentError α :=
  let d := Json.read text
  match c.read .text d.root with
  | .error e => .error (.ofRead e)
  | .ok a => if d.trailing then .error .malformed else .ok a

/-- Reads a tree that was never text. -/
def parseTree (c : Codec α) (j : Json) : Except DocumentError α :=
  match c.read .tree j with
  | .error e => .error (.ofRead e)
  | .ok a => .ok a

end Codec

end Playfield
