import Playfield.Json.Basic

/-!
# Reading JSON

A machine that reads a text one character at a time.

The machine has two halves. One cuts characters into tokens and remembers only
what it needs for that: what is left of a word, how far a number has come, or a
quoted text with an escape in progress. The other builds the tree from tokens on
a stack of the lists and objects that are open. Both move by a function of the
state and one more input, so reading is a fold over the text and every text is
read to its end.

A token ends where it cannot go on. So `12x` is a number and a character that
fits nothing, in this order, and whoever has no use for a number never gets to
the character. Where a token does not fit, the machine stops and closes what is
open. The same happens at the end of the text if something is still open. The
difference between the two is the fault: `malformed` where the text cannot be
continued to a document, `truncated` where it only ended too early.

What can be skipped and not kept is no reason to stop. A quoted text goes on
behind half of a surrogate pair, and nesting goes on behind the limit. The tree
tells later what became of it.

## Main definitions

* `Reader.Token`: What characters are cut into.
* `Reader.feed`: The machine's answer to a token.
* `Reader.step`: The machine's answer to a character.
* `Json.read`: The tree of a text.
-/

namespace Playfield

/-- The deepest nesting of lists and objects that is kept. -/
def Json.depthLimit : Nat := 127

/-- What a text denotes: a tree, and whether anything but blanks follows it. -/
structure Document where
  root : Json
  trailing : Bool

namespace Reader

/-- What characters are cut into. A quoted text with half of a surrogate pair in
    it is no text. -/
inductive Token where
  | openList
  | closeList
  | openObject
  | closeObject
  | comma
  | colon
  | leaf (j : Json)
  | quoted (s : Option String)
  | bad

/-- An open list, or an open object with the name of the member that is being
    read, if the name can be held. What has been read is in reverse. -/
inductive Frame where
  | list (items : List Json)
  | object (members : Json.Members) (name : Option String)

/-- What may come next. -/
inductive Expected where
  | value
  | itemOrEnd
  | nameOrEnd
  | name
  | colon
  | commaOrEnd
  | nothing (root : Json)

/-- Where the machine is inside an escape. The four digits of a code unit are
    counted in bytes, and they are looked at once all are there. -/
inductive Escape where
  | none
  | backslash
  | unit (missing : Nat) (value : Option Nat)

/-- What the machine is in the middle of. A quoted text remembers the first half
    of a surrogate pair and whether a half has been met alone. -/
inductive Mode where
  | between
  | word (left : List Char) (j : Json)
  | number (phase : Decimal.Phase) (reversed : List Char)
  | quoted (reversed : List Char) (escape : Escape) (high : Option Nat) (lone : Bool)

/-- The machine. It has stopped once there is a result. -/
structure State where
  mode : Mode
  stack : List Frame
  expected : Expected
  result : Option Document

/-- Before the first character. -/
def start : State := ⟨.between, [], .value, none⟩

/-- The value of an open frame whose contents are complete, given the frames
    around it. One that is nested too deep is refused. -/
def Frame.close (f : Frame) (around : List Frame) : Json :=
  let j : Json := match f with
    | .list js => .list js.reverse
    | .object ms _ => .object ms.reverse
  if (around.drop (Json.depthLimit - 1)).isEmpty then j else .refused j

/-- The frame with one more value in it. -/
def Frame.push (j : Json) : Frame → Frame
  | .list js => .list (j :: js)
  | .object ms (some n) => .object ((n, j) :: ms) (some "")
  | .object ms none => .object (("", .misnamed j) :: ms) (some "")

/-- The tree of a value inside frames that will not be completed. -/
def enclose (j : Json) : List Frame → Json
  | [] => j
  | f :: fs => enclose ((f.push j).close fs) fs

/-- Stops the machine, with a value in the place where it stands. -/
def stopWith (j : Json) (s : State) : State :=
  { s with result := some ⟨enclose j s.stack, false⟩ }

/-- What stands for the rest of the text in the place where the machine is. -/
def rest (f : Fault) (s : State) : Json :=
  match s.expected, s.stack with
  | .value, .list _ :: _ => .unclosed f true
  | .name, _ => .unclosed f true
  | .itemOrEnd, _ | .nameOrEnd, _ | .commaOrEnd, _ => .unclosed f false
  | _, _ => .cut (.ofFault f)

/-- Stops the machine on a fault. -/
def stop (f : Fault) (s : State) : State := stopWith (rest f s) s

/-- Takes a value that is complete. -/
def accept (j : Json) (s : State) : State :=
  match s.stack with
  | [] => { s with expected := .nothing j }
  | f :: fs => { s with expected := .commaOrEnd, stack := f.push j :: fs }

/-- Closes the innermost frame. -/
def close (s : State) : State :=
  match s.stack with
  | [] => stop .malformed s
  | f :: fs => accept (f.close fs) { s with stack := fs }

/-- Takes a token where a value may begin. -/
def feedValue (t : Token) (s : State) : State :=
  match t with
  | .openList => { s with stack := .list [] :: s.stack, expected := .itemOrEnd }
  | .openObject => { s with stack := .object [] (some "") :: s.stack, expected := .nameOrEnd }
  | .leaf j => accept j s
  | .quoted (some t) => accept (.text t) s
  | .quoted none => accept (.refused .null) s
  | _ => stop .malformed s

/-- Takes a token where the name of a member may begin. -/
def feedName (t : Token) (s : State) : State :=
  match t, s.stack with
  | .quoted n, .object ms _ :: fs => { s with stack := .object ms n :: fs, expected := .colon }
  | _, _ => stop .malformed s

/-- Takes a token. -/
def feed (t : Token) (s : State) : State :=
  match s.expected, t, s.stack with
  | .value, t, _ => feedValue t s
  | .itemOrEnd, .closeList, _ => close s
  | .itemOrEnd, t, _ => feedValue t s
  | .nameOrEnd, .closeObject, _ => close s
  | .nameOrEnd, t, _ => feedName t s
  | .name, t, _ => feedName t s
  | .colon, .colon, _ => { s with expected := .value }
  | .commaOrEnd, .comma, .list _ :: _ => { s with expected := .value }
  | .commaOrEnd, .closeList, .list _ :: _ => close s
  | .commaOrEnd, .comma, .object _ _ :: _ => { s with expected := .name }
  | .commaOrEnd, .closeObject, .object _ _ :: _ => close s
  | .nothing root, _, _ => { s with result := some ⟨root, true⟩ }
  | _, _, _ => stop .malformed s

/-- The value of a number. -/
def numberValue (cs : List Char) : Json :=
  match Decimal.ofWritten cs with
  | .int n => .int n
  | .real d => .real d
  | .outOfRange => .refused .null

/-- Whether a quoted text may stand where the machine is. -/
def mayQuote : Expected → Bool
  | .value | .itemOrEnd | .nameOrEnd | .name => true
  | _ => false

/-- Whether a word or a number may stand where the machine is. -/
def mayWord : Expected → Bool
  | .value | .itemOrEnd => true
  | _ => false

/-- What the first character of a word or of a number brings the machine into the
    middle of. -/
def opening? (c : Char) : Option Mode :=
  match c with
  | 'n' => some (.word "ull".toList .null)
  | 't' => some (.word "rue".toList (.bool true))
  | 'f' => some (.word "alse".toList (.bool false))
  | c => (Decimal.Phase.start? c).map fun p => .number p [c]

/-- Takes a character between tokens. -/
def stepBetween (c : Char) (s : State) : State :=
  if c = ' ' ∨ c = '\n' ∨ c = '\t' ∨ c = '\r' then s
  else if c = '[' then feed .openList s
  else if c = ']' then feed .closeList s
  else if c = '\x7b' then feed .openObject s
  else if c = '\x7d' then feed .closeObject s
  else if c = ',' then feed .comma s
  else if c = ':' then feed .colon s
  else if c = '"' then
    if mayQuote s.expected then { s with mode := .quoted [] .none none false } else feed .bad s
  else
    match mayWord s.expected, opening? c with
    | true, some m => { s with mode := m }
    | _, _ => feed .bad s

/-- Takes a character of a word. -/
def stepWord (c : Char) (left : List Char) (j : Json) (s : State) : State :=
  match left with
  | [] => feed .bad s
  | [e] => if c = e then feed (.leaf j) { s with mode := .between } else stop .malformed s
  | e :: es => if c = e then { s with mode := .word es j } else stop .malformed s

/-- Takes a character of a number, or the one behind it. -/
def stepNumber (c : Char) (phase : Decimal.Phase) (cs : List Char) (s : State) : State :=
  match phase.next? c with
  | some p => { s with mode := .number p (c :: cs) }
  | none =>
    if phase.endsBefore c then
      stepBetween c (feed (.leaf (numberValue cs.reverse)) { s with mode := .between })
    else stop .malformed s

/-- The character that a one-letter escape stands for. -/
def escaped? : Char → Option Char
  | '"' => some '"'
  | '\\' => some '\\'
  | '/' => some '/'
  | 'b' => some '\x08'
  | 'f' => some '\x0c'
  | 'n' => some '\n'
  | 'r' => some '\r'
  | 't' => some '\t'
  | _ => none

/-- The value of a hexadecimal digit. -/
def hexValue? (c : Char) : Option Nat :=
  if Decimal.isDigit c then some (c.toNat - '0'.toNat)
  else if 'a' ≤ c ∧ c ≤ 'f' then some (c.toNat - 'a'.toNat + 10)
  else if 'A' ≤ c ∧ c ≤ 'F' then some (c.toNat - 'A'.toNat + 10)
  else none

/-- Adds the 16-bit unit of a complete escape to a quoted text. -/
def addUnit (unit : Nat) (cs : List Char) (high : Option Nat) (lone : Bool) : Mode :=
  if 0xDC00 ≤ unit ∧ unit ≤ 0xDFFF then
    match high with
    | some h => .quoted (Char.ofNat (0x10000 + (h - 0xD800) * 0x400 + (unit - 0xDC00)) :: cs)
        .none none lone
    | none => .quoted cs .none none true
  else
    let lone := lone || high.isSome
    if 0xD800 ≤ unit ∧ unit ≤ 0xDBFF then .quoted cs .none (some unit) lone
    else .quoted (Char.ofNat unit :: cs) .none none lone

/-- Takes a character inside quotes. -/
def stepQuoted (c : Char) (cs : List Char) (escape : Escape) (high : Option Nat) (lone : Bool)
    (s : State) : State :=
  match escape with
  | .none =>
    if c = '"' then
      let t := if lone || high.isSome then none else some (String.ofList cs.reverse)
      feed (.quoted t) { s with mode := .between }
    else if c = '\\' then { s with mode := .quoted cs .backslash high lone }
    else if c.toNat < 0x20 then stop .malformed s
    else { s with mode := .quoted (c :: cs) .none none (lone || high.isSome) }
  | .backslash =>
    if c = 'u' then { s with mode := .quoted cs (.unit 4 (some 0)) high lone }
    else
      match escaped? c with
      | some e => { s with mode := .quoted (e :: cs) .none none (lone || high.isSome) }
      | none => stop .malformed s
  | .unit missing value =>
    let value := match value, hexValue? c with
      | some v, some d => some (16 * v + d)
      | _, _ => none
    if c.utf8Size < missing then
      { s with mode := .quoted cs (.unit (missing - c.utf8Size) value) high lone }
    else
      match value with
      | some u => { s with mode := addUnit u cs high lone }
      | none => stop .malformed s

/-- Takes a character. -/
def step (s : State) (c : Char) : State :=
  if s.result.isSome then s
  else
    match s.mode with
    | .between => stepBetween c s
    | .word left j => stepWord c left j s
    | .number phase cs => stepNumber c phase cs s
    | .quoted cs escape high lone => stepQuoted c cs escape high lone s

/-- Stops the machine where the text ends between quotes. A half of a pair that
    has been met alone is noticed before the end by whoever keeps the text. -/
def stopQuoted (lone : Bool) (s : State) : State :=
  let j := rest .truncated s
  if lone then
    match s.expected with
    | .nameOrEnd | .name => stopWith (.misnamed j) s
    | _ => stopWith (.refused j) s
  else stop .truncated s

/-- Stops the machine where the text ends. A value that ends with it is complete,
    and then the end is met behind the value. -/
def atEnd (s : State) : State :=
  match s.mode with
  | .between => s
  | .word _ _ => stopWith (.cut .word) s
  | .number phase cs =>
    if phase.isComplete then feed (.leaf (numberValue cs.reverse)) { s with mode := .between }
    else stopWith (.cut .number) s
  | .quoted _ _ _ lone => stopQuoted lone s

/-- What the machine has read when the text ends. -/
def finish (s : State) : Document :=
  let s := if s.result.isSome then s else atEnd s
  match s.result, s.expected with
  | some d, _ => d
  | none, .nothing root => ⟨root, false⟩
  | none, _ => ⟨enclose (rest .truncated s) s.stack, false⟩

end Reader

/-- The tree of a text. -/
def Json.read (s : String) : Document := Reader.finish (s.toList.foldl Reader.step Reader.start)

end Playfield
