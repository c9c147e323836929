/-!
# SHA-256

The digest that names an asset and guards a slot.

The message is cut into blocks of sixteen words. A block is stirred into a state
of eight words by sixty-four rounds. The rounds need more words than the block
has, but each round only looks at the sixteen latest, so a round shifts a window
of sixteen: it uses up the first word and appends a new one. This keeps the
message schedule and the rounds in one recursion over the list of constants.

## Main definitions

* `Sha256.digest`: The digest of a list of bytes, as eight words.
* `Sha256.hex`: The digest in hexadecimal.
* `Sha256.firstWord`: The first eight bytes of the digest as one word, least
  byte first.
-/

namespace Playfield

namespace Sha256

/-- The eight words of a state. -/
structure State where
  a : UInt32
  b : UInt32
  c : UInt32
  d : UInt32
  e : UInt32
  f : UInt32
  g : UInt32
  h : UInt32

/-- The state before the first block. -/
def start : State :=
  ⟨0x6a09e667, 0xbb67ae85, 0x3c6ef372, 0xa54ff53a, 0x510e527f, 0x9b05688c, 0x1f83d9ab, 0x5be0cd19⟩

/-- The constants of the rounds. -/
def constants : List UInt32 :=
  [0x428a2f98, 0x71374491, 0xb5c0fbcf, 0xe9b5dba5, 0x3956c25b, 0x59f111f1, 0x923f82a4, 0xab1c5ed5,
    0xd807aa98, 0x12835b01, 0x243185be, 0x550c7dc3, 0x72be5d74, 0x80deb1fe, 0x9bdc06a7, 0xc19bf174,
    0xe49b69c1, 0xefbe4786, 0x0fc19dc6, 0x240ca1cc, 0x2de92c6f, 0x4a7484aa, 0x5cb0a9dc, 0x76f988da,
    0x983e5152, 0xa831c66d, 0xb00327c8, 0xbf597fc7, 0xc6e00bf3, 0xd5a79147, 0x06ca6351, 0x14292967,
    0x27b70a85, 0x2e1b2138, 0x4d2c6dfc, 0x53380d13, 0x650a7354, 0x766a0abb, 0x81c2c92e, 0x92722c85,
    0xa2bfe8a1, 0xa81a664b, 0xc24b8b70, 0xc76c51a3, 0xd192e819, 0xd6990624, 0xf40e3585, 0x106aa070,
    0x19a4c116, 0x1e376c08, 0x2748774c, 0x34b0bcb5, 0x391c0cb3, 0x4ed8aa4a, 0x5b9cca4f, 0x682e6ff3,
    0x748f82ee, 0x78a5636f, 0x84c87814, 0x8cc70208, 0x90befffa, 0xa4506ceb, 0xbef9a3f7, 0xc67178f2]

/-- A word turned to the right. -/
def turn (x n : UInt32) : UInt32 := (x >>> n) ||| (x <<< (32 - n))

/-- The word that follows a window of sixteen. -/
def nextWord (window : List UInt32) : UInt32 :=
  let word (i : Nat) : UInt32 := window.getD i 0
  let early := turn (word 1) 7 ^^^ turn (word 1) 18 ^^^ (word 1 >>> 3)
  let late := turn (word 14) 17 ^^^ turn (word 14) 19 ^^^ (word 14 >>> 10)
  word 0 + early + word 9 + late

/-- One round, with its constant and its word. -/
def round (k w : UInt32) (s : State) : State :=
  let choice := (s.e &&& s.f) ^^^ (~~~s.e &&& s.g)
  let majority := (s.a &&& s.b) ^^^ (s.a &&& s.c) ^^^ (s.b &&& s.c)
  let x := s.h + (turn s.e 6 ^^^ turn s.e 11 ^^^ turn s.e 25) + choice + k + w
  let y := (turn s.a 2 ^^^ turn s.a 13 ^^^ turn s.a 22) + majority
  ⟨x + y, s.a, s.b, s.c, s.d + x, s.e, s.f, s.g⟩

/-- All rounds, over a window of sixteen words. -/
def rounds : List UInt32 → List UInt32 → State → State
  | k :: ks, w :: window, s => rounds ks (window ++ [nextWord (w :: window)]) (round k w s)
  | _, _, s => s

/-- Stirs a block into a state. -/
def absorb (s : State) (block : List UInt32) : State :=
  let t := rounds constants block s
  ⟨s.a + t.a, s.b + t.b, s.c + t.c, s.d + t.d, s.e + t.e, s.f + t.f, s.g + t.g, s.h + t.h⟩

/-- The last `n` bytes of a number, the least byte last. -/
def bytesOf (n : Nat) : Nat → List UInt8
  | 0 => []
  | k + 1 => UInt8.ofNat (n / Nat.pow 256 k) :: bytesOf n k

/-- A message filled up to whole blocks, which end in its length in bits. -/
def pad (message : List UInt8) : List UInt8 :=
  let n := message.length
  message ++ 0x80 :: (List.replicate ((119 - n % 64) % 64) 0 ++ bytesOf (8 * n) 8)

/-- Four bytes to a word, the first byte being the highest. -/
def words : List UInt8 → List UInt32
  | a :: b :: c :: d :: bytes =>
    ((a.toUInt32 <<< 24) ||| (b.toUInt32 <<< 16) ||| (c.toUInt32 <<< 8) ||| d.toUInt32) ::
      words bytes
  | _ => []

/-- Stirs all blocks of a list of words into a state. -/
def absorbAll (s : State) (ws : List UInt32) : State :=
  match ws with
  | [] => s
  | w :: ws => absorbAll (absorb s ((w :: ws).take 16)) ((w :: ws).drop 16)
termination_by ws.length
decreasing_by
  simp only [List.length_drop, List.length_cons]
  omega

/-- The digest of a message. -/
def digest (message : List UInt8) : State := absorbAll start (words (pad message))

/-- The words of a state in order. -/
def State.toList (s : State) : List UInt32 := [s.a, s.b, s.c, s.d, s.e, s.f, s.g, s.h]

/-- A word in hexadecimal, with eight digits. -/
def hexWord (w : UInt32) : List Char :=
  (bytesOf w.toNat 4).flatMap fun b => [Nat.digitChar (b.toNat / 16), Nat.digitChar (b.toNat % 16)]

/-- The bytes of a text. -/
def bytesOfText (s : String) : List UInt8 := s.toUTF8.data.toList

/-- The digest of a text in hexadecimal. -/
def hex (s : String) : String := String.ofList ((digest (bytesOfText s)).toList.flatMap hexWord)

/-- A number from its bytes, the least byte first. -/
def ofBytes (bytes : List UInt8) : Nat := bytes.foldr (fun b n => b.toNat + 256 * n) 0

/-- The first eight bytes of the digest of a text as a word, least byte first. -/
def firstWord (s : String) : UInt64 :=
  let d := digest (bytesOfText s)
  UInt64.ofNat (ofBytes (bytesOf d.a.toNat 4 ++ bytesOf d.b.toNat 4))

end Sha256

end Playfield
