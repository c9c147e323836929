import Playfield.Scalar.Basic

/-!
# Jitter

The stream of numbers that shakes the camera.

A shake has to look random and be the same in every run with the same seed. The
state of the stream is a single word. One draw adds an odd constant to it and
mixes the bits of the sum, and the mixed word is both what is drawn and the next
state. Of a word only the upper 53 bits are used, which are as many as a double
holds, so no draw is ever rounded up to one.

## Main definitions

* `Jitter.mix`: Spreads each bit of a word over the whole word.
* `Jitter.next`: The word that follows another.
* `Jitter.fraction`: The upper bits of a word as a number from zero up to one.
-/

namespace Playfield

namespace Jitter

/-- Spreads each bit of a word over the whole word. -/
def mix (z : UInt64) : UInt64 :=
  let z := (z ^^^ (z >>> 30)) * 0xbf58476d1ce4e5b9
  let z := (z ^^^ (z >>> 27)) * 0x94d049bb133111eb
  z ^^^ (z >>> 31)

/-- The word that follows another. -/
def next (word : UInt64) : UInt64 := mix (word + 0x9e3779b97f4a7c15)

/-- The upper 53 bits of a word as a number from zero up to one. -/
def fraction {R : Type} [Scalar R] (word : UInt64) : R :=
  Scalar.ofNat (word >>> 11).toNat / Scalar.ofNat (Nat.pow 2 53)

end Jitter

end Playfield
