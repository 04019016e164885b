/-!
# SipHash with one round per word and three at the end

The keyed hash of a byte string to 64 bits, for the key of zeros. Words are read least significant
byte first; the last word carries the length of the input in its top byte.
-/

namespace CoopSched.Hash

/-- The four words of the hash while it runs. -/
structure SipState where
  v0 : UInt64
  v1 : UInt64
  v2 : UInt64
  v3 : UInt64
  deriving DecidableEq, Repr

namespace SipState

/-- The state before the first word, for the key of zeros: the four published constants. -/
def start : SipState :=
  ⟨0x736f6d6570736575, 0x646f72616e646f6d, 0x6c7967656e657261, 0x7465646279746573⟩

/-- Rotation to the left by a number of bits between 1 and 63. -/
def rotate (x : UInt64) (bits : UInt64) : UInt64 := (x <<< bits) ||| (x >>> (64 - bits))

/-- One round of additions, rotations and exclusive ors. -/
def round (s : SipState) : SipState :=
  let v0 := s.v0 + s.v1
  let v1 := rotate s.v1 13 ^^^ v0
  let v0 := rotate v0 32
  let v2 := s.v2 + s.v3
  let v3 := rotate s.v3 16 ^^^ v2
  let v0 := v0 + v3
  let v3 := rotate v3 21 ^^^ v0
  let v2 := v2 + v1
  let v1 := rotate v1 17 ^^^ v2
  let v2 := rotate v2 32
  ⟨v0, v1, v2, v3⟩

/-- Mix one word in. -/
def absorb (s : SipState) (word : UInt64) : SipState :=
  let mixed := round { s with v3 := s.v3 ^^^ word }
  { mixed with v0 := mixed.v0 ^^^ word }

/-- The hash value: three rounds after marking the end of the input. -/
def finish (s : SipState) : UInt64 :=
  let last := round (round (round { s with v2 := s.v2 ^^^ 0xff }))
  last.v0 ^^^ last.v1 ^^^ last.v2 ^^^ last.v3

end SipState

/-- The word written by at most eight bytes, least significant first. -/
def littleEndian : List UInt8 → UInt64
  | [] => 0
  | b :: rest => b.toUInt64 ||| (littleEndian rest <<< 8)

/-- Mix in the bytes from a place of the input on; `total` is the length of the whole input. -/
def absorbBytes (total : Nat) (s : SipState) : List UInt8 → SipState
  | a :: b :: c :: d :: e :: f :: g :: h :: rest =>
    absorbBytes total (s.absorb (littleEndian [a, b, c, d, e, f, g, h])) rest
  | tail => s.absorb (littleEndian tail ||| (total.toUInt64 <<< 56))

/-- The hash of a byte string. -/
def sip13 (bytes : List UInt8) : UInt64 :=
  (absorbBytes bytes.length SipState.start bytes).finish

end CoopSched.Hash
