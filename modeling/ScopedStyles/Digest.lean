/-!
# Digests of file names

A short text that tells the scoped names of one file from those of another: the low 32 bits of the
SipHash-1-3 value of the file's name under the zero key, in six letters of 6 bits each.
-/

namespace ScopedStyles.Digest

/-- The state of SipHash: four words of 64 bits. -/
structure SipState where
  v0 : UInt64
  v1 : UInt64
  v2 : UInt64
  v3 : UInt64

/-- A word rotated to the left. -/
def rotate (x : UInt64) (n : UInt64) : UInt64 :=
  (x <<< n) ||| (x >>> (64 - n))

namespace SipState

/-- The state under the zero key. -/
def start : SipState :=
  ⟨0x736f6d6570736575, 0x646f72616e646f6d, 0x6c7967656e657261, 0x7465646279746573⟩

/-- One round. -/
def round (s : SipState) : SipState :=
  let v0 := s.v0 + s.v1
  let v1 := rotate s.v1 13 ^^^ v0
  let v0 := rotate v0 32
  let v2 := s.v2 + s.v3
  let v3 := rotate s.v3 16 ^^^ v2
  let v0 := v0 + v3
  let v3 := rotate v3 21 ^^^ v0
  let v2 := v2 + v1
  let v1 := rotate v1 17 ^^^ v2
  let v2 := rotate v2 32
  ⟨v0, v1, v2, v3⟩

/-- Takes a word of the message. -/
def absorb (s : SipState) (word : UInt64) : SipState :=
  let s := round { s with v3 := s.v3 ^^^ word }
  { s with v0 := s.v0 ^^^ word }

/-- The value of the state after the last word. -/
def finish (s : SipState) : UInt64 :=
  let s := round (round (round { s with v2 := s.v2 ^^^ 0xff }))
  s.v0 ^^^ s.v1 ^^^ s.v2 ^^^ s.v3

end SipState

/-- Eight bytes or fewer as a word, least significant byte first. -/
def word (bytes : List UInt8) : UInt64 :=
  bytes.foldr (fun b w => (w <<< 8) ||| b.toUInt64) 0

/-- Takes the words of a message. The last word holds the bytes that are left and, in its highest
byte, the length of the message. -/
def absorbAll (length : Nat) (s : SipState) : List UInt8 → SipState
  | b0 :: b1 :: b2 :: b3 :: b4 :: b5 :: b6 :: b7 :: rest =>
    absorbAll length (s.absorb (word [b0, b1, b2, b3, b4, b5, b6, b7])) rest
  | rest => s.absorb (word rest ||| (length.toUInt64 <<< 56))

/-- The SipHash-1-3 value of a message under the zero key. -/
def sipHash (message : List UInt8) : UInt64 :=
  (absorbAll message.length .start message).finish

/-- The letters of 6 bits. -/
def alphabet : List Char :=
  "abcdefghijklmnopqrstuvwxyzABCDEFGHIJKLMNOPQRSTUVWXYZ1234567890_-".toList

/-- The letter of 6 bits. -/
def letter (n : Nat) : Char :=
  alphabet.getD (n % 64) '-'

/-- Four bytes in six letters. Four zero bits fill the last letter. -/
def letters (a b c d : Nat) : List Char :=
  [letter (a / 4), letter (a * 16 + b / 16), letter (b * 4 + c / 64), letter c, letter (d / 4),
    letter (d * 16)]

/-- The digest of a text, which ends in the byte `0xff` for the hash. -/
def ofBytes (bytes : List UInt8) : List Char :=
  let n := (sipHash (bytes ++ [0xff])).toNat
  letters (n % 256) (n / 256 % 256) (n / 65536 % 256) (n / 16777216 % 256)

end ScopedStyles.Digest
