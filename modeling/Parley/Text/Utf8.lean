import Parley.Text.Ranges

/-!
# Sets of characters as ranges of bytes

In a text a character is one to four bytes.  The characters of a range with the same number of
bytes can be told by one range for each byte, as long as all later bytes run through all their
values or all earlier ones are the same.  `byteRanges` cuts the ranges of a set so that this holds
of each piece. -/

namespace Parley.Text

/-- The first and the last value of a byte. -/
abbrev ByteRange := Nat × Nat

/-- The bytes of a code point. -/
def encode (n : Nat) : List Nat :=
  if n < 0x80 then [n]
  else if n < 0x800 then [0xC0 + n / 64, 0x80 + n % 64]
  else if n < 0x10000 then [0xE0 + n / 4096, 0x80 + n / 64 % 64, 0x80 + n % 64]
  else [0xF0 + n / 262144, 0x80 + n / 4096 % 64, 0x80 + n / 64 % 64, 0x80 + n % 64]

/-- The code points of one, two, three and four bytes. -/
def byLength : List (Nat × Nat) := [(0, 0x7F), (0x80, 0x7FF), (0x800, 0xFFFF), (0x10000, 0x10FFFF)]

/-- The parts of a range whose code points have the same number of bytes. -/
def cutByLength (r : Nat × Nat) : List (Nat × Nat) :=
  (byLength.map fun l => (Nat.max r.1 l.1, Nat.min r.2 l.2)).filter fun r => r.1 ≤ r.2

/-- Cut a range of several blocks where its first whole block begins and its last one ends. -/
def cutAtBlocks (block : Nat) (r : Nat × Nat) : List (Nat × Nat) :=
  let (first, last) := r
  if first / block = last / block then [r]
  else
    let next := if first % block = 0 then first else (first / block + 1) * block
    let head := if first < next then [(first, next - 1)] else []
    let tail :=
      if next / block = last / block ∨ last % block = block - 1 then [(next, last)]
      else [(next, last / block * block - 1), (last / block * block, last)]
    head ++ tail

/-- The sizes of the blocks that the last bytes of a code point run through. -/
def blocks : List Nat := [64, 4096, 262144]

/-- The pieces of a range of code points that have the same number of bytes. -/
def pieces (r : Nat × Nat) : List (Nat × Nat) :=
  if r.2 < 0x80 then [r]
  else blocks.foldl (fun ranges block => ranges.flatMap (cutAtBlocks block)) [r]

/-- The characters of a set, by ranges of their bytes. -/
def byteRanges (r : Ranges) : List (List ByteRange) :=
  ((r.toList.flatMap cutByLength).flatMap pieces).map fun r => (encode r.1).zip (encode r.2)

end Parley.Text
