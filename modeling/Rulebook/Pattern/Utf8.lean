import Rulebook.Unicode.CodeSet

/-!
# Rulebook.Pattern.Utf8

Ranges of characters as sequences of ranges of bytes.

A machine reads bytes.  A range of characters is cut where the number of bytes changes and where a
byte does not run through all of its values, until each piece is a sequence of byte ranges: a text
of UTF-8 is in the piece exactly if each of its bytes is in the byte range at its place.
-/

namespace Rulebook.Pattern

open Unicode (CodeSet)

/-- Bytes from `first` to `last`. -/
structure ByteRange where
  first : Nat
  last : Nat
  deriving DecidableEq

namespace Utf8

/-- The bytes of a code point. -/
def encode (n : Nat) : List Nat :=
  if n < 0x80 then [n]
  else if n < 0x800 then [0xC0 + n / 0x40, 0x80 + n % 0x40]
  else if n < 0x10000 then [0xE0 + n / 0x1000, 0x80 + n / 0x40 % 0x40, 0x80 + n % 0x40]
  else
    [0xF0 + n / 0x40000, 0x80 + n / 0x1000 % 0x40, 0x80 + n / 0x40 % 0x40, 0x80 + n % 0x40]

/-- The place of the cut, if the last bytes after the first few do not run through all of their
values, which are `size` together: the last code point before it. -/
def unevenCut? (first last size : Nat) : Option Nat :=
  if first / size = last / size then none
  else if first % size ≠ 0 then some (first / size * size + (size - 1))
  else if last % size ≠ size - 1 then some (last / size * size - 1)
  else none

/-- The place where a range has to be cut first: the last code point before it. -/
def cut? (first last : Nat) : Option Nat :=
  match [0x7F, 0x7FF, 0xFFFF].find? fun limit => first ≤ limit && limit < last with
  | some limit => some limit
  | none =>
    if last < 0x80 then none
    else [0x40, 0x1000, 0x40000].findSome? (unevenCut? first last)

/-- The sequences of byte ranges for the code points from `first` to `last`, in ascending order. -/
def sequences (first last : Nat) : List (List ByteRange) :=
  match cut? first last with
  | some limit =>
    if first ≤ limit ∧ limit < last then
      sequences first limit ++ sequences (limit + 1) last
    else []
  | none => [(encode first).zipWith ByteRange.mk (encode last)]
termination_by last - first

/-- The sequences of byte ranges for a set of characters, in ascending order. -/
def sequencesOf (set : CodeSet) : List (List ByteRange) :=
  set.ranges.flatMap fun r => sequences r.1 r.2

end Utf8

end Rulebook.Pattern
