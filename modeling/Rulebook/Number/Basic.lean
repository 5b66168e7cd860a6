import Rulebook.Number.Magnitude

/-!
# Rulebook.Number.Basic

Numbers as they stand in a rule: binary64, with both zeros, both infinities and not-a-number.

Comparison goes through one exact view: `key?` places every number but not-a-number on the line of
the integers, in units of `2 ^ -1074`, with both zeros at the same place and the infinities beyond
all finite numbers.  Two different notions of equality are kept apart: `=` tells `0` from `-0` and
finds not-a-number equal to itself, `same` compares places and does neither.
-/

namespace Rulebook

/-- A binary64 number. -/
inductive Number where
  | nan
  | infinite (negative : Bool)
  | finite (negative : Bool) (magnitude : Magnitude)
  deriving DecidableEq

namespace Number

/-- Positive zero. -/
def zero : Number := .finite false .zero

instance : Inhabited Number := ⟨zero⟩

/-- The quotient `num / den` with a sign, rounded to the nearest number; past the largest finite
one it is infinite. -/
def ofRatio (negative : Bool) (num den : Nat) : Number :=
  (Magnitude.ofRatio? num den).elim (.infinite negative) (.finite negative)

/-- An integer, rounded to the nearest number. -/
def ofInt (i : Int) : Number :=
  ofRatio (decide (i < 0)) i.natAbs 1

/-- Neither infinite nor not-a-number. -/
def isFinite : Number → Bool
  | .finite _ _ => true
  | _ => false

/-! ## Order -/

/-- A size with its sign. -/
def signed (negative : Bool) (size : Nat) : Int :=
  if negative then -(size : Int) else size

/-- The place of a number on the line, in units; not-a-number has none. -/
def key? : Number → Option Int
  | .nan => none
  | .infinite negative => some (signed negative Magnitude.limit)
  | .finite negative m => some (signed negative m.units)

/-- Both numbers have a place and the places stand in the given relation. -/
def compareBy (r : Int → Int → Bool) (a b : Number) : Bool :=
  match a.key?, b.key? with
  | some x, some y => r x y
  | _, _ => false

/-- At most; false if either is not a number. -/
def le (a b : Number) : Bool := compareBy (fun x y => decide (x ≤ y)) a b

/-- Less; false if either is not a number. -/
def lt (a b : Number) : Bool := compareBy (fun x y => decide (x < y)) a b

/-- At the same place: `0` and `-0` are, and not-a-number is with nothing. -/
def same (a b : Number) : Bool := compareBy (fun x y => decide (x = y)) a b

end Number

end Rulebook
