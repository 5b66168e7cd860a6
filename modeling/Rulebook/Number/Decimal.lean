import Rulebook.Number.Basic

/-!
# Rulebook.Number.Decimal

Decimal numbers beside binary64: the nearest number to a decimal, and the shortest decimal of a
number.

A decimal is a count of a power of ten.  `Decimal.toNumber` rounds it to the nearest number, a half
going to the even neighbour.  `Decimal.shortest` goes down the decimal grids from coarse to fine
and stops at the first one with a point that reads back, so no decimal with fewer digits does; the
only points of a grid that can be nearest are the two around the number.
-/

namespace Rulebook

/-- The decimal number `digits * 10 ^ exponent`. -/
structure Decimal where
  digits : Nat
  exponent : Int
  deriving DecidableEq

namespace Decimal

/-- The number nearest to a decimal.  An exponent so large that the outcome is already decided
(infinite, or zero) is not multiplied out. -/
def toNumber (negative : Bool) (d : Decimal) : Number :=
  match d.exponent with
  | .ofNat e =>
    if d.digits = 0 then .finite negative .zero
    else if 400 ≤ e then .infinite negative
    else .ofRatio negative (d.digits * Nat.pow 10 e) 1
  | .negSucc k =>
    if d.digits.log2 + 1200 < 3 * k then .finite negative .zero
    else .ofRatio negative d.digits (Nat.pow 10 (k + 1))

/-! ## The shortest decimal -/

/-- Which of two equally near points of a grid is taken. -/
inductive Tie where
  | up
  | even

/-- The magnitude divided by `10 ^ exponent`, as a quotient of whole numbers. -/
def gridRatio (m : Magnitude) (exponent : Int) : Nat × Nat :=
  match exponent with
  | .ofNat e => (m.units, Magnitude.one * Nat.pow 10 e)
  | .negSucc k => (m.units * Nat.pow 10 (k + 1), Magnitude.one)

/-- The decimal rounds to exactly this magnitude. -/
def readsBack (m : Magnitude) (d : Decimal) : Bool :=
  decide (d.toNumber false = .finite false m)

/-- The lower of the two points around a quotient is the nearer, or wins the tie. -/
def prefersLow (tie : Tie) (num den : Nat) : Bool :=
  match tie with
  | .up => 2 * (num % den) < den
  | .even => 2 * (num % den) < den || (2 * (num % den) == den && num / den % 2 == 0)

/-- The nearest point of the grid `10 ^ exponent` that reads back as the magnitude. -/
def onGrid? (tie : Tie) (m : Magnitude) (exponent : Int) : Option Decimal :=
  let (num, den) := gridRatio m exponent
  let low : Decimal := ⟨num / den, exponent⟩
  let high : Decimal := ⟨num / den + 1, exponent⟩
  match readsBack m low, readsBack m high with
  | true, true => some (if prefersLow tie num den then low else high)
  | true, false => some low
  | false, true => some high
  | false, false => none

/-- The magnitude written out in full. -/
def exact (m : Magnitude) : Decimal :=
  ⟨m.units * Nat.pow 5 Magnitude.unitExponent, -(Magnitude.unitExponent : Int)⟩

/-- An exponent of ten that no grid with a point near the magnitude exceeds. -/
def topExponent (m : Magnitude) : Int :=
  3 * ((m.units.log2 : Int) - 1073) / 10 + 2

/-- The decimal with the fewest digits that reads back as the magnitude, the nearest of those. -/
def shortest (tie : Tie) (m : Magnitude) : Decimal :=
  let top := topExponent m
  let nearest := (List.range (top + 1075).toNat).findSome? fun (i : Nat) => onGrid? tie m (top - i)
  nearest.getD (exact m)

/-! ## Digits -/

/-- The digits of the count, without leading zeros. -/
def digitChars (d : Decimal) : List Char :=
  Nat.toDigits 10 d.digits

/-- The decimal in positional notation, without an exponent: `1200`, `12.5`, `0.00012`. -/
def plainChars (d : Decimal) : List Char :=
  let ds := d.digitChars
  match d.exponent with
  | .ofNat e => ds ++ List.replicate e '0'
  | .negSucc k =>
    let places := k + 1
    if places < ds.length then
      ds.take (ds.length - places) ++ '.' :: ds.drop (ds.length - places)
    else
      '0' :: '.' :: (List.replicate (places - ds.length) '0' ++ ds)

end Decimal

end Rulebook
