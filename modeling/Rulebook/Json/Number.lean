import Rulebook.Json.Basic
import Rulebook.Number.Text

/-!
# Rulebook.Json.Number

Numbers in JSON texts.

A literal without fraction and exponent is an integer if it lies in the 64-bit range, signed or
not; every other literal, `-0` among them, is a binary64 number.  Its value is found quickly rather
than exactly: digits are collected while they fit 64 bits, the rest only counts as powers of ten,
and the collected integer is multiplied or divided by one binary64 power of ten.  So a literal of
many digits may be off the nearest number in its last place.

Numbers are written with the fewest digits that read back: positional from `0.00001` up to below
`10 ^ 16` and with a point in any case, `1.5e-7` and `1e+16` outside of that.
-/

namespace Rulebook.Json

/-- A number literal in its parts. -/
structure Literal where
  negative : Bool
  whole : List Char
  fraction : Option (List Char)
  exponent : Option (Bool × List Char)

namespace Literal

/-! ## Reading -/

/-- The digits of the whole part: a single zero, or digits that start with no zero. -/
def whole? (cs : List Char) : Option (List Char × List Char) :=
  match cs with
  | '0' :: rest => some (['0'], rest)
  | _ =>
    match Number.digits cs with
    | ([], _) => none
    | (ds, rest) => some (ds, rest)

/-- An optional fraction; a point must be followed by digits. -/
def fraction? (cs : List Char) : Option (Option (List Char) × List Char) :=
  match cs with
  | '.' :: rest =>
    match Number.digits rest with
    | ([], _) => none
    | (ds, rest) => some (some ds, rest)
  | _ => some (none, cs)

/-- An optional exponent; its mark and sign must be followed by digits. -/
def exponent? (cs : List Char) : Option (Option (Bool × List Char) × List Char) :=
  match cs with
  | [] => some (none, [])
  | c :: rest =>
    if c == 'e' || c == 'E' then
      let (negative, rest) := Number.sign rest
      match Number.digits rest with
      | ([], _) => none
      | (ds, rest) => some (some (negative, ds), rest)
    else some (none, cs)

/-- The literal at the front of a text, and the rest. -/
def scan? (cs : List Char) : Option (Literal × List Char) := do
  let (negative, cs) := match cs with
    | '-' :: rest => (true, rest)
    | _ => (false, cs)
  let (whole, cs) ← whole? cs
  let (fraction, cs) ← fraction? cs
  let (exponent, cs) ← exponent? cs
  pure (⟨negative, whole, fraction, exponent⟩, cs)

/-! ## Value -/

/-- The largest unsigned 64-bit integer. -/
def maxUnsigned : Nat := 18446744073709551615

/-- Append a digit, if the result still fits 64 bits. -/
def append? (n : Nat) (d : Char) : Option Nat :=
  let n' := n * 10 + (d.toNat - 48)
  if n' ≤ maxUnsigned then some n' else none

/-- The collected integer of the whole part and the number of digits left out.  Once one is left
out, so are all that follow. -/
def collectWhole : List Char → Nat → Nat × Nat
  | [], n => (n, 0)
  | d :: rest, n =>
    match append? n d with
    | some n' => collectWhole rest n'
    | none => (n, rest.length + 1)

/-- The integer collected further over the fraction, and the number of digits taken. -/
def collectFraction : List Char → Nat → Nat × Nat
  | [], n => (n, 0)
  | d :: rest, n =>
    match append? n d with
    | some n' =>
      let (total, taken) := collectFraction rest n'
      (total, taken + 1)
    | none => (n, 0)

/-- A power of ten in units of the format, up to `10 ^ 308`. -/
def powerOfTen (k : Nat) : Nat := Magnitude.roundUnits (Nat.pow 10 k) 1

/-- A magnitude divided by `10 ^ k`, in steps of at most `10 ^ 308` that are each rounded. -/
def scaleDown : Nat → Nat → Nat → Nat
  | 0, units, _ => units
  | fuel + 1, units, k =>
    if k ≤ 308 then Magnitude.roundUnits units (powerOfTen k)
    else if units = 0 then 0
    else scaleDown fuel (Magnitude.roundUnits units (powerOfTen 308)) (k - 308)

/-- An integer times a power of ten, as a magnitude in units; none where it is too large. -/
def scale? (n : Nat) (exponent : Int) : Option Nat :=
  let units := Magnitude.roundUnits n 1
  match exponent with
  | .ofNat e =>
    if e ≤ 308 then
      let product := Magnitude.roundUnits (units * powerOfTen e) (Magnitude.one * Magnitude.one)
      if product < Magnitude.limit then some product else none
    else if n = 0 then some 0 else none
  | .negSucc k => some (scaleDown 6 units (k + 1))

/-- The largest exponent that is taken into account. -/
def maxExponent : Nat := 2147483647

/-- The binary64 value of a literal: none where it is too large. -/
def toNumber? (l : Literal) : Option Number :=
  let (n, dropped) := collectWhole l.whole 0
  let (n, taken) := collectFraction (l.fraction.getD []) n
  let places : Int := (dropped : Int) - taken
  let finish (units : Option Nat) : Option Number :=
    units.map fun u => .ofRatio l.negative u Magnitude.one
  match l.exponent with
  | none => finish (scale? n places)
  | some (negative, ds) =>
    let e := Number.ofDigits ds
    if maxExponent < e then
      if n ≠ 0 ∧ ¬ negative then none else finish (some 0)
    else finish (scale? n (if negative then places - e else places + e))

/-- The document of a literal. -/
def toJson (l : Literal) : Json :=
  let asNumber : Json := match l.toNumber? with
    | some x => .number x
    | none => .unreadable
  match l.fraction, l.exponent with
  | none, none =>
    let n := Number.ofDigits l.whole
    if l.negative then
      if 0 < n ∧ n ≤ 9223372036854775808 then .integer (-(n : Int)) else asNumber
    else if n ≤ maxUnsigned then .integer n else asNumber
  | _, _ => asNumber

end Literal

/-! ## Writing -/

/-- The exponent part of a number: `e-7`, `e+16`. -/
def exponentChars (e : Int) : List Char :=
  'e' :: (if e < 0 then '-' else '+') :: Nat.toDigits 10 e.natAbs

/-- A decimal in the notation of JSON numbers. -/
def decimalChars (d : Decimal) : List Char :=
  let ds := d.digitChars
  let point : Int := ds.length + d.exponent
  if -5 < point ∧ point ≤ 16 then
    if 0 ≤ d.exponent then d.plainChars ++ ['.', '0'] else d.plainChars
  else
    match ds with
    | first :: second :: rest => first :: '.' :: second :: rest ++ exponentChars (point - 1)
    | ds => ds ++ exponentChars (point - 1)

/-- A number as JSON text.  What is not finite has no JSON number and is written `null`. -/
def numberChars : Number → List Char
  | .finite negative m =>
    (if negative then ['-'] else []) ++
      (if m.units = 0 then ['0', '.', '0'] else decimalChars (Decimal.shortest .even m))
  | _ => ['n', 'u', 'l', 'l']

end Rulebook.Json
