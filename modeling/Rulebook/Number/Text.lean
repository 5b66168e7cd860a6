import Rulebook.Number.Decimal
import Rulebook.Text.Blank

/-!
# Rulebook.Number.Text

The text of a number in messages, and the numbers a text can hold.

Written numbers are positional, with the fewest digits that read back and no mark of being a
fraction where there is none: `12`, `0.5`, `-0`, `NaN`, `-inf`.

Two readers share the decimal notation `digits [. digits] [e exponent]`: `scan` takes the longest
number at the front of a text and leaves the rest, `parse?` wants the whole text to be one number.
They differ in not-a-number, which only `parse?` takes with a sign.
-/

namespace Rulebook.Number

/-- The number in positional notation. -/
def toChars : Number → List Char
  | .nan => ['N', 'a', 'N']
  | .infinite negative => (if negative then ['-'] else []) ++ ['i', 'n', 'f']
  | .finite negative m =>
    (if negative then ['-'] else []) ++
      (if m.units = 0 then ['0'] else (Decimal.shortest .up m).plainChars)

/-- The number in positional notation. -/
def toText (n : Number) : String :=
  String.ofList n.toChars

/-! ## Reading -/

/-- The digits at the front, and the rest. -/
def digits (cs : List Char) : List Char × List Char :=
  (cs.takeWhile Char.isDigit, cs.dropWhile Char.isDigit)

/-- An optional sign: whether it is a minus, and the rest. -/
def sign : List Char → Bool × List Char
  | '-' :: rest => (true, rest)
  | '+' :: rest => (false, rest)
  | cs => (false, cs)

/-- The whole number written by a list of digits. -/
def ofDigits (ds : List Char) : Nat :=
  Nat.ofDigitChars 10 ds 0

/-- Digits before and after a decimal point, with at least one digit: `12`, `12.`, `12.5`, `.5`. -/
def mantissa (cs : List Char) : Option ((List Char × List Char) × List Char) :=
  match digits cs with
  | (whole, '.' :: rest) =>
    let (fraction, rest) := digits rest
    if whole.isEmpty && fraction.isEmpty then none else some ((whole, fraction), rest)
  | (whole, rest) => if whole.isEmpty then none else some ((whole, []), rest)

/-- An optional exponent.  Once its mark is read its digits must follow. -/
def exponent : List Char → Option (Int × List Char)
  | [] => some (0, [])
  | c :: rest =>
    if c == 'e' || c == 'E' then
      let (negative, rest) := sign rest
      let (ds, rest) := digits rest
      if ds.isEmpty then none
      else some (if negative then -(ofDigits ds : Int) else ofDigits ds, rest)
    else some (0, c :: rest)

/-- A decimal without sign at the front of a text. -/
def unsigned (cs : List Char) : Option (Decimal × List Char) := do
  let ((whole, fraction), rest) ← mantissa cs
  let (e, rest) ← exponent rest
  pure (⟨ofDigits (whole ++ fraction), e - fraction.length⟩, rest)

/-- The rest of a text that starts with a word of lower-case ASCII letters in any letter case. -/
def word? (word : List Char) (cs : List Char) : Option (List Char) :=
  if (cs.take word.length).map Char.toLower == word then some (cs.drop word.length) else none

/-- The number at the front of a text, and the rest: a decimal with an optional sign, `nan` without
one, or `infinity` or `inf` with an optional one. -/
def scan (cs : List Char) : Option (Number × List Char) :=
  let (negative, body) := sign cs
  match mantissa body with
  | some _ => (unsigned body).map fun (d, rest) => (d.toNumber negative, rest)
  | none =>
    match word? ['n', 'a', 'n'] cs with
    | some rest => some (.nan, rest)
    | none =>
      match word? ['i', 'n', 'f', 'i', 'n', 'i', 't', 'y'] body with
      | some rest => some (.infinite negative, rest)
      | none => (word? ['i', 'n', 'f'] body).map fun rest => (.infinite negative, rest)

/-- The number that the whole list of characters writes. -/
def parseChars? (cs : List Char) : Option Number :=
  let (negative, body) := sign cs
  let lower := body.map Char.toLower
  if lower = ['n', 'a', 'n'] then some .nan
  else if lower = ['i', 'n', 'f'] ∨ lower = ['i', 'n', 'f', 'i', 'n', 'i', 't', 'y'] then
    some (.infinite negative)
  else
    match unsigned body with
    | some (d, []) => some (d.toNumber negative)
    | _ => none

/-- The number that a text writes, white space around it aside. -/
def parse? (s : String) : Option Number :=
  parseChars? (Text.trimChars s.toList)

end Rulebook.Number
