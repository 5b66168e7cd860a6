import Rulebook.Json.Number

/-!
# Rulebook.Json.Reader

From JSON text to documents.

`parse?` wants one document and nothing but white space around it.  Only the four JSON characters
count as white space, control characters must be escaped in strings, and nesting is limited:
beyond `maxDepth` levels a place is unreadable (`Json.clip`), which hurts only where it is decoded.
-/

namespace Rulebook.Json

/-- The levels of nesting that can be decoded. -/
def maxDepth : Nat := 127

/-- White space between the parts of a document. -/
def isGap (c : Char) : Bool :=
  c == ' ' || c == '\t' || c == '\n' || c == '\r'

/-- The text after white space. -/
def skipGap (cs : List Char) : List Char :=
  cs.dropWhile isGap

/-! ## Strings -/

/-- The value of a hexadecimal digit. -/
def hexDigit? (c : Char) : Option Nat :=
  if '0' ≤ c ∧ c ≤ '9' then some (c.toNat - 48)
  else if 'a' ≤ c ∧ c ≤ 'f' then some (c.toNat - 87)
  else if 'A' ≤ c ∧ c ≤ 'F' then some (c.toNat - 55)
  else none

/-- Four hexadecimal digits. -/
def hexFour? : List Char → Option (Nat × List Char)
  | a :: b :: c :: d :: rest => do
    let a ← hexDigit? a
    let b ← hexDigit? b
    let c ← hexDigit? c
    let d ← hexDigit? d
    pure (((a * 16 + b) * 16 + c) * 16 + d, rest)
  | _ => none

/-- The character of a one-letter escape. -/
def escape? : Char → Option Char
  | '\x22' => some '\x22'
  | '\x5c' => some '\x5c'
  | '/' => some '/'
  | 'b' => some '\x08'
  | 'f' => some '\x0c'
  | 'n' => some '\n'
  | 'r' => some '\r'
  | 't' => some '\t'
  | _ => none

/-- The code units of a string up to its closing quote, and the rest.  Characters that stand for
themselves are their code points, `\u` escapes the unit they write. -/
def stringUnits : List Char → Option (List Nat × List Char)
  | [] => none
  | '\x22' :: rest => some ([], rest)
  | '\x5c' :: 'u' :: a :: b :: c :: d :: rest => do
    let (unit, _) ← hexFour? [a, b, c, d]
    let (units, rest) ← stringUnits rest
    pure (unit :: units, rest)
  | '\x5c' :: c :: rest => do
    let c ← escape? c
    let (units, rest) ← stringUnits rest
    pure (c.toNat :: units, rest)
  | c :: rest =>
    if c.toNat < 0x20 || c == '\x5c' then none
    else do
      let (units, rest) ← stringUnits rest
      pure (c.toNat :: units, rest)

/-- The first half of a surrogate pair. -/
def isHighHalf (unit : Nat) : Bool := 0xD800 ≤ unit && unit ≤ 0xDBFF

/-- The second half of a surrogate pair. -/
def isLowHalf (unit : Nat) : Bool := 0xDC00 ≤ unit && unit ≤ 0xDFFF

/-- The characters of a list of code units, if both halves of every surrogate pair are there. -/
def joinUnits? : List Nat → Option (List Char)
  | [] => some []
  | [unit] => if isHighHalf unit || isLowHalf unit then none else some [Char.ofNat unit]
  | unit :: next :: rest =>
    if isHighHalf unit then
      if isLowHalf next then
        (joinUnits? rest).map
          (Char.ofNat (0x10000 + (unit - 0xD800) * 0x400 + (next - 0xDC00)) :: ·)
      else none
    else if isLowHalf unit then none
    else (joinUnits? (next :: rest)).map (Char.ofNat unit :: ·)

/-- A string after its opening quote: its value, if it has one, and the rest. -/
def stringBody (cs : List Char) : Option (Option String × List Char) :=
  (stringUnits cs).map fun (units, rest) => ((joinUnits? units).map String.ofList, rest)

/-! ## Documents -/

mutual

/-- The document at the front of a text, and the rest. -/
def value : Nat → List Char → Option (Json × List Char)
  | 0, _ => none
  | fuel + 1, cs =>
    match skipGap cs with
    | 'n' :: 'u' :: 'l' :: 'l' :: rest => some (.null, rest)
    | 't' :: 'r' :: 'u' :: 'e' :: rest => some (.bool true, rest)
    | 'f' :: 'a' :: 'l' :: 's' :: 'e' :: rest => some (.bool false, rest)
    | '\x22' :: rest => do
      let (s, rest) ← stringBody rest
      pure (s.elim .unreadable .string, rest)
    | '\x5b' :: rest =>
      match skipGap rest with
      | '\x5d' :: rest => some (.array [], rest)
      | rest => do
        let (items, rest) ← items fuel rest
        pure (.array items, rest)
    | '\x7b' :: rest =>
      match skipGap rest with
      | '\x7d' :: rest => some (.object [], rest)
      | rest => do
        let (members, rest) ← members fuel rest
        pure (members.elim .unreadable .object, rest)
    | cs => do
      let (literal, rest) ← Literal.scan? cs
      pure (literal.toJson, rest)

/-- The items of an array up to its closing bracket. -/
def items : Nat → List Char → Option (List Json × List Char)
  | 0, _ => none
  | fuel + 1, cs => do
    let (j, rest) ← value fuel cs
    match skipGap rest with
    | ',' :: rest =>
      let (js, rest) ← items fuel rest
      pure (j :: js, rest)
    | '\x5d' :: rest => pure ([j], rest)
    | _ => none

/-- The members of an object up to its closing brace; no members at all if one of the names is
unreadable. -/
def members : Nat → List Char → Option (Option (List (String × Json)) × List Char)
  | 0, _ => none
  | fuel + 1, cs =>
    match skipGap cs with
    | '\x22' :: rest => do
      let (name, rest) ← stringBody rest
      match skipGap rest with
      | ':' :: rest =>
        let (j, rest) ← value fuel rest
        let entry := name.map fun n => (n, j)
        match skipGap rest with
        | ',' :: rest =>
          let (entries, rest) ← members fuel rest
          pure ((entry.bind fun e => entries.map (e :: ·)), rest)
        | '\x7d' :: rest => pure (entry.map ([·]), rest)
        | _ => none
      | _ => none
    | _ => none

end

/-- The document that a list of characters writes.  Every level of nesting and every item takes at
least one character and at most two steps, so twice the length is enough fuel. -/
def parseChars? (cs : List Char) : Option Json :=
  match value (2 * cs.length + 2) cs with
  | some (j, rest) => if (skipGap rest).isEmpty then some (j.clip maxDepth) else none
  | none => none

/-- The document that a text writes. -/
def parse? (s : String) : Option Json :=
  parseChars? s.toList

end Rulebook.Json
