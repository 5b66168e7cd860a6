import Rulebook.Json.Number

/-!
# Rulebook.Json.Writer

From documents to compact JSON text: no white space, members in their order, and only quotes,
backslashes and control characters escaped.
-/

namespace Rulebook.Json

/-- A hexadecimal digit in lower case. -/
def hexChar (n : Nat) : Char :=
  Nat.digitChar n

/-- A character inside a string. -/
def escapeChar (c : Char) : List Char :=
  match c with
  | '\x22' => ['\x5c', '\x22']
  | '\x5c' => ['\x5c', '\x5c']
  | '\x08' => ['\x5c', 'b']
  | '\x0c' => ['\x5c', 'f']
  | '\n' => ['\x5c', 'n']
  | '\r' => ['\x5c', 'r']
  | '\t' => ['\x5c', 't']
  | c =>
    if c.toNat < 0x20 then
      ['\x5c', 'u', '0', '0', hexChar (c.toNat / 16), hexChar (c.toNat % 16)]
    else [c]

/-- A string in quotes. -/
def stringChars (s : String) : List Char :=
  '\x22' :: (s.toList.flatMap escapeChar ++ ['\x22'])

mutual

/-- A document as text.  An unreadable place is written as null. -/
def toChars : Json → List Char
  | .null => ['n', 'u', 'l', 'l']
  | .bool true => ['t', 'r', 'u', 'e']
  | .bool false => ['f', 'a', 'l', 's', 'e']
  | .integer i => (toString i).toList
  | .number x => numberChars x
  | .string s => stringChars s
  | .array items => '\x5b' :: (itemsChars items ++ ['\x5d'])
  | .object members => '\x7b' :: (membersChars members ++ ['\x7d'])
  | .unreadable => ['n', 'u', 'l', 'l']

def itemsChars : List Json → List Char
  | [] => []
  | [j] => toChars j
  | j :: rest => toChars j ++ ',' :: itemsChars rest

def membersChars : List (String × Json) → List Char
  | [] => []
  | [(name, j)] => stringChars name ++ ':' :: toChars j
  | (name, j) :: rest => stringChars name ++ ':' :: toChars j ++ ',' :: membersChars rest

end

/-- A document as text. -/
def toText (j : Json) : String :=
  String.ofList j.toChars

end Rulebook.Json
