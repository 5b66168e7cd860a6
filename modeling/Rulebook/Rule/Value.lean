import Rulebook.Json.Decode
import Rulebook.Number.Text

/-!
# Rulebook.Rule.Value

The fixed side of a condition: a flag, a number, a string or a list of strings.

In a document the value stands bare, and its form alone says which of the four it is.  Numbers are
binary64, so a whole number is read as one too and written back with a point.
-/

namespace Rulebook

/-- The literal that a condition compares with. -/
inductive FixedValue where
  | bool (value : Bool)
  | number (value : Number)
  | string (value : String)
  | collection (items : List String)
  deriving DecidableEq

namespace FixedValue

/-! ## Views -/

def asString? : FixedValue → Option String
  | .string s => some s
  | _ => none

def asCollection? : FixedValue → Option (List String)
  | .collection items => some items
  | _ => none

/-- The number, also one that is written in a string. -/
def asNumber? : FixedValue → Option Number
  | .number x => some x
  | .string s => Number.parse? s
  | _ => none

/-- A string of nothing but white space. -/
def isBlank : FixedValue → Bool
  | .string s => Text.isBlank s
  | _ => false

/-- Every string of the value: the string itself, or the items of the list. -/
def strings : FixedValue → List String
  | .string s => [s]
  | .collection items => items
  | _ => []

/-- Equal values.  Numbers are compared as numbers, so `0` equals `-0`. -/
def same : FixedValue → FixedValue → Bool
  | .bool a, .bool b => a == b
  | .number a, .number b => a.same b
  | .string a, .string b => a == b
  | .collection a, .collection b => a == b
  | _, _ => false

/-! ## Text and documents -/

def toText : FixedValue → String
  | .bool true => "true"
  | .bool false => "false"
  | .number x => x.toText
  | .string s => "\"" ++ s ++ "\""
  | .collection items => "[" ++ String.intercalate ", " items ++ "]"

def toJson : FixedValue → Json
  | .bool b => .bool b
  | .number x => .ofNumber x
  | .string s => .string s
  | .collection items => .ofStrings items

def ofJson? : Json → Option FixedValue
  | .bool b => some (.bool b)
  | .integer i => some (.number (.ofInt i))
  | .number x => some (.number x)
  | .string s => some (.string s)
  | .array items => (Json.strings? (.array items)).map .collection
  | _ => none

end FixedValue

end Rulebook
