import Rulebook.Json.Basic
import Rulebook.SortedMap

/-!
# Rulebook.Json.Decode

What the readers of all record types share.

A record is written as an object, where the order of members is free, unknown members are ignored
and a known one must not be repeated; or as an array of its fields in their declared order, where
fields at the end may be absent.  Both become a list of named fields (`record?`), from which
`required`, `withDefault` and `optional` take one field each.

A name of a fixed set is written as a string, or as an object with that name alone and null.
-/

namespace Rulebook.Json

/-! ## Leaves -/

def bool? : Json → Option Bool
  | .bool b => some b
  | _ => none

def string? : Json → Option String
  | .string s => some s
  | _ => none

/-- An integer from `low` to `high`. -/
def integer? (low high : Int) : Json → Option Int
  | .integer i => if low ≤ i ∧ i ≤ high then some i else none
  | _ => none

/-- A signed 32-bit integer. -/
def int32? : Json → Option Int :=
  integer? (-2147483648) 2147483647

/-- An unsigned 64-bit integer. -/
def nat64? (j : Json) : Option Nat :=
  (integer? 0 18446744073709551615 j).map Int.toNat

/-- A number, written with or without a fraction. -/
def number? : Json → Option Number
  | .integer i => some (.ofInt i)
  | .number x => some x
  | _ => none

/-- A number as a document leaf.  What is not finite has no such leaf and becomes null. -/
def ofNumber (x : Number) : Json :=
  if x.isFinite then .number x else .null

/-- One of a fixed set of names. -/
def oneOf? (names : List (String × α)) : Json → Option α
  | .string s => names.lookup s
  | .object [(s, .null)] => names.lookup s
  | _ => none

/-! ## Lists and maps -/

/-- An array with every item decoded. -/
def list? (decode : Json → Option α) : Json → Option (List α)
  | .array items => items.mapM decode
  | _ => none

/-- An object from names to values, of which the last one of a name stands. -/
def map? (decode : Json → Option α) : Json → Option (SortedMap α)
  | .object members =>
    (members.mapM fun m => (decode m.2).map fun v => (m.1, v)).map SortedMap.ofList
  | _ => none

def ofStrings (items : List String) : Json :=
  .array (items.map .string)

/-- A list of strings. -/
def strings? : Json → Option (List String) :=
  list? string?

/-! ## Records -/

/-- The named fields of a record. -/
def record? (names : List String) : Json → Option (List (String × Json))
  | .object members =>
    if names.all fun n => (members.filter fun m => m.1 == n).length ≤ 1 then some members
    else none
  | .array items =>
    if items.length ≤ names.length then some (names.zip items) else none
  | _ => none

/-- A field that must be there. -/
def required (fields : List (String × Json)) (name : String) (decode : Json → Option α) :
    Option α :=
  (fields.lookup name).bind decode

/-- A field with a value for when it is absent. -/
def withDefault (fields : List (String × Json)) (name : String) (default : α)
    (decode : Json → Option α) : Option α :=
  match fields.lookup name with
  | some j => decode j
  | none => some default

/-- A field that may be absent or null. -/
def optional (fields : List (String × Json)) (name : String) (decode : Json → Option α) :
    Option (Option α) :=
  match fields.lookup name with
  | some .null => some none
  | some j => (decode j).map some
  | none => some none

/-- The member for an optional field: none at all if there is no value. -/
def optionalMember (name : String) (encode : α → Json) : Option α → List (String × Json)
  | some a => [(name, encode a)]
  | none => []

end Rulebook.Json
