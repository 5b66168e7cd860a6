import Rulebook.Rule.Operation
import Rulebook.Rule.Value

/-!
# Rulebook.Rule.Condition

A condition: a named value of the device's context, an operation, and what it is compared with.

Normalising writes a condition in its one spelling: the name without white space around it, the
operation in upper case.
-/

namespace Rulebook

/-- The declared type of a context value. -/
inductive FreeArgType where
  | string
  | long
  | void
  | any
  deriving DecidableEq

/-- The variable side of a condition: a named and typed context value. -/
structure FreeArg where
  name : String
  type : FreeArgType := .string
  deriving DecidableEq

/-- The test `freeArg operation fixedArg`. -/
structure Condition where
  freeArg : FreeArg
  operation : String
  fixedArg : Option FixedValue := none
  deriving DecidableEq

namespace FreeArgType

def names : List (String × FreeArgType) :=
  [("STRING", .string), ("LONG", .long), ("VOID", .void), ("ANY", .any)]

def toName : FreeArgType → String
  | .string => "STRING"
  | .long => "LONG"
  | .void => "VOID"
  | .any => "ANY"

def toJson (t : FreeArgType) : Json := .string t.toName

def ofJson? : Json → Option FreeArgType := Json.oneOf? names

end FreeArgType

namespace FreeArg

def toJson (a : FreeArg) : Json :=
  .object [("name", .string a.name), ("type", a.type.toJson)]

def ofJson? (j : Json) : Option FreeArg := do
  let fields ← j.record? ["name", "type"]
  let name ← Json.required fields "name" Json.string?
  let type ← Json.withDefault fields "type" .string FreeArgType.ofJson?
  pure { name, type }

end FreeArg

namespace Condition

/-- The condition is one of an operation, in whatever case it is written. -/
def uses (c : Condition) (operation : String) : Bool :=
  Operation.same c.operation operation

/-- The condition in its one spelling. -/
def normalize (c : Condition) : Condition :=
  { c with
    freeArg := { c.freeArg with name := Text.trim c.freeArg.name }
    operation := Text.upperAscii (Text.trim c.operation) }

/-- Equal conditions, up to equality of their values. -/
def same (c d : Condition) : Bool :=
  c.freeArg == d.freeArg && c.operation == d.operation &&
    match c.fixedArg, d.fixedArg with
    | some a, some b => a.same b
    | none, none => true
    | _, _ => false

/-- The strings that the condition compares with. -/
def fixedStrings (c : Condition) : List String :=
  match c.fixedArg with
  | some value => value.strings
  | none => []

/-- The condition in messages. -/
def toText (c : Condition) : String :=
  match c.fixedArg with
  | some value => c.freeArg.name ++ " " ++ c.operation ++ " " ++ value.toText
  | none => c.freeArg.name ++ " " ++ c.operation

def toJson (c : Condition) : Json :=
  .object
    ([("freeArg", c.freeArg.toJson), ("operation", .string c.operation)] ++
      Json.optionalMember "fixedArg" FixedValue.toJson c.fixedArg)

def ofJson? (j : Json) : Option Condition := do
  let fields ← j.record? ["freeArg", "operation", "fixedArg"]
  let freeArg ← Json.required fields "freeArg" FreeArg.ofJson?
  let operation ← Json.required fields "operation" Json.string?
  let fixedArg ← Json.optional fields "fixedArg" FixedValue.ofJson?
  pure { freeArg, operation, fixedArg }

end Condition

/-! ## Writing conditions -/

namespace FreeArg

/-- The condition that the context value compares in a given way with a given value. -/
def test (a : FreeArg) (operation : String) (value : FixedValue) : Condition :=
  { freeArg := a, operation, fixedArg := some value }

def is (a : FreeArg) (value : FixedValue) : Condition := a.test Operation.is value
def gte (a : FreeArg) (value : FixedValue) : Condition := a.test Operation.gte value
def lte (a : FreeArg) (value : FixedValue) : Condition := a.test Operation.lte value
def like (a : FreeArg) (pattern : String) : Condition := a.test Operation.like (.string pattern)
def percent (a : FreeArg) (value : Number) : Condition := a.test Operation.percent (.number value)
def inList (a : FreeArg) (list : String) : Condition := a.test Operation.inList (.string list)
def oneOf (a : FreeArg) (values : List String) : Condition :=
  a.test Operation.oneOf (.collection values)
def matching (a : FreeArg) (pattern : String) : Condition :=
  a.test Operation.matching (.string pattern)
def range (a : FreeArg) (ranges : String) : Condition := a.test Operation.range (.string ranges)

/-- The condition that the context value is there at all. -/
def present (a : FreeArg) : Condition := { freeArg := a, operation := Operation.present }

end FreeArg

end Rulebook
