import Rulebook.Rule.Basic

/-!
# Rulebook.Rule.Codec

Rule trees as documents.

Every field of a node may be absent: a node that is not negated, without relation, without
condition, without parts is written and read as `negated` alone.  Reading goes down the document,
so trees of any depth are read.
-/

namespace Rulebook.Rule

mutual

def toJson : Rule → Json
  | ⟨negated, relation, condition, parts⟩ =>
    .object
      ([("negated", .bool negated)] ++
        Json.optionalMember "relation" Relation.toJson relation ++
        Json.optionalMember "condition" Condition.toJson condition ++
        match parts with
        | [] => []
        | part :: rest => [("compoundParts", .array (toJson part :: partsToJson rest))])

def partsToJson : List Rule → List Json
  | [] => []
  | part :: rest => toJson part :: partsToJson rest

end

/-- The fields of a node in their order. -/
def fieldNames : List String :=
  ["negated", "relation", "condition", "compoundParts"]

/-- A node from its fields, the parts having been read already. -/
def ofFields? (fields : List (String × Json)) (parts : List Rule) : Option Rule := do
  let negated ← Json.withDefault fields "negated" false Json.bool?
  let relation ← Json.optional fields "relation" Relation.ofJson?
  let condition ← Json.optional fields "condition" Condition.ofJson?
  pure { negated, relation, condition, parts }

mutual

def ofJson? : Json → Option Rule
  | .object members => do
    let fields ← Json.record? fieldNames (.object members)
    let parts ← partsAmong? members
    ofFields? fields parts
  | .array items => do
    let fields ← Json.record? fieldNames (.array items)
    let parts ← partsAt? 3 items
    ofFields? fields parts
  | _ => none

/-- The trees of an array. -/
def listOfJson? : Json → Option (List Rule)
  | .array items => itemsOfJson? items
  | _ => none

def itemsOfJson? : List Json → Option (List Rule)
  | [] => some []
  | j :: rest => do
    let r ← ofJson? j
    let rs ← itemsOfJson? rest
    pure (r :: rs)

/-- The parts in the member of that name; no parts if there is none. -/
def partsAmong? : List (String × Json) → Option (List Rule)
  | [] => some []
  | (name, j) :: rest =>
    if name == "compoundParts" then listOfJson? j else partsAmong? rest

/-- The parts in the item at a position; no parts if the array is shorter. -/
def partsAt? : Nat → List Json → Option (List Rule)
  | _, [] => some []
  | 0, j :: _ => listOfJson? j
  | n + 1, _ :: rest => partsAt? n rest

end

end Rulebook.Rule
