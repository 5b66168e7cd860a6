import Rulebook.Rule.Condition

/-!
# Rulebook.Rule.Basic

Rule trees.

A node has a condition, or parts, or neither.  A part says how it is joined with the parts before
it.  What a tree may look like is not in the type, for trees come from outside and are refused with
a reason (`Rulebook.Rule.Validation`); `Rulebook.Rule.Builder` makes only trees of the right shape.

* `conditions` lists the conditions in tree order;
* `normalize` gives every condition its one spelling and leaves the shape alone;
* `same` compares trees, numbers as numbers.
-/

namespace Rulebook

/-- How a part is joined with the parts before it. -/
inductive Relation where
  | and
  | or
  deriving DecidableEq

/-- A node of a rule tree. -/
structure Rule where
  negated : Bool := false
  relation : Option Relation := none
  condition : Option Condition := none
  parts : List Rule := []

namespace Relation

def toName : Relation → String
  | .and => "AND"
  | .or => "OR"

def names : List (String × Relation) :=
  [("AND", .and), ("OR", .or)]

def toJson (r : Relation) : Json := .string r.toName

def ofJson? : Json → Option Relation := Json.oneOf? names

end Relation

namespace Rule

instance : Inhabited Rule := ⟨{}⟩

/-- The tree has parts. -/
def isCompound (r : Rule) : Bool :=
  !r.parts.isEmpty

/-- The tree has neither a condition nor parts. -/
def isEmpty (r : Rule) : Bool :=
  r.condition.isNone && r.parts.isEmpty

/-! ## Conditions -/

mutual

/-- All conditions, each node's own before those of its parts. -/
def conditions : Rule → List Condition
  | ⟨_, _, condition, parts⟩ => condition.toList ++ partsConditions parts

def partsConditions : List Rule → List Condition
  | [] => []
  | part :: rest => conditions part ++ partsConditions rest

end

theorem partsConditions_eq_flatMap (parts : List Rule) :
    partsConditions parts = parts.flatMap conditions := by
  induction parts with
  | nil => rfl
  | cons part rest ih => rw [partsConditions, ih, List.flatMap_cons]

/-- The strings that conditions of an operation compare with, in tree order. -/
def fixedStrings (r : Rule) (operation : String) : List String :=
  (r.conditions.filter fun c => c.uses operation).flatMap Condition.fixedStrings

/-! ## Normal form -/

mutual

/-- The tree with every condition in its one spelling. -/
def normalize : Rule → Rule
  | ⟨negated, relation, condition, parts⟩ =>
    ⟨negated, relation, condition.map Condition.normalize, normalizeParts parts⟩

def normalizeParts : List Rule → List Rule
  | [] => []
  | part :: rest => normalize part :: normalizeParts rest

end

theorem normalizeParts_eq_map (parts : List Rule) :
    normalizeParts parts = parts.map normalize := by
  induction parts with
  | nil => rfl
  | cons part rest ih => rw [normalizeParts, ih, List.map_cons]

/-! ## Equality -/

/-- Equal optional conditions, up to equality of their values. -/
def sameCondition : Option Condition → Option Condition → Bool
  | some c, some d => c.same d
  | none, none => true
  | _, _ => false

mutual

/-- Equal trees, up to equality of the values in their conditions. -/
def same : Rule → Rule → Bool
  | ⟨n, r, c, ps⟩, ⟨n', r', c', ps'⟩ =>
    n == n' && r == r' && sameCondition c c' && sameParts ps ps'

def sameParts : List Rule → List Rule → Bool
  | [], [] => true
  | p :: ps, q :: qs => same p q && sameParts ps qs
  | _, _ => false

end

/-! ## Text -/

/-- What stands between a part and the one before it. -/
def joint : Option Relation → String
  | some relation => " " ++ relation.toName ++ " "
  | none => " ? "

mutual

/-- The tree in messages: `((model IS "X1") AND NOT (env EXISTS))`. -/
def toText : Rule → String
  | ⟨negated, _, condition, parts⟩ =>
    (if negated then "NOT " else "") ++
      match condition with
      | some c => "(" ++ c.toText ++ ")"
      | none => "(" ++ partsText parts ++ ")"

/-- The parts, each but the first with its relation in front. -/
def partsText : List Rule → String
  | [] => ""
  | part :: rest => toText part ++ laterText rest

def laterText : List Rule → String
  | [] => ""
  | part :: rest => joint part.relation ++ toText part ++ laterText rest

end

end Rule

end Rulebook
