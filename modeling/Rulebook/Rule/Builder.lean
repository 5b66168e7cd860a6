import Rulebook.Rule.Basic

/-!
# Rulebook.Rule.Builder

Building rule trees of the right shape.

A tree starts empty or as one condition, and grows by parts: the first part has no relation, every
later one has.  A leaf that gets a part becomes the first part of a new node and keeps its negation.
-/

namespace Rulebook.Rule

/-- The tree of a single condition. -/
def when (c : Condition) : Rule :=
  { condition := some c }

/-- The node that a part is added to: a leaf becomes the first part of a new node. -/
def asCompound (r : Rule) : Rule :=
  if r.parts.isEmpty && r.condition.isSome then
    { parts := [{ r with relation := none }] }
  else r

/-- Add a part at the end.  The first part of a node gets no relation. -/
def push (r : Rule) (relation : Relation) (part : Rule) : Rule :=
  let node := r.asCompound
  let joined := if node.parts.isEmpty then none else some relation
  { node with parts := node.parts ++ [{ part with relation := joined }] }

/-- Both the tree and the condition. -/
def and (r : Rule) (c : Condition) : Rule :=
  r.push .and (when c)

/-- The tree or the condition. -/
def or (r : Rule) (c : Condition) : Rule :=
  r.push .or (when c)

/-- The tree negated. -/
def negate (r : Rule) : Rule :=
  { r with negated := !r.negated }

end Rulebook.Rule
