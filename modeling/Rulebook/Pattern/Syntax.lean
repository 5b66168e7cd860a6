import Rulebook.Unicode.CodeSet

/-!
# Rulebook.Pattern.Syntax

Regular expressions as trees.

Only what decides whether a pattern can be used is kept: a literal remembers whether it was written
as a byte (`\xHH`), groups keep the flags they set but not their names.  Which text a pattern
matches is not modelled, for rules are administered here and not run.
-/

namespace Rulebook.Pattern

open Unicode (CodeSet)

/-- The letters `i m s U u R x` of a group head. -/
inductive Flag where
  | ignoreCase
  | multiLine
  | dotMatchesNewline
  | swapGreed
  | unicode
  | crlf
  | ignoreBlanks
  deriving DecidableEq

/-- The flags that a group head turns on and off. -/
structure Flags where
  on : List Flag := []
  off : List Flag := []

/-- The state of a flag after a group head, given the state before it. -/
def Flags.apply (flags : Flags) (flag : Flag) (before : Bool) : Bool :=
  if flags.on.contains flag then true
  else if flags.off.contains flag then false
  else before

/-- A character that stands for itself; `byte` if it was written as `\xHH`. -/
structure Literal where
  char : Char
  byte : Bool := false

/-- The classes `\d`, `\s` and `\w`. -/
inductive Shorthand where
  | digit
  | space
  | word

/-- What stands after `\p`: a name, or a property and its value. -/
inductive Property where
  | named (name : List Char)
  | valued (name value : List Char)

/-- The edges and the insides of words. -/
inductive WordPlace where
  | boundary
  | noBoundary
  | start
  | finish
  | startHalf
  | finishHalf
  deriving DecidableEq

/-- Places between characters, as they are written. -/
inductive Assertion where
  /-- The start of the text, or of a line if the flag `m` is on. -/
  | caret
  /-- The end of the text, or of a line if the flag `m` is on. -/
  | dollar
  | textStart
  | textEnd
  | word (place : WordPlace)

/-- Operations on two sets between brackets. -/
inductive SetOperation where
  | intersection
  | difference
  | symmetricDifference

/-- What stands between brackets. -/
inductive ClassSet where
  | empty
  | literal (l : Literal)
  | range (low high : Literal)
  | ascii (members : CodeSet) (negated : Bool)
  | shorthand (s : Shorthand) (negated : Bool)
  | property (p : Property) (negated : Bool)
  | union (items : List ClassSet)
  | bracketed (negated : Bool) (set : ClassSet)
  | operation (op : SetOperation) (left right : ClassSet)

/-- A pattern. -/
inductive Node where
  | empty
  | setFlags (flags : Flags)
  | literal (l : Literal)
  | dot
  | assertion (a : Assertion)
  | shorthand (s : Shorthand) (negated : Bool)
  | property (p : Property) (negated : Bool)
  | bracketed (negated : Bool) (set : ClassSet)
  | repetition (low : Nat) (high : Option Nat) (isLazy : Bool) (node : Node)
  | group (capturing : Bool) (flags : Flags) (node : Node)
  | alternation (branches : List Node)
  | concat (nodes : List Node)

/-- One after the other; a single one stands alone. -/
def Node.sequence : List Node → Node
  | [] => .empty
  | [node] => node
  | nodes => .concat nodes

/-- One of several; a single one stands alone. -/
def Node.choice : List Node → Node
  | [] => .empty
  | [node] => node
  | branches => .alternation branches

/-- All of several; a single one stands alone. -/
def ClassSet.together : List ClassSet → ClassSet
  | [] => .empty
  | [item] => item
  | items => .union items

/-! ## Nesting -/

mutual

/-- The levels of nesting between brackets. -/
def ClassSet.depth : ClassSet → Nat
  | .union items => ClassSet.itemsDepth items + 1
  | .bracketed _ set => set.depth + 1
  | .operation _ left right => max left.depth right.depth + 1
  | _ => 0

def ClassSet.itemsDepth : List ClassSet → Nat
  | [] => 0
  | item :: rest => max item.depth (ClassSet.itemsDepth rest)

end

mutual

/-- The levels of nesting of a pattern. -/
def Node.depth : Node → Nat
  | .bracketed _ set => set.depth + 1
  | .repetition _ _ _ node => node.depth + 1
  | .group _ _ node => node.depth + 1
  | .alternation branches => Node.listDepth branches + 1
  | .concat nodes => Node.listDepth nodes + 1
  | _ => 0

def Node.listDepth : List Node → Nat
  | [] => 0
  | node :: rest => max node.depth (Node.listDepth rest)

end

end Rulebook.Pattern
