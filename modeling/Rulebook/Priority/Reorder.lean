import Rulebook.Priority.Basic

/-!
# Rulebook.Priority.Reorder

Moving, adding, replacing and removing items of a scope.

Each operation works on a list that holds a whole scope and reports the items whose priority it
wrote, so that no more than those have to be stored.  A move turns the items between the old and
the new place by one and then numbers them by their positions; a new priority outside the scope
means the last place.
-/

namespace Rulebook.Priority

open Prioritized

variable {α : Type} [Prioritized α]

/-- There is no item at this priority: the list has `count` items. -/
structure OutOfRange where
  priority : Int
  count : Nat
  deriving DecidableEq

/-- The error in words. -/
def OutOfRange.message (e : OutOfRange) : String :=
  "priority " ++ toString e.priority ++ " is outside 1..=" ++ toString e.count

/-- A list after a change, with the part of it whose priorities were written. -/
structure Reordered (α : Type) where
  items : List α
  altered : List α

/-- The priorities of items that stand at `index` and after it. -/
def number (index : Nat) : List α → List α
  | [] => []
  | a :: rest => withPriority a (ofCount (index + 1)) :: number (index + 1) rest

/-- The items with the first one moved to the end. -/
def firstToLast : List α → List α
  | [] => []
  | a :: rest => rest ++ [a]

/-- The items with the last one moved to the front. -/
def lastToFirst (items : List α) : List α :=
  items.getLast?.toList ++ items.dropLast

/-- The items of a span turned by one, so that the item at one end of it comes to the other. -/
def turn (source target : Nat) (span : List α) : List α :=
  if source < target then firstToLast span
  else if target < source then lastToFirst span
  else span

/-- The place that a requested priority stands for among `count` items. -/
def clamp (requested : Int) (count : Nat) : Int :=
  if requested < 1 ∨ ofCount count < requested then ofCount count else requested

/-- Move the item at priority `old` of a sorted list to priority `new`. -/
def move (items : List α) (old new : Int) : Except OutOfRange (Reordered α) :=
  if old < 1 ∨ ofCount items.length < old then .error ⟨old, items.length⟩
  else
    let source := (old - 1).toNat
    let target := (clamp new items.length - 1).toNat
    let low := min source target
    let high := max source target
    let span := (items.drop low).take (high - low + 1)
    let altered := number low (turn source target span)
    .ok ⟨items.take low ++ altered ++ items.drop (high + 1), altered⟩

/-! ## Changes of a scope -/

/-- Move the item at priority `old` of any list to priority `new`. -/
def change (items : List α) (old new : Int) : Except OutOfRange (Reordered α) :=
  move (sort items) old new

/-- Add an item at its own priority. -/
def add (item : α) (items : List α) : Except OutOfRange (Reordered α) :=
  let extended := sort items ++ [item]
  move extended (ofCount extended.length) (priority item)

/-- The list with the first item of the same identifier replaced. -/
def replace (item : α) : List α → List α
  | [] => []
  | a :: rest => if key a == key item then item :: rest else a :: replace item rest

/-- The sorted list with the stored version of an item replaced; an empty list gets the item. -/
def withUpdated (item : α) (items : List α) : List α :=
  if items.isEmpty then [item] else replace item (sort items)

/-- Replace the stored version of an item, and move it from its previous priority to its own. -/
def update (item : α) (items : List α) (previous : Int) : Except OutOfRange (Reordered α) :=
  move (withUpdated item items) previous (priority item)

/-- Number sorted items from `next` on, and keep those whose priority that changes. -/
def closeGaps (next : Int) : List α → List α
  | [] => []
  | a :: rest =>
    if priority a = next then closeGaps (next + 1) rest
    else withPriority a next :: closeGaps (next + 1) rest

/-- The items whose priority changes when the gap of a removed item is closed. -/
def pack (items : List α) (removed : String) : List α :=
  closeGaps 1 ((sort items).filter fun a => key a != removed)

end Rulebook.Priority
