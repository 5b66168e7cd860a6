import Rulebook.Number.Basic

/-!
# Rulebook.Json.Basic

JSON documents.

Whole numbers and binary64 numbers are different leaves: `12` is an integer, `12.0` a number, and a
document keeps the difference.  An object keeps its members in the order they were written and may
repeat a name; `lastWins` is the reading in which the last member of a name stands.

A text can be well formed and still hold something that stands for no value: a number too large
for the format, half of a surrogate pair, nesting beyond the permitted depth.  Such a place is the
leaf `unreadable`.  It does no harm where it is skipped, and nothing can be decoded from it.
-/

namespace Rulebook

/-- A JSON document. -/
inductive Json where
  | null
  | bool (value : Bool)
  | integer (value : Int)
  | number (value : Number)
  | string (value : String)
  | array (items : List Json)
  | object (members : List (String × Json))
  | unreadable

instance : Inhabited Json := ⟨.null⟩

namespace Json

/-- The members that no later member of the same name replaces. -/
def withoutRepeats : List (String × Json) → List (String × Json)
  | [] => []
  | (name, value) :: rest =>
    if rest.any (fun m => m.1 == name) then withoutRepeats rest
    else (name, value) :: withoutRepeats rest

mutual

/-- The document in which, of the members of one name, only the last stands. -/
def lastWins : Json → Json
  | .array items => .array (lastWinsItems items)
  | .object members => .object (withoutRepeats (lastWinsMembers members))
  | j => j

def lastWinsItems : List Json → List Json
  | [] => []
  | j :: rest => lastWins j :: lastWinsItems rest

def lastWinsMembers : List (String × Json) → List (String × Json)
  | [] => []
  | (name, j) :: rest => (name, lastWins j) :: lastWinsMembers rest

end

mutual

/-- The document with everything below the given number of levels of nesting made unreadable. -/
def clip : Nat → Json → Json
  | 0, .array _ => .unreadable
  | 0, .object _ => .unreadable
  | levels + 1, .array items => .array (clipItems levels items)
  | levels + 1, .object members => .object (clipMembers levels members)
  | _, j => j

def clipItems : Nat → List Json → List Json
  | _, [] => []
  | levels, j :: rest => clip levels j :: clipItems levels rest

def clipMembers : Nat → List (String × Json) → List (String × Json)
  | _, [] => []
  | levels, (name, j) :: rest => (name, clip levels j) :: clipMembers levels rest

end

end Json

end Rulebook
