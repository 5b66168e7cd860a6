import Std.Data.HashMap
import Rulebook.Pattern.Machine.Basic
import Rulebook.Pattern.Utf8

/-!
# Rulebook.Pattern.Machine.Chars

The states for one character of a set.

A set of ASCII takes two states.  Any other set is a list of sequences of byte ranges, and sequences
share states: a machine that reads forward shares what they end with, one that reads backward what
they start with.  States that can be shared are looked up in a table with a fixed number of slots,
where a later state takes the slot of an earlier one, so not every state that could be shared is.
-/

namespace Rulebook.Pattern

open Unicode (CodeSet)

/-! ## Tables of states -/

/-- A table with a fixed number of slots, each with a key and the number of a state. -/
structure StateTable where
  slots : Nat
  entries : Std.HashMap Nat (List Nat × Nat) := {}

namespace StateTable

/-- The slot of a key: each number in turn is mixed into a hash by an exclusive or, then multiplied
in. -/
def slotOf (table : StateTable) (key : List Nat) : Nat :=
  let mix := fun (h : UInt64) (n : Nat) => (h ^^^ n.toUInt64) * 1099511628211
  (key.foldl mix 14695981039346656037).toNat % table.slots

/-- The number of the state with a key, if it is in its slot. -/
def find? (table : StateTable) (key : List Nat) : Option Nat :=
  match table.entries[table.slotOf key]? with
  | some (key', state) => if key' = key then some state else none
  | none => none

/-- The table with a state in the slot of its key. -/
def insert (table : StateTable) (key : List Nat) (state : Nat) : StateTable :=
  { table with entries := table.entries.insert (table.slotOf key) (key, state) }

end StateTable

/-! ## Reading forward -/

/-- Sequences of byte ranges by what they start with.  The edges of a node come last first. -/
inductive RangeTrie where
  | leaf
  | node (edges : List (ByteRange × RangeTrie))

namespace RangeTrie

/-- The trie of one sequence. -/
def single : List ByteRange → RangeTrie
  | [] => .leaf
  | r :: rest => .node [(r, single rest)]

/-- The trie with one more sequence, which comes after all others. -/
def add : List ByteRange → RangeTrie → RangeTrie
  | r :: rest, .node ((r', trie) :: edges) =>
    if r = r' then .node ((r, add rest trie) :: edges)
    else .node ((r, single rest) :: (r', trie) :: edges)
  | rs, _ => single rs

/-- The trie of sequences in ascending order. -/
def ofSequences (sequences : List (List ByteRange)) : RangeTrie :=
  sequences.foldl (fun trie rs => trie.add rs) (.node [])

mutual

/-- Makes the states of a trie that leads to `target`, the deepest first.  The result is the number
of its first state. -/
def build (target : Nat) (table : StateTable) : RangeTrie → Construction (Nat × StateTable)
  | .leaf => pure (target, table)
  | .node edges => do
    let (key, table) ← buildEdges target table edges
    match table.find? key with
    | some state => pure (state, table)
    | none =>
      let state ← Construction.nextState
      Construction.branching edges.length
      pure (state, table.insert key state)

/-- Makes the states that edges lead to, the last edge first in the list but last to be made.  The
result lists the bytes of each edge and the state it leads to. -/
def buildEdges (target : Nat) (table : StateTable) :
    List (ByteRange × RangeTrie) → Construction (List Nat × StateTable)
  | [] => pure ([], table)
  | (r, trie) :: before => do
    let (key, table) ← buildEdges target table before
    let (state, table) ← trie.build target table
    pure (key ++ [r.first, r.last, state], table)

end

end RangeTrie

/-- Makes the states for a character of a set, read forward. -/
def buildCharForward (set : CodeSet) : Construction Unit := do
  let target ← Construction.nextState
  Construction.states 1
  let _ ← (RangeTrie.ofSequences (Utf8.sequencesOf set)).build target ⟨10000, {}⟩
  pure ()

/-! ## Reading backward -/

/-- Makes the states for a sequence of byte ranges that leads back to `target`. -/
def buildSequence (target : Nat) (table : StateTable) : List ByteRange → Construction StateTable
  | [] => do
    Construction.ways 1
    pure table
  | r :: rest =>
    let key := [target, r.first, r.last]
    match table.find? key with
    | some state => buildSequence state table rest
    | none => do
      let state ← Construction.nextState
      Construction.states 1
      buildSequence state (table.insert key state) rest

/-- Makes the states for a character of a set, read backward. -/
def buildCharBackward (set : CodeSet) : Construction Unit := do
  Construction.states 1
  let target ← Construction.nextState
  Construction.states 1
  let _ ← (Utf8.sequencesOf set).foldlM (fun table rs => buildSequence target table rs)
    ⟨1000, {}⟩
  pure ()

/-! ## Both ways -/

/-- Makes the states for a character of a set. -/
def buildChar (direction : Direction) (set : CodeSet) : Construction Unit :=
  if set.bounds.all (· ≤ 0x80) then do
    Construction.states 1
    Construction.branching set.ranges.length
  else
    match direction with
    | .forward => buildCharForward set
    | .backward => buildCharBackward set

end Rulebook.Pattern
