/-!
# Rulebook.Pattern.Machine

The size of a machine under construction.

A machine that matches a pattern is a graph of states.  Only their number and what they hold is
kept, for that is what its size is made of.  States are numbered in the order in which they are
made, so the number of states so far is the number of the next one.  A construction that passes the
limit stops there.
-/

namespace Rulebook.Pattern

/-- The ways to read a text. -/
inductive Direction where
  | forward
  | backward

/-- The size, in bytes, that a machine may have. -/
def sizeLimit : Nat := 10485760

/-- What a machine under construction has so far. -/
structure Machine where
  /-- The number of states. -/
  states : Nat := 0
  /-- The bytes that states hold beyond their own: transitions and ways on. -/
  held : Nat := 0

/-- The size of a machine in bytes. -/
def Machine.size (m : Machine) : Nat :=
  32 * m.states + m.held

/-- A step of construction, which has no result once the machine is too large. -/
abbrev Construction := StateT Machine Option

namespace Construction

/-- Goes on if the machine is within the limit. -/
def check (m : Machine) : Option (Unit × Machine) :=
  if m.size ≤ sizeLimit then some ((), m) else none

/-- More states. -/
def states (n : Nat) : Construction Unit :=
  fun m => check { m with states := m.states + n }

/-- More ways on from states that choose between several. -/
def ways (n : Nat) : Construction Unit :=
  fun m => check { m with held := m.held + 4 * n }

/-- A state with a number of transitions, each on a range of bytes. -/
def branching (transitions : Nat) : Construction Unit :=
  fun m => check { states := m.states + 1, held := m.held + 8 * transitions }

/-- The number of the next state. -/
def nextState : Construction Nat :=
  fun m => some (m.states, m)

/-- The construction stays within the limit. -/
def succeeds (c : Construction α) : Bool :=
  (c {}).isSome

end Construction

end Rulebook.Pattern
