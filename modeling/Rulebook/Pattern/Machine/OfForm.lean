import Rulebook.Pattern.Form.Basic
import Rulebook.Pattern.Machine.Words

/-!
# Rulebook.Pattern.Machine.OfForm

The machine of a form, as far as its size goes.

A form becomes a part of a machine, with one state to come in by and one to go out by.  A part is
joined to the next by a way from the latter; this takes room only if that state chooses between
several ways on, so the result of each construction is whether it does.  A repetition holds as many
copies of its form as the bounds say.
-/

namespace Rulebook.Pattern

namespace Construction

/-- A way on from the last state of a part. -/
def leave (isChoice : Bool) : Construction Unit :=
  if isChoice then ways 1 else pure ()

/-- A part of one state. -/
def one : Construction Bool := do
  states 1
  pure false

/-! ## Sequences -/

/-- The parts, joined to what ends as given. -/
def chainFrom (isChoice : Bool) : List (Construction Bool) → Construction Bool
  | [] => pure isChoice
  | part :: rest => do
    let next ← part
    leave isChoice
    chainFrom next rest

/-- One part after the other. -/
def chain : List (Construction Bool) → Construction Bool
  | [] => one
  | part :: rest => do
    let isChoice ← part
    chainFrom isChoice rest

/-- `n` copies of a part, joined to what ends as given. -/
def copiesFrom (part : Construction Bool) (isChoice : Bool) : Nat → Construction Bool
  | 0 => pure isChoice
  | n + 1 => do
    let next ← part
    leave isChoice
    copiesFrom part next n

/-- Copies of a part, one after the other. -/
def copies (part : Construction Bool) : Nat → Construction Bool
  | 0 => one
  | n + 1 => do
    let isChoice ← part
    copiesFrom part isChoice n

/-! ## Choices -/

/-- More branches of a choice. -/
def moreBranches : List (Construction Bool) → Construction Unit
  | [] => pure ()
  | branch :: rest => do
    let isChoice ← branch
    ways 1
    leave isChoice
    moreBranches rest

/-- One of several parts. -/
def anyOf : List (Construction Bool) → Construction Bool
  | [] => one
  | [branch] => branch
  | first :: second :: rest => do
    let isChoice ← first
    let isChoice' ← second
    states 2
    ways 2
    leave isChoice
    leave isChoice'
    moreBranches rest
    pure false

/-! ## Repetitions -/

/-- A part, or nothing. -/
def optional (part : Construction Bool) : Construction Bool := do
  states 1
  let isChoice ← part
  states 1
  ways 2
  leave isChoice
  pure false

/-- A part any number of times; one that may be empty takes more states. -/
def anyNumber (part : Construction Bool) (mayBeEmpty : Bool) : Construction Bool :=
  if mayBeEmpty then do
    let isChoice ← part
    states 3
    ways 4
    leave isChoice
    pure false
  else do
    states 1
    let isChoice ← part
    ways 1
    leave isChoice
    pure true

/-- A part at least `n + 1` times. -/
def atLeast (part : Construction Bool) : Nat → Construction Bool
  | 0 => do
    let isChoice ← part
    states 1
    ways 1
    leave isChoice
    pure true
  | n + 1 => do
    let before ← copies part (n + 1)
    let isChoice ← part
    states 1
    ways 1
    leave before
    leave isChoice
    pure true

/-- A part at most `n` times more, joined to what ends as given. -/
def atMostFrom (part : Construction Bool) (isChoice : Bool) : Nat → Construction Bool
  | 0 => do
    leave isChoice
    pure false
  | n + 1 => do
    states 1
    let next ← part
    leave isChoice
    ways 2
    atMostFrom part next n

/-- A part between `low` and `high` times. -/
def between (part : Construction Bool) (low high : Nat) : Construction Bool := do
  let isChoice ← copies part low
  states 1
  atMostFrom part isChoice (high - low)

/-- A part at least `low` times and at most `high` times. -/
def repetition (part : Construction Bool) (mayBeEmpty : Bool) (low : Nat) (high : Option Nat) :
    Construction Bool :=
  match low, high with
  | 0, some 1 => optional part
  | 0, none => anyNumber part mayBeEmpty
  | n + 1, none => atLeast part n
  | low, some high => if low = high then copies part low else between part low high

end Construction

open Construction

/-- The text of a form, if it is one. -/
def Form.asText? : Form → Option (List Char)
  | .text cs => some cs
  | _ => none

mutual

/-- Makes the part of a machine for a form. -/
def Form.build (direction : Direction) : Form → Construction Bool
  | .empty | .place _ => one
  | .text cs => do
    states (cs.map Char.utf8Size).sum
    pure false
  | .oneOf _ set => do
    buildChar direction set
    pure false
  | .repetition low high _ form =>
    let mayBeEmpty := !(form.minLength.any (0 < ·))
    Construction.repetition (form.build direction) mayBeEmpty low high
  | .capture form =>
    match direction with
    | .forward => do
      states 1
      let isChoice ← form.build direction
      states 1
      leave isChoice
      pure false
    | .backward => form.build direction
  | .choice branches =>
    match branches.mapM Form.asText? with
    | some words => do
      buildWords direction words
      pure false
    | none => anyOf (Form.builds direction branches)
  | .sequence parts =>
    match direction with
    | .forward => chain (Form.builds direction parts)
    | .backward => chain (Form.builds direction parts).reverse

def Form.builds (direction : Direction) : List Form → List (Construction Bool)
  | [] => []
  | form :: rest => form.build direction :: Form.builds direction rest

end

/-- Every match starts at the start of the text; read backward, it ends at the end. -/
def Form.isAnchored (form : Form) : Direction → Bool
  | .forward => form.startsAt .textStart
  | .backward => form.endsAt .textEnd

/-- Makes the whole machine for a form.  If a match may start anywhere, the machine first skips any
bytes. -/
def Form.buildAll (direction : Direction) (form : Form) : Construction Unit := do
  if form.isAnchored direction then states 1
  else
    states 2
    branching 1
    ways 2
  let isChoice ← (Form.capture form).build direction
  states 1
  leave isChoice

end Rulebook.Pattern
