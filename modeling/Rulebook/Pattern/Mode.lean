import Rulebook.Pattern.Syntax
import Rulebook.Unicode.Folding
import Rulebook.Unicode.Property

/-!
# Rulebook.Pattern.Mode

The state of the flags, and the sets that classes stand for in it.

With the Unicode flag off a class holds ASCII alone: a pattern that could match text which is not
valid UTF-8 is refused, so there is no set for a byte above `7F`, for a negated class, or for a
property.
-/

namespace Rulebook.Pattern

open Unicode (CodeSet)

/-- The state of the flags at one place in a pattern. -/
structure Mode where
  ignoreCase : Bool := false
  multiLine : Bool := false
  dotMatchesNewline : Bool := false
  swapGreed : Bool := false
  unicode : Bool := true
  crlf : Bool := false

/-- The mode after the flags of a group head. -/
def Mode.apply (mode : Mode) (flags : Flags) : Mode where
  ignoreCase := flags.apply .ignoreCase mode.ignoreCase
  multiLine := flags.apply .multiLine mode.multiLine
  dotMatchesNewline := flags.apply .dotMatchesNewline mode.dotMatchesNewline
  swapGreed := flags.apply .swapGreed mode.swapGreed
  unicode := flags.apply .unicode mode.unicode
  crlf := flags.apply .crlf mode.crlf

/-! ## Literals -/

/-- A literal is fine as a character, or as a byte of ASCII. -/
def Literal.fits (unicode : Bool) (l : Literal) : Bool :=
  unicode || !l.byte || l.char.toNat < 0x80

/-- A literal in a class: with the Unicode flag off it must be ASCII. -/
def Literal.fitsClass (unicode : Bool) (l : Literal) : Bool :=
  unicode || l.char.toNat < 0x80

/-! ## Sets -/

/-- The set with both cases of its ASCII letters. -/
def closeAscii (s : CodeSet) : CodeSet :=
  (s ∩ .range 0x41 0x5A).moveUp 0x20 ∪ (s ∩ .range 0x61 0x7A).moveDown 0x20 ∪ s

/-- The set with all forms of its letters, if case does not count. -/
def Mode.close (mode : Mode) (s : CodeSet) : CodeSet :=
  if !mode.ignoreCase then s
  else if mode.unicode then Unicode.Folding.close s
  else closeAscii s

/-- The set, or what is not in it, if that is allowed. -/
def Mode.negateIf? (mode : Mode) (negated : Bool) (s : CodeSet) : Option CodeSet :=
  if !negated then some s
  else if mode.unicode then some s.compl
  else none

/-- The characters of a shorthand class. -/
def Shorthand.members (s : Shorthand) (unicode : Bool) : CodeSet :=
  match unicode, s with
  | true, .digit => Unicode.Category.decimalNumber
  | true, .space => Unicode.Binary.whiteSpace
  | true, .word => Unicode.Derived.word
  | false, .digit => .ofTable "30-39"
  | false, .space => .ofTable "9-D 20"
  | false, .word => .ofTable "30-39 41-5A 5F 61-7A"

/-- The characters with a property, if it is known. -/
def Property.members? : Property → Option CodeSet
  | .named name => Unicode.property? name
  | .valued name value => Unicode.propertyValue? name value

/-- The characters of a shorthand class or of its negation.  The class has all forms of its letters
already. -/
def Mode.shorthand? (mode : Mode) (s : Shorthand) (negated : Bool) : Option CodeSet :=
  mode.negateIf? negated (s.members mode.unicode)

/-- The characters with a property or without it. -/
def Mode.property? (mode : Mode) (p : Property) (negated : Bool) : Option CodeSet := do
  guard mode.unicode
  let s ← p.members?
  mode.negateIf? negated (mode.close s)

/-- The result of an operation on two sets. -/
def SetOperation.apply : SetOperation → CodeSet → CodeSet → CodeSet
  | .intersection, s, t => s ∩ t
  | .difference, s, t => s \ t
  | .symmetricDifference, s, t => s.symmDiff t

mutual

/-- The characters of what stands between brackets, if it is allowed. -/
def ClassSet.members? (mode : Mode) : ClassSet → Option CodeSet
  | .empty => some ∅
  | .literal l => do
    guard (l.fitsClass mode.unicode)
    pure (.range l.char.toNat l.char.toNat)
  | .range low high => do
    guard (low.fitsClass mode.unicode && high.fitsClass mode.unicode)
    pure (.range low.char.toNat high.char.toNat ∩ .characters)
  | .ascii members negated => mode.negateIf? negated (mode.close members)
  | .shorthand s negated => mode.shorthand? s negated
  | .property p negated => mode.property? p negated
  | .union items => ClassSet.unionMembers? mode items
  | .bracketed negated set => do
    let s ← set.members? mode
    mode.negateIf? negated (mode.close s)
  | .operation op left right => do
    let s ← left.members? mode
    let t ← right.members? mode
    pure (op.apply (mode.close s) (mode.close t))

def ClassSet.unionMembers? (mode : Mode) : List ClassSet → Option CodeSet
  | [] => some ∅
  | item :: rest => do
    let s ← item.members? mode
    let t ← ClassSet.unionMembers? mode rest
    pure (s ∪ t)

end

/-- The characters that a dot stands for. -/
def Mode.dot? (mode : Mode) : Option CodeSet := do
  guard mode.unicode
  pure <|
    if mode.dotMatchesNewline then .characters
    else if mode.crlf then CodeSet.compl (.ofTable "A D")
    else CodeSet.compl (.range 0xA 0xA)

end Rulebook.Pattern
