import Rulebook.Pattern.Form.Basic
import Rulebook.Pattern.Mode

/-!
# Rulebook.Pattern.Form.OfSyntax

The form of a pattern.

`Node.form?` goes through the tree with the mode, whose changes last to the end of the group they
are made in, also from one branch of a choice to the next.  There is no form for a pattern that
names a property which is not known, or that could match text which is not valid UTF-8: with the
Unicode flag off, neither the dot nor a negated class nor a byte above `7F` is allowed, and a class
holds ASCII alone.
-/

namespace Rulebook.Pattern

/-- The place that an assertion stands for. -/
def Mode.place (mode : Mode) : Assertion → Place
  | .caret => if mode.multiLine then .lineStart mode.crlf else .textStart
  | .dollar => if mode.multiLine then .lineEnd mode.crlf else .textEnd
  | .textStart => .textStart
  | .textEnd => .textEnd
  | .word place => .word place mode.unicode

/-- The form that matches a character, in every case if case does not count. -/
def Mode.char (mode : Mode) (c : Char) : Form :=
  if mode.ignoreCase then
    .ofSet (!mode.unicode) (mode.close (.range c.toNat c.toNat))
  else .text [c]

mutual

/-- The mode after a pattern and its form, if all of it is allowed. -/
def Node.form? (mode : Mode) : Node → Option (Mode × Form)
  | .empty => some (mode, .empty)
  | .setFlags flags => some (mode.apply flags, .empty)
  | .literal l => if l.fits mode.unicode then some (mode, mode.char l.char) else none
  | .dot => mode.dot?.map fun set => (mode, .ofSet (!mode.unicode) set)
  | .assertion a => some (mode, .place (mode.place a))
  | .shorthand s negated =>
    (mode.shorthand? s negated).map fun set => (mode, .ofSet (!mode.unicode) set)
  | .property p negated =>
    (mode.property? p negated).map fun set => (mode, .ofSet (!mode.unicode) set)
  | .bracketed negated set => do
    let members ← set.members? mode
    let members ← mode.negateIf? negated (mode.close members)
    pure (mode, .ofSet (!mode.unicode) members)
  | .repetition low high isLazy node =>
    (node.form? mode).map fun (after, form) =>
      (after, .repeated low high (isLazy == after.swapGreed) form)
  | .group capturing flags node =>
    (node.form? (mode.apply flags)).map fun (_, form) =>
      (mode, if capturing then .capture form else form)
  | .alternation branches =>
    (Node.forms? mode branches).map fun (after, forms) => (after, .inChoice forms)
  | .concat nodes =>
    (Node.forms? mode nodes).map fun (after, forms) => (after, .inSequence forms)

def Node.forms? (mode : Mode) : List Node → Option (Mode × List Form)
  | [] => some (mode, [])
  | node :: rest => do
    let (mode, form) ← node.form? mode
    let (mode, forms) ← Node.forms? mode rest
    pure (mode, form :: forms)

end

end Rulebook.Pattern
