import Rulebook.Pattern.Form.OfSyntax
import Rulebook.Pattern.Machine.OfForm
import Rulebook.Pattern.Reader

/-!
# Rulebook.Pattern.Check

Which patterns can be used.

Patterns are matched by an engine from outside, and all that is asked of it here is whether it takes
a pattern (`PatternEngine`).  What is proved of rules holds for every such engine.

The program runs with `Pattern.isValid`: a pattern that reads is still refused if it nests too
deeply, if it has no form, or if one of the two machines that would match it, one that reads forward
and one that reads backward, is too large.  An engine may spare itself the machines of some
patterns, long lists of literal alternatives among them, and then takes more of those.
-/

namespace Rulebook

/-- The engine that patterns are meant for. -/
class PatternEngine where
  /-- The pattern can be used. -/
  accepts : String → Bool

namespace Pattern

/-- The levels of nesting that a pattern may have. -/
def depthLimit : Nat := 250

/-- The machines of the form are within the limit. -/
def Form.fits (form : Form) : Bool :=
  (form.buildAll .forward).succeeds && (form.buildAll .backward).succeeds

/-- The pattern can be used. -/
def isValid (pattern : String) : Bool :=
  match parse? pattern with
  | none => false
  | some node =>
    node.depth ≤ depthLimit &&
      match node.form? {} with
      | some (_, form) => form.fits
      | none => false

instance : PatternEngine := ⟨isValid⟩

end Pattern

end Rulebook
