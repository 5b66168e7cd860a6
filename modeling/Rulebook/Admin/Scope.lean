import Rulebook.Admin.Kind
import Rulebook.Text.LowerCase

/-!
# Rulebook.Admin.Scope

Looking records up, and the scope that a record belongs to.

All functions here only read the store.  A scope is listed in its order and holds the stored version
of a record too, if there is one.
-/

namespace Rulebook.Admin

open Prioritized RuleKind

variable {E : Type} [RuleKind E]

/-- The record under an identifier. -/
def get? (s : Store) (id : String) : Except AdminError (Option E) :=
  ((table (E := E)).get? s id).mapError .store

/-- All records of the kind, in the order of their keys. -/
def all (s : Store) : Except AdminError (List E) :=
  ((table (E := E)).all s).mapError .store

/-- The records of an application type, by priority. -/
def list (s : Store) (type : String) : Except AdminError (List E) := do
  let records ← all s
  pure (Priority.sort (records.filter fun r => applicationType r == type))

/-- The scope of a record, by priority. -/
def scopeOf (s : Store) (e : E) : Except AdminError (List E) := do
  let records ← all s
  pure (Priority.sort (records.filter fun r => sameScope r e))

/-- The record under an identifier, which must be there. -/
def find (s : Store) (id : String) : Except AdminError E :=
  if Text.isBlank id then .error (.notFound (.blankId (label E)))
  else do
    match ← get? s id with
    | some e => .ok e
    | none => .error (.notFound (.record (label E) id))

/-- There is a record under an identifier that is not blank. -/
def isStored (E : Type) [RuleKind E] (s : Store) (id : String) : Except AdminError Bool :=
  if Text.isBlank id then .ok false
  else do
    let stored : Option E ← get? s id
    pure stored.isSome

/-! ## Duplicates -/

/-- A record takes neither the name nor the rule of another one.  Names are compared in lower case,
rules in normal form. -/
def checkDistinct (e other : E) : Except AdminError Unit :=
  if key other == key e then .ok ()
  else if Text.lowerCase (name other) == Text.lowerCase (name e) then
    .error (.conflict (.nameTaken (name e)))
  else if (rule other).normalize.same (rule e) then .error (.conflict (.ruleTaken (name other)))
  else .ok ()

/-- A record takes neither name nor rule of any other record of its scope. -/
def checkDuplicates (e : E) (scope : List E) : Except AdminError Unit :=
  scope.forM (checkDistinct e)

end Rulebook.Admin
