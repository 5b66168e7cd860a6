import Rulebook.Admin.Scope

/-!
# Rulebook.Admin.Plan

What a request would write.

A request is first planned and then carried out.  Planning reads the store and makes every check;
a plan says what is answered and which records are to be written, and no check is left.  Only
`save` changes the store.
-/

namespace Rulebook.Admin

open Prioritized RuleKind

variable {E : Type} [RuleKind E] [PatternEngine]

/-- An answer, with the records to be written. -/
structure Plan (E : Type) where
  result : E
  writes : List E

/-! ## Preparing a record -/

/-- The application type of a request, or the default where it names none. -/
def requestType (c : Config) (type : String) : String :=
  Text.firstNonBlank type c.defaultApplicationType

/-- The record with an application type: its own, or that of the request. -/
def withType (c : Config) (type : String) (e : E) : E :=
  if Text.isBlank (applicationType e) then withApplicationType e (requestType c type) else e

/-- The record with its rule tree in normal form. -/
def normalized (e : E) : E :=
  withRule e (rule e).normalize

/-- The checks of a record whose application type is given and whose tree is in normal form. -/
def checkRecord (c : Config) (s : Store) (type : String) (e : E) : Except AdminError Unit := do
  (Validation.validateRule (rule e) (allowed E)).mapError .validation
  if Text.isBlank (name e) then .error (.validation (.blankName (label E)))
  RuleKind.check ⟨s, c, requestType c type⟩ e

/-- The record as it would be stored, its priority aside. -/
def prepare (c : Config) (s : Store) (type : String) (e : E) : Except AdminError E := do
  let typed := withType c type e
  (c.checkApplicationType (applicationType typed)).mapError .validation
  let ready := normalized typed
  checkRecord c s type ready
  pure ready

/-! ## Plans -/

/-- A new record has an identifier of its own: the fresh one if it brings none. -/
def identify (s : Store) (fresh : String) (e : E) : Except AdminError E :=
  if Text.isBlank (key e) then .ok (withId e fresh)
  else do
    let stored : Option E ← get? s (key e)
    match stored with
    | some _ => .error (.conflict (.idTaken (label E) (key e)))
    | none => pure e

/-- The plan of a changed scope: its altered records are written, and one of them is the answer. -/
def planScope (id : String) (missing : Conflict)
    (r : Except Priority.OutOfRange (Priority.Reordered E)) : Except AdminError (Plan E) := do
  let reordered ← r.mapError .order
  match reordered.altered.find? fun e => key e == id with
  | some e => pure ⟨e, reordered.altered⟩
  | none => .error (.conflict missing)

/-- Insert a new record into its scope at the priority it asks for. -/
def planCreate (c : Config) (s : Store) (fresh type : String) (e : E) :
    Except AdminError (Plan E) := do
  let identified ← identify s fresh e
  let ready ← prepare c s type identified
  let scope ← scopeOf s ready
  checkDuplicates ready scope
  planScope (key ready) (.createdMissing (label E) (key ready)) (Priority.add ready scope)

/-- No field that may not change differs from the stored version. -/
def checkUnchanged (e stored : E) : Except AdminError Unit :=
  match changedField? e stored with
  | some field => .error (.conflict (.fieldChanged field))
  | none => .ok ()

/-- Replace a stored record, and move it if its priority differs. -/
def planUpdate (c : Config) (s : Store) (type : String) (e : E) : Except AdminError (Plan E) := do
  let stored : E ← find s (key e)
  let ready ← prepare c s type e
  checkUnchanged ready stored
  let scope ← scopeOf s ready
  checkDuplicates ready scope
  if priority ready = priority stored then pure ⟨ready, [ready]⟩
  else
    planScope (key ready) (.updatedMissing (label E) (key ready))
      (Priority.update ready scope (priority stored))

/-- Move a stored record within its scope; the records to be written are the answer. -/
def planMove (s : Store) (id : String) (new : Int) : Except AdminError (List E) := do
  let stored : E ← find s id
  let scope ← scopeOf s stored
  let plan ← planScope id (.updatedMissing (label E) id)
    (Priority.change scope (priority stored) new)
  pure plan.writes

/-! ## Writing -/

/-- Write records one by one.  The first failure ends it, and what was written stays written. -/
def save : List E → Store → Except AdminError Unit × Store
  | [], s => (.ok (), s)
  | e :: rest, s =>
    match (table (E := E)).write s (key e) e with
    | .error error => (.error (.store error), s)
    | .ok s => save rest s

/-- Carry a plan out. -/
def Plan.carryOut (plan : Plan E) (s : Store) : Except AdminError E × Store :=
  match save plan.writes s with
  | (.ok _, s) => (.ok plan.result, s)
  | (.error error, s) => (.error error, s)

end Rulebook.Admin
