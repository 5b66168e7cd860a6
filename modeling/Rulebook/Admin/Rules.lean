import Rulebook.Admin.Plan
import Rulebook.Admin.World

/-!
# Rulebook.Admin.Rules

Administering rule records: create, update, delete, move and import.

Each operation is its work on the desk, put under the lock of the kind's table.  Deleting removes
the record before the rest of its scope is read, so a scope that does not read is found too late;
all other operations make every check before the first write.
-/

namespace Rulebook.Admin

open Prioritized RuleKind

variable {E : Type} [RuleKind E] [PatternEngine]

/-! ## The work of each operation -/

/-- Create a record.  One without identifier uses up a fresh one, also if it is then refused. -/
def createWork (a : Admin) (type : String) (e : E) (d : Desk) : Except AdminError E × Desk :=
  let plan := planCreate a.config d.store (a.newId d.issued) type e
  let d := if Text.isBlank (key e) then { d with issued := d.issued + 1 } else d
  match plan with
  | .error error => (.error error, d)
  | .ok plan => d.after (plan.carryOut d.store)

/-- Update a record. -/
def updateWork (a : Admin) (type : String) (e : E) (d : Desk) : Except AdminError E × Desk :=
  match planUpdate a.config d.store type e with
  | .error error => (.error error, d)
  | .ok plan => d.after (plan.carryOut d.store)

/-- The record under an identifier, if it can be deleted. -/
def findDeletable (s : Store) (id : String) : Except AdminError E := do
  let stored : E ← find s id
  checkDeletable s stored
  pure stored

/-- Close the gap that a removed record leaves in its scope. -/
def closeGap (e : E) (id : String) (s : Store) : Except AdminError Unit × Store :=
  match scopeOf s e with
  | .error error => (.error error, s)
  | .ok scope => save (Priority.pack scope id) s

/-- Remove a record and close the gap in its scope. -/
def remove (e : E) (id : String) (s : Store) : Except AdminError E × Store :=
  match (table (E := E)).delete s id with
  | .error error => (.error (.store error), s)
  | .ok s =>
    match closeGap e id s with
    | (.ok _, s) => (.ok e, s)
    | (.error error, s) => (.error error, s)

/-- Delete a record. -/
def deleteWork (E : Type) [RuleKind E] (id : String) (d : Desk) : Except AdminError E × Desk :=
  match findDeletable d.store id with
  | .error error => (.error error, d)
  | .ok stored => d.after (remove stored id d.store)

/-- Move a record. -/
def moveWork (E : Type) [RuleKind E] (id : String) (new : Int) (d : Desk) :
    Except AdminError (List E) × Desk :=
  match planMove d.store id new with
  | .error error => (.error error, d)
  | .ok altered =>
    d.after
      (match save altered d.store with
      | (.ok _, s) => (.ok altered, s)
      | (.error error, s) => (.error error, s))

/-- What became of each record of an import. -/
structure ImportReport where
  imported : List String := []
  notImported : List String := []
  deriving DecidableEq

/-- Update a record that is stored, and create one that is not. -/
def importOne (a : Admin) (type : String) (e : E) (d : Desk) : Except AdminError E × Desk :=
  match isStored E d.store (key e) with
  | .error error => (.error error, d)
  | .ok true => updateWork a type e d
  | .ok false => createWork a type e d

/-- Import records one by one.  A record that is refused does not stop the others. -/
def importWork (a : Admin) (type : String) : List E → Desk → ImportReport × Desk
  | [], d => ({}, d)
  | e :: rest, d =>
    let (outcome, d) := importOne a type e d
    let (report, d) := importWork a type rest d
    match outcome with
    | .ok saved => ({ report with imported := key saved :: report.imported }, d)
    | .error _ => ({ report with notImported := key e :: report.notImported }, d)

/-! ## The operations -/

/-- Create a record at the priority it asks for. -/
def create (a : Admin) (e : E) (type owner : String) (w : World) : Except AdminError E × World :=
  underLock a.config (table (E := E)).name owner (createWork a type e) w

/-- Replace a stored record. -/
def update (a : Admin) (e : E) (type owner : String) (w : World) : Except AdminError E × World :=
  underLock a.config (table (E := E)).name owner (updateWork a type e) w

/-- Delete a record. -/
def delete (E : Type) [RuleKind E] (a : Admin) (id owner : String) (w : World) :
    Except AdminError E × World :=
  underLock a.config (table (E := E)).name owner (deleteWork E id) w

/-- Move a record to another priority; the answer is every record that this alters. -/
def changePriority (E : Type) [RuleKind E] (a : Admin) (id : String) (new : Int) (owner : String)
    (w : World) : Except AdminError (List E) × World :=
  if new ≤ 0 then (.error (.validation (.invalidPriority new)), w)
  else underLock a.config (table (E := E)).name owner (moveWork E id new) w

/-- Import records under a single hold of the lock. -/
def importAll (a : Admin) (records : List E) (type owner : String) (w : World) :
    Except AdminError ImportReport × World :=
  underLock a.config (table (E := E)).name owner
    (fun d =>
      let (report, d) := importWork a type records d
      (.ok report, d))
    w

end Rulebook.Admin
