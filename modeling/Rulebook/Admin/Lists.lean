import Rulebook.Admin.Kind
import Rulebook.Admin.World

/-!
# Rulebook.Admin.Lists

Administering named lists.

A list cannot be deleted while a rule of any kind or a whitelisted feature refers to it.  Rules are
searched table by table in key order, and the search ends at the first one that does; a document
that does not read only matters if the search comes to it.
-/

namespace Rulebook

/-- What the records of all kinds of rules share; the rest of their documents is not looked at. -/
structure RuleRecord where
  id : String := ""
  name : String := ""
  rule : Rule := {}

namespace RuleRecord

def ofJson? (j : Json) : Option RuleRecord := do
  let fields ← j.record? ["id", "name", "rule"]
  let id ← Json.withDefault fields "id" "" Json.string?
  let name ← Json.withDefault fields "name" "" Json.string?
  let rule ← Json.withDefault fields "rule" {} Rule.ofJson?
  pure { id, name, rule }

/-- A condition of the rule refers to the list. -/
def usesList (r : RuleRecord) (list : String) : Bool :=
  (r.rule.fixedStrings Operation.inList).contains list

/-- The name of the record, or its identifier if it has no name. -/
def title (r : RuleRecord) : String :=
  if r.name.isEmpty then r.id else r.name

end RuleRecord

namespace Admin

/-- The tables of rules, with the names of their kinds. -/
def ruleSources : List (String × String) :=
  [(firmwareRules.name, RuleKind.label FirmwareRule), (templates.name, RuleKind.label Template),
    (featureRules.name, RuleKind.label FeatureRule)]

/-! ## Search for references -/

/-- The first of the documents that refers to a list. -/
def findRule (list : String) : List Json → Except AdminError (Option RuleRecord)
  | [] => .ok none
  | doc :: rest =>
    match RuleRecord.ofJson? doc with
    | none => .error (.store .serialization)
    | some r => if r.usesList list then .ok (some r) else findRule list rest

/-- The first rule of the tables that refers to a list, in words. -/
def findRuleUsage (s : Store) (list : String) :
    List (String × String) → Except AdminError (Option String)
  | [] => .ok none
  | (table, label) :: rest => do
    let docs ← (s.all table).mapError .store
    match ← findRule list docs with
    | some r => pure (some ("List is used by " ++ label ++ " " ++ r.title))
    | none => findRuleUsage s list rest

/-- The first record that refers to a list, in words: rules before features. -/
def findUsage (s : Store) (list : String) : Except AdminError (Option String) := do
  match ← findRuleUsage s list ruleSources with
  | some usage => pure (some usage)
  | none =>
    let all ← (features.all s).mapError .store
    pure ((all.find? fun f => f.usesList list).map fun f => "List is used by feature " ++ f.name)

/-! ## The work of each operation -/

/-- The list under an identifier. -/
def getList? (s : Store) (id : String) : Except AdminError (Option NamedList) :=
  (namedLists.get? s id).mapError .store

/-- Write a new list, whose identifier must not be taken. -/
def addList (l : NamedList) (s : Store) : Except AdminError NamedList × Store :=
  match getList? s l.id with
  | .error error => (.error error, s)
  | .ok (some _) => (.error (.conflict (.idTaken "NamespacedList" l.id)), s)
  | .ok none =>
    match namedLists.write s l.id l with
    | .error error => (.error (.store error), s)
    | .ok s => (.ok l, s)

/-- The list under an identifier, of the type that is asked for, if nothing refers to it. -/
def findUnusedList (s : Store) (id : String) (type : Option ListType) :
    Except AdminError NamedList := do
  let stored ← getList? s id
  match stored.filter fun l => type.all fun t => t == l.type with
  | none => .error (.notFound (.list id))
  | some l =>
    match ← findUsage s id with
    | some usage => .error (.conflict (.listInUse usage))
    | none => pure l

/-- Remove a list that nothing refers to. -/
def dropList (id : String) (type : Option ListType) (s : Store) :
    Except AdminError NamedList × Store :=
  match findUnusedList s id type with
  | .error error => (.error error, s)
  | .ok l =>
    match namedLists.delete s id with
    | .error error => (.error (.store error), s)
    | .ok s => (.ok l, s)

/-! ## The operations -/

/-- Create a list.  A blank identifier is refused before the lock is asked for. -/
def createList (a : Admin) (l : NamedList) (owner : String) (w : World) :
    Except AdminError NamedList × World :=
  if Text.isBlank l.id then (.error (.validation .blankListId), w)
  else
    underLock a.config namedLists.name owner (fun d => d.after (addList l d.store)) w

/-- Delete a list that nothing refers to; where a type is given, the list must have it. -/
def deleteList (a : Admin) (id : String) (type : Option ListType) (owner : String) (w : World) :
    Except AdminError NamedList × World :=
  underLock a.config namedLists.name owner (fun d => d.after (dropList id type d.store)) w

end Admin

end Rulebook
