import Rulebook.Record.Feature
import Rulebook.Record.FeatureRule
import Rulebook.Record.FirmwareRule
import Rulebook.Record.NamedList
import Rulebook.Record.Template
import Rulebook.Store.Basic

/-!
# Rulebook.Store.Table

Tables whose documents are records.

A table has a name and says how its records are written and read.  Listing a table reads all of its
documents, so a single one that does not read is an error of the whole table.
-/

namespace Rulebook

/-- A table of records of one type. -/
structure Table (α : Type) where
  name : String
  encode : α → Json
  decode : Json → Option α

namespace Table

variable {α : Type}

/-- The record of a document. -/
def read (t : Table α) (doc : Json) : Except StoreError α :=
  match t.decode doc with
  | some a => .ok a
  | none => .error .serialization

/-- The record under a key. -/
def get? (t : Table α) (s : Store) (key : String) : Except StoreError (Option α) :=
  match s.get? t.name key with
  | .error e => .error e
  | .ok none => .ok none
  | .ok (some doc) =>
    match t.read doc with
    | .error e => .error e
    | .ok a => .ok (some a)

/-- All records, in key order. -/
def all (t : Table α) (s : Store) : Except StoreError (List α) :=
  match s.all t.name with
  | .error e => .error e
  | .ok docs => docs.mapM t.read

/-- Write a record under a key. -/
def write (t : Table α) (s : Store) (key : String) (a : α) : Except StoreError Store :=
  s.write t.name key (t.encode a)

/-- Delete the record under a key. -/
def delete (t : Table α) (s : Store) (key : String) : Except StoreError Store :=
  s.delete t.name key

end Table

/-! ## The tables -/

def firmwareRules : Table FirmwareRule :=
  ⟨"FirmwareRule4", FirmwareRule.toJson, FirmwareRule.ofJson?⟩

def templates : Table Template :=
  ⟨"FirmwareRuleTemplate", Template.toJson, Template.ofJson?⟩

def featureRules : Table FeatureRule :=
  ⟨"FeatureControlRule2", FeatureRule.toJson, FeatureRule.ofJson?⟩

def features : Table Feature :=
  ⟨"XconfFeature", Feature.toJson, Feature.ofJson?⟩

def namedLists : Table NamedList :=
  ⟨"GenericXconfNamedList", NamedList.toJson, NamedList.ofJson?⟩

end Rulebook
