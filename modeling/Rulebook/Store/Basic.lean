import Rulebook.Json.Basic
import Rulebook.SortedMap

/-!
# Rulebook.Store.Basic

A store of documents.

Documents stand in tables, under keys, and are listed in key order.  A table that nothing was
written to is empty.  The store counts how often it was brought up to date.

The store can be told to fail: `Faults` are the switches for it.  An operation that fails changes
nothing.
-/

namespace Rulebook

/-- Which operations of a store fail. -/
structure Faults where
  /-- The number of writes that still succeed; all of them if there is none. -/
  writesLeft : Option Nat := none
  deletes : Bool := false
  reads : Bool := false
  syncs : Bool := false
  deriving DecidableEq

/-- A store of documents. -/
structure Store where
  tables : SortedMap (SortedMap Json) := ∅
  syncs : Nat := 0
  faults : Faults := {}

/-- What a failing store reports. -/
inductive BackendFault where
  | diskFull
  | deleteFailed
  | readFailed
  | syncFailed
  deriving DecidableEq

/-- Why a document cannot be had, or a lock is not granted. -/
inductive StoreError where
  | backend (fault : BackendFault)
  /-- A document does not read; what is wrong with it is left out. -/
  | serialization
  | lockHeld (lock : String)
  | notLockOwner (lock owner : String)
  deriving DecidableEq

/-- The fault in words. -/
def BackendFault.message : BackendFault → String
  | .diskFull => "disk full"
  | .deleteFailed => "delete failed"
  | .readFailed => "read failed"
  | .syncFailed => "sync failed"

/-- The error in words. -/
def StoreError.message : StoreError → String
  | .backend fault => "backend error: " ++ fault.message
  | .serialization => "serialization error"
  | .lockHeld lock => "lock '" ++ lock ++ "' is held by another owner"
  | .notLockOwner lock owner => "lock '" ++ lock ++ "' is not held by '" ++ owner ++ "'"

namespace Store

/-! ## Tables -/

/-- The rows of a table. -/
def table (s : Store) (name : String) : SortedMap Json :=
  (s.tables.get? name).getD ∅

/-- The store with other rows in a table. -/
def withTable (s : Store) (name : String) (rows : SortedMap Json) : Store :=
  { s with tables := s.tables.insert name rows }

/-- The store with a document under a key, in place of the one that was there. -/
def insert (s : Store) (name key : String) (doc : Json) : Store :=
  s.withTable name ((s.table name).insert key doc)

/-- The store without the document under a key. -/
def erase (s : Store) (name key : String) : Store :=
  s.withTable name ((s.table name).erase key)

/-- Other rows in a table leave every other table as it was. -/
theorem table_withTable (s : Store) (name n : String) (rows : SortedMap Json) :
    (s.withTable name rows).table n = if n = name then rows else s.table n := by
  rw [table, withTable, SortedMap.get?_insert]
  split <;> rfl

theorem table_insert (s : Store) (name key n : String) (doc : Json) :
    (s.insert name key doc).table n =
      if n = name then (s.table name).insert key doc else s.table n :=
  table_withTable s name n _

theorem table_erase (s : Store) (name key n : String) :
    (s.erase name key).table n = if n = name then (s.table name).erase key else s.table n :=
  table_withTable s name n _

/-! ## Operations that can fail -/

/-- The document under a key. -/
def get? (s : Store) (name key : String) : Except StoreError (Option Json) :=
  if s.faults.reads then .error (.backend .readFailed)
  else .ok ((s.table name).get? key)

/-- All documents of a table, in key order. -/
def all (s : Store) (name : String) : Except StoreError (List Json) :=
  if s.faults.reads then .error (.backend .readFailed)
  else .ok (s.table name).values

/-- Write a document.  Where writes are counted, one fewer is left. -/
def write (s : Store) (name key : String) (doc : Json) : Except StoreError Store :=
  match s.faults.writesLeft with
  | none => .ok (s.insert name key doc)
  | some 0 => .error (.backend .diskFull)
  | some (n + 1) =>
    .ok { s.insert name key doc with faults := { s.faults with writesLeft := some n } }

/-- Delete what is under a key; nothing being there is no error. -/
def delete (s : Store) (name key : String) : Except StoreError Store :=
  if s.faults.deletes then .error (.backend .deleteFailed)
  else .ok (s.erase name key)

/-- Bring the store up to date. -/
def sync (s : Store) : Except StoreError Store :=
  if s.faults.syncs then .error (.backend .syncFailed)
  else .ok { s with syncs := s.syncs + 1 }

/-- A write that succeeds puts the document into its table and leaves all else. -/
theorem table_of_write {s s' : Store} {name key : String} {doc : Json}
    (h : s.write name key doc = .ok s') (n : String) :
    s'.table n = if n = name then (s.table name).insert key doc else s.table n := by
  rw [write] at h
  split at h
  · cases h; exact table_insert s name key n doc
  · cases h
  · cases h; exact table_insert s name key n doc

/-- A deletion that succeeds takes the key out of its table and leaves all else. -/
theorem table_of_delete {s s' : Store} {name key : String} (h : s.delete name key = .ok s')
    (n : String) :
    s'.table n = if n = name then (s.table name).erase key else s.table n := by
  rw [delete] at h
  split at h
  · cases h
  · cases h; exact table_erase s name key n

/-- Bringing the store up to date changes no table. -/
theorem table_of_sync {s s' : Store} (h : s.sync = .ok s') (n : String) :
    s'.table n = s.table n := by
  rw [sync] at h
  split at h
  · cases h
  · cases h; rfl

end Store

end Rulebook
