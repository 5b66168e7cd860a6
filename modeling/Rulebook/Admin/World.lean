import Rulebook.Admin.Error
import Rulebook.Config
import Rulebook.Lock

/-!
# Rulebook.Admin.World

What requests act on, and the lock around them.

Every changing request takes the lock of its table for its owner, brings the store up to date, does
its work and gives the lock back, whatever the outcome.  The work sees the store and the supply of
identifiers (`Desk`), but not the locks.
-/

namespace Rulebook

/-- The settings of an administration, with its supply of identifiers for new records. -/
structure Admin where
  config : Config := {}
  /-- The identifier that is issued after `n` others. -/
  newId : Nat → String

namespace Admin

/-- What the work of a request acts on. -/
structure Desk where
  store : Store := {}
  /-- The number of identifiers issued so far. -/
  issued : Nat := 0

/-- A desk with the outcome of a change of its store. -/
def Desk.after (d : Desk) : Except AdminError α × Store → Except AdminError α × Desk
  | (outcome, store) => (outcome, { d with store })

/-- The state of an administration. -/
structure World where
  desk : Desk := {}
  /-- The recorded holds on the locks of the tables. -/
  holds : SortedMap Hold := ∅

namespace World

/-- The lock of a table. -/
def lock (w : World) (c : Config) (table : String) : Lock :=
  { name := table, seconds := c.lockSeconds, hold := w.holds.get? table }

/-- The world with a lock in another state. -/
def withLock (w : World) (l : Lock) : World :=
  match l.hold with
  | some hold => { w with holds := w.holds.insert l.name hold }
  | none => { w with holds := w.holds.erase l.name }

/-- The world with a lock given back, if this owner is recorded as its holder. -/
def unlock (w : World) (c : Config) (table owner : String) : World :=
  w.withLock ((w.lock c table).letGo owner)

end World

/-- Do the work of a request under the lock of a table. -/
def underLock (c : Config) (table owner : String) (work : Desk → Except AdminError α × Desk)
    (w : World) : Except AdminError α × World :=
  match (w.lock c table).acquire owner with
  | .error e => (.error (.store e), w)
  | .ok held =>
    let w := w.withLock held
    match w.desk.store.sync with
    | .error e => (.error (.store e), w.unlock c table owner)
    | .ok s =>
      let (outcome, desk) := work { w.desk with store := s }
      (outcome, { w with desk }.unlock c table owner)

end Admin

end Rulebook
