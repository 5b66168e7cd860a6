import Rulebook.Store.Basic

/-!
# Rulebook.Lock

Named locks.

A lock is held by at most one owner, and no one can take a held lock, its owner included.  A hold
lasts for a limited time.  When that has passed it has run out, at once if there is none, and the
next owner takes the lock over although the hold is still recorded.  Giving a lock back only asks
who is recorded as its holder: a former owner cannot do it after another one took over, and a holder
can, also when the hold has run out.

Time passes between the operations (`Lock.wait`) and not while they are done.  It is counted in one
unit for the limits and for the ages of holds.  Settings give the limit in seconds, and nothing here
depends on that: a finer clock only makes all numbers larger.

A guard takes a lock and gives it back when it is dropped, whether or not that is still possible.
-/

namespace Rulebook

/-- A hold on a lock. -/
structure Hold where
  owner : String
  /-- The time since the lock was taken. -/
  age : Nat := 0
  deriving DecidableEq

/-- A lock, with the recorded hold. -/
structure Lock where
  name : String
  /-- The time after which a hold has run out. -/
  seconds : Nat
  hold : Option Hold := none
  deriving DecidableEq

namespace Lock

/-- The recorded holder, whether or not the hold has run out. -/
def holder (l : Lock) : Option String :=
  l.hold.map Hold.owner

/-- The owner of a hold that has not run out. -/
def owner (l : Lock) : Option String :=
  (l.hold.filter fun hold => hold.age < l.seconds).map Hold.owner

/-- The lock after some time. -/
def wait (l : Lock) (time : Nat) : Lock :=
  { l with hold := l.hold.map fun hold => { hold with age := hold.age + time } }

/-- Take the lock. -/
def acquire (l : Lock) (owner : String) : Except StoreError Lock :=
  match l.owner with
  | some _ => .error (.lockHeld l.name)
  | none => .ok { l with hold := some { owner } }

/-- Give the lock back. -/
def release (l : Lock) (owner : String) : Except StoreError Lock :=
  if l.holder = some owner then .ok { l with hold := none }
  else .error (.notLockOwner l.name owner)

/-- Give the lock back if it is held by this owner. -/
def letGo (l : Lock) (owner : String) : Lock :=
  match l.release owner with
  | .ok l => l
  | .error _ => l

end Lock

/-- A lock with the owners of the guards on it, the newest first. -/
structure GuardedLock where
  lock : Lock
  guards : List String := []
  deriving DecidableEq

namespace GuardedLock

/-- Put a new guard on the lock. -/
def guard (g : GuardedLock) (owner : String) : Except StoreError GuardedLock :=
  match g.lock.acquire owner with
  | .ok lock => .ok ⟨lock, owner :: g.guards⟩
  | .error e => .error e

/-- Drop the newest guard, if there is one. -/
def drop (g : GuardedLock) : GuardedLock :=
  match g.guards with
  | [] => g
  | owner :: rest => ⟨g.lock.letGo owner, rest⟩

end GuardedLock

end Rulebook
