import Rulebook.Proofs.Admin.ListWork
import Rulebook.Proofs.Admin.Reachable

/-!
# Rulebook.Proofs.Admin.Atomicity

Requests that are refused as a whole.

All requests but deletions of rule records make every check before their first write, and a named
list is written or deleted in a single step that comes last (`Rulebook.Proofs.Admin.ListWork`).  So
where writes do not fail, such a request leaves every table as it was whenever it answers an error,
whatever documents the tables hold:

* `atomic_underLock` — a work that stores nothing when it fails is atomic under the lock;
* `atomic_of_writes` — creating, updating and moving rule records, and creating and deleting lists.
-/

namespace Rulebook.Admin

open Prioritized RuleKind

variable {α : Type} {w : World}

/-- The request changes no table of this world if it answers an error. -/
def Atomic (request : World → Except AdminError α × World) (w : World) : Prop :=
  ∀ (error : AdminError) (w' : World), request w = (.error error, w') →
    ∀ name, w'.desk.store.table name = w.desk.store.table name

/-- Neither the lock nor bringing the store up to date changes a table, so it is enough that the
work stores nothing when it fails. -/
theorem atomic_underLock {work : Desk → Except AdminError α × Desk} (c : Config) (t owner : String)
    (hwork : ∀ error d', work w.desk.synced = (.error error, d') →
      d'.store = w.desk.synced.store) :
    Atomic (underLock c t owner work) w := by
  intro error w' hrun name
  rcases underLock_cases c t owner work w with ⟨error₁, w₁, hrun₁, hdesk⟩ | ⟨w₁, hrun₁, hdesk⟩
  · rw [hrun] at hrun₁
    obtain ⟨-, rfl⟩ := Prod.mk.inj hrun₁
    rw [hdesk]
  · rw [hrun] at hrun₁
    obtain ⟨hout, rfl⟩ := Prod.mk.inj hrun₁
    have hstore := hwork error w'.desk (Prod.ext hout.symm hdesk.symm)
    rw [hstore]
    rfl

section Records

variable {E : Type} [RuleKind E] (a : Admin)

theorem atomic_create [PatternEngine] (hwrites : w.desk.store.faults.writesLeft = none) (e : E)
    (type owner : String) : Atomic (create a e type owner) w :=
  atomic_underLock a.config _ owner fun _ _ => store_of_createWork_error hwrites

theorem atomic_update [PatternEngine] (hwrites : w.desk.store.faults.writesLeft = none) (e : E)
    (type owner : String) : Atomic (update a e type owner) w :=
  atomic_underLock a.config _ owner fun _ _ => store_of_updateWork_error hwrites

theorem atomic_changePriority (hwrites : w.desk.store.faults.writesLeft = none) (id : String)
    (new : Int) (owner : String) : Atomic (changePriority E a id new owner) w := by
  intro error w' hrun
  rw [changePriority] at hrun
  split at hrun
  · cases hrun
    exact fun _ => rfl
  · exact atomic_underLock a.config _ owner (fun _ _ => store_of_moveWork_error hwrites)
      error w' hrun

end Records

/-! ## Lists -/

theorem atomic_createList (a : Admin) (l : NamedList) (owner : String) :
    Atomic (createList a l owner) w := by
  intro error w' hrun
  rw [createList] at hrun
  split at hrun
  · cases hrun
    exact fun _ => rfl
  · refine atomic_underLock a.config _ owner (fun error d' hwork => ?_) error w' hrun
    rw [Desk.after_eq] at hwork
    obtain ⟨hout, rfl⟩ := Prod.mk.inj hwork
    exact store_of_addList_error hout

theorem atomic_deleteList (a : Admin) (id : String) (type : Option ListType) (owner : String) :
    Atomic (deleteList a id type owner) w := by
  refine atomic_underLock a.config _ owner fun error d' hwork => ?_
  rw [Desk.after_eq] at hwork
  obtain ⟨hout, rfl⟩ := Prod.mk.inj hwork
  exact store_of_dropList_error hout

/-! ## All of them -/

/-- **Refused as a whole**: in a store whose writes do not fail, and whose tables may hold any
documents, no request to create, update or move a rule record, and none to create or delete a
list, changes a table if it answers an error. -/
theorem atomic_of_writes [PatternEngine] (a : Admin) {w : World}
    (hwrites : w.desk.store.faults.writesLeft = none) :
    (∀ (k : Kind) (e : k.Record) (type owner : String), Atomic (create a e type owner) w) ∧
    (∀ (k : Kind) (e : k.Record) (type owner : String), Atomic (update a e type owner) w) ∧
    (∀ (k : Kind) (id : String) (new : Int) (owner : String),
      Atomic (changePriority k.Record a id new owner) w) ∧
    (∀ (l : NamedList) (owner : String), Atomic (createList a l owner) w) ∧
    ∀ (id : String) (type : Option ListType) (owner : String),
      Atomic (deleteList a id type owner) w :=
  ⟨fun _ => atomic_create a hwrites, fun _ => atomic_update a hwrites,
    fun _ => atomic_changePriority a hwrites, atomic_createList a, atomic_deleteList a⟩

/-- Next to a document that is no rule, the rule `a` is found and its new version passes its checks;
then the scope does not read, and nothing has been stored. -/
theorem atomic_unreadableNeighbour :
    unreadableNeighbour.desk.store.faults.writesLeft = none ∧
      ∃ error w', update (E := Kind.firmwareRule.Record) { newId := toString }
          (plainRule "a" "a" "stb" 7) "stb" "admin" unreadableNeighbour = (.error error, w') ∧
        ∀ name, w'.desk.store.table name = unreadableNeighbour.desk.store.table name := by
  have hwrites : unreadableNeighbour.desk.store.faults.writesLeft = none := rfl
  have hfails : (update (E := Kind.firmwareRule.Record) { newId := toString }
      (plainRule "a" "a" "stb" 7) "stb" "admin" unreadableNeighbour).1.isOk = false := by
    decide +kernel
  rcases hrun : update (E := Kind.firmwareRule.Record) { newId := toString }
    (plainRule "a" "a" "stb" 7) "stb" "admin" unreadableNeighbour with ⟨outcome, w'⟩
  rw [hrun] at hfails
  cases outcome with
  | ok e => cases hfails
  | error error =>
      exact ⟨hwrites, error, w', rfl, (atomic_of_writes { newId := toString } hwrites).2.1
        .firmwareRule _ "stb" "admin" error w' hrun⟩

end Rulebook.Admin
