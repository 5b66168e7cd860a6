import Rulebook.Proofs.Admin.Batches
import Rulebook.Proofs.Admin.ListWork

/-!
# Rulebook.Proofs.Admin.Locking

How calls hold the locks of their tables.

All calls, for rules and for lists, come down to one thing: an argument is checked, and then a work
is done under the lock of a table (`Call.run_eq`).  So what a call does to the locks is what
`underLock` does to them, whatever the work:

* `lock_underLock_of_ne` — the locks of other tables are left alone;
* `Call.count_work` — no work brings the store up to date once more;
* `exists_entered` — a work is done while the lock is held for its owner;
* `lock_of_call` — the locks are as free as they were, a held lock stops the call, and a call that
  gets its lock brings the store up to date once and works while it holds the lock.
-/

namespace Rulebook.Admin

open Prioritized RuleKind

/-! ## Calls -/

/-- What a request for rule records answers. -/
inductive Answer (E : Type) where
  | record (e : E)
  | altered (es : List E)
  | report (r : ImportReport)

/-- What is said of an outcome, with another answer. -/
def answered {α β σ : Type} (answer : α → β) (r : Except AdminError α × σ) :
    Except AdminError β × σ :=
  (r.1.map answer, r.2)

/-- Another answer to a work is another answer to the operation. -/
theorem underLock_answered {α β : Type} (c : Config) (t owner : String) (answer : α → β)
    (work : Desk → Except AdminError α × Desk) (w : World) :
    underLock c t owner (fun d => answered answer (work d)) w =
      answered answer (underLock c t owner work w) := by
  unfold underLock answered
  cases (w.lock c t).acquire owner with
  | error error => rfl
  | ok held =>
      dsimp only
      cases (w.withLock held).desk.store.sync with
      | error error => rfl
      | ok s => rfl

namespace Request

variable {E : Type} [RuleKind E]

def owner : Request E → String
  | create _ _ owner | update _ _ owner | delete _ owner | changePriority _ _ owner
  | importAll _ _ owner => owner

/-- What is wrong with the arguments of a request, before anything is looked at. -/
def fault? : Request E → Option ValidationError
  | changePriority _ new _ => if new ≤ 0 then some (.invalidPriority new) else none
  | _ => none

/-- The work of a request. -/
def work [PatternEngine] (a : Admin) : Request E → Desk → Except AdminError (Answer E) × Desk
  | create e type _, d => answered .record (createWork a type e d)
  | update e type _, d => answered .record (updateWork a type e d)
  | delete id _, d => answered .record (deleteWork E id d)
  | changePriority id new _, d => answered .altered (moveWork E id new d)
  | importAll records type _, d => ((.ok (.report (importWork a type records d).1)),
      (importWork a type records d).2)

/-- The answer to a request, and the world after it. -/
def run [PatternEngine] (a : Admin) : Request E → World → Except AdminError (Answer E) × World
  | create e type owner, w => answered .record (a.create e type owner w)
  | update e type owner, w => answered .record (a.update e type owner w)
  | delete id owner, w => answered .record (Admin.delete E a id owner w)
  | changePriority id new owner, w => answered .altered (Admin.changePriority E a id new owner w)
  | importAll records type owner, w => answered .report (a.importAll records type owner w)

/-- **A request is its work under the lock** of its table, if its arguments are valid. -/
theorem run_eq [PatternEngine] (a : Admin) (r : Request E) (w : World) :
    r.run a w =
      match r.fault? with
      | some fault => (.error (.validation fault), w)
      | none => underLock a.config (table (E := E)).name r.owner (r.work a) w := by
  cases r with
  | create e type owner => exact (underLock_answered ..).symm
  | update e type owner => exact (underLock_answered ..).symm
  | delete id owner => exact (underLock_answered ..).symm
  | changePriority id new owner =>
      rw [run, Admin.changePriority, fault?]
      split
      · rfl
      · exact (underLock_answered ..).symm
  | importAll records type owner => exact (underLock_answered ..).symm

theorem snd_run [PatternEngine] (a : Admin) (r : Request E) (w : World) :
    (r.run a w).2 = r.perform a w := by
  cases r <;> rfl

end Request

/-- What a call answers. -/
inductive Reply where
  | rules (k : Kind) (answer : Answer k.Record)
  | list (l : NamedList)

/-- A call of one of the services: for the rules of a kind, or for lists. -/
inductive Call where
  | rules (k : Kind) (r : Request k.Record)
  | createList (l : NamedList) (owner : String)
  | deleteList (id : String) (type : Option ListType) (owner : String)

namespace Call

/-- The table whose lock the call takes. -/
def table : Call → String
  | rules k _ => k.tableName
  | createList _ _ | deleteList _ _ _ => namedLists.name

def owner : Call → String
  | rules _ r => r.owner
  | createList _ owner | deleteList _ _ owner => owner

/-- What is wrong with the arguments of a call, before the lock is asked for. -/
def fault? : Call → Option ValidationError
  | rules _ r => r.fault?
  | createList l _ => if Text.isBlank l.id then some .blankListId else none
  | deleteList _ _ _ => none

/-- The work of a call. -/
def work [PatternEngine] (a : Admin) : Call → Desk → Except AdminError Reply × Desk
  | rules k r, d => answered (.rules k) (r.work a d)
  | createList l _, d => answered .list (d.after (addList l d.store))
  | deleteList id type _, d => answered .list (d.after (dropList id type d.store))

/-- The answer to a call, and the world after it. -/
def run [PatternEngine] (a : Admin) : Call → World → Except AdminError Reply × World
  | rules k r, w => answered (.rules k) (r.run a w)
  | createList l owner, w => answered .list (a.createList l owner w)
  | deleteList id type owner, w => answered .list (a.deleteList id type owner w)

/-- **A call is its work under the lock** of its table, if its arguments are valid. -/
theorem run_eq [PatternEngine] (a : Admin) (c : Call) (w : World) :
    c.run a w =
      match c.fault? with
      | some fault => (.error (.validation fault), w)
      | none => underLock a.config c.table c.owner (c.work a) w := by
  cases c with
  | rules k r =>
      rw [run, r.run_eq, fault?]
      cases r.fault? with
      | some fault => rfl
      | none => exact (underLock_answered ..).symm
  | createList l owner =>
      rw [run, Admin.createList, fault?]
      split
      · rfl
      · exact (underLock_answered ..).symm
  | deleteList id type owner => exact (underLock_answered ..).symm

end Call

/-! ## The locks -/

theorem lock_withLock_of_ne (w : World) (c : Config) {l : Lock} {t : String} (ht : t ≠ l.name) :
    (w.withLock l).lock c t = w.lock c t := by
  have hget : (w.withLock l).holds.get? t = w.holds.get? t := by
    unfold World.withLock
    cases l.hold with
    | none => exact (SortedMap.get?_erase _ _ _).trans (if_neg ht)
    | some hold => exact (SortedMap.get?_insert _ _ _ _).trans (if_neg ht)
  rw [World.lock, World.lock, hget]

theorem lock_unlock_of_ne (w : World) (c : Config) {t t' : String} (owner : String)
    (ht : t' ≠ t) : (w.unlock c t owner).lock c t' = w.lock c t' :=
  lock_withLock_of_ne w c (by rwa [Lock.name_letGo])

/-- A request does not touch the locks of other tables. -/
theorem lock_underLock_of_ne {α : Type} (c : Config) {t t' : String} (owner : String)
    (work : Desk → Except AdminError α × Desk) (w : World) (ht : t' ≠ t) :
    (underLock c t owner work w).2.lock c t' = w.lock c t' := by
  rw [underLock, Lock.acquire]
  cases (w.lock c t).owner with
  | some holder => rfl
  | none =>
      have hheld : (w.withLock { w.lock c t with hold := some { owner } }).lock c t' =
          w.lock c t' := lock_withLock_of_ne w c ht
      dsimp only
      cases (w.withLock { w.lock c t with hold := some { owner } }).desk.store.sync with
      | error error => exact (lock_unlock_of_ne _ c owner ht).trans hheld
      | ok s => exact (lock_unlock_of_ne _ c owner ht).trans hheld

/-- **A request leaves every lock as free as it was.** -/
theorem owner_lock_underLock_all {α : Type} (c : Config) (t owner : String)
    (work : Desk → Except AdminError α × Desk) (w : World) (t' : String) :
    ((underLock c t owner work w).2.lock c t').owner = (w.lock c t').owner := by
  by_cases ht : t' = t
  · subst ht
    exact owner_lock_underLock c t' owner work w
  · rw [lock_underLock_of_ne c owner work w ht]

/-- A held lock stops a request, whoever holds it. -/
theorem underLock_of_held {α : Type} {c : Config} {t holder : String} (owner : String)
    (work : Desk → Except AdminError α × Desk) {w : World}
    (hheld : (w.lock c t).owner = some holder) :
    underLock c t owner work w = (.error (.store (.lockHeld t)), w) := by
  rw [underLock, Lock.acquire, hheld]
  rfl

/-- A world like `w`, where the owner has taken the lock of the table and the store is up to
date. -/
structure Entered (c : Config) (t owner : String) (w held : World) : Prop where
  holder : (held.lock c t).holder = some owner
  /-- The hold counts, unless holds run out at once. -/
  owns : c.lockSeconds ≠ 0 → (held.lock c t).owner = some owner
  others : ∀ t', t' ≠ t → held.lock c t' = w.lock c t'
  desk : held.desk = w.desk.synced

/-- **A work is done while its owner holds the lock**, which is given back afterwards. -/
theorem exists_entered {α : Type} {c : Config} {t : String} (owner : String)
    (work : Desk → Except AdminError α × Desk) {w : World} (hfree : (w.lock c t).owner = none)
    (hsyncs : w.desk.store.faults.syncs = false) :
    ∃ held, Entered c t owner w held ∧ underLock c t owner work w =
      ((work held.desk).1, { held with desk := (work held.desk).2 }.unlock c t owner) := by
  have hlock := lock_withLock w c t (some { owner })
  refine ⟨{ w.withLock { w.lock c t with hold := some { owner } } with desk := w.desk.synced },
    ⟨congrArg Lock.holder hlock, fun hlasting => ?_, fun t' ht => lock_withLock_of_ne w c ht, rfl⟩,
    ?_⟩
  · refine (congrArg Lock.owner hlock).trans ?_
    have hcounts : (0 : Nat) < (w.lock c t).seconds := Nat.pos_of_ne_zero hlasting
    simp [Lock.owner, Option.filter, hcounts]
  · rw [underLock, Lock.acquire, hfree]
    dsimp only
    rw [World.desk_withLock, Store.sync, hsyncs]
    rfl

/-- Where the store cannot be brought up to date, a request with a free lock ends there. -/
theorem underLock_of_syncFailed {α : Type} {c : Config} {t : String} (owner : String)
    (work : Desk → Except AdminError α × Desk) {w : World} (hfree : (w.lock c t).owner = none)
    (hsyncs : w.desk.store.faults.syncs = true) :
    (underLock c t owner work w).1 = .error (.store (.backend .syncFailed)) ∧
      (underLock c t owner work w).2.desk = w.desk := by
  rw [underLock, Lock.acquire, hfree]
  dsimp only
  rw [World.desk_withLock, Store.sync, hsyncs]
  exact ⟨rfl, by simp⟩

/-! ## How often a work brings the store up to date -/

section Syncs

variable {E : Type} [RuleKind E] (a : Admin) (type : String)

theorem syncs_of_write {s s' : Store} {name id : String} {doc : Json}
    (h : s.write name id doc = .ok s') : s'.syncs = s.syncs := by
  unfold Store.write at h
  split at h <;> cases h <;> rfl

theorem syncs_of_delete {s s' : Store} {name id : String}
    (h : s.delete name id = .ok s') : s'.syncs = s.syncs := by
  unfold Store.delete at h
  split at h <;> cases h
  rfl

theorem count_save (es : List E) (s : Store) : (save es s).2.syncs = s.syncs := by
  induction es generalizing s with
  | nil => rfl
  | cons e rest ih =>
      rw [save]
      cases hwrite : (RuleKind.table (E := E)).write s (key e) e with
      | error error => rfl
      | ok s₁ => exact (ih s₁).trans (syncs_of_write hwrite)

theorem count_carryOut (plan : Plan E) (s : Store) : (plan.carryOut s).2.syncs = s.syncs := by
  rw [snd_carryOut, count_save]

theorem count_createWork [PatternEngine] (e : E) (d : Desk) :
    (createWork a type e d).2.store.syncs = d.store.syncs := by
  rw [createWork]
  cases planCreate a.config d.store (a.newId d.issued) type e with
  | error error => exact congrArg Store.syncs (store_issued d e)
  | ok plan =>
      dsimp only [Desk.after]
      rw [store_issued]
      exact count_carryOut plan d.store

theorem count_updateWork [PatternEngine] (e : E) (d : Desk) :
    (updateWork a type e d).2.store.syncs = d.store.syncs := by
  rw [updateWork]
  cases planUpdate a.config d.store type e with
  | error error => rfl
  | ok plan => exact count_carryOut plan d.store

theorem count_moveWork (id : String) (new : Int) (d : Desk) :
    (moveWork E id new d).2.store.syncs = d.store.syncs := by
  cases hplan : planMove (E := E) d.store id new with
  | error error => rw [moveWork, hplan]
  | ok altered => rw [store_moveWork_of_plan hplan, count_save]

theorem count_remove (e : E) (id : String) (s : Store) : (remove e id s).2.syncs = s.syncs := by
  rw [remove]
  cases hdelete : (RuleKind.table (E := E)).delete s id with
  | error error => rfl
  | ok s₁ =>
      have hgap : (closeGap e id s₁).2.syncs = s₁.syncs := by
        rw [closeGap]
        cases scopeOf s₁ e with
        | error error => rfl
        | ok es => exact count_save (Priority.pack es id) s₁
      dsimp only
      cases hrun : closeGap e id s₁ with
      | mk outcome s' =>
          rw [hrun, syncs_of_delete hdelete] at hgap
          cases outcome <;> exact hgap

theorem count_deleteWork (id : String) (d : Desk) :
    (deleteWork E id d).2.store.syncs = d.store.syncs := by
  rw [deleteWork]
  cases findDeletable (E := E) d.store id with
  | error error => rfl
  | ok stored => exact count_remove stored id d.store

theorem count_importOne [PatternEngine] (e : E) (d : Desk) :
    (importOne a type e d).2.store.syncs = d.store.syncs := by
  rw [importOne]
  split
  · rfl
  · exact count_updateWork a type e d
  · exact count_createWork a type e d

theorem count_importWork [PatternEngine] (records : List E) (d : Desk) :
    (importWork a type records d).2.store.syncs = d.store.syncs := by
  induction records generalizing d with
  | nil => rfl
  | cons e rest ih =>
      rw [desk_importWork_cons]
      exact (ih _).trans (count_importOne a type e d)

theorem Request.count_work [PatternEngine] (r : Request E) (d : Desk) :
    (r.work a d).2.store.syncs = d.store.syncs := by
  cases r with
  | create e type owner => exact count_createWork a type e d
  | update e type owner => exact count_updateWork a type e d
  | delete id owner => exact count_deleteWork id d
  | changePriority id new owner => exact count_moveWork id new d
  | importAll records type owner => exact count_importWork a type records d

end Syncs

theorem count_addList (l : NamedList) (s : Store) : (addList l s).2.syncs = s.syncs := by
  rcases addList_cases l s with ⟨error, hrun⟩ | ⟨s', -, hwrite, hrun⟩
  · rw [hrun]
  · rw [hrun]
    exact syncs_of_write hwrite

theorem count_dropList (id : String) (type : Option ListType) (s : Store) :
    (dropList id type s).2.syncs = s.syncs := by
  rcases dropList_cases id type s with ⟨error, hrun⟩ | ⟨l, s', -, hdelete, hrun⟩
  · rw [hrun]
  · rw [hrun]
    exact syncs_of_delete hdelete

/-- **No work brings the store up to date**: this is done once, before it. -/
theorem Call.count_work [PatternEngine] (a : Admin) (c : Call) (d : Desk) :
    (c.work a d).2.store.syncs = d.store.syncs := by
  cases c with
  | rules k r => exact r.count_work a d
  | createList l owner => exact count_addList l d.store
  | deleteList id type owner => exact count_dropList id type d.store

/-! ## The discipline -/

/-- **A call leaves every lock as free as it was.** -/
theorem Call.owner_lock_run [PatternEngine] (a : Admin) (c : Call) (w : World) (t : String) :
    ((c.run a w).2.lock a.config t).owner = (w.lock a.config t).owner := by
  rw [c.run_eq]
  cases c.fault? with
  | some fault => rfl
  | none => exact owner_lock_underLock_all a.config c.table c.owner (c.work a) w t

/-- **Locks and calls**: whatever a call does and however it ends, every lock has the same owner
after it as before.  If an argument is invalid nothing is done at all, and neither if the lock is
held, by whomever, which the call then reports.  With a free lock a call brings the store up to date
exactly once and does its work while the caller holds the lock; where the store cannot be brought up
to date, it ends there. -/
theorem lock_of_call [PatternEngine] (a : Admin) (c : Call) (w : World) :
    (∀ table, ((c.run a w).2.lock a.config table).owner = (w.lock a.config table).owner) ∧
    (∀ fault, c.fault? = some fault → c.run a w = (.error (.validation fault), w)) ∧
    (c.fault? = none →
      (∀ holder, (w.lock a.config c.table).owner = some holder →
        c.run a w = (.error (.store (.lockHeld c.table)), w)) ∧
      ((w.lock a.config c.table).owner = none →
        (w.desk.store.faults.syncs = false →
          (c.run a w).2.desk.store.syncs = w.desk.store.syncs + 1 ∧
            ∃ held, Entered a.config c.table c.owner w held ∧ c.run a w =
              ((c.work a held.desk).1,
                { held with desk := (c.work a held.desk).2 }.unlock a.config c.table c.owner)) ∧
        (w.desk.store.faults.syncs = true →
          (c.run a w).1 = .error (.store (.backend .syncFailed)) ∧
            (c.run a w).2.desk = w.desk))) := by
  refine ⟨c.owner_lock_run a w, fun fault hfault => by rw [c.run_eq, hfault], fun hfault => ?_⟩
  have hrun : c.run a w = underLock a.config c.table c.owner (c.work a) w := by
    rw [c.run_eq, hfault]
  rw [hrun]
  have hcount : (w.lock a.config c.table).owner = none → w.desk.store.faults.syncs = false →
      (underLock a.config c.table c.owner (c.work a) w).2.desk.store.syncs =
        w.desk.store.syncs + 1 := by
    intro hfree hsyncs
    obtain ⟨w', hlocked, hdesk⟩ := underLock_of_free c.owner (c.work a) hfree hsyncs
    rw [hlocked, hdesk]
    exact c.count_work a w.desk.synced
  exact ⟨fun holder => underLock_of_held c.owner (c.work a), fun hfree =>
    ⟨fun hsyncs => ⟨hcount hfree hsyncs, exists_entered c.owner (c.work a) hfree hsyncs⟩,
      underLock_of_syncFailed c.owner (c.work a) hfree⟩⟩

/-- The world where someone has locked the firmware rules. -/
def lockedWorld : World :=
  { holds := (∅ : SortedMap Hold).insert firmwareRules.name { owner := "admin" } }

/-- The owner of a lock cannot make a call either; when it is given back, the same call brings the
store up to date and leaves the lock free, though it does not find its record. -/
theorem locked_out_by_oneself :
    (Call.rules .firmwareRule (.delete "a" "admin")).run { newId := toString } lockedWorld =
        (.error (.store (.lockHeld "FirmwareRule4")), lockedWorld) ∧
      (((Call.rules .firmwareRule (.delete "a" "admin")).run { newId := toString } {}).2.lock
        {} "FirmwareRule4").owner = none ∧
      ((Call.rules .firmwareRule (.delete "a" "admin")).run
        { newId := toString } {}).2.desk.store.syncs = 1 := by
  have hlocked := lock_of_call { newId := toString } (.rules .firmwareRule (.delete "a" "admin"))
    lockedWorld
  have hfree := lock_of_call { newId := toString } (.rules .firmwareRule (.delete "a" "admin")) {}
  exact ⟨(hlocked.2.2 rfl).1 "admin" (by decide +kernel), hfree.1 "FirmwareRule4",
    (((hfree.2.2 rfl).2 rfl).1 rfl).1⟩

end Rulebook.Admin
