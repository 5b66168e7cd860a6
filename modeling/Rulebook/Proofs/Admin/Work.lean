import Rulebook.Admin.Rules
import Rulebook.Proofs.Admin.Plans

/-!
# Rulebook.Proofs.Admin.Work

What each operation does, in terms of its plan and of what is stored.

Under the lock an operation works on the desk; what the lock is asked for and whether it is granted
does not matter for the tables (`underLock_cases`).  A work that succeeds has stored all that it
planned, and where writes do not fail, a work that fails has stored nothing:

* `underLock_eq_ok` — an operation that succeeds is its work on the synced desk;
* `createWork_eq_ok`, `updateWork_eq_ok`, `moveWork_eq_ok`, `deleteWork_eq_ok` — works that succeed;
* `store_of_createWork_error` and its like — works that fail;
* `store_createWork_cases` and its like — the store afterwards, either way.
-/

namespace Rulebook.Admin

open Prioritized RuleKind

variable {E : Type} [RuleKind E]

/-! ## Under the lock -/

/-- The desk once its store is brought up to date. -/
def Desk.synced (d : Desk) : Desk :=
  { d with store := { d.store with syncs := d.store.syncs + 1 } }

/-- What is answered does not depend on the rest of the desk, and only the store is changed. -/
theorem Desk.after_eq {α : Type} (d : Desk) (r : Except AdminError α × Store) :
    d.after r = (r.1, { d with store := r.2 }) :=
  rfl

@[simp] theorem World.desk_withLock (w : World) (l : Lock) : (w.withLock l).desk = w.desk := by
  unfold World.withLock
  split <;> rfl

@[simp] theorem World.desk_unlock (w : World) (c : Config) (t owner : String) :
    (w.unlock c t owner).desk = w.desk :=
  World.desk_withLock w _

/-- A lock that can be taken, on a store that can be brought up to date: the work is done on the
synced desk and decides the outcome. -/
theorem underLock_of_free {α : Type} {c : Config} {t : String} (owner : String)
    (work : Desk → Except AdminError α × Desk) {w : World} (hfree : (w.lock c t).owner = none)
    (hsyncs : w.desk.store.faults.syncs = false) :
    ∃ w', underLock c t owner work w = ((work w.desk.synced).1, w') ∧
      w'.desk = (work w.desk.synced).2 := by
  rw [underLock, Lock.acquire, hfree]
  dsimp only
  rw [World.desk_withLock, Store.sync, hsyncs]
  exact ⟨_, rfl, by simp [Desk.synced]⟩

/-- Under such a lock an operation succeeds if its work does. -/
theorem exists_underLock_iff {α : Type} {c : Config} {t : String} (owner : String)
    (work : Desk → Except AdminError α × Desk) {w : World} (hfree : (w.lock c t).owner = none)
    (hsyncs : w.desk.store.faults.syncs = false) :
    (∃ a, (underLock c t owner work w).1 = .ok a) ↔ ∃ a, (work w.desk.synced).1 = .ok a := by
  obtain ⟨w', hrun, -⟩ := underLock_of_free owner work hfree hsyncs
  rw [hrun]

/-- Otherwise nothing is done. -/
theorem underLock_of_not_free {α : Type} {c : Config} {t : String} (owner : String)
    (work : Desk → Except AdminError α × Desk) {w : World}
    (h : ¬((w.lock c t).owner = none ∧ w.desk.store.faults.syncs = false)) :
    ∃ error w', underLock c t owner work w = (.error error, w') ∧ w'.desk = w.desk := by
  rw [underLock, Lock.acquire]
  cases hfree : (w.lock c t).owner with
  | some holder => exact ⟨_, _, rfl, rfl⟩
  | none =>
      have hsyncs : w.desk.store.faults.syncs = true := by
        simpa [hfree] using h
      dsimp only
      rw [World.desk_withLock, Store.sync, hsyncs]
      exact ⟨_, _, rfl, by simp⟩

/-- Either nothing is done, or the work is. -/
theorem underLock_cases {α : Type} (c : Config) (t owner : String)
    (work : Desk → Except AdminError α × Desk) (w : World) :
    (∃ error w', underLock c t owner work w = (.error error, w') ∧ w'.desk = w.desk) ∨
      ∃ w', underLock c t owner work w = ((work w.desk.synced).1, w') ∧
        w'.desk = (work w.desk.synced).2 := by
  by_cases h : (w.lock c t).owner = none ∧ w.desk.store.faults.syncs = false
  · exact .inr (underLock_of_free owner work h.1 h.2)
  · exact .inl (underLock_of_not_free owner work h)

/-- What holds of the desk, and of the desk that the work leaves, holds afterwards. -/
theorem desk_underLock {α : Type} {P : Desk → Prop} (c : Config) (t owner : String)
    {work : Desk → Except AdminError α × Desk} {w : World} (h : P w.desk)
    (hwork : P (work w.desk.synced).2) : P (underLock c t owner work w).2.desk := by
  rcases underLock_cases c t owner work w with ⟨error, w', hrun, hdesk⟩ | ⟨w', hrun, hdesk⟩
  · rw [hrun, hdesk]
    exact h
  · rw [hrun, hdesk]
    exact hwork

theorem underLock_eq_ok {α : Type} {c : Config} {t owner : String}
    {work : Desk → Except AdminError α × Desk} {w w' : World} {a : α}
    (h : underLock c t owner work w = (.ok a, w')) : work w.desk.synced = (.ok a, w'.desk) := by
  rcases underLock_cases c t owner work w with ⟨error, w₁, hrun, -⟩ | ⟨w₁, hrun, hdesk⟩
  · rw [h] at hrun
    cases hrun
  · rw [h] at hrun
    obtain ⟨hout, rfl⟩ := Prod.mk.inj hrun
    exact Prod.ext hout.symm hdesk.symm

/-- The lock and the store fail for reasons of their own. -/
theorem failsOnly_underLock {α : Type} {P : AdminError → Prop} (c : Config) (t owner : String)
    {work : Desk → Except AdminError α × Desk} {w : World} (hlocked : P (.store (.lockHeld t)))
    (hsync : P (.store (.backend .syncFailed))) (h : FailsOnly P (work w.desk.synced).1) :
    FailsOnly P (underLock c t owner work w).1 := by
  rw [underLock, Lock.acquire]
  cases (w.lock c t).owner with
  | some holder => exact failsOnly_error hlocked
  | none =>
      dsimp only
      rw [World.desk_withLock, Store.sync]
      cases w.desk.store.faults.syncs with
      | true => exact failsOnly_error hsync
      | false => exact h

/-! ## Carrying out a plan -/

theorem carryOut_eq_ok_iff {plan : Plan E} {s s' : Store} {e : E} :
    plan.carryOut s = (.ok e, s') ↔ e = plan.result ∧ save plan.writes s = (.ok (), s') := by
  rw [Plan.carryOut]
  split
  · next s₁ hsave => simp [hsave, eq_comm]
  · next error s₁ hsave => simp [hsave]

/-- Where writes do not fail, no plan fails in being carried out. -/
theorem fst_carryOut {s : Store} (hwrites : s.faults.writesLeft = none) (plan : Plan E) :
    (plan.carryOut s).1 = .ok plan.result := by
  obtain ⟨s', hsave⟩ := exists_save_eq_ok hwrites plan.writes
  rw [carryOut_eq_ok_iff.2 ⟨rfl, hsave⟩]

/-- Carrying a plan out leaves what saving its records does, also if that fails. -/
theorem snd_carryOut (plan : Plan E) (s : Store) :
    (plan.carryOut s).2 = (save plan.writes s).2 := by
  rw [Plan.carryOut]
  cases hsave : save plan.writes s with
  | mk outcome s' => cases outcome <;> rfl

/-! ## The works -/

variable {a : Admin} {type : String} {d d' : Desk}

/-- Taking a new identifier does not touch the store. -/
theorem store_issued (d : Desk) (e : E) :
    (if Text.isBlank (key e) then { d with issued := d.issued + 1 } else d).store = d.store := by
  split <;> rfl

theorem createWork_eq_ok [PatternEngine] {e r : E} (h : createWork a type e d = (.ok r, d')) :
    ∃ plan, planCreate a.config d.store (a.newId d.issued) type e = .ok plan ∧ r = plan.result ∧
      save plan.writes d.store = (.ok (), d'.store) := by
  unfold createWork at h
  cases hplan : planCreate a.config d.store (a.newId d.issued) type e with
  | error error => simp [hplan] at h
  | ok plan =>
      simp only [hplan, store_issued, Desk.after, Prod.mk.injEq] at h
      obtain ⟨hresult, rfl⟩ := h
      obtain ⟨hr, hsave⟩ := carryOut_eq_ok_iff.1 (Prod.ext hresult rfl)
      exact ⟨plan, rfl, hr, hsave⟩

theorem store_of_createWork_error [PatternEngine] {e : E} {error : AdminError}
    (hwrites : d.store.faults.writesLeft = none)
    (h : createWork a type e d = (.error error, d')) : d'.store = d.store := by
  unfold createWork at h
  cases hplan : planCreate a.config d.store (a.newId d.issued) type e with
  | error error' =>
      simp only [hplan, Prod.mk.injEq] at h
      rw [← h.2, store_issued]
  | ok plan =>
      simp only [hplan, store_issued, Desk.after, Prod.mk.injEq] at h
      rw [fst_carryOut hwrites] at h
      cases h.1

theorem updateWork_eq_ok [PatternEngine] {e r : E} (h : updateWork a type e d = (.ok r, d')) :
    ∃ plan, planUpdate a.config d.store type e = .ok plan ∧ r = plan.result ∧
      save plan.writes d.store = (.ok (), d'.store) := by
  unfold updateWork at h
  cases hplan : planUpdate a.config d.store type e with
  | error error => simp [hplan] at h
  | ok plan =>
      simp only [hplan, Desk.after, Prod.mk.injEq] at h
      obtain ⟨hresult, rfl⟩ := h
      obtain ⟨hr, hsave⟩ := carryOut_eq_ok_iff.1 (Prod.ext hresult rfl)
      exact ⟨plan, rfl, hr, hsave⟩

theorem store_of_updateWork_error [PatternEngine] {e : E} {error : AdminError}
    (hwrites : d.store.faults.writesLeft = none)
    (h : updateWork a type e d = (.error error, d')) : d'.store = d.store := by
  unfold updateWork at h
  cases hplan : planUpdate a.config d.store type e with
  | error error' =>
      simp only [hplan, Prod.mk.injEq] at h
      rw [← h.2]
  | ok plan =>
      simp only [hplan, Desk.after, Prod.mk.injEq] at h
      rw [fst_carryOut hwrites] at h
      cases h.1

theorem moveWork_eq_ok {id : String} {new : Int} {altered : List E}
    (h : moveWork E id new d = (.ok altered, d')) :
    planMove d.store id new = .ok altered ∧ save altered d.store = (.ok (), d'.store) := by
  unfold moveWork at h
  cases hplan : planMove (E := E) d.store id new with
  | error error => simp [hplan] at h
  | ok planned =>
      simp only [hplan, Desk.after] at h
      split at h
      · next s hsave =>
          cases h
          exact ⟨rfl, hsave⟩
      · cases h

theorem store_of_moveWork_error {id : String} {new : Int} {error : AdminError}
    (hwrites : d.store.faults.writesLeft = none)
    (h : moveWork E id new d = (.error error, d')) : d'.store = d.store := by
  unfold moveWork at h
  cases hplan : planMove (E := E) d.store id new with
  | error error' =>
      simp only [hplan, Prod.mk.injEq] at h
      rw [← h.2]
  | ok planned =>
      obtain ⟨s', hsave⟩ := exists_save_eq_ok hwrites planned
      simp [hplan, Desk.after, hsave] at h

/-! ## What a work answers

Where writes do not fail, a work answers what was planned. -/

theorem fst_createWork [PatternEngine] (hwrites : d.store.faults.writesLeft = none) (e : E) :
    (createWork a type e d).1 =
      (planCreate a.config d.store (a.newId d.issued) type e).map Plan.result := by
  rw [createWork]
  cases planCreate a.config d.store (a.newId d.issued) type e with
  | error error => rfl
  | ok plan =>
      dsimp only
      rw [store_issued, Desk.after, fst_carryOut hwrites]
      rfl

theorem fst_updateWork [PatternEngine] (hwrites : d.store.faults.writesLeft = none) (e : E) :
    (updateWork a type e d).1 = (planUpdate a.config d.store type e).map Plan.result := by
  rw [updateWork]
  cases planUpdate a.config d.store type e with
  | error error => rfl
  | ok plan =>
      dsimp only
      rw [Desk.after, fst_carryOut hwrites]
      rfl

theorem fst_moveWork (hwrites : d.store.faults.writesLeft = none) (id : String) (new : Int) :
    (moveWork E id new d).1 = planMove d.store id new := by
  rw [moveWork]
  cases planMove (E := E) d.store id new with
  | error error => rfl
  | ok altered =>
      obtain ⟨s', hsave⟩ := exists_save_eq_ok hwrites altered
      dsimp only
      rw [hsave]
      rfl

/-! ## What a work leaves

Where writes do not fail, a work leaves the store as it was, or saves all that it planned. -/

theorem store_createWork_cases [PatternEngine] (hwrites : d.store.faults.writesLeft = none)
    (e : E) :
    (createWork a type e d).2.store = d.store ∨
      ∃ plan, planCreate a.config d.store (a.newId d.issued) type e = .ok plan ∧
        save plan.writes d.store = (.ok (), (createWork a type e d).2.store) := by
  rcases hrun : createWork a type e d with ⟨outcome, d'⟩
  cases outcome with
  | error error => exact .inl (store_of_createWork_error hwrites hrun)
  | ok r =>
      obtain ⟨plan, hplan, -, hsave⟩ := createWork_eq_ok hrun
      exact .inr ⟨plan, hplan, hsave⟩

theorem store_updateWork_cases [PatternEngine] (hwrites : d.store.faults.writesLeft = none)
    (e : E) :
    (updateWork a type e d).2.store = d.store ∨
      ∃ plan, planUpdate a.config d.store type e = .ok plan ∧
        save plan.writes d.store = (.ok (), (updateWork a type e d).2.store) := by
  rcases hrun : updateWork a type e d with ⟨outcome, d'⟩
  cases outcome with
  | error error => exact .inl (store_of_updateWork_error hwrites hrun)
  | ok r =>
      obtain ⟨plan, hplan, -, hsave⟩ := updateWork_eq_ok hrun
      exact .inr ⟨plan, hplan, hsave⟩

theorem store_moveWork_cases (hwrites : d.store.faults.writesLeft = none) (id : String)
    (new : Int) :
    (moveWork E id new d).2.store = d.store ∨
      ∃ altered : List E, planMove d.store id new = .ok altered ∧
        save altered d.store = (.ok (), (moveWork E id new d).2.store) := by
  rcases hrun : moveWork E id new d with ⟨outcome, d'⟩
  cases outcome with
  | error error => exact .inl (store_of_moveWork_error hwrites hrun)
  | ok altered => exact .inr ⟨altered, moveWork_eq_ok hrun⟩

/-- A move that is planned leaves what saving its records does, also if that fails. -/
theorem store_moveWork_of_plan {id : String} {new : Int} {altered : List E}
    (hplan : planMove d.store id new = .ok altered) :
    (moveWork E id new d).2.store = (save altered d.store).2 := by
  rw [moveWork, hplan]
  dsimp only [Desk.after]
  cases hsave : save altered d.store with
  | mk outcome s' => cases outcome <;> rfl

/-- An import goes through its records in their order, whatever becomes of each. -/
theorem desk_importWork_cons [PatternEngine] (a : Admin) (type : String) (e : E) (rest : List E)
    (d : Desk) :
    (importWork a type (e :: rest) d).2 =
      (importWork a type rest (importOne a type e d).2).2 := by
  rw [importWork]
  obtain ⟨outcome, d'⟩ := importOne a type e d
  cases outcome <;> rfl

/-! ## Deletion -/

theorem findDeletable_eq_ok_iff {s : Store} {id : String} {e : E} :
    findDeletable s id = .ok e ↔ find s id = .ok e ∧ checkDeletable s e = .ok () := by
  simp only [findDeletable, bind_eq_ok_iff, pure_eq_ok_iff]
  constructor
  · rintro ⟨stored, hfind, _, hcheck, rfl⟩
    exact ⟨hfind, hcheck⟩
  · rintro ⟨hfind, hcheck⟩
    exact ⟨e, hfind, (), hcheck, rfl⟩

theorem deleteWork_eq_ok {id : String} {e : E} (h : deleteWork E id d = (.ok e, d')) :
    findDeletable d.store id = .ok e ∧ ∃ s es, (table (E := E)).delete d.store id = .ok s ∧
      scopeOf s e = .ok es ∧ save (Priority.pack es id) s = (.ok (), d'.store) := by
  unfold deleteWork at h
  cases hfind : findDeletable (E := E) d.store id with
  | error error => simp [hfind] at h
  | ok stored =>
      simp only [hfind, Desk.after, Prod.mk.injEq, remove] at h
      obtain ⟨hout, rfl⟩ := h
      cases hdelete : (table (E := E)).delete d.store id with
      | error error => simp [hdelete] at hout
      | ok s =>
          simp only [hdelete, closeGap] at hout ⊢
          cases hscope : scopeOf s stored with
          | error error => simp [hscope] at hout
          | ok es =>
              simp only [hscope] at hout ⊢
              split at hout
              · next s' hsave =>
                  cases hout
                  exact ⟨rfl, s, es, rfl, hscope, hsave⟩
              · cases hout

end Rulebook.Admin
