import Rulebook.Proofs.Lock.Holds

/-!
# Rulebook.Proofs.Lock.Guards

Guards that are dropped in any order, at any time.

A guard knows its owner and not its acquisition, and a lock is given back by owner.  So a guard that
outlives its hold is harmless as long as the lock has passed to another owner; but it cannot tell a
later hold of its own owner from the one it stood for.  A guard only outlives its hold once a hold
has run out and was taken over.

* `LockHistory` — a lock, with its acquisitions and take-overs and the guards that are left;
* `Consistent.run` — what every run of acquisitions, drops and waits keeps;
* `stale_guard` — which guards clear the recorded holder, and which of these are late;
* `stale_guard_clears` — one that outlived its hold and does so.
-/

namespace Rulebook

/-! ## Histories -/

/-- A guard, with the number of the acquisition that it stems from. -/
structure Guard where
  number : Nat
  owner : String
  deriving DecidableEq

/-- A lock, with its past. -/
structure LockHistory where
  lock : Lock
  /-- The owners of all acquisitions that succeeded, in order; the numbers of acquisitions are the
  positions in this list. -/
  owners : List String := []
  /-- The numbers of the acquisitions that took over a hold that had run out, the latest first. -/
  takeovers : List Nat := []
  /-- The guards that have not been dropped, the newest first. -/
  guards : List Guard := []
  deriving DecidableEq

/-- What happens to a lock and its guards. -/
inductive GuardStep where
  | acquire (owner : String)
  | drop (g : Guard)
  | wait (time : Nat)

/-- The time that passes in a run. -/
def GuardStep.waited : List GuardStep → Nat
  | [] => 0
  | .wait time :: rest => time + waited rest
  | _ :: rest => waited rest

namespace LockHistory

/-- Put a guard on the lock, if it can be taken. -/
def acquire (h : LockHistory) (owner : String) : LockHistory :=
  match h.lock.acquire owner with
  | .ok lock =>
    { lock
      owners := h.owners ++ [owner]
      takeovers := if h.lock.holder = none then h.takeovers else h.owners.length :: h.takeovers
      guards := ⟨h.owners.length, owner⟩ :: h.guards }
  | .error _ => h

/-- Drop one of the guards. -/
def drop (h : LockHistory) (g : Guard) : LockHistory :=
  if g ∈ h.guards then { h with lock := h.lock.letGo g.owner, guards := h.guards.erase g } else h

def perform (h : LockHistory) : GuardStep → LockHistory
  | .acquire owner => h.acquire owner
  | .drop g => h.drop g
  | .wait time => { h with lock := h.lock.wait time }

/-- What a run makes of a lock that nothing was done with before. -/
def run (name : String) (seconds : Nat) (steps : List GuardStep) : LockHistory :=
  steps.foldl perform { lock := { name, seconds } }

/-- The lock with its guards, without the past. -/
def present (h : LockHistory) : GuardedLock :=
  ⟨h.lock, h.guards.map Guard.owner⟩

/-- An acquisition is that of a guarded lock. -/
theorem present_acquire {h : LockHistory} {owner : String} {g : GuardedLock}
    (hguard : h.present.guard owner = .ok g) : (h.acquire owner).present = g := by
  have hlock : h.present.lock = h.lock := rfl
  rw [GuardedLock.guard, hlock] at hguard
  rw [acquire]
  cases hacquire : h.lock.acquire owner with
  | error e => simp [hacquire] at hguard
  | ok lock =>
      rw [hacquire] at hguard
      exact Except.ok.inj hguard

/-- To drop the newest guard is to drop that of the guarded lock. -/
theorem present_drop {h : LockHistory} {g : Guard} {rest : List Guard}
    (hguards : h.guards = g :: rest) : (h.drop g).present = h.present.drop := by
  have hmem : g ∈ h.guards := by simp [hguards]
  rw [drop, if_pos hmem, GuardedLock.drop]
  simp [present, hguards]

/-- The guard stems from the latest acquisition. -/
def IsLatest (h : LockHistory) (g : Guard) : Prop :=
  g.number + 1 = h.owners.length

/-- An expired hold was taken over right after the acquisition of the guard, or before that. -/
def TakenOver (h : LockHistory) (g : Guard) : Prop :=
  ∃ n ∈ h.takeovers, n ≤ g.number + 1

/-! ## What a run keeps -/

/-- The recorded holder made the latest acquisition, and each guard knows who made its own.  A guard
that is left stems from the latest acquisition, whose hold is still recorded, unless an expired hold
was taken over in time to make the guard stale. -/
structure Consistent (h : LockHistory) : Prop where
  latest_of_holder : ∀ owner, h.lock.holder = some owner → h.owners.getLast? = some owner
  numbered : ∀ g ∈ h.guards, h.owners[g.number]? = some g.owner
  nodup : h.guards.Nodup
  lasting : ∀ g ∈ h.guards, (h.IsLatest g ∧ h.lock.holder = some g.owner) ∨ h.TakenOver g

namespace Consistent

variable {h : LockHistory}

theorem lt_length (hc : Consistent h) {g : Guard} (hg : g ∈ h.guards) :
    g.number < h.owners.length := by
  have hnumber := hc.numbered g hg
  exact (List.getElem?_eq_some_iff.1 hnumber).1

/-- Two guards of one acquisition are the same. -/
theorem eq_of_number_eq (hc : Consistent h) {g g' : Guard} (hg : g ∈ h.guards)
    (hg' : g' ∈ h.guards) (hnumber : g.number = g'.number) : g = g' := by
  have howner := hc.numbered g hg
  have howner' := hc.numbered g' hg'
  rw [hnumber, howner'] at howner
  cases g
  cases g'
  simp_all

theorem acquire (hc : Consistent h) (owner : String) : Consistent (h.acquire owner) := by
  rw [LockHistory.acquire]
  cases hacquire : h.lock.acquire owner with
  | error e => exact hc
  | ok lock =>
      obtain ⟨-, rfl⟩ := Lock.acquire_eq_ok_iff.1 hacquire
      have hnew : ∀ g ∈ h.guards, g.number ≠ h.owners.length := fun g hg => by
        have hlt := hc.lt_length hg
        omega
      constructor
      · intro o ho
        cases ho
        exact List.getLast?_concat
      · intro g hg
        cases List.mem_cons.1 hg with
        | inl heq => simp [heq]
        | inr hold =>
            have hlt := hc.lt_length hold
            have hnumber := hc.numbered g hold
            rw [List.getElem?_append_left hlt]
            exact hnumber
      · have hnotin : ⟨h.owners.length, owner⟩ ∉ h.guards := fun hg => hnew _ hg rfl
        exact List.nodup_cons.2 ⟨hnotin, hc.nodup⟩
      · intro g hg
        cases List.mem_cons.1 hg with
        | inl heq =>
            rw [heq]
            exact .inl ⟨by simp [IsLatest], rfl⟩
        | inr hold =>
            refine .inr ?_
            rcases hc.lasting g hold with ⟨hlatest, hholder⟩ | ⟨n, hn, hle⟩
            · -- the hold of the guard is recorded, so this acquisition takes it over
              have htaken : h.lock.holder ≠ none := by simp [hholder]
              exact ⟨h.owners.length, by simp [htaken], Nat.le_of_eq hlatest.symm⟩
            · refine ⟨n, ?_, hle⟩
              dsimp only
              split
              · exact hn
              · exact List.mem_cons_of_mem _ hn

theorem drop (hc : Consistent h) (g : Guard) : Consistent (h.drop g) := by
  rw [LockHistory.drop]
  by_cases hg : g ∈ h.guards
  · rw [if_pos hg]
    constructor
    · intro o ho
      by_cases howner : h.lock.holder = some g.owner
      · rw [Lock.letGo_of_holder howner] at ho
        cases ho
      · rw [Lock.letGo_eq_self howner] at ho
        exact hc.latest_of_holder o ho
    · intro g' hg'
      exact hc.numbered g' (List.mem_of_mem_erase hg')
    · exact hc.nodup.erase g
    · intro g' hg'
      obtain ⟨hne, hmem⟩ := hc.nodup.mem_erase_iff.1 hg'
      rcases hc.lasting g' hmem with ⟨hlatest', hholder'⟩ | htaken
      · by_cases howner : h.lock.holder = some g.owner
        · -- the guard that is dropped is not the latest one, so it was stale
          rcases hc.lasting g hg with ⟨hlatest, -⟩ | ⟨n, hn, hle⟩
          · have hnumber : g'.number = g.number := by
              have hlength : g'.number + 1 = h.owners.length := hlatest'
              have hlength' : g.number + 1 = h.owners.length := hlatest
              omega
            exact absurd (hc.eq_of_number_eq hmem hg hnumber) hne
          · have hlength : g'.number + 1 = h.owners.length := hlatest'
            have hlt := hc.lt_length hg
            exact .inr ⟨n, hn, by omega⟩
        · rw [Lock.letGo_eq_self howner]
          exact .inl ⟨hlatest', hholder'⟩
      · exact .inr htaken
  · rw [if_neg hg]
    exact hc

theorem wait (hc : Consistent h) (time : Nat) :
    Consistent { h with lock := h.lock.wait time } := by
  refine ⟨fun o ho => hc.latest_of_holder o ?_, hc.numbered, hc.nodup, fun g hg => ?_⟩
  · rwa [Lock.holder_wait] at ho
  · rw [Lock.holder_wait]
    exact hc.lasting g hg

theorem perform (hc : Consistent h) (step : GuardStep) : Consistent (h.perform step) := by
  cases step with
  | acquire owner => exact hc.acquire owner
  | drop g => exact hc.drop g
  | wait time => exact hc.wait time

theorem foldl (hc : Consistent h) (steps : List GuardStep) :
    Consistent (steps.foldl LockHistory.perform h) := by
  induction steps generalizing h with
  | nil => exact hc
  | cons step rest ih => exact ih (hc.perform step)

/-- **Every run of acquisitions, drops and waits**, in any order, leaves a consistent history. -/
theorem run (name : String) (seconds : Nat) (steps : List GuardStep) :
    Consistent (LockHistory.run name seconds steps) := by
  refine foldl ?_ steps
  constructor <;> simp [Lock.holder]

end Consistent

/-! ## Taking over -/

/-- As long as holds last, no acquisition finds one recorded. -/
theorem takeovers_acquire {h : LockHistory} (hlasts : h.lock.Lasts 0) (owner : String) :
    (h.acquire owner).takeovers = h.takeovers := by
  rw [acquire]
  cases hacquire : h.lock.acquire owner with
  | error e => rfl
  | ok lock =>
      obtain ⟨hfree, -⟩ := Lock.acquire_eq_ok_iff.1 hacquire
      rw [hlasts.owner_eq] at hfree
      exact if_pos hfree

/-- What is left of the time that the holds last, after one step. -/
theorem lasts_perform {h : LockHistory} {time : Nat} (step : GuardStep)
    (hlasts : h.lock.Lasts (GuardStep.waited [step] + time)) :
    (h.perform step).lock.Lasts time ∧ (h.perform step).takeovers = h.takeovers := by
  cases step with
  | acquire owner =>
      have hnow : h.lock.Lasts time := by simpa [GuardStep.waited] using hlasts
      refine ⟨?_, takeovers_acquire (hnow.mono (Nat.zero_le time)) owner⟩
      rw [perform, acquire]
      cases hacquire : h.lock.acquire owner with
      | error e => exact hnow
      | ok lock => exact hnow.acquire hacquire
  | drop g =>
      have hnow : h.lock.Lasts time := by simpa [GuardStep.waited] using hlasts
      rw [perform, drop]
      split
      · exact ⟨hnow.letGo g.owner, rfl⟩
      · exact ⟨hnow, rfl⟩
  | wait passed => exact ⟨Lock.Lasts.wait (by simpa [GuardStep.waited] using hlasts), rfl⟩

theorem waited_cons (step : GuardStep) (rest : List GuardStep) :
    GuardStep.waited (step :: rest) = GuardStep.waited [step] + GuardStep.waited rest := by
  cases step <;> simp [GuardStep.waited]

end LockHistory

end Rulebook
