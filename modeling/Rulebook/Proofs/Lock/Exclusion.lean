import Rulebook.Proofs.Lock.Holds

/-!
# Rulebook.Proofs.Lock.Exclusion

Mutual exclusion.

A lock is asked for and given back by its owners themselves or through guards, in any order, and
guards may outlive the holds they stood for.  As long as less time passes than a hold lasts, none of
this brings two owners into the lock at once:

* `turn_perform` — what one step can do to a lock, and what is logged of it;
* `holder_iff_since` — the recorded holder as a statement about the log, after every run;
* `mutual_exclusion` — who gets the lock, who is recorded as its holder, and how long it is kept.
-/

namespace Rulebook

/-! ## Steps and their log -/

/-- What happens to a lock.  Two guards of one owner are as good as each other, so a guard that is
dropped is known by its owner. -/
inductive LockStep where
  | lock (owner : String)
  | unlock (owner : String)
  | guard (owner : String)
  | drop (owner : String)
  | wait (time : Nat)
  deriving DecidableEq

namespace LockStep

/-- The owner for whom the step asks for the lock. -/
def asker? : LockStep → Option String
  | .lock owner => some owner
  | .guard owner => some owner
  | _ => none

/-- The owner for whom the step gives the lock back. -/
def returner? : LockStep → Option String
  | .unlock owner => some owner
  | .drop owner => some owner
  | _ => none

/-- The time that passes in a run. -/
def waited : List LockStep → Nat
  | [] => 0
  | .wait time :: rest => time + waited rest
  | _ :: rest => waited rest

theorem waited_cons (s : LockStep) (rest : List LockStep) :
    waited (s :: rest) = waited [s] + waited rest := by
  cases s <;> simp [waited]

theorem returner?_of_asker? {s : LockStep} {owner : String} (h : s.asker? = some owner) :
    s.returner? = none := by
  cases s <;> first | rfl | cases h

end LockStep

/-- A step that was made, with the reason why it failed if it did. -/
structure LockEvent where
  step : LockStep
  failure : Option StoreError := none
  deriving DecidableEq

namespace LockEvent

/-- The lock was acquired by an owner. -/
def Acquired (e : LockEvent) (owner : String) : Prop :=
  e.step.asker? = some owner ∧ e.failure = none

/-- The lock was given back by an owner, or was to be. -/
def Returned (e : LockEvent) (owner : String) : Prop :=
  e.step.returner? = some owner

instance (e : LockEvent) (owner : String) : Decidable (e.Acquired owner) :=
  inferInstanceAs (Decidable (_ ∧ _))

instance (e : LockEvent) (owner : String) : Decidable (e.Returned owner) :=
  inferInstanceAs (Decidable (_ = _))

theorem not_acquired_of_returner? {e : LockEvent} {owner : String}
    (h : e.step.returner? = some owner) (owner' : String) : ¬e.Acquired owner' := by
  intro hacquired
  rw [LockStep.returner?_of_asker? hacquired.1] at h
  cases h

end LockEvent

/-- A lock with the guards on it, and all that was done with it so far. -/
structure LockLog extends GuardedLock where
  events : List LockEvent := []
  deriving DecidableEq

namespace LockLog

/-- The log after a step that tries to change the lock, and leaves these guards. -/
def attempt (h : LockLog) (s : LockStep) (guards : List String) :
    Except StoreError Lock → LockLog
  | .ok lock => ⟨⟨lock, guards⟩, h.events ++ [⟨s, none⟩]⟩
  | .error e => ⟨⟨h.lock, guards⟩, h.events ++ [⟨s, some e⟩]⟩

/-- A step.  All steps but waiting are logged.  Where there is no guard of an owner, none can be
dropped, and nothing happens. -/
def perform (h : LockLog) : LockStep → LockLog
  | .lock owner => h.attempt (.lock owner) h.guards (h.lock.acquire owner)
  | .unlock owner => h.attempt (.unlock owner) h.guards (h.lock.release owner)
  | .guard owner =>
    match h.toGuardedLock.guard owner with
    | .ok g => ⟨g, h.events ++ [⟨.guard owner, none⟩]⟩
    | .error e => ⟨h.toGuardedLock, h.events ++ [⟨.guard owner, some e⟩]⟩
  | .drop owner =>
    if owner ∈ h.guards then
      h.attempt (.drop owner) (h.guards.erase owner) (h.lock.release owner)
    else h
  | .wait time => { h with lock := h.lock.wait time }

/-- The log of a run, on a lock that nothing was done with before. -/
def run (name : String) (seconds : Nat) (steps : List LockStep) : LockLog :=
  steps.foldl perform { lock := { name, seconds } }

/-- The step can be made: a guard that is to be dropped is there. -/
def Offers (h : LockLog) : LockStep → Prop
  | .drop owner => owner ∈ h.guards
  | _ => True

/-- The step succeeds. -/
def Grants (h : LockLog) (s : LockStep) : Prop :=
  (h.perform s).events = h.events ++ [⟨s, none⟩]

/-- The step fails, and leaves the lock as it was. -/
structure Refuses (h : LockLog) (s : LockStep) (e : StoreError) : Prop where
  events : (h.perform s).events = h.events ++ [⟨s, some e⟩]
  lock : (h.perform s).lock = h.lock

/-- To drop the newest guard is to drop that of the guarded lock. -/
theorem toGuardedLock_drop {h : LockLog} {owner : String} {rest : List String}
    (hguards : h.guards = owner :: rest) :
    (h.perform (.drop owner)).toGuardedLock = h.toGuardedLock.drop := by
  have hmem : owner ∈ h.guards := by simp [hguards]
  rw [perform, if_pos hmem, GuardedLock.drop, hguards, List.erase_cons_head]
  dsimp only
  rw [Lock.letGo]
  cases h.lock.release owner <;> rfl

/-! ## What one step can do -/

/-- The six things that a step can do to a lock and its log. -/
inductive Turn (h : LockLog) (s : LockStep) (h' : LockLog) : Prop where
  /-- The lock was free, and is taken. -/
  | taken {owner : String} (hs : s.asker? = some owner) (hfree : h.lock.owner = none)
      (hlock : h'.lock = { h.lock with hold := some { owner } })
      (hevents : h'.events = h.events ++ [⟨s, none⟩])
  /-- The lock is held, by whomever. -/
  | refused {owner : String} (hs : s.asker? = some owner) (hheld : h.lock.owner ≠ none)
      (hlock : h'.lock = h.lock)
      (hevents : h'.events = h.events ++ [⟨s, some (.lockHeld h.lock.name)⟩])
  /-- The lock is given back by its recorded holder. -/
  | returned {owner : String} (hs : s.returner? = some owner)
      (hholder : h.lock.holder = some owner) (hlock : h'.lock = { h.lock with hold := none })
      (hevents : h'.events = h.events ++ [⟨s, none⟩])
  /-- The lock was to be given back by someone who is not recorded as its holder. -/
  | kept {owner : String} (hs : s.returner? = some owner) (hholder : h.lock.holder ≠ some owner)
      (hlock : h'.lock = h.lock)
      (hevents : h'.events = h.events ++ [⟨s, some (.notLockOwner h.lock.name owner)⟩])
  /-- There was no guard to drop. -/
  | idle (hs : ¬h.Offers s) (hsame : h' = h)
  /-- Time has passed. -/
  | waited {time : Nat} (hs : s = .wait time) (hlock : h'.lock = h.lock.wait time)
      (hevents : h'.events = h.events)

theorem turn_attempt_acquire {h : LockLog} {s : LockStep} {owner : String}
    (hs : s.asker? = some owner) (guards : List String) :
    Turn h s (h.attempt s guards (h.lock.acquire owner)) := by
  rw [Lock.acquire]
  cases hheld : h.lock.owner with
  | none => exact .taken hs hheld rfl rfl
  | some holder => exact .refused hs (by simp [hheld]) rfl rfl

theorem turn_attempt_release {h : LockLog} {s : LockStep} {owner : String}
    (hs : s.returner? = some owner) (guards : List String) :
    Turn h s (h.attempt s guards (h.lock.release owner)) := by
  rw [Lock.release]
  by_cases hholder : h.lock.holder = some owner
  · rw [if_pos hholder]
    exact .returned hs hholder rfl rfl
  · rw [if_neg hholder]
    exact .kept hs hholder rfl rfl

/-- **One step** does one of the six things. -/
theorem turn_perform (h : LockLog) (s : LockStep) : Turn h s (h.perform s) := by
  cases s with
  | lock owner => exact turn_attempt_acquire rfl h.guards
  | unlock owner => exact turn_attempt_release rfl h.guards
  | guard owner =>
      rw [perform, GuardedLock.guard, Lock.acquire]
      cases hheld : h.lock.owner with
      | none => exact .taken rfl hheld rfl rfl
      | some holder => exact .refused rfl (by simp [hheld]) rfl rfl
  | drop owner =>
      rw [perform]
      by_cases hmem : owner ∈ h.guards
      · rw [if_pos hmem]
        exact turn_attempt_release rfl _
      · rw [if_neg hmem]
        exact .idle hmem rfl
  | wait time => exact .waited rfl rfl rfl

/-- No step gives the lock another name. -/
theorem name_perform (h : LockLog) (s : LockStep) : (h.perform s).lock.name = h.lock.name := by
  cases turn_perform h s with
  | taken _ _ hlock _ => rw [hlock]
  | refused _ _ hlock _ => rw [hlock]
  | returned _ _ hlock _ => rw [hlock]
  | kept _ _ hlock _ => rw [hlock]
  | idle _ hsame => rw [hsame]
  | waited _ hlock _ => rw [hlock]; rfl

/-- What is left of the time that the holds last, after one step. -/
theorem lasts_perform {h : LockLog} {s : LockStep} {time : Nat}
    (hlasts : h.lock.Lasts (LockStep.waited [s] + time)) : (h.perform s).lock.Lasts time := by
  have hnow : h.lock.Lasts time := hlasts.mono (Nat.le_add_left time _)
  cases turn_perform h s with
  | taken _ hfree hlock _ =>
      rw [hlock]
      exact hnow.acquire (Lock.acquire_eq_ok_iff.2 ⟨hfree, rfl⟩)
  | refused _ _ hlock _ => rwa [hlock]
  | returned _ _ hlock _ =>
      rw [hlock]
      exact hnow.of_hold_none
  | kept _ _ hlock _ => rwa [hlock]
  | idle _ hsame => rwa [hsame]
  | waited hs hlock _ =>
      rw [hlock]
      subst hs
      exact hlasts.wait

/-! ## The holder in terms of the log -/

/-- An event of one kind was logged, and all events after it are of another kind. -/
def Since (p q : LockEvent → Prop) (events : List LockEvent) : Prop :=
  ∃ before e after, events = before ++ e :: after ∧ p e ∧ ∀ f ∈ after, q f

theorem since_concat_iff {p q : LockEvent → Prop} {events : List LockEvent} {e : LockEvent} :
    Since p q (events ++ [e]) ↔ p e ∨ (Since p q events ∧ q e) := by
  constructor
  · rintro ⟨before, f, after, hevents, hf, hafter⟩
    rcases List.eq_nil_or_concat after with rfl | ⟨rest, last, rfl⟩
    · obtain ⟨-, hlast⟩ := List.append_inj' hevents rfl
      cases hlast
      exact .inl hf
    · rw [List.concat_eq_append, ← List.cons_append, ← List.append_assoc] at hevents
      obtain ⟨hinit, hlast⟩ := List.append_inj' hevents rfl
      cases hlast
      rw [List.concat_eq_append, List.forall_mem_append] at hafter
      exact .inr ⟨⟨before, f, rest, hinit, hf, hafter.1⟩, hafter.2 e List.mem_cons_self⟩
  · rintro (he | ⟨⟨before, f, after, rfl, hf, hafter⟩, he⟩)
    · exact ⟨events, e, [], rfl, he, by simp⟩
    · refine ⟨before, f, after ++ [e], by simp, hf, ?_⟩
      simpa [or_imp, forall_and] using ⟨hafter, he⟩

/-- The owner has acquired the lock, and has not been to give it back since. -/
def Unreturned (events : List LockEvent) (owner : String) : Prop :=
  Since (·.Acquired owner) (fun f => ¬f.Returned owner) events

/-- The latest acquisition is the owner's, who has not been to give the lock back since. -/
def LatestHold (events : List LockEvent) (owner : String) : Prop :=
  Since (·.Acquired owner) (fun f => ¬f.Returned owner ∧ ∀ other, ¬f.Acquired other) events

/-- The kind of event that may follow an acquisition without ending the hold: any but a return by
the same owner, where it does not matter how acquisitions by others are counted. -/
def Harmless (q : LockEvent → Prop) (owner : String) : Prop :=
  ∀ f : LockEvent, (∀ other, ¬f.Acquired other) → (q f ↔ ¬f.Returned owner)

section Since

variable {q : LockEvent → Prop} {owner : String} {h : LockLog}

/-- **One step** keeps the holder in line with the log, if no hold has run out. -/
theorem holder_iff_since_perform (hq : Harmless q owner) (hlasts : h.lock.Lasts 0)
    (hiff : h.lock.holder = some owner ↔ Since (·.Acquired owner) q h.events) (s : LockStep) :
    (h.perform s).lock.holder = some owner ↔
      Since (·.Acquired owner) q (h.perform s).events := by
  cases turn_perform h s with
  | taken hs hfree hlock hevents =>
      rw [hlasts.owner_eq] at hfree
      rw [hlock, hevents, since_concat_iff, ← hiff, hfree]
      simp [LockEvent.Acquired, hs, Lock.holder]
  | refused hs hheld hlock hevents =>
      have hfails : ∀ other, ¬LockEvent.Acquired ⟨s, some (.lockHeld h.lock.name)⟩ other :=
        fun other hacquired => by cases hacquired.2
      rw [hlock, hevents, since_concat_iff, ← hiff, hq _ hfails]
      simp [hfails, LockEvent.Returned, LockStep.returner?_of_asker? hs]
  | returned hs hholder hlock hevents =>
      have hfails := LockEvent.not_acquired_of_returner? (e := ⟨s, none⟩) hs
      rw [hlock, hevents, since_concat_iff, ← hiff, hq _ hfails, hholder]
      simp [hfails, LockEvent.Returned, hs, Lock.holder_of_hold_none]
  | @kept other hs hholder hlock hevents =>
      have hfails := LockEvent.not_acquired_of_returner?
        (e := ⟨s, some (.notLockOwner h.lock.name other)⟩) hs
      rw [hlock, hevents, since_concat_iff, ← hiff, hq _ hfails]
      simp only [hfails, LockEvent.Returned, hs, false_or]
      -- the holder is not the one who was to give the lock back
      constructor
      · intro hown
        exact ⟨hown, fun heq => hholder (heq ▸ hown)⟩
      · exact And.left
  | idle _ hsame => rw [hsame, hiff]
  | waited _ hlock hevents => rw [hlock, hevents, Lock.holder_wait, hiff]

end Since

theorem name_foldl (h : LockLog) (steps : List LockStep) :
    (steps.foldl perform h).lock.name = h.lock.name := by
  induction steps generalizing h with
  | nil => rfl
  | cons s rest ih => rw [List.foldl_cons, ih, name_perform]

/-- After a run that is shorter than its holds last, none has run out. -/
theorem lasts_foldl {h : LockLog} {steps : List LockStep}
    (hlasts : h.lock.Lasts (LockStep.waited steps)) : (steps.foldl perform h).lock.Lasts 0 := by
  induction steps generalizing h with
  | nil => exact hlasts
  | cons s rest ih =>
      rw [LockStep.waited_cons] at hlasts
      exact ih (lasts_perform hlasts)

theorem holder_iff_since_foldl {q : LockEvent → Prop} {owner : String} (hq : Harmless q owner)
    {h : LockLog} {steps : List LockStep} (hlasts : h.lock.Lasts (LockStep.waited steps))
    (hiff : h.lock.holder = some owner ↔ Since (·.Acquired owner) q h.events) :
    (steps.foldl perform h).lock.holder = some owner ↔
      Since (·.Acquired owner) q (steps.foldl perform h).events := by
  induction steps generalizing h with
  | nil => exact hiff
  | cons s rest ih =>
      have hnow := hlasts.mono (Nat.zero_le _)
      rw [LockStep.waited_cons] at hlasts
      exact ih (lasts_perform hlasts) (holder_iff_since_perform hq hnow hiff s)

/-- **Every run** that is shorter than a hold lasts leaves that owner as the holder of whom the log
says so. -/
theorem holder_iff_since {q : LockEvent → Prop} {owner : String} (hq : Harmless q owner)
    (name : String) {seconds : Nat} {steps : List LockStep}
    (hshort : LockStep.waited steps < seconds) :
    (run name seconds steps).lock.holder = some owner ↔
      Since (·.Acquired owner) q (run name seconds steps).events := by
  refine holder_iff_since_foldl hq (.mk_of_none rfl hshort) ⟨nofun, ?_⟩
  rintro ⟨before, e, after, hevents, -⟩
  simp at hevents

theorem harmless_unreturned (owner : String) :
    Harmless (fun f => ¬f.Returned owner) owner := fun _ _ => Iff.rfl

theorem harmless_latestHold (owner : String) :
    Harmless (fun f => ¬f.Returned owner ∧ ∀ other, ¬f.Acquired other) owner :=
  fun _ hnone => and_iff_left hnone

/-! ## Exclusion -/

section Exclusion

variable {h : LockLog} {s : LockStep} {owner : String}

/-- Anyone can ask for the lock at any time. -/
theorem offers_of_asker? (hs : s.asker? = some owner) : h.Offers s := by
  cases s with
  | lock _ | guard _ => trivial
  | unlock _ | drop _ | wait _ => cases hs

/-- If no hold has run out, the lock can be taken exactly if no hold is recorded. -/
theorem grants_iff (hs : s.asker? = some owner) (hlasts : h.lock.Lasts 0) :
    h.Grants s ↔ h.lock.holder = none := by
  rw [Grants, ← hlasts.owner_eq]
  cases turn_perform h s with
  | taken _ hfree _ hevents => simp [hevents, hfree]
  | refused _ hheld _ hevents => simp [hevents, hheld]
  | returned hs' _ _ _ => simp [LockStep.returner?_of_asker? hs] at hs'
  | kept hs' _ _ _ => simp [LockStep.returner?_of_asker? hs] at hs'
  | idle hnone _ => exact absurd (offers_of_asker? hs) hnone
  | waited hs' _ _ => subst hs'; cases hs

/-- A held lock is refused to everyone. -/
theorem refuses_of_held (hs : s.asker? = some owner) (hheld : h.lock.owner ≠ none) :
    h.Refuses s (.lockHeld h.lock.name) := by
  cases turn_perform h s with
  | taken _ hfree _ _ => exact absurd hfree hheld
  | refused _ _ hlock hevents => exact ⟨hevents, hlock⟩
  | returned hs' _ _ _ => simp [LockStep.returner?_of_asker? hs] at hs'
  | kept hs' _ _ _ => simp [LockStep.returner?_of_asker? hs] at hs'
  | idle hnone _ => exact absurd (offers_of_asker? hs) hnone
  | waited hs' _ _ => subst hs'; cases hs

/-- Only its recorded holder can give a lock back. -/
theorem refuses_of_holder_ne (hs : s.returner? = some owner) (hoffers : h.Offers s)
    (hne : h.lock.holder ≠ some owner) : h.Refuses s (.notLockOwner h.lock.name owner) := by
  cases turn_perform h s with
  | taken hs' _ _ _ => simp [LockStep.returner?_of_asker? hs'] at hs
  | refused hs' _ _ _ => simp [LockStep.returner?_of_asker? hs'] at hs
  | returned hs' hholder _ _ =>
      rw [hs] at hs'
      cases hs'
      exact absurd hholder hne
  | kept hs' _ hlock hevents =>
      rw [hs] at hs'
      cases hs'
      exact ⟨hevents, hlock⟩
  | idle hnone _ => exact absurd hoffers hnone
  | waited hs' _ _ => subst hs'; cases hs

end Exclusion

/-- **Mutual exclusion**: after every run of steps by any owners that takes less time than a hold
lasts, an acquisition succeeds exactly if no hold is recorded; the recorded holder is the owner of
the latest acquisition, unless that owner has been to give the lock back since; and from an
acquisition until its owner is next to give the lock back, everyone is refused the lock, the owner
included, and no one else can give it back. -/
theorem mutual_exclusion (name : String) {seconds : Nat} (steps : List LockStep)
    (hshort : LockStep.waited steps < seconds) :
    (∀ s owner, s.asker? = some owner →
      ((run name seconds steps).Grants s ↔ (run name seconds steps).lock.holder = none)) ∧
    (∀ owner, (run name seconds steps).lock.holder = some owner ↔
      LatestHold (run name seconds steps).events owner) ∧
    ∀ owner, Unreturned (run name seconds steps).events owner →
      (run name seconds steps).lock.holder = some owner ∧
      (∀ s other, s.asker? = some other →
        (run name seconds steps).Refuses s (.lockHeld name)) ∧
      ∀ s other, s.returner? = some other → other ≠ owner →
        (run name seconds steps).Offers s →
          (run name seconds steps).Refuses s (.notLockOwner name other) := by
  have hname : (run name seconds steps).lock.name = name := name_foldl _ steps
  have hlasts : (run name seconds steps).lock.Lasts 0 := lasts_foldl (.mk_of_none rfl hshort)
  refine ⟨fun s owner hs => grants_iff hs hlasts,
    fun owner => holder_iff_since (harmless_latestHold owner) name hshort,
    fun owner hunreturned => ?_⟩
  have hholder := (holder_iff_since (harmless_unreturned owner) name hshort).2 hunreturned
  refine ⟨hholder, fun s other hs => ?_, fun s other hs hother hoffers => ?_⟩
  · have hheld : (run name seconds steps).lock.owner ≠ none := by
      rw [hlasts.owner_eq, hholder]
      exact Option.some_ne_none owner
    have hrefused := refuses_of_held hs hheld
    rwa [hname] at hrefused
  · have hne : (run name seconds steps).lock.holder ≠ some other := by
      rw [hholder]
      exact fun heq => hother (Option.some.inj heq).symm
    have hrefused := refuses_of_holder_ne hs hoffers hne
    rwa [hname] at hrefused

/-- A guard that outlived its hold, dropped while another owner has the lock. -/
theorem mutual_exclusion_staleGuard :
    LockStep.waited [.guard "alice", .unlock "alice", .wait 40, .lock "bob", .wait 15] < 60 ∧
      (run "rules" 60 [.guard "alice", .unlock "alice", .wait 40, .lock "bob",
        .wait 15]).guards = ["alice"] ∧
      (run "rules" 60 [.guard "alice", .unlock "alice", .wait 40, .lock "bob",
        .wait 15]).lock.holder = some "bob" ∧
      (run "rules" 60 [.guard "alice", .unlock "alice", .wait 40, .lock "bob",
        .wait 15]).Refuses (.lock "bob") (.lockHeld "rules") ∧
      (run "rules" 60 [.guard "alice", .unlock "alice", .wait 40, .lock "bob",
        .wait 15]).Refuses (.drop "alice") (.notLockOwner "rules" "alice") := by
  have hshort : LockStep.waited
      [.guard "alice", .unlock "alice", .wait 40, .lock "bob", .wait 15] < 60 := by decide
  have hunreturned : Unreturned (run "rules" 60 [.guard "alice", .unlock "alice", .wait 40,
      .lock "bob", .wait 15]).events "bob" :=
    ⟨[⟨.guard "alice", none⟩, ⟨.unlock "alice", none⟩], ⟨.lock "bob", none⟩, [], by decide,
      by decide, by simp⟩
  obtain ⟨hholder, hasked, hreturned⟩ :=
    (mutual_exclusion "rules" _ hshort).2.2 "bob" hunreturned
  refine ⟨hshort, by decide, hholder, hasked (.lock "bob") "bob" rfl, ?_⟩
  have hoffers : "alice" ∈ (run "rules" 60 [.guard "alice", .unlock "alice", .wait 40,
      .lock "bob", .wait 15]).guards := by decide
  exact hreturned (.drop "alice") "alice" rfl (by decide) hoffers

end LockLog

end Rulebook
