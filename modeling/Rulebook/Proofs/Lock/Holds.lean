import Rulebook.Lock

/-!
# Rulebook.Proofs.Lock.Holds

Holds, and how long they last.

Who can take a lock depends on the age of the hold on it, and who can give it back does not.  As
long as no hold runs out the difference does not matter: the recorded holder is the owner.

* `acquire_eq_ok_iff`, `letGo_eq` — what becomes of the recorded hold;
* `Lasts` — no hold runs out for some time, whatever is done with the lock meanwhile.
-/

namespace Rulebook.Lock

variable {l l' : Lock} {owner : String} {time : Nat}

/-! ## One step of a lock -/

theorem acquire_eq_ok_iff :
    l.acquire owner = .ok l' ↔ l.owner = none ∧ l' = { l with hold := some { owner } } := by
  rw [acquire]
  cases hfree : l.owner <;> simp [eq_comm]

theorem letGo_eq (l : Lock) (owner : String) :
    l.letGo owner = if l.holder = some owner then { l with hold := none } else l := by
  rw [letGo, release]
  by_cases hholder : l.holder = some owner <;> simp [hholder]

/-- Giving a lock back has an effect on the hold of its own owner only. -/
theorem letGo_eq_self (h : l.holder ≠ some owner) : l.letGo owner = l := by
  rw [letGo_eq, if_neg h]

theorem letGo_of_holder (h : l.holder = some owner) :
    l.letGo owner = { l with hold := none } := by
  rw [letGo_eq, if_pos h]

@[simp] theorem name_letGo (l : Lock) (owner : String) : (l.letGo owner).name = l.name := by
  rw [letGo_eq]
  split <;> rfl

theorem holder_of_hold_none (h : l.hold = none) : l.holder = none := by
  rw [holder, h, Option.map_none]

/-- Time does not change who is recorded. -/
@[simp] theorem holder_wait (l : Lock) (time : Nat) : (l.wait time).holder = l.holder := by
  cases hhold : l.hold <;> simp [wait, holder, hhold]

/-! ## Holds that last -/

/-- No hold runs out for this time: neither the one on the lock, nor one that is still to come. -/
structure Lasts (l : Lock) (time : Nat) : Prop where
  limit : time < l.seconds
  hold : ∀ hold, l.hold = some hold → hold.age + time < l.seconds

namespace Lasts

theorem mk_of_none {l : Lock} (hhold : l.hold = none) (hlimit : time < l.seconds) :
    l.Lasts time :=
  ⟨hlimit, fun hold h => by simp [hhold] at h⟩

theorem mono {time' : Nat} (h : l.Lasts time) (hle : time' ≤ time) : l.Lasts time' := by
  refine ⟨Nat.lt_of_le_of_lt hle h.limit, fun hold hhold => ?_⟩
  have hage := h.hold hold hhold
  omega

/-- The recorded holder of such a lock owns it. -/
theorem owner_eq (h : l.Lasts time) : l.owner = l.holder := by
  cases hhold : l.hold with
  | none => rw [Lock.owner, holder, hhold, Option.filter_none]
  | some hold =>
      have hage := h.hold hold hhold
      rw [Lock.owner, holder, hhold, Option.filter_some, if_pos (by simp; omega)]

/-- Time that passes is gone. -/
theorem wait {passed : Nat} (h : l.Lasts (passed + time)) : (l.wait passed).Lasts time := by
  have hlimit : passed + time < l.seconds := h.limit
  refine ⟨show time < l.seconds by omega, fun hold hhold => ?_⟩
  obtain ⟨before, hbefore, rfl⟩ := Option.map_eq_some_iff.1 hhold
  have hage := h.hold before hbefore
  show before.age + passed + time < l.seconds
  omega

theorem acquire (h : l.Lasts time) (hacquire : l.acquire owner = .ok l') : l'.Lasts time := by
  obtain ⟨-, rfl⟩ := acquire_eq_ok_iff.1 hacquire
  refine ⟨h.limit, fun hold hhold => ?_⟩
  cases hhold
  simpa using h.limit

theorem of_hold_none (h : l.Lasts time) : ({ l with hold := none } : Lock).Lasts time :=
  mk_of_none rfl h.limit

theorem letGo (h : l.Lasts time) (owner : String) : (l.letGo owner).Lasts time := by
  rw [letGo_eq]
  split
  · exact h.of_hold_none
  · exact h

end Lasts

end Rulebook.Lock
