import Mathlib
import Rulebook.Proofs.Codec.Fields

/-!
# Rulebook.Proofs.Number.Value

The rational number that a finite number is, and comparison in terms of it.

Numbers are compared by their places on the line, which are counted in units.  A finite number is
its place divided by the count of units in one, so comparing places is comparing values (`le_iff`,
`lt_iff`); and what lies between two finite numbers is finite (`exists_value?_of_between`).
-/

namespace Rulebook.Number

variable {a b c : Number} {x y z : ℚ}

/-- The value of a finite number. -/
def value? : Number → Option ℚ
  | .finite negative m => some (signed negative m.units / Magnitude.one)
  | _ => none

/-- A finite number has a place, which is its value in units. -/
theorem key?_of_value? (h : a.value? = some x) :
    ∃ k : Int, a.key? = some k ∧ x = k / Magnitude.one := by
  cases a with
  | nan => cases h
  | infinite negative => cases h
  | finite negative m => exact ⟨_, rfl, (Option.some.inj h).symm⟩

theorem value?_of_isFinite {k : Int} (h : a.isFinite = true) (hk : a.key? = some k) :
    a.value? = some ((k : ℚ) / Magnitude.one) := by
  cases a with
  | nan => cases h
  | infinite negative => cases h
  | finite negative m => rw [value?, ← Option.some.inj hk]

theorem one_pos_rat : (0 : ℚ) < Magnitude.one :=
  Nat.cast_pos.2 Magnitude.one_pos

theorem le_iff (ha : a.value? = some x) (hb : b.value? = some y) : a.le b = true ↔ x ≤ y := by
  obtain ⟨k, hk, rfl⟩ := key?_of_value? ha
  obtain ⟨l, hl, rfl⟩ := key?_of_value? hb
  rw [le, compareBy, hk, hl, div_le_div_iff_of_pos_right one_pos_rat, Int.cast_le]
  exact decide_eq_true_iff

theorem lt_iff (ha : a.value? = some x) (hb : b.value? = some y) : a.lt b = true ↔ x < y := by
  obtain ⟨k, hk, rfl⟩ := key?_of_value? ha
  obtain ⟨l, hl, rfl⟩ := key?_of_value? hb
  rw [lt, compareBy, hk, hl, div_lt_div_iff_of_pos_right one_pos_rat, Int.cast_lt]
  exact decide_eq_true_iff

theorem le_of_lt (h : a.lt b = true) : a.le b = true := by
  unfold lt compareBy at h
  unfold le compareBy
  split at h
  · simpa using (of_decide_eq_true h).le
  · cases h

theorem abs_signed (negative : Bool) (size : Nat) : |signed negative size| = size := by
  cases negative <;> simp [signed]

/-- The place of a finite number lies strictly between those of the infinities. -/
theorem abs_key?_lt_of_value? {k : Int} (h : a.value? = some x) (hk : a.key? = some k) :
    |k| < Magnitude.limit := by
  cases a with
  | nan => cases h
  | infinite negative => cases h
  | finite negative m =>
      cases hk
      rw [abs_signed]
      exact Int.ofNat_lt.2 m.representable.1

/-- Between finite numbers there are only finite ones. -/
theorem exists_value?_of_between (ha : a.value? = some x) (hc : c.value? = some z)
    (hab : a.le b = true) (hbc : b.le c = true) : ∃ y, b.value? = some y := by
  obtain ⟨k, hk, -⟩ := key?_of_value? ha
  obtain ⟨l, hl, -⟩ := key?_of_value? hc
  have hlow := (abs_lt.1 (abs_key?_lt_of_value? ha hk)).1
  have hhigh := (abs_lt.1 (abs_key?_lt_of_value? hc hl)).2
  rw [le, compareBy, hk] at hab
  rw [le, compareBy, hl] at hbc
  cases b with
  | nan => cases hab
  | finite negative m => exact ⟨_, rfl⟩
  | infinite negative =>
      -- the place of the infinity is a number of hundreds of digits, not to be written out
      cases negative with
      | false => exact absurd (of_decide_eq_true hbc) (not_le.2 hhigh)
      | true => exact absurd (of_decide_eq_true hab) (not_le.2 hlow)

end Rulebook.Number
