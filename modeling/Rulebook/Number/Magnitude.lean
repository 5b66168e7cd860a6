/-!
# Rulebook.Number.Magnitude

The finite magnitudes of binary64, and rounding of an exact quotient to the nearest one.

Every finite magnitude of the format is a whole number of units of `2 ^ -1074`, the smallest
positive one.  Up to `2 ^ 53` units all of them are representable; further up the step doubles with
each power of two, which is said without exponent fields as "divisible by the step"
(`Representable`).  The magnitudes stop below `limit = 2 ^ 2098` units, that is `2 ^ 1024`.

* `roundDiv` rounds a quotient to a whole number, a half going to the even neighbour;
* `roundUnits` rounds a quotient to whole steps of its size (`step_dvd_roundUnits`).
-/

namespace Rulebook

namespace Magnitude

/-- The smallest positive magnitude is two to the power of minus this. -/
def unitExponent : Nat := 1074

/-- One, in units: `2 ^ 1074` units of `2 ^ -1074`. -/
def one : Nat := Nat.pow 2 unitExponent

/-- The first magnitude, in units, that is too large for the format: `2 ^ 1024`. -/
def limit : Nat := Nat.pow 2 (unitExponent + 1024)

theorem limit_pos : 0 < limit := by
  unfold limit
  generalize unitExponent + 1024 = exponent
  exact Nat.two_pow_pos exponent

/-- The distance between neighbouring magnitudes around `units`. -/
def step (units : Nat) : Nat := Nat.pow 2 (units.log2 - 52)

/-- A whole number of units that the format can hold. -/
def Representable (units : Nat) : Prop :=
  units < limit ∧ step units ∣ units

instance (units : Nat) : Decidable (Representable units) :=
  inferInstanceAs (Decidable (_ ∧ _))

/-- `num / den` rounded to the nearest whole number; a half goes to the even neighbour. -/
def roundDiv (num den : Nat) : Nat :=
  let quotient := num / den
  let rest := num % den
  if 2 * rest < den then quotient
  else if den < 2 * rest then quotient + 1
  else quotient + quotient % 2

theorem roundDiv_le (num den : Nat) : roundDiv num den ≤ num / den + 1 := by
  unfold roundDiv
  dsimp only
  split
  · omega
  · split <;> omega

/-- The quotient `num / den` in units, rounded to the step of its size. -/
def roundUnits (num den : Nat) : Nat :=
  let scaled := num * one
  let s := step (scaled / den)
  roundDiv scaled (den * s) * s

/-- A rounded quotient is a whole number of steps, also where it was rounded up to the next power
of two, whose step is twice as long. -/
theorem step_dvd_roundUnits (num den : Nat) : step (roundUnits num den) ∣ roundUnits num den := by
  unfold roundUnits
  dsimp only
  generalize num * one = scaled
  generalize hk : (scaled / den).log2 - 52 = k
  have hs : step (scaled / den) = 2 ^ k := by rw [step, hk, Nat.pow_eq]
  rw [hs]
  generalize hm : roundDiv scaled (den * 2 ^ k) = m
  have hq : scaled / den < 2 ^ (53 + k) := by
    by_cases h : scaled / den = 0
    · rw [h]; exact Nat.two_pow_pos _
    · exact (Nat.log2_lt h).1 (by omega)
  have hlt : scaled / (den * 2 ^ k) < 2 ^ 53 := by
    rw [← Nat.div_div_eq_div_mul]
    exact (Nat.div_lt_iff_lt_mul (Nat.two_pow_pos k)).2 (by rw [← Nat.pow_add]; exact hq)
  have hle : m ≤ 2 ^ 53 := by
    have := roundDiv_le scaled (den * 2 ^ k)
    omega
  by_cases h0 : m = 0
  · simp [h0]
  by_cases hmax : m = 2 ^ 53
  · rw [hmax, ← Nat.pow_add, step, Nat.log2_two_pow, Nat.pow_eq]
    exact Nat.pow_dvd_pow 2 (by omega)
  · have hm0 : m * 2 ^ k ≠ 0 := Nat.mul_ne_zero h0 (Nat.ne_of_gt (Nat.two_pow_pos k))
    have hlog : (m * 2 ^ k).log2 < 53 + k := by
      rw [Nat.log2_lt hm0, Nat.pow_add]
      exact Nat.mul_lt_mul_of_pos_right (by omega) (Nat.two_pow_pos k)
    exact Nat.dvd_trans (Nat.pow_dvd_pow 2 (by omega)) (Nat.dvd_mul_left _ _)

end Magnitude

/-- A finite magnitude of binary64, counted in units of `2 ^ -1074`. -/
structure Magnitude where
  units : Nat
  representable : Magnitude.Representable units
  deriving DecidableEq

namespace Magnitude

/-- No units at all. -/
def zero : Magnitude := ⟨0, limit_pos, Nat.dvd_zero _⟩

/-- The quotient `num / den` rounded to the nearest magnitude, where one is large enough. -/
def ofRatio? (num den : Nat) : Option Magnitude :=
  if h : roundUnits num den < limit then
    some ⟨roundUnits num den, h, step_dvd_roundUnits num den⟩
  else none

end Magnitude

end Rulebook
