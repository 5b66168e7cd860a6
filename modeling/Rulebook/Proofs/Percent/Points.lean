import Rulebook.Percent.Range
import Rulebook.Proofs.Number.Value
import Rulebook.Proofs.Results

/-!
# Rulebook.Proofs.Percent.Points

Ranges as sets of points, and what the checks of a list of ranges decide.

The checks compare the bounds as numbers.  Ranges that pass the check of their bounds are slices of
the line from zero to a hundred percent, and two slices share no point exactly if neither starts
inside the other:

* `checkBounds_eq_ok_iff` — the bounds of one range;
* `disjoint_points_iff` — two slices;
* `validateRanges_eq_ok_iff`, `accepted_iff_disjoint` — the whole list, in whatever order.
-/

namespace Rulebook.Percent

open Number

/-! ## Bounds -/

theorem value?_zero : zero.value? = some 0 := by
  rw [value?_of_isFinite (k := 0) rfl rfl, Int.cast_zero, zero_div]

theorem value?_hundred : hundred.value? = some 100 := by
  have hfinite : hundred.isFinite = true := isFinite_ofInt (by decide)
  have hkey : hundred.key? = some ((100 : Int) * Magnitude.one) := by decide +kernel
  rw [value?_of_isFinite hfinite hkey, Int.cast_mul, Int.cast_natCast,
    mul_div_cancel_right₀ _ one_pos_rat.ne', Int.cast_ofNat]

/-- **A percentage** is a number that has a value from zero to a hundred. -/
theorem isPercentage_iff {x : Number} :
    isPercentage x = true ↔ ∃ q, x.value? = some q ∧ 0 ≤ q ∧ q ≤ 100 := by
  rw [isPercentage, Bool.and_eq_true]
  constructor
  · rintro ⟨hlow, hhigh⟩
    obtain ⟨q, hq⟩ := exists_value?_of_between value?_zero value?_hundred hlow hhigh
    exact ⟨q, hq, (le_iff value?_zero hq).1 hlow, (le_iff hq value?_hundred).1 hhigh⟩
  · rintro ⟨q, hq, hlow, hhigh⟩
    exact ⟨(le_iff value?_zero hq).2 hlow, (le_iff hq value?_hundred).2 hhigh⟩

namespace Range

variable {r s : Range}

/-- The bounds of the range are the values `a` and `b`. -/
def Spans (r : Range) (a b : ℚ) : Prop :=
  r.start.value? = some a ∧ r.stop.value? = some b

/-- The range is a slice of the line from zero to a hundred percent, with something in it. -/
def IsSlice (r : Range) : Prop :=
  ∃ a b : ℚ, r.Spans a b ∧ 0 ≤ a ∧ a < b ∧ b ≤ 100

/-- The points of a range, from its start up to, but not including, its end. -/
def points (r : Range) : Set ℝ :=
  {x | ∃ a b : ℚ, r.Spans a b ∧ a ≤ x ∧ x < b}

theorem Spans.points_eq {a b : ℚ} (h : r.Spans a b) : r.points = Set.Ico (a : ℝ) b := by
  ext x
  constructor
  · rintro ⟨a', b', h', hx⟩
    cases Option.some.inj (h.1.symm.trans h'.1)
    cases Option.some.inj (h.2.symm.trans h'.2)
    exact hx
  · exact fun hx => ⟨a, b, h, hx⟩

theorem containsStartOf_iff {a b c d : ℚ} (hr : r.Spans a b) (hs : s.Spans c d) :
    r.containsStartOf s = true ↔ a ≤ c ∧ c < b := by
  rw [containsStartOf, Bool.and_eq_true, le_iff hr.1 hs.1, lt_iff hs.1 hr.2]

/-- **Two slices share no point** exactly if neither starts inside the other. -/
theorem disjoint_points_iff (hr : r.IsSlice) (hs : s.IsSlice) :
    Disjoint r.points s.points ↔ r.containsStartOf s = false ∧ s.containsStartOf r = false := by
  obtain ⟨a, b, hr, -, hab, -⟩ := hr
  obtain ⟨c, d, hs, -, hcd, -⟩ := hs
  rw [← Bool.not_eq_true, ← Bool.not_eq_true, containsStartOf_iff hr hs, containsStartOf_iff hs hr,
    hr.points_eq, hs.points_eq, Set.Ico_disjoint_Ico]
  norm_cast
  rw [min_le_iff, le_max_iff, le_max_iff]
  grind

end Range

/-- **The check of the bounds** accepts exactly the slices. -/
theorem checkBounds_eq_ok_iff {r : Range} : checkBounds r = .ok () ↔ r.IsSlice := by
  have hsplit : checkBounds r = .ok () ↔ (zero.le r.start = true ∧ r.start.lt hundred = true) ∧
      isPercentage r.stop = true ∧ r.stop.le r.start = false := by
    simp only [checkBounds, ite_error_eq_ok_iff, Bool.not_eq_true', Bool.not_eq_false,
      Bool.and_eq_true, Bool.not_eq_true, and_true]
  rw [hsplit, isPercentage_iff]
  constructor
  · rintro ⟨⟨hlow, hlow'⟩, ⟨b, hb, -, hhigh⟩, hlt⟩
    -- a bound between zero and a hundred is finite, so it has a value to compare
    obtain ⟨a, ha⟩ := exists_value?_of_between value?_zero value?_hundred hlow (le_of_lt hlow')
    rw [← Bool.not_eq_true, le_iff hb ha, not_le] at hlt
    exact ⟨a, b, ⟨ha, hb⟩, (le_iff value?_zero ha).1 hlow, hlt, hhigh⟩
  · rintro ⟨a, b, ⟨ha, hb⟩, hlow, hlt, hhigh⟩
    rw [← Bool.not_eq_true, le_iff value?_zero ha, lt_iff ha value?_hundred, le_iff hb ha, not_le]
    exact ⟨⟨hlow, hlt.trans_le hhigh⟩, ⟨b, hb, (hlow.trans_lt hlt).le, hhigh⟩, hlt⟩

/-! ## Overlaps -/

theorem startingInside?_eq_none_iff {r : Range} {i : Nat} {ranges : List Range} :
    startingInside? r i ranges = none ↔
      ∀ (j : Nat) (s : Range), ranges[j]? = some s → i ≠ j → r.containsStartOf s = false := by
  rw [startingInside?, Option.map_eq_none_iff, List.find?_eq_none]
  constructor
  · intro h j s hs hne
    simpa [hne] using h (s, j) (List.mk_mem_zipIdx_iff_getElem?.2 hs)
  · rintro h ⟨s, j⟩ hmem
    have hs := List.mk_mem_zipIdx_iff_getElem?.1 hmem
    by_cases hne : i = j
    · simp [hne]
    · simp [h j s hs hne]

/-- What is symmetric and holds of any two items of a list holds at any two positions of it. -/
theorem pairwise_iff_getElem? {R : Range → Range → Prop} (hsymm : ∀ r s, R r s → R s r)
    {ranges : List Range} :
    ranges.Pairwise R ↔ ∀ (i : Nat) (r : Range), ranges[i]? = some r →
      ∀ (j : Nat) (s : Range), ranges[j]? = some s → i ≠ j → R r s := by
  rw [List.pairwise_iff_getElem]
  constructor
  · intro h i r hr j s hs hne
    obtain ⟨hi, rfl⟩ := List.getElem?_eq_some_iff.1 hr
    obtain ⟨hj, rfl⟩ := List.getElem?_eq_some_iff.1 hs
    rcases Nat.lt_or_gt_of_ne hne with hlt | hgt
    · exact h i j hi hj hlt
    · exact hsymm _ _ (h j i hj hi hgt)
  · intro h i j hi hj hlt
    exact h i _ (List.getElem?_eq_getElem hi) j _ (List.getElem?_eq_getElem hj) hlt.ne

/-- No overlap is found if no range starts inside one at another position. -/
theorem firstOverlap?_eq_none_iff {ranges : List Range} :
    firstOverlap? ranges = none ↔
      ranges.Pairwise fun r s => r.containsStartOf s = false ∧ s.containsStartOf r = false := by
  rw [firstOverlap?, List.findSome?_eq_none_iff, pairwise_iff_getElem? fun r s h => h.symm]
  simp only [Option.map_eq_none_iff, startingInside?_eq_none_iff, Prod.forall,
    List.mk_mem_zipIdx_iff_getElem?]
  constructor
  · intro h i r hr j s hs hne
    exact ⟨h r i hr j s hs hne, h s j hs i r hr hne.symm⟩
  · intro h r i hr j s hs hne
    exact (h i r hr j s hs hne).1

/-- **A list of ranges is accepted** if all of them are slices and no two share a point. -/
theorem validateRanges_eq_ok_iff {ranges : List Range} :
    validateRanges ranges = .ok () ↔ (∀ r ∈ ranges, r.IsSlice) ∧
      ranges.Pairwise fun r s => Disjoint r.points s.points := by
  have hoverlap : validateRanges ranges = .ok () ↔
      (∀ r ∈ ranges, r.IsSlice) ∧ firstOverlap? ranges = none := by
    rw [validateRanges, check_bind_eq_ok_iff, forM_eq_ok_iff]
    simp only [checkBounds_eq_ok_iff]
    cases firstOverlap? ranges <;> simp
  rw [hoverlap, firstOverlap?_eq_none_iff]
  refine and_congr_right fun hslices => List.Pairwise.iff_of_mem fun hr hs => ?_
  exact (Range.disjoint_points_iff (hslices _ hr) (hslices _ hs)).symm

/-- Ranges that touch share no point. -/
example : (validateRanges [⟨.ofInt 0, .ofInt 50⟩, ⟨.ofInt 50, .ofInt 100⟩]).isOk = true := by
  decide +kernel

/-- **The overlap check decides disjointness**: a list of ranges is accepted exactly if all of them
are slices, with bounds `0 ≤ start < end ≤ 100`, and those at any two positions share no point.  So
it is accepted in any order, or in none. -/
theorem accepted_iff_disjoint (ranges : List Range) :
    (validateRanges ranges = .ok () ↔ (∀ r ∈ ranges, r.IsSlice) ∧
      ∀ (i : Nat) (r : Range), ranges[i]? = some r →
        ∀ (j : Nat) (s : Range), ranges[j]? = some s → i ≠ j → Disjoint r.points s.points) ∧
    ∀ reordered : List Range, reordered.Perm ranges →
      (validateRanges reordered = .ok () ↔ validateRanges ranges = .ok ()) := by
  have hsymm : ∀ r s : Range, Disjoint r.points s.points → Disjoint s.points r.points :=
    fun _ _ h => h.symm
  constructor
  · rw [validateRanges_eq_ok_iff, pairwise_iff_getElem? hsymm]
  · intro reordered hperm
    have hslices : (∀ r ∈ reordered, r.IsSlice) ↔ ∀ r ∈ ranges, r.IsSlice :=
      forall_congr' fun r => imp_congr_left hperm.mem_iff
    rw [validateRanges_eq_ok_iff, validateRanges_eq_ok_iff, hslices,
      hperm.pairwise_iff fun h => hsymm _ _ h]

/-- The upper half may stand before the lower one. -/
theorem accepted_halves :
    [⟨.ofInt 50, .ofInt 100⟩, ⟨.ofInt 0, .ofInt 50⟩].Perm
        [(⟨.ofInt 0, .ofInt 50⟩ : Range), ⟨.ofInt 50, .ofInt 100⟩] ∧
      validateRanges [⟨.ofInt 50, .ofInt 100⟩, ⟨.ofInt 0, .ofInt 50⟩] = .ok () := by
  have hperm : [⟨.ofInt 50, .ofInt 100⟩, ⟨.ofInt 0, .ofInt 50⟩].Perm
      [(⟨.ofInt 0, .ofInt 50⟩ : Range), ⟨.ofInt 50, .ofInt 100⟩] := .swap _ _ _
  have haccepted : validateRanges [⟨.ofInt 0, .ofInt 50⟩, ⟨.ofInt 50, .ofInt 100⟩] = .ok () :=
    eq_ok_of_toOption (by decide +kernel)
  exact ⟨hperm, ((accepted_iff_disjoint _).2 _ hperm).2 haccepted⟩

end Rulebook.Percent
