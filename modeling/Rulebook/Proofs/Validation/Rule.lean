import Rulebook.Proofs.Results
import Rulebook.Proofs.Rule.Normal
import Rulebook.Validation.Rule

/-!
# Rulebook.Proofs.Validation.Rule

What is known of a tree that is not refused.

The checks of a tree run in a fixed order up to the first error, so a tree is accepted if it passes
each of them:

* `validateRule_eq_ok_iff`, `checkCondition_eq_ok_iff` — the checks one by one;
* `mem_of_isAllowed` — in normal form, an allowed operation is spelled as in the list;
* `exists_fixedArg` — only a condition of mere presence may have nothing to compare with;
* `percentRanges_eq_ok_iff`, `pairwise_slices_iff` — the ranges of a tree, condition by condition.
-/

namespace Rulebook

namespace Text

theorem sameIgnoringCase_comm (s t : String) : sameIgnoringCase s t = sameIgnoringCase t s :=
  Bool.beq_comm

end Text

namespace Condition

/-- A condition of one operation is not one of another. -/
theorem uses_eq_false {c : Condition} {a b : String} (ha : c.uses a = true)
    (hne : Operation.same a b = false) : c.uses b = false := by
  have heq := beq_iff_eq.1 ha
  rw [← hne, uses, Operation.same, Text.sameIgnoringCase, heq]
  rfl

/-- The text of a range, if the condition is one of `RANGE` and compares with a string. -/
def rangeText? (c : Condition) : Option String :=
  if c.uses Operation.range then c.fixedArg.bind FixedValue.asString? else none

theorem rangeText?_eq_some_iff {c : Condition} {s : String} :
    c.rangeText? = some s ↔ c.uses Operation.range = true ∧ c.fixedArg = some (.string s) := by
  rw [rangeText?]
  cases c.uses Operation.range with
  | false => simp
  | true =>
      cases c.fixedArg with
      | none => simp
      | some value => cases value <;> simp [FixedValue.asString?]

/-- The condition has a range, and its text reads as this one. -/
def Slices (c : Condition) (range : Percent.Range) : Prop :=
  ∃ s, c.rangeText? = some s ∧ Percent.readRange s = .ok range

end Condition

namespace Validation

variable {c : Condition} {r : Rule} {allowed : List String}

/-! ## Conditions -/

theorem checkOperation_eq_ok_iff {operation : String} :
    checkOperation operation allowed = .ok () ↔ Operation.isAllowed operation allowed = true := by
  rw [checkOperation]
  cases Operation.isAllowed operation allowed <;> simp

theorem checkCondition_eq_ok_iff [PatternEngine] :
    checkCondition allowed c = .ok () ↔ checkBlanks c = .ok () ∧
      Operation.isAllowed c.operation allowed = true ∧ checkValue c = .ok () := by
  rw [checkCondition, check_bind_eq_ok_iff, check_bind_eq_ok_iff, checkOperation_eq_ok_iff]

/-- If all operations of the list are in upper case, then one in normal form that is allowed is one
of them to the letter. -/
theorem mem_of_isAllowed (hnormal : c.normalize = c)
    (hupper : ∀ operation ∈ allowed, Text.upperAscii operation = operation)
    (h : Operation.isAllowed c.operation allowed = true) : c.operation ∈ allowed := by
  obtain ⟨operation, hmem, hsame⟩ := List.any_eq_true.1 h
  have huses : c.uses operation = true := by
    rw [Condition.uses, Operation.same, Text.sameIgnoringCase_comm]
    exact hsame
  rw [Condition.eq_of_uses hnormal (hupper operation hmem) huses]
  exact hmem

/-- What is not asked for mere presence is compared with something. -/
theorem exists_fixedArg (h : checkBlanks c = .ok ()) (hpresent : c.uses Operation.present = false) :
    ∃ value, c.fixedArg = some value ∧ value.isBlank = false := by
  simp only [checkBlanks, hpresent, ite_error_eq_ok_iff] at h
  cases hvalue : c.fixedArg with
  | none => simp [hvalue] at h
  | some value => exact ⟨value, rfl, by simpa [hvalue] using h.2.2⟩

/-! ## Trees -/

theorem checkNoDuplicates_eq_ok_iff {duplicates : List Condition} :
    checkNoDuplicates duplicates = .ok () ↔ duplicates = [] := by
  rw [checkNoDuplicates]
  cases duplicates <;> simp

/-- **A tree is accepted** if there is something in it, its shape and its relations are right, each
of its conditions is, and none occurs twice. -/
theorem validateRule_eq_ok_iff [PatternEngine] :
    validateRule r allowed = .ok () ↔ r.isEmpty = false ∧ checkStructure r = .ok () ∧
      checkRelations r = .ok () ∧ (∀ c ∈ r.conditions, checkCondition allowed c = .ok ()) ∧
      duplicateConditions r = [] := by
  rw [validateRule]
  cases r.isEmpty with
  | true => simp [bind, Except.bind]
  | false =>
      simp only [Bool.false_eq_true, if_false, check_bind_eq_ok_iff, forM_eq_ok_iff,
        checkNoDuplicates_eq_ok_iff, true_and]

/-! ## Ranges -/

theorem rangeTexts_eq (r : Rule) : rangeTexts r = r.conditions.filterMap Condition.rangeText? :=
  List.filterMap_filter

/-- The ranges of a tree are read off its texts, in their order. -/
theorem percentRanges_eq_ok_iff {ranges : List Percent.Range} :
    percentRanges r = .ok ranges ↔
      (rangeTexts r).map Percent.readRange = ranges.map Except.ok := by
  have hread : percentRanges r = (rangeTexts r).mapM fun s =>
      (Percent.readRange s).mapError ValidationError.unreadableRange := by
    rw [percentRanges]
    congr
    funext s
    cases Percent.readRange s <;> rfl
  rw [hread, mapM_mapError_eq_ok_iff, mapM_eq_ok_iff]

section Slices

variable {ranges : List Percent.Range}

theorem exists_slices (h : percentRanges r = .ok ranges) (hc : c ∈ r.conditions) {s : String}
    (hs : c.rangeText? = some s) : ∃ range ∈ ranges, Percent.readRange s = .ok range := by
  have hmem : Percent.readRange s ∈ (rangeTexts r).map Percent.readRange := by
    rw [rangeTexts_eq]
    exact List.mem_map_of_mem (List.mem_filterMap.2 ⟨c, hc, hs⟩)
  rw [percentRanges_eq_ok_iff.1 h] at hmem
  obtain ⟨range, hrange, hread⟩ := List.mem_map.1 hmem
  exact ⟨range, hrange, hread.symm⟩

/-- What holds of any two ranges of a tree holds of those of any two conditions. -/
theorem pairwise_slices_iff (h : percentRanges r = .ok ranges)
    {R : Percent.Range → Percent.Range → Prop} :
    (r.conditions.Pairwise fun c d => ∀ ρ σ, c.Slices ρ → d.Slices σ → R ρ σ) ↔
      ranges.Pairwise R := by
  have hresults : ranges.Pairwise R ↔ (ranges.map (Except.ok (ε := Percent.ReadError))).Pairwise
      fun x y => ∀ ρ σ, x = .ok ρ → y = .ok σ → R ρ σ := by
    rw [List.pairwise_map]
    simp
  rw [hresults, ← percentRanges_eq_ok_iff.1 h, List.pairwise_map, rangeTexts_eq,
    List.pairwise_filterMap]
  refine ⟨fun hpairs => hpairs.imp ?_, fun hpairs => hpairs.imp ?_⟩
  · intro c d hcd s hs t ht ρ σ hρ hσ
    exact hcd ρ σ ⟨s, hs, hρ⟩ ⟨t, ht, hσ⟩
  · rintro c d hcd ρ σ ⟨s, hs, hρ⟩ ⟨t, ht, hσ⟩
    exact hcd s hs t ht ρ σ hρ hσ

end Slices

end Validation

end Rulebook
