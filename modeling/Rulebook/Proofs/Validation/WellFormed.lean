import Rulebook.Proofs.Percent.Points
import Rulebook.Proofs.Rule.References
import Rulebook.Proofs.Validation.Duplicates
import Rulebook.Proofs.Validation.Shape

/-!
# Rulebook.Proofs.Validation.WellFormed

Which trees are accepted.

The checks of a tree walk it several times and stop at the first thing found.  Here is what they
decide together, said of the tree itself: its shape (`Rule.WellShaped`), each of its conditions
(`Condition.WellFormed`), and that no two of them are equal.  Each check is read as the part of it
that it decides:

* `wellShaped_iff` — emptiness, structure and relations, as the shape;
* `checkBlanks_eq_ok_iff`, `checkValue_eq_ok_iff` — what a condition is made of;
* `validateRule_eq_ok_iff_wellFormed` — the whole tree.
-/

namespace Rulebook

/-! ## Names of operations -/

namespace Text

/-- Letter case is ignored by writing both texts in upper case, or both in lower case. -/
theorem sameIgnoringCase_iff {s t : String} :
    sameIgnoringCase s t = true ↔ upperAscii s = upperAscii t := by
  refine ⟨upperAscii_eq_of_sameIgnoringCase, fun h => ?_⟩
  have hlower : ∀ cs : List Char,
      (cs.map Char.toUpper).map Char.toLower = cs.map Char.toLower := by simp
  have hchars : s.toList.map Char.toUpper = t.toList.map Char.toUpper := by
    simpa [upperAscii] using congrArg String.toList h
  rw [sameIgnoringCase, beq_iff_eq, ← hlower s.toList, hchars, hlower]

end Text

namespace Operation

/-- The names are equal but for the case of ASCII letters. -/
def Equal (a b : String) : Prop :=
  Text.upperAscii a = Text.upperAscii b

theorem same_iff {a b : String} : same a b = true ↔ Equal a b :=
  Text.sameIgnoringCase_iff

theorem isAllowed_iff {operation : String} {allowed : List String} :
    isAllowed operation allowed = true ↔ ∃ a ∈ allowed, Equal a operation := by
  rw [isAllowed, List.any_eq_true]
  simp only [same_iff]

end Operation

/-! ## Well-formed trees -/

namespace FixedValue

/-- The value is no string of white space. -/
def IsGiven (value : FixedValue) : Prop :=
  ∀ s, value = .string s → Text.isBlank s = false

/-- The value is a number from zero to a hundred, or is written as one. -/
def IsPercentage (value : FixedValue) : Prop :=
  ∃ x q, value.asNumber? = some x ∧ x.value? = some q ∧ 0 ≤ q ∧ q ≤ 100

/-- The value, if it is a string, is a pattern that can be used. -/
def IsPattern [PatternEngine] (value : FixedValue) : Prop :=
  ∀ pattern, value = .string pattern → PatternEngine.accepts pattern = true

/-- The value, if it is a list, has no item twice. -/
def IsDistinct (value : FixedValue) : Prop :=
  ∀ items, value = .collection items → items.Nodup

end FixedValue

/-- The condition has a name and an allowed operation, and what it compares with is there, unless it
asks for mere presence, and is fit for the operation. -/
structure Condition.WellFormed [PatternEngine] (allowed : List String) (c : Condition) : Prop where
  named : Text.isBlank c.freeArg.name = false
  operated : Text.isBlank c.operation = false
  allowed : ∃ operation ∈ allowed, Operation.Equal operation c.operation
  compared : ¬Operation.Equal c.operation Operation.present →
    ∃ value, c.fixedArg = some value ∧ value.IsGiven
  percentage : Operation.Equal c.operation Operation.percent →
    ∀ value, c.fixedArg = some value → value.IsPercentage
  pattern : Operation.Equal c.operation Operation.like →
    ∀ value, c.fixedArg = some value → value.IsPattern
  distinct : ∀ value, c.fixedArg = some value → value.IsDistinct

namespace Rule

/-- A condition without parts. -/
structure IsLeaf (r : Rule) : Prop where
  condition : ∃ c, r.condition = some c
  parts : r.parts = []

/-- Parts without a condition of their own: at least one, all of them leaves, and each but the first
one joined with those before it. -/
structure IsJoined (r : Rule) : Prop where
  condition : r.condition = none
  leaves : ∀ part ∈ r.parts, part.IsLeaf
  relations : ∃ first rest, r.parts = first :: rest ∧ first.relation = none ∧
    ∀ part ∈ rest, ∃ relation, part.relation = some relation

/-- A single condition, or several that are joined. -/
def WellShaped (r : Rule) : Prop :=
  r.IsLeaf ∨ r.IsJoined

/-- The tree has one of the two shapes, all of its conditions are well formed, and no two of them
are equal. -/
structure WellFormed [PatternEngine] (allowed : List String) (r : Rule) : Prop where
  shaped : r.WellShaped
  conditions : ∀ c, r.HasCondition c → c.WellFormed allowed
  distinct : r.conditions.Pairwise fun c d => c.same d = false

end Rule

namespace Validation

variable {c : Condition} {r : Rule} {allowed : List String}

/-! ## Shape -/

theorem checkParts_eq_ok_iff {index : Nat} {parts : List Rule} :
    checkParts index parts = .ok () ↔ ∀ part ∈ parts, part.IsLeaf := by
  induction parts generalizing index with
  | nil => simp [checkParts]
  | cons part rest ih =>
      have hleaf : part.IsLeaf ↔ part.isCompound = false ∧ part.condition.isNone = false := by
        rw [Rule.isCompound, Bool.not_eq_false', List.isEmpty_iff, Option.isNone_eq_false_iff,
          Option.isSome_iff_exists]
        exact ⟨fun h => ⟨h.parts, h.condition⟩, fun h => ⟨h.2, h.1⟩⟩
      rw [checkParts, ite_error_eq_ok_iff, ite_error_eq_ok_iff, ih, List.forall_mem_cons, hleaf,
        Bool.not_eq_true, Bool.not_eq_true, and_assoc]

theorem checkLaterRelations_eq_ok_iff {index : Nat} {parts : List Rule} :
    checkLaterRelations index parts = .ok () ↔
      ∀ part ∈ parts, ∃ relation, part.relation = some relation := by
  induction parts generalizing index with
  | nil => simp [checkLaterRelations]
  | cons part rest ih =>
      rw [checkLaterRelations, ite_error_eq_ok_iff, ih, List.forall_mem_cons, Bool.not_eq_true,
        Option.isNone_eq_false_iff, Option.isSome_iff_exists]

theorem checkStructure_eq_ok_iff :
    checkStructure r = .ok () ↔
      (r.condition = none ∨ r.parts = []) ∧ ∀ part ∈ r.parts, part.IsLeaf := by
  rw [checkStructure, ite_error_eq_ok_iff, checkParts_eq_ok_iff, Rule.isCompound]
  refine and_congr_left fun _ => ?_
  cases r.condition <;> simp

theorem checkRelations_eq_ok_iff :
    checkRelations r = .ok () ↔ ∀ first rest, r.parts = first :: rest → first.relation = none ∧
      ∀ part ∈ rest, ∃ relation, part.relation = some relation := by
  rw [checkRelations]
  cases hparts : r.parts with
  | nil => simp
  | cons first rest =>
      dsimp only
      rw [ite_error_eq_ok_iff, checkLaterRelations_eq_ok_iff, Bool.not_eq_true,
        Option.isSome_eq_false_iff, Option.isNone_iff_eq_none]
      simp

/-- **The shape of a tree** is right if the tree is not empty and its structure and relations
pass. -/
theorem wellShaped_iff :
    r.WellShaped ↔ r.isEmpty = false ∧ checkStructure r = .ok () ∧ checkRelations r = .ok () := by
  rw [checkStructure_eq_ok_iff, checkRelations_eq_ok_iff]
  constructor
  · rintro (⟨⟨c, hcondition⟩, hparts⟩ | ⟨hcondition, hleaves, first, rest, hparts, hrelations⟩)
    · simp [Rule.isEmpty, hcondition, hparts]
    · refine ⟨by simp [Rule.isEmpty, hparts], ⟨.inl hcondition, hleaves⟩, ?_⟩
      intro first' rest' hparts'
      rw [hparts] at hparts'
      cases hparts'
      exact hrelations
  · rintro ⟨hempty, ⟨hexclusive, hleaves⟩, hrelations⟩
    cases hparts : r.parts with
    | nil =>
        have hcondition : ∃ c, r.condition = some c := by
          rw [← Option.isSome_iff_exists]
          simpa [Rule.isEmpty, hparts] using hempty
        exact .inl ⟨hcondition, hparts⟩
    | cons first rest =>
        have hnone : r.condition = none := hexclusive.resolve_right (by simp [hparts])
        exact .inr ⟨hnone, hleaves, first, rest, hparts, hrelations first rest hparts⟩

/-! ## Conditions -/

theorem isBlank_eq_false_iff {value : FixedValue} : value.isBlank = false ↔ value.IsGiven := by
  cases value <;> simp [FixedValue.isBlank, FixedValue.IsGiven]

theorem isPercent_iff {value : FixedValue} : isPercent value = true ↔ value.IsPercentage := by
  rw [isPercent, FixedValue.IsPercentage]
  cases hnumber : value.asNumber? with
  | none => simp
  | some x => simp [Percent.isPercentage_iff]

theorem isPattern_iff [PatternEngine] {value : FixedValue} :
    isPattern value = true ↔ value.IsPattern := by
  cases value <;> simp [isPattern, FixedValue.asString?, FixedValue.IsPattern]

theorem checkBlanks_eq_ok_iff :
    checkBlanks c = .ok () ↔ Text.isBlank c.freeArg.name = false ∧
      Text.isBlank c.operation = false ∧ (¬Operation.Equal c.operation Operation.present →
        ∃ value, c.fixedArg = some value ∧ value.IsGiven) := by
  have huses : c.uses Operation.present = true ↔
      Operation.Equal c.operation Operation.present := Operation.same_iff
  simp only [checkBlanks, ite_error_eq_ok_iff, Bool.not_eq_true, ← huses]
  refine and_congr_right fun _ => and_congr_right fun _ => ?_
  cases c.uses Operation.present with
  | true => simp
  | false =>
      cases c.fixedArg with
      | none => simp
      | some value => simp [← isBlank_eq_false_iff]

theorem checkValue_eq_ok_iff [PatternEngine] :
    checkValue c = .ok () ↔ ∀ value, c.fixedArg = some value →
      (Operation.Equal c.operation Operation.percent → value.IsPercentage) ∧
      (Operation.Equal c.operation Operation.like → value.IsPattern) ∧ value.IsDistinct := by
  have hdistinct : ∀ value : FixedValue,
      repeatedItems (value.asCollection?.getD []) = [] ↔ value.IsDistinct := fun value => by
    rw [repeatedItems_eq_nil_iff]
    cases value <;> simp [FixedValue.asCollection?, FixedValue.IsDistinct]
  have hpercent : c.uses Operation.percent = true ↔
      Operation.Equal c.operation Operation.percent := Operation.same_iff
  have hlike : c.uses Operation.like = true ↔
      Operation.Equal c.operation Operation.like := Operation.same_iff
  rw [checkValue]
  cases c.fixedArg with
  | none => simp
  | some value =>
      simp only [ite_error_eq_ok_iff, Option.some.injEq, forall_eq', ← isPercent_iff,
        ← isPattern_iff, ← hdistinct, ← hpercent, ← hlike]
      cases c.uses Operation.percent <;> cases c.uses Operation.like <;>
        cases repeatedItems (value.asCollection?.getD []) <;> simp

theorem checkCondition_eq_ok_iff_wellFormed [PatternEngine] :
    checkCondition allowed c = .ok () ↔ c.WellFormed allowed := by
  rw [checkCondition_eq_ok_iff, checkBlanks_eq_ok_iff, Operation.isAllowed_iff,
    checkValue_eq_ok_iff]
  constructor
  · rintro ⟨⟨hnamed, hoperated, hcompared⟩, hallowed, hvalue⟩
    exact ⟨hnamed, hoperated, hallowed, hcompared, fun huses value hv => (hvalue value hv).1 huses,
      fun huses value hv => (hvalue value hv).2.1 huses, fun value hv => (hvalue value hv).2.2⟩
  · intro h
    exact ⟨⟨h.named, h.operated, h.compared⟩, h.allowed, fun value hv =>
      ⟨fun huses => h.percentage huses value hv, fun huses => h.pattern huses value hv,
        h.distinct value hv⟩⟩

/-! ## Trees -/

/-- **A tree is accepted** exactly if it is well formed. -/
theorem validateRule_eq_ok_iff_wellFormed [PatternEngine] (r : Rule) (allowed : List String) :
    validateRule r allowed = .ok () ↔ r.WellFormed allowed := by
  rw [validateRule_eq_ok_iff, duplicateConditions_eq_nil_iff]
  simp only [checkCondition_eq_ok_iff_wellFormed, Rule.mem_conditions_iff]
  constructor
  · rintro ⟨hempty, hstructure, hrelations, hconditions, hdistinct⟩
    exact ⟨wellShaped_iff.2 ⟨hempty, hstructure, hrelations⟩, hconditions, hdistinct⟩
  · rintro ⟨hshaped, hconditions, hdistinct⟩
    obtain ⟨hempty, hstructure, hrelations⟩ := wellShaped_iff.1 hshaped
    exact ⟨hempty, hstructure, hrelations, hconditions, hdistinct⟩

end Validation

end Rulebook
