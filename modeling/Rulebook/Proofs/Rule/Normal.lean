import Mathlib
import Rulebook.Rule.Basic

/-!
# Rulebook.Proofs.Rule.Normal

The normal form of a rule tree, and equality of trees.

Normalising trims Unicode white space and writes ASCII letters in upper case.  The two do not get in
each other's way, since no letter is white space in either case (`trim_upperAscii`), so a second
time nothing is left to do:

* `normalize_normalize` — a tree in normal form is its own normal form;
* `normalize_of_mem_conditions` — its conditions are in normal form too;
* `eq_of_uses` — an operation in normal form is spelled as the one that it is the same as;
* `same_comm` — equality up to the values of numbers is symmetric.
-/

namespace Rulebook

/-! ## Letter case and white space -/

namespace Text

theorem upperAscii_upperAscii (s : String) : upperAscii (upperAscii s) = upperAscii s := by
  simp [upperAscii, Function.comp_def]

/-- A letter is no white space, in lower or in upper case. -/
theorem isBlankChar_toUpper (c : Char) : isBlankChar c.toUpper = isBlankChar c := by
  by_cases h : c.isLower
  · have hrange : 97 ≤ c.toNat ∧ c.toNat ≤ 122 := by
      simpa [Char.isLower, UInt32.le_iff_toNat_le] using h
    have hupper : c.toUpper.toNat = c.toNat - 32 := by
      rw [Char.toUpper_eq_of_isLower h, Char.toNat_ofNat, if_pos (.inl (by omega))]
    simp only [isBlankChar, hupper]
    grind
  · rw [Char.toUpper_eq_of_not_isLower h]

theorem trimChars_map_toUpper (cs : List Char) :
    trimChars (cs.map Char.toUpper) = (trimChars cs).map Char.toUpper := by
  have hcomp : isBlankChar ∘ Char.toUpper = isBlankChar := funext isBlankChar_toUpper
  rw [trimChars, List.dropWhile_map, hcomp, ← List.map_reverse, List.dropWhile_map, hcomp,
    ← List.map_reverse, trimChars]

theorem trim_upperAscii (s : String) : trim (upperAscii s) = upperAscii (trim s) := by
  rw [trim, upperAscii, String.toList_ofList, trimChars_map_toUpper, upperAscii, trim,
    String.toList_ofList]

/-- Texts that are equal when letter case is ignored are equal in upper case. -/
theorem upperAscii_eq_of_sameIgnoringCase {s t : String} (h : sameIgnoringCase s t = true) :
    upperAscii s = upperAscii t := by
  have hupper : ∀ cs : List Char,
      (cs.map Char.toLower).map Char.toUpper = cs.map Char.toUpper := by simp
  rw [upperAscii, ← hupper, beq_iff_eq.1 h, hupper, upperAscii]

end Text

/-! ## Conditions -/

namespace Condition

theorem normalize_normalize (c : Condition) : c.normalize.normalize = c.normalize := by
  simp only [normalize, Text.trim_trim, Text.trim_upperAscii, Text.upperAscii_upperAscii]

example : ({ freeArg := { name := " env " }, operation := " exists\t" } : Condition).normalize =
    ({ name := "env" } : FreeArg).present := by decide +kernel

/-- In normal form, an operation is in upper case. -/
theorem upperAscii_operation {c : Condition} (h : c.normalize = c) :
    Text.upperAscii c.operation = c.operation := by
  rw [← h]
  exact Text.upperAscii_upperAscii _

/-- In normal form, an operation is spelled as the one in upper case that it is the same as. -/
theorem eq_of_uses {c : Condition} (h : c.normalize = c) {operation : String}
    (hupper : Text.upperAscii operation = operation) (huses : c.uses operation = true) :
    c.operation = operation := by
  rw [← upperAscii_operation h, Text.upperAscii_eq_of_sameIgnoringCase huses, hupper]

end Condition

/-! ## Trees -/

namespace Rule

mutual

/-- **Normalising once is enough**, whatever the depth of the tree. -/
theorem normalize_normalize : ∀ r : Rule, r.normalize.normalize = r.normalize
  | ⟨negated, relation, condition, parts⟩ => by
      have hparts := normalizeParts_normalizeParts parts
      cases condition <;> simp [normalize, hparts, Condition.normalize_normalize]

theorem normalizeParts_normalizeParts :
    ∀ parts : List Rule, normalizeParts (normalizeParts parts) = normalizeParts parts
  | [] => rfl
  | part :: rest => by
      simp only [normalizeParts, normalize_normalize part, normalizeParts_normalizeParts rest]

end

mutual

/-- The conditions of the normal form are the normal forms of the conditions. -/
theorem conditions_normalize : ∀ r : Rule,
    r.normalize.conditions = r.conditions.map Condition.normalize
  | ⟨negated, relation, condition, parts⟩ => by
      have hparts := partsConditions_normalizeParts parts
      cases condition <;> simp [normalize, conditions, hparts]

theorem partsConditions_normalizeParts : ∀ parts : List Rule,
    partsConditions (normalizeParts parts) = (partsConditions parts).map Condition.normalize
  | [] => rfl
  | part :: rest => by
      simp only [normalizeParts, partsConditions, conditions_normalize part,
        partsConditions_normalizeParts rest, List.map_append]

end

theorem normalize_of_mem_conditions {r : Rule} (h : r.normalize = r) {c : Condition}
    (hc : c ∈ r.conditions) : c.normalize = c := by
  rw [← h, conditions_normalize] at hc
  obtain ⟨d, -, rfl⟩ := List.mem_map.1 hc
  exact d.normalize_normalize

end Rule

/-! ## Equality -/

theorem Number.same_comm (a b : Number) : a.same b = b.same a := by
  unfold same compareBy
  cases a.key? <;> cases b.key? <;> simp [eq_comm]

theorem FixedValue.same_comm (a b : FixedValue) : a.same b = b.same a := by
  cases a <;> cases b <;> simp [same, Number.same_comm, Bool.beq_comm]

theorem Condition.same_comm (c d : Condition) : c.same d = d.same c := by
  unfold same
  rw [Bool.beq_comm (a := c.freeArg), Bool.beq_comm (a := c.operation)]
  cases c.fixedArg <;> cases d.fixedArg <;> simp [FixedValue.same_comm]

namespace Rule

theorem sameCondition_comm (c d : Option Condition) : sameCondition c d = sameCondition d c := by
  cases c <;> cases d <;> simp [sameCondition, Condition.same_comm]

mutual

theorem same_comm : ∀ r r' : Rule, r.same r' = r'.same r
  | ⟨negated, relation, condition, parts⟩, ⟨negated', relation', condition', parts'⟩ => by
      rw [same, same, Bool.beq_comm (a := negated), Bool.beq_comm (a := relation),
        sameCondition_comm, sameParts_comm parts parts']

theorem sameParts_comm : ∀ parts parts' : List Rule,
    sameParts parts parts' = sameParts parts' parts
  | [], [] => rfl
  | [], _ :: _ => rfl
  | _ :: _, [] => rfl
  | part :: rest, part' :: rest' => by
      rw [sameParts, sameParts, same_comm part part', sameParts_comm rest rest']

end

end Rule

end Rulebook
