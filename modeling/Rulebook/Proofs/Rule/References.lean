import Rulebook.Rule.Basic

/-!
# Rulebook.Proofs.Rule.References

What a rule tree refers to.

The strings of an operation are collected from a list of conditions.  Here is what they are without
it: a string is among them exactly if a condition of that operation, at whatever node of the tree,
compares with it, be it alone or as an item of a collection (`mem_fixedStrings_iff`).
-/

namespace Rulebook

namespace Condition

/-- The condition compares with the string, alone or as an item of a collection. -/
def Compares (c : Condition) (s : String) : Prop :=
  c.fixedArg = some (.string s) ∨ ∃ items, c.fixedArg = some (.collection items) ∧ s ∈ items

theorem mem_fixedStrings_iff {c : Condition} {s : String} :
    s ∈ c.fixedStrings ↔ c.Compares s := by
  rw [fixedStrings, Compares]
  cases hvalue : c.fixedArg with
  | none => simp
  | some value => cases value <;> simp [FixedValue.strings, eq_comm]

end Condition

namespace Rule

/-- The condition stands at a node of the tree. -/
inductive HasCondition : Rule → Condition → Prop where
  | here {r : Rule} {c : Condition} (h : r.condition = some c) : HasCondition r c
  | part {r p : Rule} {c : Condition} (hp : p ∈ r.parts) (h : HasCondition p c) : HasCondition r c

theorem conditions_eq (r : Rule) :
    r.conditions = r.condition.toList ++ r.parts.flatMap conditions := by
  obtain ⟨negated, relation, condition, parts⟩ := r
  rw [conditions, partsConditions_eq_flatMap]

mutual

theorem hasCondition_of_mem_conditions {c : Condition} : ∀ r : Rule,
    c ∈ r.conditions → r.HasCondition c
  | ⟨negated, relation, condition, parts⟩, hc => by
      rw [conditions, List.mem_append, Option.mem_toList] at hc
      rcases hc with hc | hc
      · exact .here hc
      · obtain ⟨part, hpart, hc⟩ := exists_hasCondition_of_mem_partsConditions parts hc
        exact .part hpart hc

theorem exists_hasCondition_of_mem_partsConditions {c : Condition} : ∀ parts : List Rule,
    c ∈ partsConditions parts → ∃ part ∈ parts, part.HasCondition c
  | [], hc => by cases hc
  | part :: rest, hc => by
      rw [partsConditions, List.mem_append] at hc
      rcases hc with hc | hc
      · exact ⟨part, List.mem_cons_self, hasCondition_of_mem_conditions part hc⟩
      · obtain ⟨p, hp, hc⟩ := exists_hasCondition_of_mem_partsConditions rest hc
        exact ⟨p, List.mem_cons_of_mem part hp, hc⟩

end

/-- The conditions that are listed are those of all nodes. -/
theorem mem_conditions_iff {r : Rule} {c : Condition} : c ∈ r.conditions ↔ r.HasCondition c := by
  refine ⟨hasCondition_of_mem_conditions r, fun h => ?_⟩
  induction h with
  | here h =>
      rw [conditions_eq, h]
      exact List.mem_append_left _ List.mem_cons_self
  | part hp h ih =>
      rw [conditions_eq]
      exact List.mem_append_right _ (List.mem_flatMap_of_mem hp ih)

/-- **The strings of an operation** are those that its conditions compare with, at any node. -/
theorem mem_fixedStrings_iff {r : Rule} {operation s : String} :
    s ∈ r.fixedStrings operation ↔
      ∃ c, r.HasCondition c ∧ c.uses operation = true ∧ c.Compares s := by
  simp only [fixedStrings, List.mem_flatMap, List.mem_filter, mem_conditions_iff,
    Condition.mem_fixedStrings_iff, and_assoc]

/-- A condition of `IN_LIST`, at whatever node of the tree, compares with the identifier of the
list. -/
def RefersTo (r : Rule) (list : String) : Prop :=
  ∃ c, r.HasCondition c ∧ c.uses Operation.inList = true ∧ c.Compares list

end Rule

end Rulebook
