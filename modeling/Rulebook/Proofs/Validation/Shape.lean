import Rulebook.Proofs.Codec.Rule
import Rulebook.Proofs.Validation.Rule

/-!
# Rulebook.Proofs.Validation.Shape

What is checked of the shape of a tree, and what of its conditions.

`Rule.mapConditions` changes the conditions of a tree and leaves its shape.  The checks of the shape
cannot tell the two trees apart, so whether the changed tree is accepted is a question of its
conditions alone:

* `checkStructure_mapConditions`, `checkRelations_mapConditions` — the shape;
* `duplicateConditions_eq_nil_iff` — no condition is found twice if no two are the same;
* `validateRule_mapConditions_iff` — a tree of the shape of an accepted one;
* `validateRule_written_iff` — a valid tree that is read back from its document.
-/

namespace Rulebook

namespace Rule

/-! ## Trees of one shape -/

mutual

/-- The tree with a function applied to all of its conditions. -/
def mapConditions (f : Condition → Condition) : Rule → Rule
  | ⟨negated, relation, condition, parts⟩ =>
    ⟨negated, relation, condition.map f, mapPartsConditions f parts⟩

def mapPartsConditions (f : Condition → Condition) : List Rule → List Rule
  | [] => []
  | part :: rest => mapConditions f part :: mapPartsConditions f rest

end

section

variable (f : Condition → Condition)

theorem mapPartsConditions_eq_map (parts : List Rule) :
    mapPartsConditions f parts = parts.map (mapConditions f) := by
  induction parts with
  | nil => rfl
  | cons part rest ih => rw [mapPartsConditions, ih, List.map_cons]

@[simp] theorem relation_mapConditions (r : Rule) : (r.mapConditions f).relation = r.relation := by
  cases r
  rw [mapConditions]

@[simp] theorem condition_mapConditions (r : Rule) :
    (r.mapConditions f).condition = r.condition.map f := by
  cases r
  rw [mapConditions]

@[simp] theorem parts_mapConditions (r : Rule) :
    (r.mapConditions f).parts = r.parts.map (mapConditions f) := by
  cases r
  rw [mapConditions, mapPartsConditions_eq_map]

@[simp] theorem isCompound_mapConditions (r : Rule) :
    (r.mapConditions f).isCompound = r.isCompound := by
  simp [isCompound]

@[simp] theorem isEmpty_mapConditions (r : Rule) : (r.mapConditions f).isEmpty = r.isEmpty := by
  simp [isEmpty]

mutual

theorem conditions_mapConditions : ∀ r : Rule,
    (r.mapConditions f).conditions = r.conditions.map f
  | ⟨negated, relation, condition, parts⟩ => by
      have hparts := partsConditions_mapPartsConditions parts
      cases condition <;> simp [mapConditions, conditions, hparts]

theorem partsConditions_mapPartsConditions : ∀ parts : List Rule,
    partsConditions (mapPartsConditions f parts) = (partsConditions parts).map f
  | [] => rfl
  | part :: rest => by
      simp only [mapPartsConditions, partsConditions, conditions_mapConditions part,
        partsConditions_mapPartsConditions rest, List.map_append]

end

end

mutual

/-- The tree as its document has it is one of the same shape. -/
theorem written_eq_mapConditions : ∀ r : Rule, r.written = r.mapConditions Condition.written
  | ⟨negated, relation, condition, parts⟩ => by
      rw [written, mapConditions, writtenParts_eq_mapPartsConditions parts]

theorem writtenParts_eq_mapPartsConditions : ∀ parts : List Rule,
    writtenParts parts = mapPartsConditions Condition.written parts
  | [] => rfl
  | part :: rest => by
      rw [writtenParts, mapPartsConditions, written_eq_mapConditions part,
        writtenParts_eq_mapPartsConditions rest]

end

end Rule

namespace Validation

variable {r : Rule} {allowed : List String} {f : Condition → Condition}

theorem checkParts_map_mapConditions (index : Nat) (parts : List Rule) :
    checkParts index (parts.map (Rule.mapConditions f)) = checkParts index parts := by
  induction parts generalizing index with
  | nil => rfl
  | cons part rest ih => simp [checkParts, ih]

theorem checkStructure_mapConditions (r : Rule) :
    checkStructure (r.mapConditions f) = checkStructure r := by
  simp [checkStructure, checkParts_map_mapConditions]

theorem checkLaterRelations_map_mapConditions (index : Nat) (parts : List Rule) :
    checkLaterRelations index (parts.map (Rule.mapConditions f)) =
      checkLaterRelations index parts := by
  induction parts generalizing index with
  | nil => rfl
  | cons part rest ih => simp [checkLaterRelations, ih]

theorem checkRelations_mapConditions (r : Rule) :
    checkRelations (r.mapConditions f) = checkRelations r := by
  rw [checkRelations, checkRelations, Rule.parts_mapConditions]
  cases r.parts with
  | nil => rfl
  | cons part rest => simp [checkLaterRelations_map_mapConditions]

/-! ## Duplicates -/

theorem duplicatesAfter_eq_nil_iff {before conditions : List Condition} :
    duplicatesAfter before conditions = [] ↔
      (∀ c ∈ conditions, ∀ d ∈ before, d.same c = false) ∧
        conditions.Pairwise fun c d => c.same d = false := by
  induction conditions generalizing before with
  | nil => simp [duplicatesAfter]
  | cons c rest ih =>
      rw [duplicatesAfter, List.forall_mem_cons, List.pairwise_cons]
      split
      · next hany =>
          obtain ⟨d, hd, hsame⟩ := List.any_eq_true.1 hany
          have hne : ¬∀ d ∈ before, d.same c = false := fun h => by simp [h d hd] at hsame
          simp [hne]
      · next hany =>
          have hnone : ∀ d ∈ before, d.same c = false := by simpa using hany
          rw [ih]
          constructor
          · rintro ⟨hbefore, hpairs⟩
            have hhead : ∀ d ∈ rest, c.same d = false :=
              fun d hd => hbefore d hd c List.mem_cons_self
            have htail : ∀ d ∈ rest, ∀ b ∈ before, b.same d = false :=
              fun d hd b hb => hbefore d hd b (List.mem_cons_of_mem c hb)
            exact ⟨⟨hnone, htail⟩, hhead, hpairs⟩
          · rintro ⟨⟨-, htail⟩, hhead, hpairs⟩
            refine ⟨fun d hd b hb => ?_, hpairs⟩
            rcases List.mem_cons.1 hb with rfl | hb
            · exact hhead d hd
            · exact htail d hd b hb

/-- **No condition is found twice** if no condition is the same as an earlier one. -/
theorem duplicateConditions_eq_nil_iff :
    duplicateConditions r = [] ↔ r.conditions.Pairwise fun c d => c.same d = false := by
  rw [duplicateConditions, duplicatesAfter_eq_nil_iff]
  simp

/-- A tree of the shape of an accepted one is accepted if its conditions are. -/
theorem validateRule_mapConditions_iff [PatternEngine] (h : validateRule r allowed = .ok ()) :
    validateRule (r.mapConditions f) allowed = .ok () ↔
      (∀ c ∈ r.conditions, checkCondition allowed (f c) = .ok ()) ∧
        r.conditions.Pairwise fun c d => (f c).same (f d) = false := by
  obtain ⟨hempty, hstructure, hrelations, -, -⟩ := validateRule_eq_ok_iff.1 h
  rw [validateRule_eq_ok_iff, Rule.isEmpty_mapConditions, checkStructure_mapConditions,
    checkRelations_mapConditions, duplicateConditions_eq_nil_iff, Rule.conditions_mapConditions,
    List.pairwise_map]
  simp [hempty, hstructure, hrelations]

/-! ## Trees that are read back -/

/-- A condition that its document does not keep whole loses what it compares with, and is then right
only if it asks for mere presence. -/
theorem checkCondition_written_iff [PatternEngine] {c : Condition}
    (h : checkCondition allowed c = .ok ()) :
    checkCondition allowed c.written = .ok () ↔
      c.IsFinite ∨ c.uses Operation.present = true := by
  by_cases hfinite : c.IsFinite
  · rw [Condition.written_of_isFinite hfinite]
    simp [h, hfinite]
  · -- All that a condition can lose is a number that is not finite, and with it the argument.
    have hlost : c.written = { c with fixedArg := none } := by
      obtain ⟨freeArg, operation, fixedArg⟩ := c
      cases fixedArg with
      | none => rfl
      | some value =>
          have hvalue : ¬value.IsFinite := fun hv => hfinite (by rintro v ⟨⟩; exact hv)
          cases value with
          | number x =>
              have hx : ¬x.isFinite = true := hvalue
              simp [Condition.written, FixedValue.written?, hx]
          | _ => exact absurd trivial hvalue
    obtain ⟨hblanks, hallowed, -⟩ := checkCondition_eq_ok_iff.1 h
    simp only [checkBlanks, ite_error_eq_ok_iff] at hblanks
    rw [checkCondition_eq_ok_iff, hlost]
    simp only [checkBlanks, checkValue, ite_error_eq_ok_iff, hblanks.1, hblanks.2.1, hallowed]
    have huses : Condition.uses { c with fixedArg := none } Operation.present =
        c.uses Operation.present := rfl
    rw [huses]
    cases c.uses Operation.present <;> simp [hfinite]

end Validation

/-- The tree is as right without the numbers that are not finite: only conditions of mere presence
have any, and no two conditions differ in them alone. -/
structure Rule.Durable (r : Rule) : Prop where
  compared : ∀ c ∈ r.conditions, c.IsFinite ∨ c.uses Operation.present = true
  distinct : r.conditions.Pairwise fun c d => c.written.same d.written = false

namespace Validation

/-- **A valid tree that is read back** from its document is valid exactly if it is durable. -/
theorem validateRule_written_iff [PatternEngine] {r : Rule} {allowed : List String}
    (h : validateRule r allowed = .ok ()) :
    validateRule r.written allowed = .ok () ↔ r.Durable := by
  have hconditions := (validateRule_eq_ok_iff.1 h).2.2.2.1
  have hcompared : (∀ c ∈ r.conditions, checkCondition allowed c.written = .ok ()) ↔
      ∀ c ∈ r.conditions, c.IsFinite ∨ c.uses Operation.present = true :=
    forall₂_congr fun c hc => checkCondition_written_iff (hconditions c hc)
  rw [Rule.written_eq_mapConditions, validateRule_mapConditions_iff h, hcompared]
  exact ⟨fun ⟨hcompared, hdistinct⟩ => ⟨hcompared, hdistinct⟩,
    fun ⟨hcompared, hdistinct⟩ => ⟨hcompared, hdistinct⟩⟩

end Validation

end Rulebook
