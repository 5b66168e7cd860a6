import Rulebook.Proofs.Validation.WellFormed
import Rulebook.Rule.Builder

/-!
# Rulebook.Proofs.Rule.Building

Which trees the builder makes.

A tree is built from nothing or from one condition, by steps that add a condition or a leaf or
negate the tree.  What a step may meet is a node of one of three kinds: empty, a leaf, or leaves
that are joined.  Adding a leaf treats each of them in another way, and makes a node of the last
kind out of all three:

* `isJoined_push`, `conditions_push` — adding one leaf: the shape, and the conditions;
* `IsBuilt.foldl` — any steps, from any tree that the builder may have made;
* `exists_foldl_eq_append` — steps that add given leaves with given relations;
* `exists_build_iff` — the trees that are built are those of the right shape without a relation of
  their own.
-/

namespace Rulebook.Rule

open Validation

/-! ## Steps -/

/-- A step of building: a condition or a leaf is added, or the tree is negated. -/
inductive Step where
  | and (c : Condition)
  | or (c : Condition)
  | push (relation : Relation) (part : Rule) (leaf : part.IsLeaf)
  | negate

namespace Step

/-- The tree after a step. -/
def apply (r : Rule) : Step → Rule
  | .and c => r.and c
  | .or c => r.or c
  | .push relation part _ => r.push relation part
  | .negate => r.negate

/-- The condition that a step adds. -/
def condition? : Step → Option Condition
  | .and c => some c
  | .or c => some c
  | .push _ part _ => part.condition
  | .negate => none

end Step

/-- The tree of a condition, or the empty tree. -/
def start : Option Condition → Rule
  | some c => when c
  | none => {}

/-- The tree after all steps. -/
def build (first : Option Condition) (steps : List Step) : Rule :=
  steps.foldl Step.apply (start first)

/-! ## Adding a leaf -/

theorem isLeaf_when (c : Condition) : (when c).IsLeaf :=
  ⟨⟨c, rfl⟩, rfl⟩

/-- A leaf stays a leaf, however it is joined with the parts before it. -/
theorem IsLeaf.withRelation {part : Rule} (h : part.IsLeaf) (relation : Option Relation) :
    { part with relation := relation }.IsLeaf :=
  ⟨h.condition, h.parts⟩

theorem conditions_withRelation (r : Rule) (relation : Option Relation) :
    { r with relation := relation }.conditions = r.conditions := by
  simp [conditions_eq]

theorem conditions_of_isLeaf {part : Rule} (h : part.IsLeaf) :
    part.conditions = part.condition.toList := by
  simp [conditions_eq, h.parts]

theorem isEmpty_iff {r : Rule} : r.isEmpty = true ↔ r.condition = none ∧ r.parts = [] := by
  simp [isEmpty]

/-- A node that is empty gets its first part. -/
theorem push_of_isEmpty {r : Rule} (h : r.isEmpty = true) (relation : Relation) (part : Rule) :
    r.push relation part = { r with parts := [{ part with relation := none }] } := by
  have ⟨hcondition, hparts⟩ := isEmpty_iff.1 h
  simp [push, asCompound, hcondition, hparts]

/-- A leaf becomes the first of two parts, and its negation stays with it. -/
theorem push_of_isLeaf {r : Rule} (h : r.IsLeaf) (relation : Relation) (part : Rule) :
    r.push relation part =
      { parts := [{ r with relation := none }, { part with relation := some relation }] } := by
  obtain ⟨c, hcondition⟩ := h.condition
  simp [push, asCompound, hcondition, h.parts]

/-- A node with parts gets one more. -/
theorem push_of_parts_ne_nil {r : Rule} (h : r.parts ≠ []) (relation : Relation) (part : Rule) :
    r.push relation part =
      { r with parts := r.parts ++ [{ part with relation := some relation }] } := by
  simp [push, asCompound, h]

/-- The conditions of the part come last, whatever it is added to. -/
theorem conditions_push (r : Rule) (relation : Relation) (part : Rule) :
    (r.push relation part).conditions = r.conditions ++ part.conditions := by
  have hpart := conditions_withRelation part
  by_cases hleaf : r.parts.isEmpty && r.condition.isSome
  · have hself := conditions_withRelation r none
    simp [push, asCompound, hleaf, conditions_eq { parts := _ }, hself, hpart]
  · simp [push, asCompound, hleaf, conditions_eq { r with parts := _ }, conditions_eq r, hpart]

/-! ## Trees that are built -/

/-- The tree has no relation of its own, and it is empty or has one of the right shapes. -/
structure IsBuilt (r : Rule) : Prop where
  relation : r.relation = none
  shape : r.isEmpty = true ∨ r.WellShaped

theorem isBuilt_start (first : Option Condition) : (start first).IsBuilt := by
  cases first with
  | none => exact ⟨rfl, .inl rfl⟩
  | some c => exact ⟨rfl, .inr (.inl (isLeaf_when c))⟩

/-- **Adding a leaf** to a tree that was built gives parts that are joined. -/
theorem IsBuilt.isJoined_push {r part : Rule} (h : r.IsBuilt) (hpart : part.IsLeaf)
    (relation : Relation) : (r.push relation part).IsJoined := by
  obtain hempty | hleaf | hjoined := h.shape
  · rw [push_of_isEmpty hempty]
    have hcondition := (isEmpty_iff.1 hempty).1
    exact ⟨hcondition, by simpa using hpart.withRelation none, _, _, rfl, rfl, by simp⟩
  · rw [push_of_isLeaf hleaf]
    have hfirst := hleaf.withRelation none
    have hlast := hpart.withRelation (some relation)
    exact ⟨rfl, by simp [hfirst, hlast], _, _, rfl, rfl, by simp⟩
  · obtain ⟨hcondition, hleaves, first, rest, hparts, hfirst, hrest⟩ := hjoined
    rw [push_of_parts_ne_nil (by simp [hparts])]
    have hlast := hpart.withRelation (some relation)
    refine ⟨hcondition, fun p hp => ?_, first, _, by rw [hparts]; rfl, hfirst, fun p hp => ?_⟩
    · cases List.mem_append.1 hp with
      | inl hp => exact hleaves p hp
      | inr hp => rwa [List.mem_singleton.1 hp]
    · cases List.mem_append.1 hp with
      | inl hp => exact hrest p hp
      | inr hp => exact ⟨relation, by rw [List.mem_singleton.1 hp]⟩

theorem IsBuilt.push {r part : Rule} (h : r.IsBuilt) (hpart : part.IsLeaf) (relation : Relation) :
    (r.push relation part).IsBuilt := by
  have hrelation : (r.push relation part).relation = none := by
    obtain hempty | hleaf | hjoined := h.shape
    · simp [push_of_isEmpty hempty, h.relation]
    · simp [push_of_isLeaf hleaf]
    · obtain ⟨-, -, first, rest, hparts, -⟩ := hjoined
      simp [push_of_parts_ne_nil, hparts, h.relation]
  exact ⟨hrelation, .inr (.inr (h.isJoined_push hpart relation))⟩

theorem IsBuilt.negate {r : Rule} (h : r.IsBuilt) : r.negate.IsBuilt := by
  refine ⟨h.relation, ?_⟩
  obtain hempty | ⟨hcondition, hparts⟩ | ⟨hcondition, hleaves, hrelations⟩ := h.shape
  · exact .inl hempty
  · exact .inr (.inl ⟨hcondition, hparts⟩)
  · exact .inr (.inr ⟨hcondition, hleaves, hrelations⟩)

theorem IsBuilt.apply {r : Rule} (h : r.IsBuilt) : ∀ step : Step, (step.apply r).IsBuilt
  | .and c => h.push (isLeaf_when c) .and
  | .or c => h.push (isLeaf_when c) .or
  | .push relation _ leaf => h.push leaf relation
  | .negate => h.negate

/-- Every step keeps the shape, so all of them together do. -/
theorem IsBuilt.foldl {r : Rule} (h : r.IsBuilt) (steps : List Step) :
    (steps.foldl Step.apply r).IsBuilt := by
  induction steps generalizing r with
  | nil => exact h
  | cons step rest ih => exact ih (h.apply step)

/-! ## Conditions of a tree that is built -/

theorem conditions_start (first : Option Condition) : (start first).conditions = first.toList := by
  cases first <;> simp [start, when, conditions_eq]

theorem conditions_apply (r : Rule) (step : Step) :
    (step.apply r).conditions = r.conditions ++ step.condition?.toList := by
  cases step with
  | and c =>
      rw [Step.apply, Rule.and, conditions_push, conditions_of_isLeaf (isLeaf_when c)]
      rfl
  | or c =>
      rw [Step.apply, Rule.or, conditions_push, conditions_of_isLeaf (isLeaf_when c)]
      rfl
  | push relation part leaf =>
      rw [Step.apply, conditions_push, conditions_of_isLeaf leaf, Step.condition?]
  | negate => simp [Step.apply, Step.condition?, negate, conditions_eq]

theorem conditions_foldl (r : Rule) (steps : List Step) :
    (steps.foldl Step.apply r).conditions = r.conditions ++ steps.filterMap Step.condition? := by
  induction steps generalizing r with
  | nil => simp
  | cons step rest ih =>
      rw [List.foldl_cons, ih, conditions_apply]
      cases h : step.condition? <;> simp [h]

/-! ## Steps to a given tree -/

/-- The steps that negate a tree, if it is to be negated. -/
def negation (negated : Bool) : List Step :=
  if negated then [.negate] else []

theorem foldl_negation (r : Rule) (negated : Bool) (h : r.negated = false) :
    (negation negated).foldl Step.apply r = { r with negated := negated } := by
  cases negated <;> simp [negation, Step.apply, negate, h]
  -- without a step, the tree is the one that it was
  cases r
  simpa using h

/-- Leaves that each have a relation can be added behind the parts of a node. -/
theorem exists_foldl_eq_append {r : Rule} (h : r.parts ≠ []) {leaves : List Rule}
    (hleaves : ∀ part ∈ leaves, part.IsLeaf)
    (hrelations : ∀ part ∈ leaves, ∃ relation, part.relation = some relation) :
    ∃ steps : List Step,
      steps.foldl Step.apply r = { r with parts := r.parts ++ leaves } := by
  induction leaves generalizing r with
  | nil =>
      cases r
      exact ⟨[], by simp⟩
  | cons part rest ih =>
      have ⟨hpart, hrest⟩ := List.forall_mem_cons.1 hleaves
      have ⟨⟨relation, hrelation⟩, hothers⟩ := List.forall_mem_cons.1 hrelations
      have hpush : r.push relation part = { r with parts := r.parts ++ [part] } := by
        obtain ⟨negated, _, condition, parts⟩ := part
        subst hrelation
        exact push_of_parts_ne_nil h relation _
      obtain ⟨steps, hsteps⟩ := ih (r := r.push relation part) (by simp [hpush]) hrest hothers
      refine ⟨.push relation part hpart :: steps, ?_⟩
      rw [List.foldl_cons, Step.apply, hsteps, hpush]
      simp

/-- Every tree of a right shape that has no relation of its own is built by some steps. -/
theorem IsBuilt.exists_build {r : Rule} (h : r.IsBuilt) : ∃ first steps, build first steps = r := by
  obtain ⟨negated, relation, condition, parts⟩ := r
  obtain ⟨rfl, hempty | ⟨⟨c, rfl⟩, rfl⟩ | ⟨rfl, hleaves, first, rest, rfl, hfirst, hrest⟩⟩ := h
  · obtain ⟨rfl, rfl⟩ := isEmpty_iff.1 hempty
    exact ⟨none, negation negated, foldl_negation _ _ rfl⟩
  · exact ⟨some c, negation negated, foldl_negation _ _ rfl⟩
  · -- the first leaf goes into the empty tree, the others behind it, and the root is negated last
    have ⟨hleaf, hothers⟩ := List.forall_mem_cons.1 hleaves
    have hpush : Rule.push {} .and first = { parts := [first] } := by
      obtain ⟨negated, _, condition, parts⟩ := first
      subst hfirst
      exact push_of_isEmpty rfl .and _
    obtain ⟨steps, hsteps⟩ :=
      exists_foldl_eq_append (r := { parts := [first] }) (by simp) hothers hrest
    refine ⟨none, .push .and first hleaf :: (steps ++ negation negated), ?_⟩
    rw [build, List.foldl_cons, List.foldl_append, Step.apply, start, hpush, hsteps,
      foldl_negation _ _ rfl]
    rfl

/-- **The builder makes exactly the trees of the right shape.**  A tree is built, from nothing or
from a condition, by adding conditions and leaves and by negating, exactly if it has no relation of
its own and is empty or passes the checks of structure and relations; and its conditions are the one
that it was started from and those that were added, in that order. -/
theorem exists_build_iff :
    (∀ r : Rule, (∃ first steps, build first steps = r) ↔
      r.relation = none ∧
        (r.isEmpty = true ∨ checkStructure r = .ok () ∧ checkRelations r = .ok ())) ∧
    ∀ (first : Option Condition) (steps : List Step),
      (build first steps).conditions = first.toList ++ steps.filterMap Step.condition? := by
  constructor
  · intro r
    constructor
    · rintro ⟨first, steps, rfl⟩
      have hbuilt := (isBuilt_start first).foldl steps
      exact ⟨hbuilt.relation, hbuilt.shape.imp_right fun h => (wellShaped_iff.1 h).2⟩
    · rintro ⟨hrelation, hshape⟩
      have hbuilt : r.IsBuilt := by
        refine ⟨hrelation, ?_⟩
        cases hempty : r.isEmpty with
        | true => exact .inl rfl
        | false => exact .inr (wellShaped_iff.2 ⟨hempty, by simpa [hempty] using hshape⟩)
      exact hbuilt.exists_build
  · intro first steps
    rw [build, conditions_foldl, conditions_start]

end Rulebook.Rule
