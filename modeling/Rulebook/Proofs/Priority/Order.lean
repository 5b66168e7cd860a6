import Mathlib.Data.List.Nodup
import Rulebook.Priority.Basic

/-!
# Rulebook.Proofs.Priority.Order

The order of a scope.

Two items of different identifiers never stand at the same place, so a list of items with distinct
identifiers has one order only, whatever order it is given in:

* `sort_eq_of_perm` — lists of the same items sort to the same list;
* `Dense` — the item at position `i` has priority `i + 1`, which is what `isDense` tests
  (`isDense_iff_dense`); a dense list is in order (`sort_eq_self_of_dense`).
-/

namespace Rulebook

/-- The laws of items: a priority that is written can be read, and nothing else is written. -/
class LawfulPrioritized (α : Type) [Prioritized α] : Prop where
  key_withPriority (a : α) (p : Int) :
    Prioritized.key (Prioritized.withPriority a p) = Prioritized.key a := by intros; rfl
  priority_withPriority (a : α) (p : Int) :
    Prioritized.priority (Prioritized.withPriority a p) = p := by intros; rfl
  withPriority_priority (a : α) :
    Prioritized.withPriority a (Prioritized.priority a) = a := by intros; rfl
  withPriority_withPriority (a : α) (p q : Int) :
    Prioritized.withPriority (Prioritized.withPriority a p) q = Prioritized.withPriority a q := by
      intros; rfl

attribute [simp] LawfulPrioritized.key_withPriority LawfulPrioritized.priority_withPriority
  LawfulPrioritized.withPriority_priority LawfulPrioritized.withPriority_withPriority

namespace Priority

open Prioritized

variable {α : Type} [Prioritized α]

/-! ## Items of distinct identifiers -/

/-- Items of a list with distinct identifiers are equal if their identifiers are. -/
theorem eq_of_key_eq {items : List α} (hnodup : (items.map key).Nodup) {a b : α} (ha : a ∈ items)
    (hb : b ∈ items) (h : key a = key b) : a = b :=
  List.inj_on_of_nodup_map hnodup ha hb h

/-- Only items of one identifier stand at the same place. -/
theorem precedes_antisymm {a b : α} (hab : precedes a b = true) (hba : precedes b a = true) :
    key a = key b := by
  simp only [precedes, Bool.or_eq_true, decide_eq_true_eq, Bool.and_eq_true, beq_iff_eq,
    Bool.not_eq_true', decide_eq_false_iff_not, String.not_lt] at hab hba
  rcases hab with hab | ⟨heq, kab⟩ <;> rcases hba with hba | ⟨heq', kba⟩
  · omega
  · omega
  · omega
  · exact String.le_antisymm kab kba

/-- Items in order that are the same up to their order are the same list. -/
theorem eq_of_perm_of_pairwise {items items' : List α} (hnodup : (items.map key).Nodup)
    (hperm : items.Perm items') (h : items.Pairwise (fun a b => precedes a b = true))
    (h' : items'.Pairwise (fun a b => precedes a b = true)) : items = items' := by
  refine hperm.eq_of_pairwise (fun a b ha hb hab hba => ?_) h h'
  exact eq_of_key_eq hnodup ha (hperm.mem_iff.2 hb) (precedes_antisymm hab hba)

/-- The order does not depend on how the items are given. -/
theorem sort_eq_of_perm {items items' : List α} (hnodup : (items.map key).Nodup)
    (h : items.Perm items') : sort items = sort items' := by
  have hperm : (sort items).Perm (sort items') :=
    (sort_perm items).trans (h.trans (sort_perm items').symm)
  have hkeys : ((sort items).map key).Nodup := (((sort_perm items).map key).nodup_iff).2 hnodup
  exact eq_of_perm_of_pairwise hkeys hperm (pairwise_sort items) (pairwise_sort items')

/-- Items in order are left alone. -/
theorem sort_eq_self {items : List α} (h : items.Pairwise (fun a b => precedes a b = true)) :
    sort items = items := by
  induction items with
  | nil => rfl
  | cons a rest ih =>
      obtain ⟨hhead, htail⟩ := List.pairwise_cons.1 h
      rw [sort, ih htail]
      cases rest with
      | nil => rfl
      | cons b rest => rw [place, if_pos (hhead b List.mem_cons_self)]

theorem sort_sort (items : List α) : sort (sort items) = sort items :=
  sort_eq_self (pairwise_sort items)

theorem mem_sort {items : List α} {a : α} : a ∈ sort items ↔ a ∈ items :=
  (sort_perm items).mem_iff

theorem nodup_map_key_sort {items : List α} (h : (items.map key).Nodup) :
    ((sort items).map key).Nodup :=
  ((sort_perm items).map key).nodup_iff.2 h

/-! ## Dense lists -/

/-- The priorities, in order, are the numbers from one up. -/
def Dense (items : List α) : Prop :=
  ∀ (i : Nat) (a : α), items[i]? = some a → priority a = (i : Int) + 1

theorem isDenseFrom_iff {items : List α} {index : Nat} :
    isDenseFrom index items = true ↔
      ∀ (i : Nat) (a : α), items[i]? = some a → priority a = ((index + i : Nat) : Int) + 1 := by
  induction items generalizing index with
  | nil => simp [isDenseFrom]
  | cons a rest ih =>
      rw [isDenseFrom, Bool.and_eq_true, beq_iff_eq, ih]
      constructor
      · rintro ⟨hhead, htail⟩ i b hb
        cases i with
        | zero => cases hb; simpa using hhead
        | succ i =>
            have := htail i b (by simpa using hb)
            omega
      · intro h
        refine ⟨by simpa using h 0 a rfl, fun i b hb => ?_⟩
        have := h (i + 1) b (by simpa using hb)
        omega

/-- The test for density is right. -/
theorem isDense_iff_dense {items : List α} : isDense items = true ↔ Dense items := by
  rw [isDense, isDenseFrom_iff]
  simp [Dense]

theorem dense_iff_map_priority {items : List α} :
    Dense items ↔
      items.map priority = (List.range items.length).map (fun i : Nat => (i : Int) + 1) := by
  constructor
  · intro h
    refine List.ext_getElem (by simp) fun i hi _ => ?_
    rw [List.length_map] at hi
    simpa using h i items[i] (List.getElem?_eq_getElem hi)
  · intro h i a ha
    obtain ⟨hi, rfl⟩ := List.getElem?_eq_some_iff.1 ha
    have := congrArg (·[i]?) h
    simpa [hi] using this

/-- A dense list is in order. -/
theorem pairwise_of_dense {items : List α} (h : Dense items) :
    items.Pairwise (fun a b => precedes a b = true) := by
  rw [List.pairwise_iff_getElem]
  intro i j hi hj hij
  have hpi := h i items[i] (List.getElem?_eq_getElem hi)
  have hpj := h j items[j] (List.getElem?_eq_getElem hj)
  have hlt : priority items[i] < priority items[j] := by omega
  simp [precedes, hlt]

theorem sort_eq_self_of_dense {items : List α} (h : Dense items) : sort items = items :=
  sort_eq_self (pairwise_of_dense h)

/-- In a dense list an item stands at its priority. -/
theorem Dense.getElem?_eq {items : List α} (h : Dense items) {a : α} (ha : a ∈ items) :
    1 ≤ priority a ∧ priority a ≤ items.length ∧ items[(priority a - 1).toNat]? = some a := by
  obtain ⟨i, hi, rfl⟩ := List.getElem_of_mem ha
  have hp := h i items[i] (List.getElem?_eq_getElem hi)
  have hindex : (priority items[i] - 1).toNat = i := by omega
  rw [hindex]
  exact ⟨by omega, by omega, List.getElem?_eq_getElem hi⟩

end Priority

end Rulebook
