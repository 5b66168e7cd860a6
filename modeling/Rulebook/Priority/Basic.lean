/-!
# Rulebook.Priority.Basic

Things with a place in an order.

A scope is a list of items, each with an identifier and a priority.  The priorities of a scope are
meant to be dense: the whole numbers from one up to the number of items, each once, so that an item
at position `i` of the sorted list has priority `i + 1`.  Nothing relies on it silently: a list
with ties and gaps is sorted by priority and then by identifier.

* `sort_perm` and `pairwise_sort` say that sorting keeps the items and puts them in order.
-/

namespace Rulebook

/-- An item with an identifier and a place in an order. -/
class Prioritized (α : Type) where
  key : α → String
  priority : α → Int
  withPriority : α → Int → α

namespace Priority

open Prioritized

variable {α : Type} [Prioritized α]

/-- The largest priority. -/
def largest : Int := 2147483647

/-- A number of items, as the priority of the last of them. -/
def ofCount (n : Nat) : Int :=
  min (n : Int) largest

/-- The first item does not have to stand behind the second: its priority is lower, or the same
and its identifier does not come later. -/
def precedes (a b : α) : Bool :=
  priority a < priority b || (priority a == priority b && !decide (key b < key a))

/-- Put an item in front of the first one that it precedes. -/
def place (a : α) : List α → List α
  | [] => [a]
  | b :: rest => if precedes a b then a :: b :: rest else b :: place a rest

/-- The items by priority, ties by identifier.  Items that are equal in both keep their order. -/
def sort : List α → List α
  | [] => []
  | a :: rest => place a (sort rest)

theorem precedes_total (a b : α) (h : precedes a b = false) : precedes b a = true := by
  simp only [precedes, Bool.or_eq_false_iff, decide_eq_false_iff_not, Bool.and_eq_false_iff,
    beq_eq_false_iff_ne, Bool.not_eq_false', decide_eq_true_eq, Int.not_lt] at h
  obtain ⟨hle, hne | hlt⟩ := h
  · have : priority b < priority a := by omega
    simp [precedes, this]
  · by_cases heq : priority b = priority a
    · simp [precedes, heq, String.lt_asymm hlt]
    · have : priority b < priority a := by omega
      simp [precedes, this]

theorem precedes_trans {a b c : α} (hab : precedes a b = true) (hbc : precedes b c = true) :
    precedes a c = true := by
  simp only [precedes, Bool.or_eq_true, decide_eq_true_eq, Bool.and_eq_true, beq_iff_eq,
    Bool.not_eq_true', decide_eq_false_iff_not, String.not_lt] at hab hbc ⊢
  rcases hab with hab | ⟨hab, kab⟩ <;> rcases hbc with hbc | ⟨hbc, kbc⟩
  · exact .inl (by omega)
  · exact .inl (by omega)
  · exact .inl (by omega)
  · exact .inr ⟨by omega, String.le_trans kab kbc⟩

theorem place_perm (a : α) (items : List α) : (place a items).Perm (a :: items) := by
  induction items with
  | nil => exact .refl _
  | cons b rest ih =>
    rw [place]
    split
    · exact .refl _
    · exact (ih.cons b).trans (.swap a b rest)

/-- Sorting keeps every item. -/
theorem sort_perm (items : List α) : (sort items).Perm items := by
  induction items with
  | nil => exact .refl _
  | cons a rest ih => exact (place_perm a (sort rest)).trans (ih.cons a)

theorem pairwise_place (a : α) {items : List α}
    (h : items.Pairwise (fun x y => precedes x y = true)) :
    (place a items).Pairwise (fun x y => precedes x y = true) := by
  induction items with
  | nil => simp [place]
  | cons b rest ih =>
    have ⟨hhead, htail⟩ := List.pairwise_cons.1 h
    rw [place]
    split
    · next hab =>
      refine List.pairwise_cons.2 ⟨fun x hx => ?_, h⟩
      rcases List.mem_cons.1 hx with hx | hx
      · exact hx ▸ hab
      · exact precedes_trans hab (hhead x hx)
    · next hab =>
      refine List.pairwise_cons.2 ⟨fun x hx => ?_, ih htail⟩
      rcases List.mem_cons.1 ((place_perm a rest).mem_iff.1 hx) with hx | hx
      · exact hx ▸ precedes_total a b (by simpa using hab)
      · exact hhead x hx

/-- Sorted items are in order. -/
theorem pairwise_sort (items : List α) :
    (sort items).Pairwise (fun x y => precedes x y = true) := by
  induction items with
  | nil => exact .nil
  | cons a rest ih => exact pairwise_place a ih

/-- The priorities from position `index` on are the positions, counted from one. -/
def isDenseFrom (index : Nat) : List α → Bool
  | [] => true
  | a :: rest => priority a == (index + 1 : Int) && isDenseFrom (index + 1) rest

/-- The priorities, in order, are exactly the numbers from one up. -/
def isDense (items : List α) : Bool :=
  isDenseFrom 0 items

end Priority

end Rulebook
