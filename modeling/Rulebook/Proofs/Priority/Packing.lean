import Rulebook.Proofs.Priority.Changes

/-!
# Rulebook.Proofs.Priority.Packing

Closing the gap of a removed item, in a list with any priorities.

Packing reports the items whose priority changes, and leaves it to the caller to write them over the
others by their identifiers (`overwrite`).  Nothing is assumed of the priorities: after ties, gaps
and negative numbers too, the items that stay are numbered from one up in the order they had.

* `mem_closeGaps_iff` — what is reported: the items that do not stand at their number;
* `Rewrite.overwrite_eq` — writing the reported items makes up the list they are reported for;
* `exists_renumbers_pack` — both, for the items that stay after a removal.
-/

namespace Rulebook.Priority

open Prioritized

variable {α : Type} [Prioritized α]

/-! ## The order of a list -/

/-- The item has the lower priority, or the same one and the lower identifier. -/
def Before (a b : α) : Prop :=
  priority a < priority b ∨ priority a = priority b ∧ key a < key b

/-- Of two items with different identifiers, one is before the other if it may stand before it. -/
theorem before_of_precedes {a b : α} (h : precedes a b = true) (hne : key a ≠ key b) :
    Before a b := by
  simp only [precedes, Bool.or_eq_true, decide_eq_true_eq, Bool.and_eq_true, beq_iff_eq,
    Bool.not_eq_true', decide_eq_false_iff_not, String.not_lt] at h
  rcases h with hlt | ⟨heq, hle⟩
  · exact .inl hlt
  · by_contra hbefore
    have hle' : key b ≤ key a := String.not_lt.1 fun hlt => hbefore (.inr ⟨heq, hlt⟩)
    exact hne (String.le_antisymm hle hle')

/-- Sorted items of distinct identifiers, or some of them, are strictly in order. -/
theorem pairwise_before_of_sublist {items order : List α} (hnodup : (items.map key).Nodup)
    (h : order.Sublist (sort items)) : order.Pairwise Before := by
  have hkeys : (sort items).Pairwise fun a b => key a ≠ key b :=
    List.pairwise_map.1 (nodup_map_key_sort hnodup)
  have hboth := (pairwise_sort items).and hkeys
  exact (hboth.imp fun hab => before_of_precedes hab.1 hab.2).sublist h

/-! ## Writing items over others -/

/-- The item, or the one of the same identifier that is written over it. -/
def overwrite (written : List α) (a : α) : α :=
  (written.find? fun b => key b == key a).getD a

theorem overwrite_of_mem {written : List α} (hnodup : (written.map key).Nodup) {a b : α}
    (hb : b ∈ written) (hkey : key b = key a) : overwrite written a = b := by
  rw [overwrite]
  cases hfind : written.find? fun b => key b == key a with
  | none => exact absurd hkey (by simpa using List.find?_eq_none.1 hfind b hb)
  | some c =>
      have hc : key c = key a := by simpa using List.find?_some hfind
      exact eq_of_key_eq hnodup (List.mem_of_find?_eq_some hfind) hb (hc.trans hkey.symm)

theorem overwrite_of_not_mem {written : List α} {a : α} (h : key a ∉ written.map key) :
    overwrite written a = a := by
  have hnone : written.find? (fun b => key b == key a) = none := by
    refine List.find?_eq_none.2 fun b hb => ?_
    simpa using fun hkey => h (mem_map_key_iff.2 ⟨b, hb, hkey⟩)
  rw [overwrite, hnone, Option.getD_none]

/-- What is written over the items `before` turns each of them into its counterpart in `after`. -/
theorem Rewrite.overwrite_eq {before after written : List α} (h : Rewrite before after written)
    (hnodup : (before.map key).Nodup) {a c : α} (ha : a ∈ before) (hc : c ∈ after)
    (hkey : key c = key a) : overwrite written a = c := by
  by_cases hmem : c ∈ written
  · exact overwrite_of_mem h.nodup_written hmem hkey
  · have hid : key a ∉ written.map key := hkey ▸ h.key_not_mem hc hmem
    rw [overwrite_of_not_mem hid]
    exact eq_of_key_eq hnodup ha (h.kept c hc hmem) hkey.symm

/-! ## Renumbering -/

/-- The items `written` number the items `order` from one up, and are no more than it takes. -/
structure Renumbers (order written : List α) : Prop where
  /-- Written over the others, each item has its place as priority. -/
  numbered : ∀ (i : Nat) (a : α), order[i]? = some a →
    overwrite written a = withPriority a ((i : Int) + 1)
  /-- Only items that have another priority are written. -/
  changed : ∀ b, b ∈ written ↔ ∃ (i : Nat) (a : α), order[i]? = some a ∧
    priority a ≠ (i : Int) + 1 ∧ b = withPriority a ((i : Int) + 1)
  /-- None of them is written twice. -/
  once : (written.map key).Nodup

/-- Reported are the items whose priority is not their number. -/
theorem mem_closeGaps_iff {next : Int} {items : List α} {b : α} :
    b ∈ closeGaps next items ↔ ∃ (i : Nat) (a : α), items[i]? = some a ∧
      priority a ≠ next + i ∧ b = withPriority a (next + i) := by
  induction items generalizing next with
  | nil => simp [closeGaps]
  | cons c rest ih =>
      have hshift (i : Nat) : next + 1 + (i : Int) = next + ((i + 1 : Nat) : Int) := by omega
      have hrest : b ∈ closeGaps (next + 1) rest ↔ ∃ (i : Nat) (a : α),
          (c :: rest)[i + 1]? = some a ∧ priority a ≠ next + ((i + 1 : Nat) : Int) ∧
            b = withPriority a (next + ((i + 1 : Nat) : Int)) := by
        simp only [ih, hshift, List.getElem?_cons_succ]
      have hhead : b ∈ closeGaps next (c :: rest) ↔
          priority c ≠ next ∧ b = withPriority c next ∨ b ∈ closeGaps (next + 1) rest := by
        rw [closeGaps]
        split
        · next heq => simp [heq]
        · next hne => simp [hne]
      rw [hhead, hrest]
      constructor
      · rintro (⟨hne, hb⟩ | ⟨i, a, h⟩)
        · exact ⟨0, c, rfl, by simpa using hne, by simpa using hb⟩
        · exact ⟨i + 1, a, h⟩
      · rintro ⟨i, a, ha, hne, hb⟩
        cases i with
        | zero =>
            cases ha
            exact .inl ⟨by simpa using hne, by simpa using hb⟩
        | succ i => exact .inr ⟨i, a, ha, hne, hb⟩

variable [LawfulPrioritized α]

/-- Closing gaps numbers the items as they stand. -/
theorem renumbers_closeGaps {order : List α} (hnodup : (order.map key).Nodup) :
    Renumbers order (closeGaps 1 order) := by
  have hrewrite := rewrite_closeGaps hnodup 1
  have hplace (i : Nat) : (1 : Int) + i = (i : Int) + 1 := by omega
  refine ⟨fun i a ha => ?_, fun b => ?_, hrewrite.nodup_written⟩
  · have hclosed : (closed 1 order)[i]? = some (withPriority a ((i : Int) + 1)) := by
      rw [getElem?_closed, ha, Option.map_some, hplace]
    exact hrewrite.overwrite_eq hnodup (List.mem_of_getElem? ha) (List.mem_of_getElem? hclosed)
      (LawfulPrioritized.key_withPriority _ _)
  · simp only [mem_closeGaps_iff, hplace]

/-- **Packing** numbers the items that stay, in the order of their old priorities and identifiers.
It reports exactly those that had another number, each once, and never the removed one. -/
theorem exists_renumbers_pack {items : List α} (hnodup : (items.map key).Nodup) (id : String) :
    ∃ order : List α, order.Perm (items.filter fun a => key a != id) ∧ order.Pairwise Before ∧
      Renumbers order (pack items id) ∧ id ∉ (pack items id).map key := by
  have hsublist := List.filter_sublist (p := fun a => key a != id) (l := sort items)
  have hkeys := (nodup_map_key_sort hnodup).sublist (hsublist.map key)
  exact ⟨(sort items).filter fun a => key a != id, (sort_perm items).filter _,
    pairwise_before_of_sublist hnodup hsublist, renumbers_closeGaps hkeys,
    not_mem_map_key_pack items id⟩

end Rulebook.Priority
