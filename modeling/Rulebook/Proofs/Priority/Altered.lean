import Rulebook.Proofs.Priority.Packing
import Rulebook.Record.FirmwareRule

/-!
# Rulebook.Proofs.Priority.Altered

What a change of a dense scope reports.

Callers give the items of a scope in any order, and store no more than the items that a change
reports as altered.  `Reported` says that this is neither too little nor too much: the altered
items, written over the others by their identifiers, make up the list after the change; and apart
from the item that is added, replaced or moved, they are exactly those whose priority is another
than before, by one.

* `Numbered.dense_sort` — items numbered from one up, in whatever order, are dense when sorted;
* `Rewrite.merge_perm` — writing items over others by their identifiers;
* `Acting.exists_reported` — one move;
* `exists_reported_of_numbered` — adding, updating and moving.
-/

namespace Rulebook.Priority

open Prioritized

variable {α : Type} [Prioritized α]

/-! ## Numbered items -/

/-- The identifiers are distinct and the priorities are the numbers from one up, in whatever order
the items are given. -/
structure Numbered (items : List α) : Prop where
  nodup : (items.map key).Nodup
  priorities : (items.map priority).Perm
    ((List.range items.length).map fun i : Nat => (i : Int) + 1)

theorem priority_le_of_precedes {a b : α} (h : precedes a b = true) :
    priority a ≤ priority b := by
  simp only [precedes, Bool.or_eq_true, decide_eq_true_eq, Bool.and_eq_true, beq_iff_eq] at h
  omega

/-- Numbered items are dense when they are sorted. -/
theorem Numbered.dense_sort {items : List α} (h : Numbered items) : Dense (sort items) := by
  have hperm : ((sort items).map priority).Perm
      ((List.range items.length).map fun i : Nat => (i : Int) + 1) :=
    ((sort_perm items).map priority).trans h.priorities
  have hsorted : ((sort items).map priority).Pairwise (· ≤ ·) := by
    have hpairs := (pairwise_sort items).imp priority_le_of_precedes
    simpa [List.pairwise_map] using hpairs
  have hnumbers : ((List.range items.length).map fun i : Nat => (i : Int) + 1).Pairwise
      (· ≤ ·) := by
    have hpairs := List.pairwise_le_range (n := items.length)
    simpa [List.pairwise_map] using hpairs
  rw [dense_iff_map_priority, (sort_perm items).length_eq]
  exact hperm.eq_of_pairwise (fun a b _ _ => Int.le_antisymm) hsorted hnumbers

/-- In numbered items an item stands, once they are sorted, at its priority. -/
theorem Numbered.getElem?_sort {items : List α} (h : Numbered items) {a : α} (ha : a ∈ items) :
    ∃ j : Nat, (sort items)[j]? = some a ∧ priority a = (j : Int) + 1 := by
  obtain ⟨hlow, -, hj⟩ := h.dense_sort.getElem?_eq (mem_sort.2 ha)
  exact ⟨(priority a - 1).toNat, hj, by omega⟩

theorem Numbered.exists_priority_eq {items : List α} (h : Numbered items) {p : Int} (hlow : 1 ≤ p)
    (hhigh : p ≤ items.length) : ∃ a ∈ items, priority a = p := by
  have hp : p ∈ items.map priority := by
    refine h.priorities.mem_iff.2 (List.mem_map.2 ⟨(p - 1).toNat, ?_, by omega⟩)
    exact List.mem_range.2 (by omega)
  exact List.mem_map.1 hp

/-! ## Writing items over others -/

/-- The items with those of `written` over them: an item of the same identifier is replaced, and
those with a new one are added. -/
def merge (items written : List α) : List α :=
  items.map (overwrite written) ++ written.filter fun a => key a ∉ items.map key

/-- What is rewritten in part is the whole list, up to its order. -/
theorem Rewrite.merge_perm {before after written : List α}
    (h : Rewrite before after written) (hnodup : (before.map key).Nodup) :
    (merge before written).Perm after := by
  -- an item from before turns into the one of its identifier that there is after the change
  have hover : ∀ a ∈ before, overwrite written a ∈ after ∧ key (overwrite written a) = key a := by
    intro a ha
    obtain ⟨c, hc, hkey⟩ := mem_map_key_iff.1 (h.covers a ha)
    rw [h.overwrite_eq hnodup ha hc hkey]
    exact ⟨hc, hkey⟩
  have hkeys : (before.map (overwrite written)).map key = before.map key := by
    rw [List.map_map]
    exact List.map_congr_left fun a ha => (hover a ha).2
  have hnodup' : ((merge before written).map key).Nodup := by
    rw [merge, List.map_append, hkeys, List.nodup_append]
    refine ⟨hnodup, h.nodup_written.sublist (List.filter_sublist.map key), ?_⟩
    grind
  refine (List.perm_ext_iff_of_nodup (List.Nodup.of_map key hnodup')
    (List.Nodup.of_map key h.nodup)).2 fun c => ?_
  constructor
  · intro hc
    cases List.mem_append.1 hc with
    | inl hold =>
        obtain ⟨a, ha, rfl⟩ := List.mem_map.1 hold
        exact (hover a ha).1
    | inr hnew => exact h.wanted.subset (List.mem_filter.1 hnew).1
  · intro hc
    by_cases hkey : key c ∈ before.map key
    · obtain ⟨a, ha, hac⟩ := mem_map_key_iff.1 hkey
      have hval := h.overwrite_eq hnodup ha hc hac.symm
      exact List.mem_append_left _ (List.mem_map.2 ⟨a, ha, hval⟩)
    · have hwritten : c ∈ written := by
        by_contra hnot
        exact hkey (List.mem_map_of_mem (h.kept c hc hnot))
      exact List.mem_append_right _ (List.mem_filter.2 ⟨hwritten, by simpa using hkey⟩)

/-! ## Reports -/

/-- The report of a change that puts `item`, new or not, at the place of a requested priority. -/
structure Reported (items : List α) (item : α) (requested : Int) (r : Reordered α) : Prop where
  /-- After the change the list is dense. -/
  dense : Dense r.items
  /-- The altered items are enough to store. -/
  sufficient : (merge items r.altered).Perm r.items
  /-- None of them is reported twice. -/
  once : r.altered.Sublist r.items
  /-- The item itself is one of them, at its new place. -/
  own : withPriority item (clamp requested r.items.length) ∈ r.altered
  /-- The others are those whose priority is another than before, by one. -/
  others : ∀ a ∈ r.items, key a ≠ key item → ∃ b ∈ items, a = withPriority b (priority a) ∧
    (a ∈ r.altered ↔ priority a ≠ priority b) ∧
    (a ∈ r.altered → priority a = priority b + 1 ∨ priority a = priority b - 1)

variable [LawfulPrioritized α]

namespace Acting

variable {scope list items : List α} {item : α} {j target : Nat} {r : Reordered α}

/-- In a dense scope, every item that makes room for another one changes its priority by one. -/
theorem exists_before (h : Acting scope list item j) (hscope : Dense scope)
    (hmoved : Moved list j target r) (ht : target < list.length)
    (hn : (list.length : Int) ≤ largest) {a : α} (ha : a ∈ r.items) (hne : key a ≠ key item) :
    ∃ b ∈ scope, a = withPriority b (priority a) ∧ (a ∈ r.altered ↔ priority a ≠ priority b) ∧
      (a ∈ r.altered → priority a = priority b + 1 ∨ priority a = priority b - 1) := by
  have hj := h.lt_length
  have hdense : Dense r.items :=
    hmoved.dense hj ht hn fun i hi b hb => hscope i b (by rwa [← h.others i hi])
  obtain ⟨i, hi⟩ := List.mem_iff_getElem?.1 ha
  have hplace := hdense i a hi
  by_cases hspan : min j target ≤ i ∧ i ≤ max j target
  · have haltered : a ∈ r.altered := hmoved.mem_altered_iff.2 ⟨i, hspan.1, hspan.2, hi⟩
    rw [hmoved.inside i hspan.1 hspan.2] at hi
    obtain ⟨b, hb, rfl⟩ := Option.map_eq_some_iff.1 hi
    rw [LawfulPrioritized.key_withPriority] at hne
    have horigin : origin j target i ≠ j := by
      intro heq
      rw [heq, h.here] at hb
      cases hb
      exact hne rfl
    rw [h.others _ horigin] at hb
    have hbefore := hscope _ b hb
    -- the item comes from the next position on the side of the target
    have hshift : origin j target i = i + 1 ∨ origin j target i + 1 = i := by
      unfold origin at horigin ⊢
      grind
    refine ⟨b, List.mem_of_getElem? hb, by simp, ?_, fun _ => by omega⟩
    exact ⟨fun _ => by omega, fun _ => haltered⟩
  · rw [hmoved.outside i (by omega)] at hi
    have hij : i ≠ j := by omega
    rw [h.others i hij] at hi
    have hkept : a ∉ r.altered := by
      intro hmem
      obtain ⟨i', hlow, hhigh, hi'⟩ := hmoved.mem_altered_iff.1 hmem
      have hplace' := hdense i' a hi'
      omega
    refine ⟨a, List.mem_of_getElem? hi, by simp, ?_, fun hmem => absurd hmem hkept⟩
    simp [hkept]

/-- **One move** of the acting item in a dense scope succeeds, and its report is right. -/
theorem exists_reported (h : Acting (sort items) list item j) (hitems : Numbered items)
    (hn : (list.length : Int) ≤ largest) (new : Int) :
    ∃ r, move list ((j : Int) + 1) new = .ok r ∧ Reported items item new r := by
  have hscope := hitems.dense_sort
  have hj := h.lt_length
  obtain ⟨r, hmove, a, ha, hkey⟩ := h.exists_move hn new
  obtain ⟨hold, hmoved⟩ := moved_of_move hmove
  have hcount := ofCount_le list.length
  have hclamp := clamp_mem_range (n := list.length) (by omega) new
  have hsource : ((j : Int) + 1 - 1).toNat = j := by omega
  rw [hsource] at hmoved
  have hlength := hmoved.length_items hj (by omega)
  have hrewrite : Rewrite items r.items r.altered := by
    have hsorted := h.rewrite hmove ⟨a, ha, hkey⟩
    exact ⟨hsorted.wanted, fun b hb hnot => mem_sort.1 (hsorted.kept b hb hnot),
      fun b hb => hsorted.covers b (mem_sort.2 hb), hsorted.nodup⟩
  have hown : a = withPriority item (clamp new r.items.length) := by
    rw [hlength, h.priority_eq hmove ha hkey, if_pos rfl]
  refine ⟨r, hmove, h.dense hscope hmove rfl hn, hrewrite.merge_perm hitems.nodup,
    hrewrite.wanted, hown ▸ ha, fun b hb hne => ?_⟩
  obtain ⟨c, hc, hchange⟩ := h.exists_before hscope hmoved (by omega) hn hb hne
  exact ⟨c, mem_sort.1 hc, hchange⟩

end Acting

/-! ## Changes of a scope -/

/-- **The altered items are sufficient and no more than that.**  In a scope with distinct
identifiers whose priorities are the numbers from one up, given in any order, adding an item with a
new identifier, replacing a stored one, and moving the one at a priority that there is all succeed,
with any requested priority, and report just what has to be stored. -/
theorem exists_reported_of_numbered {items : List α} (h : Numbered items)
    (hn : (items.length : Int) < largest) :
    (∀ item : α, key item ∉ items.map key →
      ∃ r, add item items = .ok r ∧ Reported items item (priority item) r) ∧
    (∀ item stored : α, stored ∈ items → key stored = key item →
      ∃ r, update item items (priority stored) = .ok r ∧
        Reported items item (priority item) r) ∧
    ∀ old new : Int, 1 ≤ old → old ≤ items.length →
      ∃ item ∈ items, priority item = old ∧
        ∃ r, change items old new = .ok r ∧ Reported items item new r := by
  have hlength := (sort_perm items).length_eq
  have hnodup := nodup_map_key_sort h.nodup
  refine ⟨fun item hnew => ?_, fun item stored hmem hkey => ?_, fun old new hlow hhigh => ?_⟩
  · have hnew' : key item ∉ (sort items).map key := by
      rwa [((sort_perm items).map key).mem_iff]
    have hextended : (sort items ++ [item]).length = items.length + 1 := by
      rw [List.length_append, hlength, List.length_singleton]
    have hold : ofCount (sort items ++ [item]).length = ((sort items).length : Int) + 1 := by
      rw [hextended, hlength, ofCount]
      omega
    rw [add, hold]
    exact (acting_append hnodup hnew').exists_reported h (by omega) (priority item)
  · obtain ⟨j, hj, hpriority⟩ := h.getElem?_sort hmem
    have hreplaced : (replace item (sort items)).length = items.length := by
      rw [← List.length_map key, map_key_replace, List.length_map, hlength]
    rw [update, withUpdated_eq (List.ne_nil_of_mem hmem), hpriority]
    exact (acting_replace hnodup hj hkey).exists_reported h (by omega) (priority item)
  · obtain ⟨item, hmem, rfl⟩ := h.exists_priority_eq hlow hhigh
    obtain ⟨j, hj, hpriority⟩ := h.getElem?_sort hmem
    refine ⟨item, hmem, rfl, ?_⟩
    rw [change, hpriority]
    exact (acting_self hnodup hj).exists_reported h (by omega) new

/-- Three rules that are not listed in the order of their priorities. -/
def shuffledRules : List FirmwareRule :=
  [{ id := "b", priority := 3 }, { id := "c", priority := 1 }, { id := "a", priority := 2 }]

/-- A rule comes second; the last rule goes in front; the first rule is asked to a place that there
is not, and becomes the last. -/
theorem reported_shuffledRules :
    (∃ r, add { id := "d", priority := 2 } shuffledRules = .ok r ∧
      Reported shuffledRules { id := "d", priority := 2 } 2 r) ∧
    (∃ r, update { id := "b", priority := 1, active := false } shuffledRules 3 = .ok r ∧
      Reported shuffledRules { id := "b", priority := 1, active := false } 1 r) ∧
    ∃ r, change shuffledRules 1 (-7) = .ok r ∧
      Reported shuffledRules { id := "c", priority := 1 } (-7) r := by
  have hlawful : LawfulPrioritized FirmwareRule := {}
  have hnumbered : Numbered shuffledRules := ⟨by decide, by decide⟩
  have ⟨hadd, hupdate, hchange⟩ := exists_reported_of_numbered hnumbered (by decide)
  refine ⟨hadd { id := "d", priority := 2 } (by decide), ?_, ?_⟩
  · exact hupdate { id := "b", priority := 1, active := false } { id := "b", priority := 3 }
      (by simp [shuffledRules]) rfl
  · obtain ⟨item, hmem, hpriority, hreported⟩ := hchange 1 (-7) (by decide) (by decide)
    have hitem : item = { id := "c", priority := 1 } := by
      simp only [shuffledRules, List.mem_cons, List.not_mem_nil, or_false] at hmem
      obtain rfl | rfl | rfl := hmem
      · cases hpriority
      · rfl
      · cases hpriority
    exact hitem ▸ hreported

end Rulebook.Priority
