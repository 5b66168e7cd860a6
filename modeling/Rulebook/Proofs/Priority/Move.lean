import Mathlib.Data.List.Perm.Basic
import Rulebook.Priority.Reorder
import Rulebook.Proofs.Priority.Order

/-!
# Rulebook.Proofs.Priority.Move

What a move does, position by position.

A move takes the item at position `source` out of a list and puts it in at position `target`.  Seen
from the result, position `i` then holds the item of position `origin source target i`.  `Moved`
says that, together with the new priorities and the altered part, and nothing about how spans are
turned:

* `moved_of_move` — a move that succeeds is of this form, and `move_eq_error_iff` — when it fails;
* `Moved.map_key` — the identifiers are relocated;
* `Moved.dense` — a list that was dense but for the moved item is dense.
-/

namespace Rulebook.Priority

open Prioritized

variable {α : Type} [Prioritized α] {β : Type}

/-! ## Relocation -/

/-- The list with the item of one position taken out and put in at another. -/
def relocate (l : List β) (source target : Nat) : List β :=
  match l[source]? with
  | some a => (l.eraseIdx source).insertIdx target a
  | none => l

/-- The position from which the item at position `i` has come. -/
def origin (source target i : Nat) : Nat :=
  if i = target then source
  else if source < target ∧ source ≤ i ∧ i < target then i + 1
  else if target < source ∧ target < i ∧ i ≤ source then i - 1
  else i

theorem getElem?_relocate {l : List β} {source target : Nat} (hs : source < l.length)
    (ht : target < l.length) (i : Nat) :
    (relocate l source target)[i]? = l[origin source target i]? := by
  have hlength : (l.eraseIdx source).length = l.length - 1 := List.length_eraseIdx_of_lt hs
  rw [relocate, List.getElem?_eq_getElem hs]
  dsimp only
  rcases Nat.lt_trichotomy i target with hlt | rfl | hgt
  · rw [List.getElem?_insertIdx_of_lt hlt, List.getElem?_eraseIdx]
    split
    · have horigin : origin source target i = i := by unfold origin; split <;> grind
      rw [horigin]
    · have horigin : origin source target i = i + 1 := by unfold origin; split <;> grind
      rw [horigin]
  · have horigin : origin source i i = source := if_pos rfl
    rw [List.getElem?_insertIdx_self, if_pos (by omega), horigin, List.getElem?_eq_getElem hs]
  · rw [List.getElem?_insertIdx_of_gt hgt, List.getElem?_eraseIdx]
    split
    · have horigin : origin source target i = i - 1 := by unfold origin; split <;> grind
      rw [horigin]
    · have horigin : origin source target i = i - 1 + 1 := by unfold origin; split <;> grind
      rw [horigin]

/-- Relocation keeps every item. -/
theorem relocate_perm {l : List β} {source target : Nat} (ht : target < l.length) :
    (relocate l source target).Perm l := by
  rw [relocate]
  split
  · next a ha =>
      obtain ⟨hs, rfl⟩ := List.getElem?_eq_some_iff.1 ha
      have hlength : (l.eraseIdx source).length = l.length - 1 := List.length_eraseIdx_of_lt hs
      exact (List.perm_insertIdx _ _ (by omega)).trans (List.getElem_cons_eraseIdx_perm hs)
  · exact .refl l

theorem length_relocate {l : List β} {source target : Nat} (ht : target < l.length) :
    (relocate l source target).length = l.length :=
  (relocate_perm ht).length_eq

/-! ## Spans -/

theorem getElem?_number (index : Nat) (items : List α) (i : Nat) :
    (number index items)[i]? = items[i]?.map fun a => withPriority a (ofCount (index + i + 1)) := by
  induction items generalizing index i with
  | nil => simp [number]
  | cons a rest ih =>
      cases i with
      | zero => simp [number]
      | succ i =>
          have hindex : index + 1 + i + 1 = index + (i + 1) + 1 := by omega
          rw [number, List.getElem?_cons_succ, ih, List.getElem?_cons_succ, hindex]

theorem length_number (index : Nat) (items : List α) :
    (number index items).length = items.length := by
  induction items generalizing index with
  | nil => rfl
  | cons a rest ih => rw [number, List.length_cons, ih, List.length_cons]

theorem length_turn (source target : Nat) (span : List β) :
    (turn source target span).length = span.length := by
  unfold turn
  split
  · cases span <;> simp [firstToLast]
  · split
    · cases span with
      | nil => rfl
      | cons a rest => simp [lastToFirst, List.getLast?_cons]
    · rfl

/-- In a span that reaches from one of the positions to the other, the turn is the relocation. -/
theorem getElem?_turn {source target : Nat} {span : List β}
    (h : span.length = max source target - min source target + 1) (i : Nat) (hi : i < span.length) :
    (turn source target span)[i]? =
      span[origin source target (min source target + i) - min source target]? := by
  unfold turn
  split
  · next hlt =>
      cases span with
      | nil => simp at hi
      | cons a rest =>
          rw [List.length_cons] at h hi
          have hlow : min source target = source := by omega
          rw [firstToLast, hlow]
          by_cases hlast : i = rest.length
          · have horigin : origin source target (source + i) - source = 0 := by
              unfold origin
              split <;> omega
            rw [horigin, hlast, List.getElem?_concat_length, List.getElem?_cons_zero]
          · have horigin : origin source target (source + i) - source = i + 1 := by
              unfold origin
              repeat' split
              all_goals omega
            rw [horigin, List.getElem?_append_left (by omega), List.getElem?_cons_succ]
  · split
    · next hlt =>
        have hlow : min source target = target := by omega
        have hne : span ≠ [] := List.ne_nil_of_length_pos (by omega)
        rw [lastToFirst, List.getLast?_eq_some_getLast hne, Option.toList_some, hlow]
        cases i with
        | zero =>
            have horigin : origin source target (target + 0) - target = span.length - 1 := by
              unfold origin
              split <;> omega
            rw [horigin, List.singleton_append, List.getElem?_cons_zero,
              List.getLast_eq_getElem, ← List.getElem?_eq_getElem]
        | succ i =>
            have horigin : origin source target (target + (i + 1)) - target = i := by
              unfold origin
              repeat' split
              all_goals omega
            rw [horigin, List.singleton_append, List.getElem?_cons_succ, List.getElem?_dropLast,
              if_pos (by omega)]
    · next hge hle =>
        have horigin : origin source target (min source target + i) - min source target = i := by
          unfold origin
          repeat' split
          all_goals omega
        rw [horigin]

theorem getElem?_turn_span {l : List β} {source target i : Nat} (hs : source < l.length)
    (ht : target < l.length) (hi : min source target ≤ i) (hi' : i ≤ max source target) :
    (turn source target ((l.drop (min source target)).take
      (max source target - min source target + 1)))[i - min source target]? =
        l[origin source target i]? := by
  have hlength : ((l.drop (min source target)).take
      (max source target - min source target + 1)).length =
        max source target - min source target + 1 := by
    rw [List.length_take, List.length_drop]
    omega
  have horigin : min source target ≤ origin source target i ∧
      origin source target i ≤ max source target := by
    unfold origin
    repeat' split
    all_goals omega
  have hindex : min source target + (i - min source target) = i := by omega
  have hback : min source target + (origin source target i - min source target) =
      origin source target i := by omega
  rw [getElem?_turn hlength _ (by omega), hindex, List.getElem?_take_of_lt (by omega),
    List.getElem?_drop, hback]

/-- A list with the part from `low` to `high` replaced by as many items. -/
theorem getElem?_splice {l span : List β} {low high : Nat} (hlow : low ≤ high)
    (hhigh : high < l.length) (hspan : span.length = high - low + 1) (i : Nat) :
    (l.take low ++ span ++ l.drop (high + 1))[i]? =
      if low ≤ i ∧ i ≤ high then span[i - low]? else l[i]? := by
  have htake : (l.take low).length = low := by
    rw [List.length_take]
    omega
  rw [List.append_assoc]
  split
  · rw [List.getElem?_append_right (by omega), htake, List.getElem?_append_left (by omega)]
  · by_cases hi : i < low
    · rw [List.getElem?_append_left (by omega), List.getElem?_take_of_lt hi]
    · have hindex : high + 1 + (i - low - span.length) = i := by omega
      rw [List.getElem?_append_right (by omega), htake, List.getElem?_append_right (by omega),
        List.getElem?_drop, hindex]

theorem take_drop_splice {l span : List β} {low high : Nat} (hlow : low ≤ l.length)
    (hspan : span.length = high - low + 1) :
    ((l.take low ++ span ++ l.drop (high + 1)).drop low).take (high - low + 1) = span := by
  have htake : (l.take low).length = low := by
    rw [List.length_take]
    omega
  rw [List.append_assoc, List.drop_left' htake, List.take_left' hspan]

/-! ## Moves -/

/-- The result of moving the item at position `source` of a list to position `target`. -/
structure Moved (items : List α) (source target : Nat) (r : Reordered α) : Prop where
  /-- Between the two positions the items are relocated and have their positions as priorities. -/
  inside : ∀ i, min source target ≤ i → i ≤ max source target →
    r.items[i]? = items[origin source target i]?.map fun a => withPriority a (ofCount (i + 1))
  /-- Outside of them every item is as it was. -/
  outside : ∀ i, i < min source target ∨ max source target < i → r.items[i]? = items[i]?
  /-- The altered items are those between the two positions. -/
  altered : r.altered =
    (r.items.drop (min source target)).take (max source target - min source target + 1)

theorem ofCount_le (n : Nat) : ofCount n ≤ n := by
  unfold ofCount
  omega

theorem ofCount_le_largest (n : Nat) : ofCount n ≤ largest := by
  unfold ofCount
  omega

/-- The place of a request is one of the places there are. -/
theorem clamp_mem_range {n : Nat} (hn : 0 < n) (p : Int) :
    1 ≤ clamp p n ∧ clamp p n ≤ ofCount n := by
  unfold clamp ofCount largest
  split <;> omega

/-- A request within the places there are stands for itself, and any other for the last one. -/
theorem clamp_eq {n : Nat} (hn : (n : Int) ≤ largest) (p : Int) :
    clamp p n = if 1 ≤ p ∧ p ≤ n then p else (n : Int) := by
  unfold clamp ofCount
  repeat' split
  all_goals omega

/-- A move fails exactly if there is no item at the old priority. -/
theorem move_eq_error_iff {items : List α} {old new : Int} {e : OutOfRange} :
    move items old new = .error e ↔
      (old < 1 ∨ ofCount items.length < old) ∧ e = ⟨old, items.length⟩ := by
  unfold move
  split
  · next h => simp [h, eq_comm]
  · next h => simp [h]

/-- **Moves**: a move that succeeds takes the item at the old priority to the place of the new one,
whatever the priorities in the list are. -/
theorem moved_of_move {items : List α} {old new : Int} {r : Reordered α}
    (h : move items old new = .ok r) :
    (1 ≤ old ∧ old ≤ ofCount items.length) ∧
      Moved items (old - 1).toNat (clamp new items.length - 1).toNat r := by
  unfold move at h
  split at h
  · cases h
  · next hrange =>
      have hold : 1 ≤ old ∧ old ≤ ofCount items.length := by omega
      have hcount := ofCount_le items.length
      have hclamp := clamp_mem_range (n := items.length) (by omega) new
      refine ⟨hold, ?_⟩
      cases h
      generalize hs : (old - 1).toNat = source
      generalize ht : (clamp new items.length - 1).toNat = target
      have hsource : source < items.length := by omega
      have htarget : target < items.length := by omega
      have hlength : (number (min source target) (turn source target
          ((items.drop (min source target)).take
            (max source target - min source target + 1)))).length =
              max source target - min source target + 1 := by
        rw [length_number, length_turn, List.length_take, List.length_drop]
        omega
      refine ⟨fun i hi hi' => ?_, fun i hi => ?_, ?_⟩
      · have hindex : min source target + (i - min source target) = i := by omega
        rw [getElem?_splice (by omega) (by omega) hlength, if_pos ⟨hi, hi'⟩, getElem?_number,
          getElem?_turn_span hsource htarget hi hi', hindex]
      · rw [getElem?_splice (by omega) (by omega) hlength, if_neg (by omega)]
      · exact (take_drop_splice (by omega) hlength).symm

/-! ## What a move keeps -/

namespace Moved

variable {items : List α} {source target : Nat} {r : Reordered α}

/-- The altered items are those that stand between the two positions. -/
theorem mem_altered_iff (h : Moved items source target r) {a : α} :
    a ∈ r.altered ↔
      ∃ i, min source target ≤ i ∧ i ≤ max source target ∧ r.items[i]? = some a := by
  rw [h.altered, List.mem_iff_getElem?]
  simp only [List.getElem?_take, List.getElem?_drop]
  constructor
  · rintro ⟨i, hi⟩
    split at hi
    · exact ⟨min source target + i, by omega, by omega, hi⟩
    · cases hi
  · rintro ⟨i, hlow, hhigh, hi⟩
    have hindex : min source target + (i - min source target) = i := by omega
    exact ⟨i - min source target, by rw [if_pos (by omega), hindex, hi]⟩

theorem altered_sublist (h : Moved items source target r) : r.altered.Sublist r.items := by
  rw [h.altered]
  exact (List.take_sublist _ _).trans (List.drop_sublist _ _)

/-- An altered item is one from before, with a priority within the range of priorities. -/
theorem exists_of_mem_altered (h : Moved items source target r) {a : α} (ha : a ∈ r.altered) :
    ∃ b ∈ items, ∃ p, 0 ≤ p ∧ p ≤ largest ∧ a = withPriority b p := by
  obtain ⟨i, hlow, hhigh, hi⟩ := h.mem_altered_iff.1 ha
  rw [h.inside i hlow hhigh] at hi
  obtain ⟨b, hb, rfl⟩ := Option.map_eq_some_iff.1 hi
  refine ⟨b, List.mem_of_getElem? hb, ofCount (i + 1), ?_, ofCount_le_largest _, rfl⟩
  unfold ofCount largest
  omega

/-- An item that is not altered stood in the list before. -/
theorem mem_of_not_mem_altered (h : Moved items source target r) {a : α} (ha : a ∈ r.items)
    (hna : a ∉ r.altered) : a ∈ items := by
  obtain ⟨i, hi⟩ := List.mem_iff_getElem?.1 ha
  by_cases hspan : min source target ≤ i ∧ i ≤ max source target
  · exact absurd (h.mem_altered_iff.2 ⟨i, hspan.1, hspan.2, hi⟩) hna
  · rw [h.outside i (by omega)] at hi
    exact List.mem_of_getElem? hi

variable [LawfulPrioritized α]

/-- The identifiers after a move, at each position. -/
theorem map_key_getElem? (h : Moved items source target r) (i : Nat) :
    (r.items.map key)[i]? = (items.map key)[origin source target i]? := by
  rw [List.getElem?_map, List.getElem?_map]
  by_cases hi : min source target ≤ i ∧ i ≤ max source target
  · rw [h.inside i hi.1 hi.2, Option.map_map]
    congr 1
    funext a
    simp
  · have horigin : origin source target i = i := by
      unfold origin
      repeat' split
      all_goals omega
    rw [h.outside i (by omega), horigin]

/-- A move relocates the identifiers. -/
theorem map_key (h : Moved items source target r) (hs : source < items.length)
    (ht : target < items.length) : r.items.map key = relocate (items.map key) source target := by
  refine List.ext_getElem? fun i => ?_
  rw [h.map_key_getElem?, getElem?_relocate (by simpa using hs) (by simpa using ht)]

theorem length_items (h : Moved items source target r) (hs : source < items.length)
    (ht : target < items.length) : r.items.length = items.length := by
  have hkeys := congrArg List.length (h.map_key hs ht)
  rwa [length_relocate (by simpa using ht), List.length_map, List.length_map] at hkeys

/-- An item after a move is one from before, apart from its priority. -/
theorem exists_of_mem (h : Moved items source target r) {a : α} (ha : a ∈ r.items) :
    ∃ b ∈ items, ∃ p, a = withPriority b p := by
  obtain ⟨i, hi⟩ := List.mem_iff_getElem?.1 ha
  by_cases hspan : min source target ≤ i ∧ i ≤ max source target
  · rw [h.inside i hspan.1 hspan.2] at hi
    obtain ⟨b, hb, rfl⟩ := Option.map_eq_some_iff.1 hi
    exact ⟨b, List.mem_of_getElem? hb, _, rfl⟩
  · rw [h.outside i (by omega)] at hi
    exact ⟨a, List.mem_of_getElem? hi, priority a, by simp⟩

/-- A list in which every item but the moved one had its position as priority is dense after the
move. -/
theorem dense (h : Moved items source target r) (hs : source < items.length)
    (ht : target < items.length) (hn : (items.length : Int) ≤ largest)
    (hitems : ∀ i, i ≠ source → ∀ a, items[i]? = some a → priority a = (i : Int) + 1) :
    Dense r.items := by
  intro i a ha
  obtain ⟨hi, -⟩ := List.getElem?_eq_some_iff.1 ha
  rw [h.length_items hs ht] at hi
  by_cases hspan : min source target ≤ i ∧ i ≤ max source target
  · rw [h.inside i hspan.1 hspan.2] at ha
    obtain ⟨b, -, rfl⟩ := Option.map_eq_some_iff.1 ha
    rw [LawfulPrioritized.priority_withPriority, ofCount]
    omega
  · rw [h.outside i (by omega)] at ha
    exact hitems i (by omega) a ha

end Moved

end Rulebook.Priority
