import Rulebook.Proofs.Priority.Move
import Rulebook.Record.FirmwareRule

/-!
# Rulebook.Proofs.Priority.InPlace

Moves in the list itself.

A move can be carried out on the list that holds the items, in three passes: the span between the
two positions is turned, the items at its positions are numbered, and the span is handed out.  Each
pass asks for positions of the list, and `moveInPlace?` has no result if the list does not have one
of them, or if a priority does not stand for a position at all.  That never happens:

* `turnInPlace?_eq`, `numberSpan_splice`, `span?_splice` — the passes, one by one;
* `moveInPlace?_eq` — a move in place is a move, and a move that fails leaves the list alone;
* `Moved.repositioned` — what has become of the item at every position;
* `move_repositions` — when a move fails, and what it does if it does not.
-/

namespace Rulebook.Priority

open Prioritized

variable {α : Type} [Prioritized α] {β : Type}

/-! ## Spans of a list -/

/-- The items at the positions from `low` to `high`, if the list has all of them. -/
def span? (items : List β) (low high : Nat) : Option (List β) :=
  if low ≤ high ∧ high < items.length then some ((items.drop low).take (high - low + 1)) else none

/-- The list with another order of the items from `low` to `high`, if it has all of them. -/
def onSpan? (order : List β → List β) (low high : Nat) (items : List β) : Option (List β) :=
  (span? items low high).map fun span => items.take low ++ order span ++ items.drop (high + 1)

/-- The item at one position brought to the other, and those between them moved up by one place. -/
def turnInPlace? (source target : Nat) (items : List β) : Option (List β) :=
  if source < target then onSpan? firstToLast source target items
  else if target < source then onSpan? lastToFirst target source items
  else some items

/-- The items from `low` to `high` with their positions as priorities. -/
def numberSpan (low high : Nat) (items : List α) : List α :=
  items.mapIdx fun i a => if low ≤ i ∧ i ≤ high then withPriority a (ofCount (i + 1)) else a

/-- Move the item at priority `old` of a sorted list to priority `new`, in the list itself: the
outcome, which is the altered part of the list or an error, and the list afterwards. -/
def moveInPlace? (items : List α) (old new : Int) :
    Option (Except OutOfRange (List α) × List α) :=
  if old < 1 ∨ ofCount items.length < old then some (.error ⟨old, items.length⟩, items)
  else do
    let source ← (old - 1).toNat?
    let target ← (clamp new items.length - 1).toNat?
    let turned ← turnInPlace? source target items
    let numbered := numberSpan (min source target) (max source target) turned
    let altered ← span? numbered (min source target) (max source target)
    some (.ok altered, numbered)

/-- The outcome of a move beside the list that it leaves, which is the old one if it fails. -/
def leaving (items : List α) :
    Except OutOfRange (Reordered α) → Except OutOfRange (List α) × List α
  | .ok r => (.ok r.altered, r.items)
  | .error e => (.error e, items)

/-! ## The passes -/

section Passes

variable {low high : Nat}

theorem span?_eq {items : List β} (h : low ≤ high) (hhigh : high < items.length) :
    span? items low high = some ((items.drop low).take (high - low + 1)) :=
  if_pos ⟨h, hhigh⟩

theorem onSpan?_eq {items : List β} (order : List β → List β) (h : low ≤ high)
    (hhigh : high < items.length) :
    onSpan? order low high items = some (items.take low ++
      order ((items.drop low).take (high - low + 1)) ++ items.drop (high + 1)) := by
  rw [onSpan?, span?_eq h hhigh, Option.map_some]

/-- The span from one of the positions to the other is turned. -/
theorem turnInPlace?_eq {items : List β} {source target : Nat} (hs : source < items.length)
    (ht : target < items.length) :
    turnInPlace? source target items = some (items.take (min source target) ++
      turn source target ((items.drop (min source target)).take
        (max source target - min source target + 1)) ++ items.drop (max source target + 1)) := by
  unfold turnInPlace? turn
  rcases Nat.lt_trichotomy source target with hlt | rfl | hgt
  · have hle := Nat.le_of_lt hlt
    rw [if_pos hlt, if_pos hlt, onSpan?_eq _ hle ht, Nat.min_eq_left hle, Nat.max_eq_right hle]
  · have hsplit : items.take source ++ (items.drop source).take 1 ++ items.drop (source + 1) =
        items := by
      rw [List.append_assoc, ← List.drop_drop, List.take_append_drop, List.take_append_drop]
    simp [hsplit]
  · have hle := Nat.le_of_lt hgt
    have hnot : ¬source < target := Nat.not_lt.2 hle
    rw [if_neg hnot, if_pos hgt, if_neg hnot, if_pos hgt, onSpan?_eq _ hle hs,
      Nat.min_eq_right hle, Nat.max_eq_left hle]

/-- In a list with a span put in, the items of the span are numbered. -/
theorem numberSpan_splice {l span : List α} (h : low ≤ high) (hhigh : high < l.length)
    (hspan : span.length = high - low + 1) :
    numberSpan low high (l.take low ++ span ++ l.drop (high + 1)) =
      l.take low ++ number low span ++ l.drop (high + 1) := by
  refine List.ext_getElem? fun i => ?_
  rw [numberSpan, List.getElem?_mapIdx, getElem?_splice h hhigh hspan,
    getElem?_splice h hhigh (by rw [length_number, hspan])]
  by_cases hi : low ≤ i ∧ i ≤ high
  · have hindex : low + (i - low) + 1 = i + 1 := by omega
    simp only [hi, and_self, if_true, getElem?_number, hindex]
  · simp only [hi, if_false, Option.map_id']

/-- The span that was put in is handed out. -/
theorem span?_splice {l span : List β} (h : low ≤ high) (hhigh : high < l.length)
    (hspan : span.length = high - low + 1) :
    span? (l.take low ++ span ++ l.drop (high + 1)) low high = some span := by
  have hlength : high < (l.take low ++ span ++ l.drop (high + 1)).length := by
    simp only [List.length_append, List.length_take, List.length_drop]
    omega
  rw [span?_eq h hlength, take_drop_splice (by omega) hspan]

end Passes

/-- A number that is not negative is a position. -/
theorem toNat?_eq {p : Int} (h : 0 ≤ p) : p.toNat? = some p.toNat := by
  obtain ⟨n, rfl⟩ := Int.eq_ofNat_of_zero_le h
  rfl

/-- **A move in place** asks for positions of the list only, and is a move. -/
theorem moveInPlace?_eq (items : List α) (old new : Int) :
    moveInPlace? items old new = some (leaving items (move items old new)) := by
  unfold moveInPlace? move
  split
  · rfl
  · next hrange =>
      have hcount := ofCount_le items.length
      have hclamp := clamp_mem_range (n := items.length) (by omega) new
      dsimp only
      rw [toNat?_eq (p := old - 1) (by omega),
        toNat?_eq (p := clamp new items.length - 1) (by omega)]
      generalize hs : (old - 1).toNat = source
      generalize ht : (clamp new items.length - 1).toNat = target
      have hsource : source < items.length := by omega
      have htarget : target < items.length := by omega
      have hspan : (turn source target ((items.drop (min source target)).take
          (max source target - min source target + 1))).length =
            max source target - min source target + 1 := by
        rw [length_turn, List.length_take, List.length_drop]
        omega
      simp only [Option.bind_eq_bind, Option.bind_some]
      rw [turnInPlace?_eq hsource htarget, Option.bind_some,
        numberSpan_splice (by omega) (by omega) hspan,
        span?_splice (by omega) (by omega) (by rw [length_number, hspan]), Option.bind_some,
        leaving]

/-! ## Positions -/

/-- What a list becomes when the item at position `source` is brought to position `target`. -/
structure Repositioned (items : List α) (source target : Nat) (r : Reordered α) : Prop where
  /-- The item is taken out and put in again, and nothing but priorities is another than before. -/
  relocated : ∀ i : Nat, ∃ p : Int,
    r.items[i]? = (relocate items source target)[i]?.map fun a => withPriority a p
  /-- From one position to the other, the priorities are the positions, counted from one. -/
  numbered : ∀ (i : Nat) (a : α), min source target ≤ i → i ≤ max source target →
    r.items[i]? = some a → priority a = (i : Int) + 1
  /-- All other items are as they were, and where they were. -/
  outside : ∀ i : Nat, i < min source target ∨ max source target < i → r.items[i]? = items[i]?
  /-- The altered items are those from one position to the other. -/
  altered : span? r.items (min source target) (max source target) = some r.altered

theorem Moved.repositioned [LawfulPrioritized α] {items : List α} {source target : Nat}
    {r : Reordered α} (h : Moved items source target r) (hs : source < items.length)
    (ht : target < items.length) (hn : (items.length : Int) ≤ largest) :
    Repositioned items source target r := by
  have hlength := h.length_items hs ht
  refine ⟨fun i => ?_, fun i a hlow hhigh ha => ?_, h.outside, ?_⟩
  · rw [getElem?_relocate hs ht]
    by_cases hi : min source target ≤ i ∧ i ≤ max source target
    · exact ⟨ofCount (i + 1), h.inside i hi.1 hi.2⟩
    · have horigin : origin source target i = i := by
        unfold origin
        repeat' split
        all_goals omega
      rw [h.outside i (by omega), horigin]
      cases hitem : items[i]? with
      | none => exact ⟨0, rfl⟩
      | some a => exact ⟨priority a, by simp⟩
  · rw [h.inside i hlow hhigh] at ha
    obtain ⟨b, -, rfl⟩ := Option.map_eq_some_iff.1 ha
    rw [LawfulPrioritized.priority_withPriority, ofCount]
    omega
  · rw [h.altered]
    exact span?_eq (by omega) (by omega)

/-- **A move, position by position**, in a list of fewer than `2 ^ 31` items with whatever
priorities.  It never asks for a position that the list does not have.  It fails exactly if there is
no item at the old priority, and then leaves the list as it was; otherwise the item is brought to
the place of the new priority if there is such a place, and to the last one if there is not. -/
theorem move_repositions [LawfulPrioritized α] {items : List α}
    (hn : items.length < 2147483648) (old new : Int) :
    moveInPlace? items old new = some (leaving items (move items old new)) ∧
    (¬(1 ≤ old ∧ old ≤ items.length) →
      moveInPlace? items old new = some (.error ⟨old, items.length⟩, items)) ∧
    (1 ≤ old → old ≤ items.length → ∃ r,
      moveInPlace? items old new = some (.ok r.altered, r.items) ∧
        Repositioned items (old - 1).toNat
          ((if 1 ≤ new ∧ new ≤ items.length then new else (items.length : Int)) - 1).toNat r) := by
  have hlargest : (items.length : Int) ≤ largest := by
    unfold largest
    omega
  have hcount : ofCount items.length = items.length := by
    unfold ofCount
    omega
  refine ⟨moveInPlace?_eq items old new, fun hold => ?_, fun hlow hhigh => ?_⟩
  · have herror : move items old new = .error ⟨old, items.length⟩ :=
      move_eq_error_iff.2 ⟨by omega, rfl⟩
    rw [moveInPlace?_eq, herror, leaving]
  · cases hmove : move items old new with
    | error e =>
        have hold := (move_eq_error_iff.1 hmove).1
        omega
    | ok r =>
        have hmoved := (moved_of_move hmove).2
        have hclamp := clamp_mem_range (n := items.length) (by omega) new
        refine ⟨r, by rw [moveInPlace?_eq, hmove, leaving], ?_⟩
        rw [← clamp_eq hlargest]
        exact hmoved.repositioned (by omega) (by omega) hlargest

/-- Rules that are neither in order nor numbered. -/
def unevenRules : List FirmwareRule :=
  [{ id := "c", priority := 7 }, { id := "a", priority := 7 }, { id := "b", priority := -2 }]

/-- There is no fourth rule to move.  The first one is asked to a place far behind the others, and
the last one to the place in the middle. -/
theorem repositioned_unevenRules :
    moveInPlace? unevenRules 4 1 = some (.error ⟨4, 3⟩, unevenRules) ∧
    (∃ r, moveInPlace? unevenRules 1 2147483647 = some (.ok r.altered, r.items) ∧
      Repositioned unevenRules 0 2 r) ∧
    ∃ r, moveInPlace? unevenRules 3 2 = some (.ok r.altered, r.items) ∧
      Repositioned unevenRules 2 1 r := by
  have hlawful : LawfulPrioritized FirmwareRule := {}
  have hn : unevenRules.length < 2147483648 := by decide
  exact ⟨(move_repositions hn 4 1).2.1 (by decide),
    (move_repositions hn 1 2147483647).2.2 (by decide) (by decide),
    (move_repositions hn 3 2).2.2 (by decide) (by decide)⟩

end Rulebook.Priority
