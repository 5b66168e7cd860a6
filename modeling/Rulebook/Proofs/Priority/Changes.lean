import Rulebook.Proofs.Priority.Move

/-!
# Rulebook.Proofs.Priority.Changes

What each change of a scope rewrites.

A change reports a list of altered items, and only those are stored.  `Rewrite before after written`
says that storing them is enough: over the items `before`, the items `written` make up the items
`after`.  This holds for a move in any list, dense or not, as long as the acting item is among the
altered ones (`Moved.rewrite`), and for the closing of gaps in any list (`rewrite_closeGaps`).

Adding, updating and moving are moves in a list that differs from the scope at one position only,
that of the acting item (`Acting`):

* `Acting.dense`, `dense_closed` — a dense scope stays dense, and removal makes any scope dense;
* `Acting.priority_eq` — where the acting item comes to stand, also in a scope that is not dense.
-/

namespace Rulebook.Priority

open Prioritized

variable {α : Type} [Prioritized α]

/-! ## Rewriting a scope in part -/

/-- Over the items `before`, the items `written` make up the items `after`. -/
structure Rewrite (before after written : List α) : Prop where
  /-- Nothing is written that is not wanted. -/
  wanted : written.Sublist after
  /-- What is not written is there already. -/
  kept : ∀ a ∈ after, a ∉ written → a ∈ before
  /-- Nothing that was there is left over. -/
  covers : ∀ a ∈ before, key a ∈ after.map key
  nodup : (after.map key).Nodup

theorem Rewrite.nodup_written {before after written : List α} (h : Rewrite before after written) :
    (written.map key).Nodup :=
  h.nodup.sublist (h.wanted.map key)

/-- An item that is not written has an identifier under which nothing is written. -/
theorem Rewrite.key_not_mem {before after written : List α} (h : Rewrite before after written)
    {a : α} (ha : a ∈ after) (hna : a ∉ written) : key a ∉ written.map key := by
  intro hmem
  obtain ⟨b, hb, hkey⟩ := List.mem_map.1 hmem
  exact hna (eq_of_key_eq h.nodup (h.wanted.subset hb) ha hkey ▸ hb)

theorem mem_map_key_iff {items : List α} {id : String} :
    id ∈ items.map key ↔ ∃ a ∈ items, key a = id :=
  List.mem_map

/-- **Partial write-back**: the altered items of a move are enough to store, in a list with any
priorities, if the acting item is one of them. -/
theorem Moved.rewrite [LawfulPrioritized α] {scope items : List α} {source target : Nat}
    {r : Reordered α} {id : String} (h : Moved items source target r)
    (hs : source < items.length) (ht : target < items.length)
    (hnodup : (items.map key).Nodup) (hid : ∃ a ∈ r.altered, key a = id)
    (hkept : ∀ a ∈ items, key a ≠ id → a ∈ scope)
    (hcovers : ∀ a ∈ scope, key a ∈ items.map key) : Rewrite scope r.items r.altered := by
  have hperm : (r.items.map key).Perm (items.map key) := by
    rw [h.map_key hs ht]
    exact relocate_perm (by simpa using ht)
  have hnodup' : (r.items.map key).Nodup := hperm.nodup_iff.2 hnodup
  obtain ⟨acting, hacting, rfl⟩ := hid
  refine ⟨h.altered_sublist, fun a ha hna => ?_, fun a ha => ?_, hnodup'⟩
  · have hne : key a ≠ key acting := fun heq =>
      hna (eq_of_key_eq hnodup' ha (h.altered_sublist.subset hacting) heq ▸ hacting)
    exact hkept a (h.mem_of_not_mem_altered ha hna) hne
  · exact hperm.mem_iff.2 (hcovers a ha)

/-! ## Replacing an item -/

/-- In a list of distinct identifiers, the item of the same identifier is replaced. -/
theorem replace_eq_set {item : α} {items : List α} (hnodup : (items.map key).Nodup) {j : Nat}
    {a : α} (ha : items[j]? = some a) (hkey : key a = key item) :
    replace item items = items.set j item := by
  induction items generalizing j with
  | nil => simp at ha
  | cons b rest ih =>
      obtain ⟨hhead, htail⟩ := List.nodup_cons.1 hnodup
      cases j with
      | zero =>
          cases ha
          rw [replace, if_pos (by simpa using hkey), List.set_cons_zero]
      | succ j =>
          rw [List.getElem?_cons_succ] at ha
          have hne : key b ≠ key item := fun heq =>
            hhead (mem_map_key_iff.2 ⟨a, List.mem_of_getElem? ha, hkey.trans heq.symm⟩)
          rw [replace, if_neg (by simpa using hne), ih htail ha, List.set_cons_succ]

theorem map_key_replace (item : α) (items : List α) :
    (replace item items).map key = items.map key := by
  induction items with
  | nil => rfl
  | cons a rest ih =>
      rw [replace]
      split
      · next h => simp [beq_iff_eq.1 h]
      · rw [List.map_cons, ih, List.map_cons]

theorem withUpdated_eq {item : α} {items : List α} (h : items ≠ []) :
    withUpdated item items = replace item (sort items) := by
  rw [withUpdated, if_neg (by simpa using h)]

/-! ## The list that is moved in -/

/-- The list `items`, in which a change moves the item at position `j`, has all other items from
the scope. -/
structure Acting (scope items : List α) (item : α) (j : Nat) : Prop where
  here : items[j]? = some item
  others : ∀ i, i ≠ j → items[i]? = scope[i]?
  same : ∀ a, scope[j]? = some a → key a = key item
  nodup : (items.map key).Nodup

/-- A new item stands behind all others. -/
theorem acting_append {scope : List α} {item : α} (hnodup : (scope.map key).Nodup)
    (hnew : key item ∉ scope.map key) : Acting scope (scope ++ [item]) item scope.length := by
  refine ⟨List.getElem?_concat_length, fun i hi => ?_, fun a ha => ?_, ?_⟩
  · by_cases hlt : i < scope.length
    · exact List.getElem?_append_left hlt
    · rw [List.getElem?_eq_none (by rw [List.length_append, List.length_singleton]; omega),
        List.getElem?_eq_none (by omega)]
  · rw [List.getElem?_eq_none (Nat.le_refl _)] at ha
    cases ha
  · rw [List.map_append, List.map_singleton, List.nodup_append]
    refine ⟨hnodup, by simp, fun a ha b hb => ?_⟩
    rw [List.mem_singleton] at hb
    rintro rfl
    exact hnew (hb ▸ ha)

/-- A replaced item stands where it stood. -/
theorem acting_replace {scope : List α} {item stored : α} {j : Nat}
    (hnodup : (scope.map key).Nodup) (hstored : scope[j]? = some stored)
    (hkey : key stored = key item) : Acting scope (replace item scope) item j := by
  have hj : j < scope.length := (List.getElem?_eq_some_iff.1 hstored).1
  have hset := replace_eq_set hnodup hstored hkey
  refine ⟨?_, fun i hi => ?_, fun a ha => ?_, ?_⟩
  · rw [hset, List.getElem?_set_self hj]
  · rw [hset, List.getElem?_set_ne (Ne.symm hi)]
  · rw [ha] at hstored
    cases hstored
    exact hkey
  · rwa [map_key_replace]

/-- An item that is moved alone stands where it stood. -/
theorem acting_self {scope : List α} {item : α} {j : Nat} (hnodup : (scope.map key).Nodup)
    (hj : scope[j]? = some item) : Acting scope scope item j :=
  ⟨hj, fun _ _ => rfl, fun a ha => by rw [ha] at hj; cases hj; rfl, hnodup⟩

namespace Acting

variable {scope items : List α} {item : α} {j : Nat}

theorem lt_length (h : Acting scope items item j) : j < items.length :=
  (List.getElem?_eq_some_iff.1 h.here).1

/-- The other items are from the scope. -/
theorem mem_of_mem (h : Acting scope items item j) {a : α} (ha : a ∈ items)
    (hne : key a ≠ key item) : a ∈ scope := by
  obtain ⟨i, hi⟩ := List.mem_iff_getElem?.1 ha
  have hij : i ≠ j := by
    rintro rfl
    rw [h.here] at hi
    cases hi
    exact hne rfl
  rw [h.others i hij] at hi
  exact List.mem_of_getElem? hi

/-- No item of the scope is missing. -/
theorem covers (h : Acting scope items item j) {a : α} (ha : a ∈ scope) :
    key a ∈ items.map key := by
  obtain ⟨i, hi⟩ := List.mem_iff_getElem?.1 ha
  by_cases hij : i = j
  · subst hij
    exact mem_map_key_iff.2 ⟨item, List.mem_of_getElem? h.here, (h.same a hi).symm⟩
  · rw [← h.others i hij] at hi
    exact List.mem_map_of_mem (List.mem_of_getElem? hi)

/-- The acting item alone is enough to write. -/
theorem rewrite_self (h : Acting scope items item j) : Rewrite scope items [item] := by
  have hitem : item ∈ items := List.mem_of_getElem? h.here
  refine ⟨List.singleton_sublist.2 hitem, fun a ha hna => ?_, fun a => h.covers, h.nodup⟩
  refine h.mem_of_mem ha fun heq => hna ?_
  rw [eq_of_key_eq h.nodup ha hitem heq]
  exact List.mem_singleton_self item

/-- An item that has its position as priority leaves a dense scope dense. -/
theorem dense_self (h : Acting scope items item j) (hscope : Dense scope)
    (hitem : priority item = (j : Int) + 1) : Dense items := by
  intro i a ha
  by_cases hij : i = j
  · subst hij
    rw [h.here] at ha
    cases ha
    exact hitem
  · rw [h.others i hij] at ha
    exact hscope i a ha

variable [LawfulPrioritized α] {old new : Int} {r : Reordered α}

/-- A move that reports the acting item rewrites the scope. -/
theorem rewrite (h : Acting scope items item j) (hmove : move items old new = .ok r)
    (hid : ∃ a ∈ r.altered, key a = key item) : Rewrite scope r.items r.altered := by
  obtain ⟨hold, hmoved⟩ := moved_of_move hmove
  have hcount := ofCount_le items.length
  have hclamp := clamp_mem_range (n := items.length) (by omega) new
  exact hmoved.rewrite (by omega) (by omega) h.nodup hid (fun a => h.mem_of_mem)
    (fun a => h.covers)

/-- A move of the item that stands at the old priority keeps a dense scope dense. -/
theorem dense (h : Acting scope items item j) (hscope : Dense scope)
    (hmove : move items old new = .ok r) (hold : old = (j : Int) + 1)
    (hn : (items.length : Int) ≤ largest) : Dense r.items := by
  obtain ⟨hrange, hmoved⟩ := moved_of_move hmove
  have hcount := ofCount_le items.length
  have hclamp := clamp_mem_range (n := items.length) (by omega) new
  refine hmoved.dense (by omega) (by omega) hn fun i hi a ha => ?_
  rw [h.others i (by omega)] at ha
  exact hscope i a ha

/-- By its identifier, the acting item is known after the move too. -/
theorem origin_eq (h : Acting scope items item j) {source target : Nat}
    (hmoved : Moved items source target r) {i : Nat} {a : α} (ha : r.items[i]? = some a)
    (hkey : key a = key item) : origin source target i = j := by
  have hi : (items.map key)[origin source target i]? = some (key item) := by
    rw [← hmoved.map_key_getElem?, List.getElem?_map, ha, Option.map_some, hkey]
  have hj : (items.map key)[j]? = some (key item) := by
    rw [List.getElem?_map, h.here, Option.map_some]
  have hlt : origin source target i < (items.map key).length :=
    (List.getElem?_eq_some_iff.1 hi).1
  exact (List.getElem?_inj hlt h.nodup).1 (hi.trans hj.symm)

/-- An acting item that is reported stands between the old and the new place. -/
theorem lt_of_mem_altered (h : Acting scope items item j) (hmove : move items old new = .ok r)
    {a : α} (ha : a ∈ r.altered) (hkey : key a = key item) : (j : Int) < ofCount items.length := by
  obtain ⟨hold, hmoved⟩ := moved_of_move hmove
  have hcount := ofCount_le items.length
  have hclamp := clamp_mem_range (n := items.length) (by omega) new
  obtain ⟨i, hlow, hhigh, hi⟩ := hmoved.mem_altered_iff.1 ha
  have horigin := h.origin_eq hmoved hi hkey
  unfold origin at horigin
  repeat' split at horigin
  all_goals omega

/-- An item that is moved from where it stands, in a list no longer than the priorities reach, is
reported. -/
theorem exists_move (h : Acting scope items item j) (hn : (items.length : Int) ≤ largest)
    (new : Int) :
    ∃ r : Reordered α, move items ((j : Int) + 1) new = .ok r ∧
      ∃ a ∈ r.altered, key a = key item := by
  have hj := h.lt_length
  have hcount : ofCount items.length = items.length := by
    unfold ofCount
    omega
  cases hmove : move items ((j : Int) + 1) new with
  | error error =>
      obtain ⟨hrange, -⟩ := move_eq_error_iff.1 hmove
      omega
  | ok r =>
      obtain ⟨-, hmoved⟩ := moved_of_move hmove
      have hsource : ((j : Int) + 1 - 1).toNat = j := by omega
      rw [hsource] at hmoved
      generalize (clamp new items.length - 1).toNat = target at hmoved
      -- the item comes to stand at the target, which belongs to the altered part
      have horigin : origin j target target = j := if_pos rfl
      have htarget := hmoved.inside target (by omega) (by omega)
      rw [horigin, h.here] at htarget
      exact ⟨r, rfl, _, hmoved.mem_altered_iff.2 ⟨target, by omega, by omega, htarget⟩,
        LawfulPrioritized.key_withPriority _ _⟩

/-- **Where a move takes the acting item**: to the place of the new priority, if the item stands at
the old one; otherwise one place towards the vacated one. -/
theorem priority_eq (h : Acting scope items item j) (hmove : move items old new = .ok r) {a : α}
    (ha : a ∈ r.altered) (hkey : key a = key item) :
    a = withPriority item (if (j : Int) + 1 = old then clamp new items.length
      else if old < clamp new items.length then (j : Int) else (j : Int) + 2) := by
  obtain ⟨hold, hmoved⟩ := moved_of_move hmove
  have hcount := ofCount_le items.length
  have hcount' := ofCount_le_largest items.length
  have hclamp := clamp_mem_range (n := items.length) (by omega) new
  have hj := h.lt_length
  generalize hs : (old - 1).toNat = source at hmoved
  generalize ht : (clamp new items.length - 1).toNat = target at hmoved
  obtain ⟨i, hlow, hhigh, hi⟩ := hmoved.mem_altered_iff.1 ha
  have horigin := h.origin_eq hmoved hi hkey
  rw [hmoved.inside i hlow hhigh, horigin, h.here] at hi
  cases hi
  have hplace : ofCount (i + 1) = if (j : Int) + 1 = old then clamp new items.length
      else if old < clamp new items.length then (j : Int) else (j : Int) + 2 := by
    have hcount : ofCount (i + 1) = min ((i : Int) + 1) largest := rfl
    rw [hcount]
    clear hcount
    generalize clamp new items.length = place at *
    generalize ofCount items.length = count at *
    generalize largest = top at *
    unfold origin at horigin
    split at horigin
    · rw [if_pos (by omega)]
      omega
    · split at horigin
      · rw [if_neg (by omega), if_pos (by omega)]
        omega
      · split at horigin
        · rw [if_neg (by omega), if_neg (by omega)]
          omega
        · omega
  rw [hplace]

/-- The acting item gets the place of the new priority only if it stands at the old one. -/
theorem priority_eq_iff (h : Acting scope items item j) (hmove : move items old new = .ok r) {a : α}
    (ha : a ∈ r.altered) (hkey : key a = key item) :
    priority a = clamp new items.length ↔ (j : Int) + 1 = old := by
  have hvalue := congrArg priority (h.priority_eq hmove ha hkey)
  rw [LawfulPrioritized.priority_withPriority] at hvalue
  constructor
  · intro hplace
    by_contra hne
    obtain ⟨hold, hmoved⟩ := moved_of_move hmove
    have hcount := ofCount_le items.length
    have hcount' := ofCount_le_largest items.length
    have hclamp := clamp_mem_range (n := items.length) (by omega) new
    obtain ⟨i, hlow, hhigh, hi⟩ := hmoved.mem_altered_iff.1 ha
    have horigin := h.origin_eq hmoved hi hkey
    rw [hvalue, if_neg hne] at hplace
    generalize clamp new items.length = place at *
    unfold origin at horigin
    repeat' split at horigin
    all_goals split at hplace <;> omega
  · intro heq
    rw [hvalue, if_pos heq]

/-- The altered items of a move are the acting item, moved or not, and others that only change in
priority. -/
theorem exists_of_mem (h : Acting scope items item j) (hmove : move items old new = .ok r) {a : α}
    (ha : a ∈ r.items) (hne : key a ≠ key item) : ∃ b ∈ scope, ∃ p, a = withPriority b p := by
  obtain ⟨b, hb, p, rfl⟩ := (moved_of_move hmove).2.exists_of_mem ha
  rw [LawfulPrioritized.key_withPriority] at hne
  exact ⟨b, h.mem_of_mem hb hne, p, rfl⟩

theorem map_key (h : Acting scope items item j) (hmove : move items old new = .ok r)
    (hold : old = (j : Int) + 1) :
    r.items.map key = relocate (items.map key) j (clamp new items.length - 1).toNat := by
  obtain ⟨hrange, hmoved⟩ := moved_of_move hmove
  have hj := h.lt_length
  have hcount := ofCount_le items.length
  have hclamp := clamp_mem_range (n := items.length) (by omega) new
  have hsource : (old - 1).toNat = j := by omega
  rw [hsource] at hmoved
  exact hmoved.map_key hj (by omega)

end Acting

/-! ## Adding behind the last item -/

/-- An item that already has the priority behind the last one is added as it is, and nothing else
changes. -/
theorem add_eq_append [LawfulPrioritized α] {item : α} {items : List α}
    (hsorted : sort items = items) (hpriority : priority item = (items.length : Int) + 1)
    (hn : priority item ≤ largest) :
    add item items = .ok ⟨items ++ [item], [item]⟩ := by
  have hlength : (items ++ [item]).length = items.length + 1 := List.length_append
  have hcount : ofCount (items.length + 1) = priority item := by
    unfold ofCount
    omega
  have hclamp : clamp (priority item) (items.length + 1) = priority item := by
    rw [clamp, hcount, ite_self]
  have hplace : (priority item - 1).toNat = items.length := by omega
  have hnumber : number items.length [item] = [item] := by
    rw [number, number, hcount, LawfulPrioritized.withPriority_priority]
  have hspan : [item].take (0 + 1) = [item] := rfl
  rw [add, hsorted, move]
  dsimp only
  rw [hlength, hcount, if_neg (by omega), hclamp, hplace, Nat.min_self, Nat.max_self, Nat.sub_self,
    turn, if_neg (by omega), if_neg (by omega), List.drop_left, List.take_left,
    hspan, hnumber, List.drop_of_length_le (by omega),
    List.append_nil]

/-! ## The order of identifiers -/

/-- To relocate an identifier is to take it out and to put it in again. -/
theorem relocate_eq_insertIdx_erase {ids : List String} (hnodup : ids.Nodup) {j : Nat} {id : String}
    (hj : ids[j]? = some id) (target : Nat) :
    relocate ids j target = (ids.erase id).insertIdx target id := by
  obtain ⟨hlt, rfl⟩ := List.getElem?_eq_some_iff.1 hj
  rw [relocate, hj, hnodup.erase_getElem j hlt]

/-- The order of identifiers after a move of an item that stands in the list. -/
theorem relocate_map_key {es : List α} (hnodup : (es.map key).Nodup) {j : Nat} {stored : α}
    (hj : es[j]? = some stored) (target : Nat) :
    relocate (es.map key) j target =
      ((es.map key).erase (key stored)).insertIdx target (key stored) := by
  refine relocate_eq_insertIdx_erase hnodup ?_ target
  rw [List.getElem?_map, hj, Option.map_some]

theorem relocate_concat (ids : List String) (id : String) (target : Nat) :
    relocate (ids ++ [id]) ids.length target = ids.insertIdx target id := by
  rw [relocate, List.getElem?_concat_length]
  dsimp only
  rw [List.eraseIdx_append_of_length_le (Nat.le_refl _), Nat.sub_self, List.eraseIdx_cons_zero,
    List.append_nil]

/-! ## Closing gaps -/

/-- The items numbered from `next` on. -/
def closed (next : Int) : List α → List α
  | [] => []
  | a :: rest => withPriority a next :: closed (next + 1) rest

theorem getElem?_closed (next : Int) (items : List α) (i : Nat) :
    (closed next items)[i]? = items[i]?.map fun a => withPriority a (next + i) := by
  induction items generalizing next i with
  | nil => simp [closed]
  | cons a rest ih =>
      cases i with
      | zero => simp [closed]
      | succ i =>
          have hplace : next + 1 + (i : Int) = next + ((i + 1 : Nat) : Int) := by omega
          rw [closed, List.getElem?_cons_succ, ih, List.getElem?_cons_succ, hplace]

/-- A numbered item is one from before, apart from its priority. -/
theorem exists_of_mem_closed {next : Int} {items : List α} {a : α} (ha : a ∈ closed next items) :
    ∃ b ∈ items, ∃ p, a = withPriority b p := by
  obtain ⟨i, hi⟩ := List.mem_iff_getElem?.1 ha
  rw [getElem?_closed] at hi
  obtain ⟨b, hb, rfl⟩ := Option.map_eq_some_iff.1 hi
  exact ⟨b, List.mem_of_getElem? hb, _, rfl⟩

/-- The items whose number changes are numbered as all others. -/
theorem closeGaps_sublist (next : Int) (items : List α) :
    (closeGaps next items).Sublist (closed next items) := by
  induction items generalizing next with
  | nil => exact .slnil
  | cons a rest ih =>
      rw [closeGaps, closed]
      split
      · exact (ih (next + 1)).cons _
      · exact (ih (next + 1)).cons_cons _

/-- The items whose priority changes when a gap is closed are items from before, with a priority
that is no more than there are items. -/
theorem exists_of_mem_pack {items : List α} {id : String} {a : α} (ha : a ∈ pack items id) :
    ∃ b ∈ items, ∃ p, 0 ≤ p ∧ p ≤ (items.length : Int) ∧ a = withPriority b p := by
  have hlength : ((sort items).filter fun b => key b != id).length ≤ items.length := by
    rw [← (sort_perm items).length_eq]
    exact List.length_filter_le _ _
  obtain ⟨i, hi⟩ := List.mem_iff_getElem?.1 ((closeGaps_sublist _ _).subset ha)
  rw [getElem?_closed] at hi
  obtain ⟨b, hb, rfl⟩ := Option.map_eq_some_iff.1 hi
  have hlt := (List.getElem?_eq_some_iff.1 hb).1
  exact ⟨b, mem_sort.1 (List.mem_of_mem_filter (List.mem_of_getElem? hb)), 1 + i, by omega,
    by omega, rfl⟩

variable [LawfulPrioritized α]

/-- The identifier that is left out is not reported. -/
theorem not_mem_map_key_pack (items : List α) (id : String) : id ∉ (pack items id).map key := by
  intro hmem
  obtain ⟨a, ha, hkey⟩ := List.mem_map.1 hmem
  obtain ⟨b, hb, p, rfl⟩ := exists_of_mem_closed ((closeGaps_sublist _ _).subset ha)
  rw [LawfulPrioritized.key_withPriority] at hkey
  simp [hkey] at hb

theorem map_key_closed (next : Int) (items : List α) :
    (closed next items).map key = items.map key := by
  induction items generalizing next with
  | nil => rfl
  | cons a rest ih => simp [closed, ih]

theorem dense_closed (items : List α) : Dense (closed 1 items) := by
  intro i a ha
  rw [getElem?_closed] at ha
  obtain ⟨b, -, rfl⟩ := Option.map_eq_some_iff.1 ha
  rw [LawfulPrioritized.priority_withPriority]
  omega

/-- An item that is not reported has its number already. -/
theorem mem_of_not_mem_closeGaps {next : Int} {items : List α} {a : α}
    (ha : a ∈ closed next items) (hna : a ∉ closeGaps next items) : a ∈ items := by
  induction items generalizing next with
  | nil => exact ha
  | cons b rest ih =>
      rw [closed, List.mem_cons] at ha
      rw [closeGaps] at hna
      split at hna
      · next heq =>
          rcases ha with rfl | ha
          · rw [← heq, LawfulPrioritized.withPriority_priority]
            exact List.mem_cons_self
          · exact List.mem_cons_of_mem b (ih ha hna)
      · rw [List.mem_cons, not_or] at hna
        rcases ha with ha | ha
        · exact absurd ha hna.1
        · exact List.mem_cons_of_mem b (ih ha hna.2)

/-- The reported items are enough to number all items. -/
theorem rewrite_closeGaps {items : List α} (hnodup : (items.map key).Nodup) (next : Int) :
    Rewrite items (closed next items) (closeGaps next items) := by
  refine ⟨closeGaps_sublist next items, fun a => mem_of_not_mem_closeGaps, fun a ha => ?_, ?_⟩
  · rw [map_key_closed]
    exact List.mem_map_of_mem ha
  · rwa [map_key_closed]

end Rulebook.Priority
