import Rulebook.Admin.Plan
import Rulebook.Proofs.Admin.Records
import Rulebook.Proofs.Priority.Changes

/-!
# Rulebook.Proofs.Admin.Writing

What writing and deleting records does to the tables and to the scopes.

`Saved writes s s'` says of two stores that the second has the records `writes` over the first, and
all else from it.  Saving ends in such a store unless a write fails.  If the records rewrite a scope
(`Priority.Rewrite`), then that scope is what it was to become, and all other scopes are as before:

* `saved_of_save`, `exists_save_eq_ok_iff` — saving, and when it succeeds;
* `Rewriting.scope_eq` — the scope after the records are saved;
* `scope_of_delete` — the scope after a record is deleted.
-/

namespace Rulebook.Admin

open Prioritized RuleKind

variable {E : Type} [RuleKind E] {s s' : Store}

/-! ## Saving -/

/-- The second store has the records over the first, and all else from it. -/
structure Saved (writes : List E) (s s' : Store) : Prop where
  written : ∀ e ∈ writes, (rows E s').get? (key e) = some (table.encode e)
  kept : ∀ id, id ∉ writes.map key → (rows E s').get? id = (rows E s).get? id
  others : ∀ n, n ≠ (table (E := E)).name → s'.table n = s.table n

theorem get?_rows_of_write {e : E} {id : String}
    (h : (table (E := E)).write s id e = .ok s') (n : String) :
    (rows E s').get? n = if n = id then some (table.encode e) else (rows E s).get? n := by
  rw [rows, Store.table_of_write h, if_pos rfl, SortedMap.get?_insert, rows]

/-- No outcome of saving touches what stands under other identifiers, or in another table. -/
theorem save_kept (writes : List E) (s : Store) :
    (∀ id, id ∉ writes.map key → (rows E (save writes s).2).get? id = (rows E s).get? id) ∧
      ∀ n, n ≠ (table (E := E)).name → (save writes s).2.table n = s.table n := by
  induction writes generalizing s with
  | nil => exact ⟨fun _ _ => rfl, fun _ _ => rfl⟩
  | cons e rest ih =>
      rw [save]
      cases hwrite : (table (E := E)).write s (key e) e with
      | error error => exact ⟨fun _ _ => rfl, fun _ _ => rfl⟩
      | ok s₁ =>
          obtain ⟨hkept, hothers⟩ := ih s₁
          constructor
          · intro id hid
            rw [List.map_cons, List.mem_cons, not_or] at hid
            rw [hkept id hid.2, get?_rows_of_write hwrite, if_neg hid.1]
          · intro n hn
            rw [hothers n hn, Store.table_of_write hwrite, if_neg hn]

/-- **Saving**: records with distinct identifiers stand in the table afterwards, and nothing else
has changed. -/
theorem saved_of_save {writes : List E} (hnodup : (writes.map key).Nodup)
    (h : save writes s = (.ok (), s')) : Saved writes s s' := by
  have hframe := save_kept writes s
  rw [h] at hframe
  refine ⟨?_, hframe.1, hframe.2⟩
  clear hframe
  induction writes generalizing s with
  | nil => simp
  | cons e rest ih =>
      obtain ⟨hhead, htail⟩ := List.nodup_cons.1 hnodup
      rw [save] at h
      split at h
      · cases h
      · next s₁ hwrite =>
          rw [List.forall_mem_cons]
          refine ⟨?_, ih htail h⟩
          have hkept := (save_kept rest s₁).1 (key e) hhead
          rw [h] at hkept
          rw [hkept, get?_rows_of_write hwrite, if_pos rfl]

/-- Under other identifiers, the same is found. -/
theorem Saved.stored?_of_not_mem {writes : List E} (h : Saved writes s s') {id : String}
    (hid : id ∉ writes.map key) : stored? E s' id = stored? E s id := by
  rw [stored?, h.kept id hid, stored?]

/-- A table stays keyed if each record that is written reads back under its own identifier. -/
theorem Keyed.of_saved {writes : List E} (hkeyed : Keyed E s) (h : Saved writes s s')
    (hread : ∀ a ∈ writes, ∃ b : E, table.decode (table.encode a) = some b ∧ key b = key a) :
    Keyed E s' := by
  intro id doc hrow
  by_cases hid : id ∈ writes.map key
  · obtain ⟨a, ha, rfl⟩ := List.mem_map.1 hid
    rw [h.written a ha] at hrow
    cases hrow
    exact hread a ha
  · rw [h.kept id hid] at hrow
    exact hkeyed id doc hrow

theorem write_eq_ok_iff {e : E} {id : String} :
    (∃ s', (table (E := E)).write s id e = .ok s') ↔ s.faults.writesLeft ≠ some 0 := by
  rw [Table.write, Store.write]
  split <;> simp_all

/-- After a write, one fewer is left. -/
theorem writesLeft_of_write {e : E} {id : String} (h : (table (E := E)).write s id e = .ok s') :
    s.faults.writesLeft = s'.faults.writesLeft.map (· + 1) := by
  rw [Table.write, Store.write] at h
  split at h
  · next hwrites =>
      cases h
      simp [Store.insert, Store.withTable, hwrites]
  · cases h
  · next n hwrites =>
      cases h
      simp [hwrites]

/-- Saving succeeds if there are enough writes left. -/
theorem exists_save_eq_ok_iff (es : List E) :
    (∃ s', save es s = (.ok (), s')) ↔
      ∀ n, s.faults.writesLeft = some n → es.length ≤ n := by
  induction es generalizing s with
  | nil => simp [save]
  | cons e rest ih =>
      rw [save]
      cases hwrite : (table (E := E)).write s (key e) e with
      | error error =>
          have hnone : ¬∃ s', (table (E := E)).write s (key e) e = .ok s' := by simp [hwrite]
          rw [write_eq_ok_iff, not_not] at hnone
          simp [hnone]
      | ok s₁ =>
          dsimp only
          rw [ih, writesLeft_of_write hwrite]
          cases s₁.faults.writesLeft <;> simp

theorem exists_save_eq_ok (hwrites : s.faults.writesLeft = none) (es : List E) :
    ∃ s', save es s = (.ok (), s') :=
  (exists_save_eq_ok_iff es).2 (by simp [hwrites])

/-- Where writes do not fail, saving leaves it at that. -/
theorem faults_of_save {es : List E} (hwrites : s.faults.writesLeft = none)
    (h : save es s = (.ok (), s')) : s'.faults = s.faults := by
  induction es generalizing s with
  | nil =>
      cases h
      rfl
  | cons e rest ih =>
      have hwrite : (table (E := E)).write s (key e) e =
          .ok (s.insert (table (E := E)).name (key e) (table.encode e)) := by
        rw [Table.write, Store.write, hwrites]
      rw [save, hwrite] at h
      exact ih (s := s.insert (table (E := E)).name (key e) (table.encode e)) hwrites h

/-! ## Seeding -/

/-- The store of nothing but the given records. -/
def seeded : List E → Store
  | [] => {}
  | e :: rest => (seeded rest).insert (table (E := E)).name (key e) (table.encode e)

/-- A store of nothing but records is keyed. -/
theorem keyed_seeded [LawfulKind E] {es : List E}
    (h : ∀ e ∈ es, Json.IsInt32 (priority e)) : Keyed E (seeded es) := by
  induction es with
  | nil =>
      intro id doc hrow
      cases hrow
  | cons e rest ih =>
      rw [List.forall_mem_cons] at h
      intro id doc hrow
      rw [rows, seeded, Store.table_insert, if_pos rfl, SortedMap.get?_insert] at hrow
      split at hrow
      · next hid =>
          cases hrow
          exact ⟨_, LawfulKind.decode_encode h.1, by rw [LawfulKind.key_withRule, hid]⟩
      · exact ih h.2 id doc hrow

/-! ## A scope that is rewritten -/

/-- The records of a scope are to be replaced by the records `after`; `writes` are written. -/
structure Rewriting (s : Store) (e : E) (after writes : List E) : Prop where
  keyed : Keyed E s
  rewrite : Priority.Rewrite (scope s e) after writes
  /-- No record of another scope is written over. -/
  fresh : ∀ r ∈ after, key r ∉ (scope s e).map key → (rows E s).get? (key r) = none
  inScope : ∀ r ∈ after, sameScope r e = true
  /-- The written records read back. -/
  faithful : ∀ r ∈ writes, table.decode (table.encode r) = some r

namespace Rewriting

variable {e : E} {after writes : List E}

theorem stored?_of_mem (h : Rewriting s e after writes) (hsaved : Saved writes s s') {r : E}
    (hr : r ∈ writes) : stored? E s' (key r) = some r :=
  stored?_eq_some_iff.2 ⟨_, hsaved.written r hr, h.faithful r hr⟩

/-- A table stays keyed. -/
theorem keyed_saved (h : Rewriting s e after writes) (hsaved : Saved writes s s') :
    Keyed E s' :=
  h.keyed.of_saved hsaved fun r hr => ⟨r, h.faithful r hr, rfl⟩

theorem mem_after_iff (h : Rewriting s e after writes) (hsaved : Saved writes s s') (r : E) :
    r ∈ after ↔ stored? E s' (key r) = some r ∧ sameScope r e = true := by
  constructor
  · intro hr
    refine ⟨?_, h.inScope r hr⟩
    by_cases hw : r ∈ writes
    · exact h.stored?_of_mem hsaved hw
    · rw [hsaved.stored?_of_not_mem (h.rewrite.key_not_mem hr hw)]
      exact (h.keyed.mem_scope_iff.1 (h.rewrite.kept r hr hw)).1
  · rintro ⟨hstored, hsame⟩
    by_cases hid : key r ∈ writes.map key
    · obtain ⟨w, hw, hkey⟩ := List.mem_map.1 hid
      have hstored' := h.stored?_of_mem hsaved hw
      rw [hkey, hstored] at hstored'
      cases hstored'
      exact h.rewrite.wanted.subset hw
    · rw [hsaved.stored?_of_not_mem hid] at hstored
      have hr : r ∈ scope s e := h.keyed.mem_scope_iff.2 ⟨hstored, hsame⟩
      obtain ⟨a, ha, hkey⟩ := List.mem_map.1 (h.rewrite.covers r hr)
      have hna : a ∉ writes := fun hw => hid (hkey ▸ List.mem_map_of_mem hw)
      have heq := Priority.eq_of_key_eq (h.keyed.nodup_map_key_scope e)
        (h.rewrite.kept a ha hna) hr hkey
      exact heq ▸ ha

/-- **The rewritten scope** holds the records that it was to hold. -/
theorem scope_eq (h : Rewriting s e after writes) (hsaved : Saved writes s s') :
    scope s' e = Priority.sort after :=
  (h.keyed_saved hsaved).scope_eq_sort h.rewrite.nodup (h.mem_after_iff hsaved)

/-- No record of another scope has the identifier of a record of the new scope. -/
theorem inScope_of_stored? (h : Rewriting s e after writes) {r a : E} (hr : r ∈ after)
    (ha : stored? E s (key r) = some a) : sameScope a e = true := by
  by_cases hid : key r ∈ (scope s e).map key
  · obtain ⟨b, hb, hkey⟩ := List.mem_map.1 hid
    obtain ⟨hstored, hsame⟩ := h.keyed.mem_scope_iff.1 hb
    rw [hkey, ha] at hstored
    cases hstored
    exact hsame
  · have hnone := h.keyed.stored?_eq_none_iff.2 (h.fresh r hr hid)
    rw [ha] at hnone
    cases hnone

variable [LawfulKind E]

/-- The other scopes are as before. -/
theorem scope_eq_of_not_sameScope (h : Rewriting s e after writes) (hsaved : Saved writes s s')
    {e' : E} (he' : sameScope e' e = false) : scope s' e' = scope s e' := by
  have hother : ∀ r : E, sameScope r e' = true → sameScope r e = false := by
    intro r hr
    rw [← Bool.not_eq_true] at he' ⊢
    exact fun hre => he' (LawfulKind.sameScope_equivalence.trans (sameScope_comm.1 hr) hre)
  rw [← sort_scope s e']
  refine (h.keyed_saved hsaved).scope_eq_sort (h.keyed.nodup_map_key_scope e') fun r => ?_
  rw [h.keyed.mem_scope_iff]
  refine and_congr_left fun hr => ?_
  by_cases hid : key r ∈ writes.map key
  · obtain ⟨w, hw, hkey⟩ := List.mem_map.1 hid
    have hsame := h.inScope w (h.rewrite.wanted.subset hw)
    constructor
    · intro hstored
      have hre := h.inScope_of_stored? (h.rewrite.wanted.subset hw) (hkey.symm ▸ hstored)
      rw [hother r hr] at hre
      cases hre
    · intro hstored
      have hstored' := h.stored?_of_mem hsaved hw
      rw [hkey, hstored] at hstored'
      cases hstored'
      rw [hother r hr] at hsame
      cases hsame
  · rw [hsaved.stored?_of_not_mem hid]

end Rewriting

/-! ## Deleting -/

theorem get?_rows_of_delete {id : String} (h : (table (E := E)).delete s id = .ok s') (n : String) :
    (rows E s').get? n = if n = id then none else (rows E s).get? n := by
  rw [rows, Store.table_of_delete h, if_pos rfl, SortedMap.get?_erase, rows]

theorem stored?_of_delete {id : String} (h : (table (E := E)).delete s id = .ok s') (n : String) :
    stored? E s' n = if n = id then none else stored? E s n := by
  rw [stored?, get?_rows_of_delete h, stored?]
  split <;> rfl

theorem Keyed.of_delete (hkeyed : Keyed E s) {id : String}
    (h : (table (E := E)).delete s id = .ok s') : Keyed E s' := by
  intro n doc hrow
  rw [get?_rows_of_delete h] at hrow
  split at hrow
  · cases hrow
  · exact hkeyed n doc hrow

/-- The scopes after a deletion are those from before without the record. -/
theorem scope_of_delete (hkeyed : Keyed E s) {id : String}
    (h : (table (E := E)).delete s id = .ok s') (e : E) :
    scope s' e = (scope s e).filter fun r => key r != id := by
  have hsorted : ((scope s e).filter fun r => key r != id).Pairwise
      (fun a b => Priority.precedes a b = true) :=
    (Priority.pairwise_sort _).filter _
  rw [← Priority.sort_eq_self hsorted]
  refine (hkeyed.of_delete h).scope_eq_sort
    ((hkeyed.nodup_map_key_scope e).sublist (List.filter_sublist.map key)) fun r => ?_
  rw [List.mem_filter, hkeyed.mem_scope_iff, stored?_of_delete h]
  by_cases hr : key r = id <;> simp [hr]

theorem length_scope_of_delete (hkeyed : Keyed E s) {id : String}
    (h : (table (E := E)).delete s id = .ok s') (e : E) :
    (scope s' e).length ≤ (scope s e).length := by
  rw [scope_of_delete hkeyed h]
  exact List.length_filter_le _ _

theorem map_key_scope_of_delete (hkeyed : Keyed E s) {id : String}
    (h : (table (E := E)).delete s id = .ok s') (e : E) :
    (scope s' e).map key = ((scope s e).map key).erase id := by
  rw [scope_of_delete hkeyed h, (hkeyed.nodup_map_key_scope e).erase_eq_filter, List.filter_map]
  rfl

/-- In a scope without the removed record there is nothing to leave out before gaps are closed. -/
theorem pack_scope_of_delete (hkeyed : Keyed E s) {id : String}
    (h : (table (E := E)).delete s id = .ok s') (e : E) :
    Priority.pack (scope s' e) id = Priority.closeGaps 1 (scope s' e) := by
  have hne : ∀ r ∈ scope s' e, (key r != id) = true := by
    intro r hr
    rw [scope_of_delete hkeyed h, List.mem_filter] at hr
    exact hr.2
  rw [Priority.pack, sort_scope, List.filter_eq_self.2 hne]

end Rulebook.Admin
