import Rulebook.Proofs.Admin.Kinds
import Rulebook.Proofs.Admin.Work

/-!
# Rulebook.Proofs.Admin.Deletion

What a deletion that fails leaves behind.

A deletion takes the record out of its table before it reads the rest of the scope and numbers it
anew.  All failures before that leave every table as it was; after it, the record is gone although
an error is answered:

* `delete_keeps_tables_iff` — a failing deletion changes nothing exactly if the record is not
  `Stranded`, in any store;
* `delete_changes_unreadableNeighbour` — a document that is no record strands every deletion in its
  table.
-/

namespace Rulebook.Admin

open Prioritized RuleKind

variable {E : Type} [RuleKind E] {s s' : Store}

/-! ## A record that is stranded -/

/-- The store without the record. -/
def without (E : Type) [RuleKind E] (s : Store) (id : String) : Store :=
  s.erase (table (E := E)).name id

/-- The record under an identifier is found and may be deleted, and taking it out succeeds, but then
the rest cannot be put in order: some other document is no record, or the writes run out. -/
structure Stranded (E : Type) [RuleKind E] (s : Store) (id : String) : Prop where
  deletes : s.faults.deletes = false
  left : ∃ e : E, findDeletable s id = .ok e ∧
    ((∃ n doc, n ≠ id ∧ (rows E s).get? n = some doc ∧ (table (E := E)).decode doc = none) ∨
      ∃ n, s.faults.writesLeft = some n ∧
        n < (Priority.pack (scope (without E s id) e) id).length)

/-! ## Removal -/

theorem delete_eq_ok (hdeletes : s.faults.deletes = false) (id : String) :
    (table (E := E)).delete s id = .ok (without E s id) := by
  rw [Table.delete, Store.delete, hdeletes, if_neg (by simp), without]

/-- Once a record is taken out, it stays out, whatever comes of the rest. -/
theorem get?_rows_remove [LawfulPrioritized E] (hdeletes : s.faults.deletes = false) (e : E)
    (id : String) : (rows E (remove e id s).2).get? id = none := by
  have hdelete := delete_eq_ok (E := E) hdeletes id
  have hgone : (rows E (without E s id)).get? id = none := by
    rw [get?_rows_of_delete hdelete, if_pos rfl]
  have hclosed : (rows E (closeGap e id (without E s id)).2).get? id = none := by
    rw [closeGap]
    split
    · exact hgone
    · next es hscope =>
        rw [(save_kept (Priority.pack es id) (without E s id)).1 id
          (Priority.not_mem_map_key_pack es id)]
        exact hgone
  rw [remove, hdelete]
  dsimp only
  split <;> simp_all

theorem remove_of_deletes (hdeletes : s.faults.deletes = true) (e : E) (id : String) :
    (remove e id s).2 = s := by
  rw [remove, Table.delete, Store.delete, if_pos hdeletes]

/-- The rest can be read if every other document is a record. -/
theorem readable_without_iff (hdeletes : s.faults.deletes = false) (id : String) :
    (∀ doc ∈ (rows E (without E s id)).values, ((table (E := E)).decode doc).isSome) ↔
      ∀ n doc, n ≠ id → (rows E s).get? n = some doc → (table (E := E)).decode doc ≠ none := by
  simp only [mem_values_iff, get?_rows_of_delete (delete_eq_ok (E := E) hdeletes id),
    Option.isSome_iff_ne_none]
  constructor
  · intro h n doc hne hn
    exact h doc ⟨n, by rw [if_neg hne, hn]⟩
  · rintro h doc ⟨n, hn⟩
    split at hn
    · cases hn
    · next hne => exact h n doc hne hn

/-- A gap is closed if the table can be read, and the writes last. -/
theorem closeGap_ok_iff (hreads : s.faults.reads = false) (e : E) (id : String) :
    (closeGap e id s).1 = .ok () ↔
      (∀ doc ∈ (rows E s).values, ((table (E := E)).decode doc).isSome) ∧
        ∀ n, s.faults.writesLeft = some n → (Priority.pack (scope s e) id).length ≤ n := by
  rw [closeGap]
  cases hscope : scopeOf s e with
  | error error =>
      have hne : ¬∀ doc ∈ (rows E s).values, ((table (E := E)).decode doc).isSome :=
        fun hall => by
          have hok : scopeOf s e = .ok (scope s e) := scopeOf_eq_ok_iff.2 ⟨hreads, hall, rfl⟩
          rw [hok] at hscope
          cases hscope
      simp [hne]
  | ok es =>
      obtain ⟨-, hall, rfl⟩ := scopeOf_eq_ok_iff.1 hscope
      rw [and_iff_right hall, ← exists_save_eq_ok_iff]
      dsimp only
      rcases save (Priority.pack (scope s e) id) s with ⟨outcome, s'⟩
      cases outcome <;> simp

/-- A removal succeeds if every other document is a record, and the writes last. -/
theorem remove_ok_iff (hreads : s.faults.reads = false) (hdeletes : s.faults.deletes = false)
    (e : E) (id : String) :
    (∃ e', (remove e id s).1 = .ok e') ↔
      (∀ n doc, n ≠ id → (rows E s).get? n = some doc → (table (E := E)).decode doc ≠ none) ∧
        ∀ n, s.faults.writesLeft = some n →
          (Priority.pack (scope (without E s id) e) id).length ≤ n := by
  have hclose := closeGap_ok_iff (s := without E s id) hreads e id
  rw [readable_without_iff hdeletes] at hclose
  refine Iff.trans ?_ hclose
  rw [remove, delete_eq_ok hdeletes]
  dsimp only
  rcases closeGap e id (without E s id) with ⟨outcome, s'⟩
  cases outcome <;> simp

/-! ## A deletion that fails -/

variable {d d' : Desk} {id : String}

theorem deleteWork_of_error {error : AdminError}
    (h : findDeletable (E := E) d.store id = .error error) :
    deleteWork E id d = (.error error, d) := by
  rw [deleteWork, h]

theorem deleteWork_of_ok {e : E} (h : findDeletable d.store id = .ok e) :
    deleteWork E id d = d.after (remove e id d.store) := by
  rw [deleteWork, h]

/-- A stranded record is gone, and the deletion answers an error. -/
theorem Stranded.deleteWork_eq_error [LawfulPrioritized E] (h : Stranded E d.store id) :
    ∃ error d', deleteWork E id d = (.error error, d') ∧
      (rows E d.store).get? id ≠ none ∧ (rows E d'.store).get? id = none := by
  obtain ⟨e, hfind, hleft⟩ := h.left
  obtain ⟨hstands, -⟩ := findDeletable_eq_ok_iff.1 hfind
  obtain ⟨-, hreads, hstored⟩ := find_eq_ok_iff.1 hstands
  obtain ⟨doc, hdoc, -⟩ := stored?_eq_some_iff.1 hstored
  have hfails : ¬∃ e', (remove e id d.store).1 = .ok e' := by
    rw [remove_ok_iff hreads h.deletes]
    rintro ⟨hdecode, hwrites⟩
    rcases hleft with ⟨n, doc, hn, hrow, hnone⟩ | ⟨n, hn, hlt⟩
    · exact hdecode n doc hn hrow hnone
    · exact absurd (hwrites n hn) (Nat.not_le.2 hlt)
  cases hout : (remove e id d.store).1 with
  | ok e' => exact absurd ⟨e', hout⟩ hfails
  | error error =>
      refine ⟨error, _, by rw [deleteWork_of_ok hfind, Desk.after, hout], by simp [hdoc], ?_⟩
      exact get?_rows_remove h.deletes e id

/-- A deletion that fails on a record that is not stranded has not begun to write. -/
theorem store_of_deleteWork_error {error : AdminError} (hstranded : ¬Stranded E d.store id)
    (h : deleteWork E id d = (.error error, d')) : d'.store = d.store := by
  cases hfind : findDeletable (E := E) d.store id with
  | error error' =>
      rw [deleteWork_of_error hfind] at h
      cases h
      rfl
  | ok e =>
      rw [deleteWork_of_ok hfind] at h
      have hout : (remove e id d.store).1 = .error error := congrArg Prod.fst h
      have hstore : (remove e id d.store).2 = d'.store := congrArg (·.2.store) h
      rw [← hstore]
      cases hdeletes : d.store.faults.deletes with
      | true => exact remove_of_deletes hdeletes e id
      | false =>
          obtain ⟨-, hreads, -⟩ := find_eq_ok_iff.1 (findDeletable_eq_ok_iff.1 hfind).1
          have hfails : ¬∃ e', (remove e id d.store).1 = .ok e' := by
            rintro ⟨e', hok⟩
            rw [hok] at hout
            cases hout
          rw [remove_ok_iff hreads hdeletes] at hfails
          refine absurd ⟨hdeletes, e, hfind, ?_⟩ hstranded
          by_contra hleft
          rw [not_or] at hleft
          refine hfails ⟨fun n doc hn hrow hnone => hleft.1 ⟨n, doc, hn, hrow, hnone⟩, ?_⟩
          intro n hn
          by_contra hlt
          exact hleft.2 ⟨n, hn, Nat.not_le.1 hlt⟩

/-- **Failing deletions**: a deletion that fails leaves every table as it was, except exactly if the
lock is free, the store can be brought up to date, and the record is then stranded. -/
theorem delete_keeps_tables_iff (a : Admin) (w : World) (k : Kind) (id owner : String) :
    (∀ (error : AdminError) (w' : World), delete k.Record a id owner w = (.error error, w') →
      ∀ name, w'.desk.store.table name = w.desk.store.table name) ↔
      ¬((w.lock a.config k.tableName).owner = none ∧ w.desk.store.faults.syncs = false ∧
        Stranded k.Record w.desk.synced.store id) := by
  constructor
  · rintro hkeeps ⟨hfree, hsyncs, hstranded⟩
    obtain ⟨error, d', hwork, hbefore, hafter⟩ := hstranded.deleteWork_eq_error
    obtain ⟨w', hrun, hdesk⟩ := underLock_of_free owner (deleteWork k.Record id) hfree hsyncs
    rw [hwork] at hrun hdesk
    dsimp only at hrun hdesk
    have hsame : rows k.Record w'.desk.store = rows k.Record w.desk.synced.store :=
      hkeeps error w' hrun _
    rw [← hdesk, hsame] at hafter
    exact hbefore hafter
  · intro hstranded error w' hrun name
    have hrun : underLock a.config k.tableName owner (deleteWork k.Record id) w =
        (.error error, w') := hrun
    by_cases hfree : (w.lock a.config k.tableName).owner = none ∧
        w.desk.store.faults.syncs = false
    · obtain ⟨w₁, hrun₁, hdesk⟩ :=
        underLock_of_free owner (deleteWork k.Record id) hfree.1 hfree.2
      rw [hrun₁] at hrun
      obtain ⟨hout, rfl⟩ := Prod.mk.inj hrun
      rw [hdesk, store_of_deleteWork_error (fun h => hstranded ⟨hfree.1, hfree.2, h⟩)
        (Prod.ext hout rfl)]
      rfl
    · obtain ⟨error', w₁, hrun₁, hdesk⟩ :=
        underLock_of_not_free owner (deleteWork k.Record id) hfree
      rw [hrun₁] at hrun
      obtain ⟨-, rfl⟩ := Prod.mk.inj hrun
      rw [hdesk]

/-! ## An unreadable document -/

/-- The world with a rule `a` that stands next to a document that is no rule. -/
def unreadableNeighbour : World :=
  { desk :=
    { store :=
      (seeded [({ id := "a", name := "a", applicationType := "stb", priority := 1 } :
        FirmwareRule)]).insert Kind.firmwareRule.tableName "z" (.bool true) } }

/-- Not every deletion that fails leaves every table as it was. -/
theorem delete_changes_unreadableNeighbour :
    ¬∀ (a : Admin) (w : World) (k : Kind) (id owner : String) (error : AdminError) (w' : World),
      delete k.Record a id owner w = (.error error, w') →
        ∀ name, w'.desk.store.table name = w.desk.store.table name := by
  intro h
  have hbefore : ((unreadableNeighbour.desk.store.table
      Kind.firmwareRule.tableName).get? "a").isSome = true := by decide +kernel
  have hafter : (((delete Kind.firmwareRule.Record { newId := toString } "a" "admin"
      unreadableNeighbour).2.desk.store.table Kind.firmwareRule.tableName).get? "a").isSome =
        false := by decide +kernel
  have hfails : (delete Kind.firmwareRule.Record { newId := toString } "a" "admin"
      unreadableNeighbour).1.toBool = false := by decide +kernel
  rcases hrun : delete Kind.firmwareRule.Record { newId := toString } "a" "admin"
    unreadableNeighbour with ⟨outcome, w'⟩
  rw [hrun] at hafter hfails
  cases outcome with
  | ok e => cases hfails
  | error error =>
      rw [h _ _ _ _ _ error w' hrun, hbefore] at hafter
      cases hafter

end Rulebook.Admin
