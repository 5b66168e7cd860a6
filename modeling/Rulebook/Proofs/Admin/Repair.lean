import Rulebook.Proofs.Admin.Storage
import Rulebook.Proofs.Admin.Visited
import Rulebook.Proofs.Priority.Packing

/-!
# Rulebook.Proofs.Admin.Repair

Deleting puts a damaged scope in order again.

A write that failed can leave ties and gaps in a scope, and a table can hold documents with numbers
that no record reads back as they were written.  So it is not assumed here that a written record
reads back as itself, only that it does so in the same place (`SamePlace`):

* `Replacing.scope_eq` — a dense list that is written over a scope in part is the scope that is read
  afterwards, record by record in the same place;
* `delete_repairs` — what packing reports for any list, and the scope after any deletion that
  succeeds.
-/

namespace Rulebook.Admin

open Prioritized RuleKind

/-! ## Records in the same place -/

section Places

variable {E : Type} [RuleKind E] {s s' : Store}

/-- The records have one identifier, one priority and one scope. -/
structure SamePlace (a b : E) : Prop where
  key_eq : key b = key a
  priority_eq : priority b = priority a
  inScope : sameScope b a = true

/-- The record that is found under the identifier of a record. -/
def current (s : Store) (a : E) : E :=
  (stored? E s (key a)).getD a

/-- The records of a scope are replaced by the records `after` of the same identifiers; `writes` are
written, and read back in their places. -/
structure Replacing (s : Store) (e : E) (after writes : List E) : Prop where
  keyed : Keyed E s
  rewrite : Priority.Rewrite (scope s e) after writes
  map_key : after.map key = (scope s e).map key
  inScope : ∀ a ∈ after, sameScope a e = true
  readsBack : ∀ a ∈ writes, ∃ b : E, table.decode (table.encode a) = some b ∧ SamePlace a b

namespace Replacing

variable [LawfulKind E] {e : E} {after writes : List E}

/-- Each record of the new scope is found, written or not. -/
theorem stored?_eq_current (h : Replacing s e after writes) (hsaved : Saved writes s s') {a : E}
    (ha : a ∈ after) : stored? E s' (key a) = some (current s' a) ∧ SamePlace a (current s' a) := by
  have hfound : ∃ b, stored? E s' (key a) = some b ∧ SamePlace a b := by
    by_cases hmem : a ∈ writes
    · obtain ⟨b, hdecode, hplace⟩ := h.readsBack a hmem
      exact ⟨b, stored?_eq_some_iff.2 ⟨_, hsaved.written a hmem, hdecode⟩, hplace⟩
    · have hid := h.rewrite.key_not_mem ha hmem
      have hbefore := h.keyed.mem_scope_iff.1 (h.rewrite.kept a ha hmem)
      exact ⟨a, (hsaved.stored?_of_not_mem hid).trans hbefore.1, rfl, rfl, sameScope_refl a⟩
  obtain ⟨b, hstored, hplace⟩ := hfound
  rw [current, hstored, Option.getD_some]
  exact ⟨rfl, hplace⟩

omit [LawfulKind E] in
/-- A table stays keyed. -/
theorem keyed_saved (h : Replacing s e after writes) (hsaved : Saved writes s s') :
    Keyed E s' :=
  h.keyed.of_saved hsaved fun a ha =>
    (h.readsBack a ha).imp fun _ hread => ⟨hread.1, hread.2.key_eq⟩

theorem map_key_current (h : Replacing s e after writes) (hsaved : Saved writes s s') :
    (after.map (current s')).map key = after.map key := by
  rw [List.map_map]
  exact List.map_congr_left fun a ha => (h.stored?_eq_current hsaved ha).2.key_eq

theorem dense_current (h : Replacing s e after writes) (hsaved : Saved writes s s')
    (hdense : Priority.Dense after) : Priority.Dense (after.map (current s')) := by
  intro i b hb
  rw [List.getElem?_map, Option.map_eq_some_iff] at hb
  obtain ⟨a, ha, rfl⟩ := hb
  rw [(h.stored?_eq_current hsaved (List.mem_of_getElem? ha)).2.priority_eq]
  exact hdense i a ha

theorem mem_current_iff (h : Replacing s e after writes) (hsaved : Saved writes s s') (r : E) :
    r ∈ after.map (current s') ↔ stored? E s' (key r) = some r ∧ sameScope r e = true := by
  constructor
  · intro hr
    obtain ⟨a, ha, rfl⟩ := List.mem_map.1 hr
    obtain ⟨hstored, hplace⟩ := h.stored?_eq_current hsaved ha
    rw [hplace.key_eq]
    exact ⟨hstored, sameScope_trans hplace.inScope (h.inScope a ha)⟩
  · rintro ⟨hstored, hsame⟩
    -- a record that was not written stood in the scope before, and its identifier is still there
    have hid : key r ∈ after.map key := by
      by_cases hwritten : key r ∈ writes.map key
      · exact (h.rewrite.wanted.map key).subset hwritten
      · rw [hsaved.stored?_of_not_mem hwritten] at hstored
        rw [h.map_key]
        exact List.mem_map_of_mem (h.keyed.mem_scope_iff.2 ⟨hstored, hsame⟩)
    obtain ⟨a, ha, hkey⟩ := List.mem_map.1 hid
    have hcurrent := (h.stored?_eq_current hsaved ha).1
    rw [hkey, hstored] at hcurrent
    exact List.mem_map.2 ⟨a, ha, (Option.some.inj hcurrent).symm⟩

/-- **The replaced scope**, if it was to be dense, holds what is found of the records that it was to
hold, in their order. -/
theorem scope_eq (h : Replacing s e after writes) (hsaved : Saved writes s s')
    (hdense : Priority.Dense after) : scope s' e = after.map (current s') := by
  rw [← Priority.sort_eq_self_of_dense (h.dense_current hsaved hdense)]
  refine (h.keyed_saved hsaved).scope_eq_sort ?_ (h.mem_current_iff hsaved)
  rw [h.map_key_current hsaved]
  exact h.rewrite.nodup

end Replacing

end Places

/-! ## Deleting -/

section Deleting

variable {k : Kind} {s s' : Store} {id : String} {e : k.Record}

/-- A record that is written reads back in its place, if its priority is one that there is. -/
theorem samePlace_of_isInt32 {a : k.Record} (ha : Json.IsInt32 (priority a)) :
    ∃ b : k.Record, table.decode (table.encode a) = some b ∧ SamePlace a b :=
  ⟨_, LawfulKind.decode_encode ha, LawfulKind.key_withRule _ _, LawfulKind.priority_withRule _ _,
    sameScope_withRule a _⟩

/-- Closing the gaps of a scope of any priorities replaces its records. -/
theorem Keyed.replacing_closeGaps (h : Keyed k.Record s)
    (hn : ((scope s e).length : Int) ≤ Priority.largest) :
    Replacing s e (Priority.closed 1 (scope s e)) (Priority.closeGaps 1 (scope s e)) := by
  refine ⟨h, Priority.rewrite_closeGaps (h.nodup_map_key_scope e) 1, Priority.map_key_closed 1 _,
    fun a ha => ?_, fun a ha => ?_⟩
  · obtain ⟨b, hb, p, rfl⟩ := Priority.exists_of_mem_closed ha
    exact sameScope_trans (LawfulKind.sameScope_withPriority b p) (h.mem_scope_iff.1 hb).2
  · obtain ⟨i, b, hb, -, rfl⟩ := Priority.mem_closeGaps_iff.1 ha
    have hlt : i < (scope s e).length := (List.getElem?_eq_some_iff.1 hb).1
    refine samePlace_of_isInt32 ?_
    rw [LawfulPrioritized.priority_withPriority]
    exact isInt32_of_le_largest (by omega) (by omega)

/-- Once the gap is closed, the scope holds the other records, numbered in their order. -/
theorem Keyed.dense_of_pack (h : Keyed k.Record s)
    {s₁ : Store} (hdelete : (table (E := k.Record)).delete s id = .ok s₁)
    (hn : ((scope s e).length : Int) ≤ Priority.largest)
    (hsave : save (Priority.pack (scope s₁ e) id) s₁ = (.ok (), s')) :
    Keyed k.Record s' ∧ Priority.Dense (scope s' e) ∧
      (scope s' e).map key = ((scope s e).map key).erase id := by
  have hlength := length_scope_of_delete h hdelete e
  have hreplacing := (h.of_delete hdelete).replacing_closeGaps (e := e) (by omega)
  rw [pack_scope_of_delete h hdelete] at hsave
  have hsaved := saved_of_save hreplacing.rewrite.nodup_written hsave
  have hdense := Priority.dense_closed (scope s₁ e)
  refine ⟨hreplacing.keyed_saved hsaved, ?_, ?_⟩
  · rw [hreplacing.scope_eq hsaved hdense]
    exact hreplacing.dense_current hsaved hdense
  · rw [hreplacing.scope_eq hsaved hdense, hreplacing.map_key_current hsaved, hreplacing.map_key,
      map_key_scope_of_delete h hdelete]

variable {d d' : Desk}

theorem Keyed.repaired_of_deleteWork (h : Keyed k.Record d.store)
    (hrun : deleteWork k.Record id d = (.ok e, d')) :
    stored? k.Record d.store id = some e ∧ ∃ before, scopeOf d.store e = .ok before ∧
      ((before.length : Int) ≤ Priority.largest → ∃ after, scopeOf d'.store e = .ok after ∧
        Priority.Dense after ∧ after.map key = (before.map key).erase id) := by
  obtain ⟨hfind, s₁, es, hdelete, hscope, hsave⟩ := deleteWork_eq_ok hrun
  obtain ⟨-, hreads, hstored⟩ := find_eq_ok_iff.1 (findDeletable_eq_ok_iff.1 hfind).1
  obtain ⟨hreads₁, -, rfl⟩ := scopeOf_eq_ok_iff.1 hscope
  refine ⟨hstored, scope d.store e, scopeOf_eq h hreads e, fun hn => ?_⟩
  obtain ⟨hkeyed, hdense, hids⟩ := h.dense_of_pack hdelete hn hsave
  have hreads' : d'.store.faults.reads = false := (reads_of_save hsave).trans hreads₁
  exact ⟨scope d'.store e, scopeOf_eq hkeyed hreads' e, hdense, hids⟩

/-- **Deleting repairs a scope.**  Of items with distinct identifiers and any priorities, packing
reports what it takes to number all but one from one up, in the order they had, and no more.  So in
a table of any priorities, in which every document is a record under its own identifier, a deletion
that succeeds leaves the scope of its record dense, in the order it had. -/
theorem delete_repairs :
    (∀ {α : Type} [Prioritized α] [LawfulPrioritized α] (items : List α) (id : String),
      (items.map key).Nodup →
        ∃ order : List α, order.Perm (items.filter fun a => key a != id) ∧
          order.Pairwise Priority.Before ∧ Priority.Renumbers order (Priority.pack items id) ∧
          id ∉ (Priority.pack items id).map key) ∧
    ∀ (a : Admin) (w w' : World) (k : Kind) (id owner : String) (e : k.Record),
      Keyed k.Record w.desk.store → delete k.Record a id owner w = (.ok e, w') →
        stored? k.Record w.desk.store id = some e ∧
        ∃ before, scopeOf w.desk.store e = .ok before ∧
          ((before.length : Int) ≤ Priority.largest →
            ∃ after, scopeOf w'.desk.store e = .ok after ∧ Priority.Dense after ∧
              after.map key = (before.map key).erase id) := by
  refine ⟨fun items id hnodup => Priority.exists_renumbers_pack hnodup id, ?_⟩
  intro a w w' k id owner e h hrun
  have hsynced : Keyed k.Record w.desk.synced.store := h
  exact hsynced.repaired_of_deleteWork (underLock_eq_ok hrun)

end Deleting

/-! ## A damaged scope -/

/-- A firmware rule with a priority of its own choice. -/
def ruleAt (id : String) (priority : Int) : Kind.firmwareRule.Record :=
  ({ id, name := id, applicationType := "stb", priority } : FirmwareRule)

/-- Four rules with a negative priority, gaps, and a tie. -/
def damagedRules : List Kind.firmwareRule.Record :=
  [ruleAt "c" 7, ruleAt "a" (-3), ruleAt "d" 1, ruleAt "b" 7]

/-- The world with the damaged scope. -/
def damaged : World :=
  { desk := { store := seeded damagedRules } }

theorem keyed_damaged : Keyed Kind.firmwareRule.Record damaged.desk.store := by
  refine keyed_seeded fun e he => ?_
  simp only [damagedRules, List.mem_cons, List.not_mem_nil, or_false] at he
  rcases he with rfl | rfl | rfl | rfl <;> decide

/-- Without `d`, the rules `a`, `b` and `c` are numbered from one to three. -/
theorem delete_repairs_damaged :
    (∃ order : List Kind.firmwareRule.Record,
      order.Perm (damagedRules.filter fun a => key a != "d") ∧ order.Pairwise Priority.Before ∧
        Priority.Renumbers order (Priority.pack damagedRules "d") ∧
        "d" ∉ (Priority.pack damagedRules "d").map key) ∧
    ∃ e w', delete Kind.firmwareRule.Record { newId := toString } "d" "admin" damaged =
        (.ok e, w') ∧
      ∃ after, scopeOf w'.desk.store e = .ok after ∧ Priority.Dense after ∧
        after.map key = ["a", "b", "c"] := by
  have hok : (delete Kind.firmwareRule.Record { newId := toString } "d" "admin" damaged).1.isOk =
      true := by decide +kernel
  have hscope : (stored? Kind.firmwareRule.Record damaged.desk.store "d").map
      (fun e => (scope damaged.desk.store e).map key) = some ["a", "d", "b", "c"] := by
    decide +kernel
  refine ⟨delete_repairs.1 damagedRules "d" (by decide), ?_⟩
  rcases hrun : delete Kind.firmwareRule.Record { newId := toString } "d" "admin" damaged with
    ⟨outcome, w'⟩
  rw [hrun] at hok
  cases outcome with
  | error error => cases hok
  | ok e =>
      obtain ⟨hstored, before, hbefore, hrepaired⟩ :=
        delete_repairs.2 { newId := toString } damaged w' .firmwareRule "d" "admin" e keyed_damaged
          hrun
      rw [hstored, Option.map_some, ← (scopeOf_eq_ok_iff.1 hbefore).2.2] at hscope
      have hids : before.map key = ["a", "d", "b", "c"] := Option.some.inj hscope
      have hlength : before.length = 4 := by rw [← List.length_map key, hids]; rfl
      obtain ⟨after, hafter, hdense, hkeys⟩ := hrepaired (by rw [hlength]; decide)
      exact ⟨e, w', rfl, after, hafter, hdense, by rw [hkeys, hids]; decide⟩

end Rulebook.Admin
