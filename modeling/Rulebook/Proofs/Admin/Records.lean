import Rulebook.Admin.Scope
import Rulebook.Proofs.Admin.Kinds
import Rulebook.Proofs.Results

/-!
# Rulebook.Proofs.Admin.Records

The records of a kind in a store, and their scopes.

A table is keyed if each of its documents is a record that stands under its own identifier
(`Keyed`).  Of a keyed table every look-up succeeds as long as the store can be read:

* `get?_eq_ok_iff`, `find_eq_ok_iff` — a look-up by identifier finds the record that stands there;
* `scopeOf_eq` — a scope is the records of the kind in it, in order, each identifier once.
-/

namespace Rulebook.Admin

open Prioritized RuleKind

/-! ## Tables -/

/-- The rows of the kind's table. -/
def rows (E : Type) [RuleKind E] (s : Store) : SortedMap Json :=
  s.table (table (E := E)).name

/-- The record that stands under an identifier. -/
def stored? (E : Type) [RuleKind E] (s : Store) (id : String) : Option E :=
  ((rows E s).get? id).bind (table (E := E)).decode

/-- Every document of the kind's table is a record that stands under its own identifier. -/
def Keyed (E : Type) [RuleKind E] (s : Store) : Prop :=
  ∀ id doc, (rows E s).get? id = some doc → ∃ e : E, table.decode doc = some e ∧ key e = id

/-- All records that can be read, in the order of their identifiers. -/
def records (E : Type) [RuleKind E] (s : Store) : List E :=
  (rows E s).values.filterMap (table (E := E)).decode

variable {E : Type} [RuleKind E] {s : Store}

/-- The records in the scope of a record, in order. -/
def scope (s : Store) (e : E) : List E :=
  Priority.sort ((records E s).filter fun r => sameScope r e)

/-! ## Look-up -/

theorem stored?_eq_some_iff {id : String} {e : E} :
    stored? E s id = some e ↔
      ∃ doc, (rows E s).get? id = some doc ∧ table.decode doc = some e := by
  rw [stored?, Option.bind_eq_some_iff]

/-- In a keyed table, a record stands under its own identifier. -/
theorem Keyed.key_eq (h : Keyed E s) {id : String} {e : E} (he : stored? E s id = some e) :
    key e = id := by
  obtain ⟨doc, hdoc, hdecode⟩ := stored?_eq_some_iff.1 he
  obtain ⟨e', hdecode', hkey⟩ := h id doc hdoc
  rw [hdecode] at hdecode'
  cases hdecode'
  exact hkey

/-- In a keyed table, nothing is found only where nothing stands. -/
theorem Keyed.stored?_eq_none_iff (h : Keyed E s) {id : String} :
    stored? E s id = none ↔ (rows E s).get? id = none := by
  rw [stored?]
  cases hrow : (rows E s).get? id with
  | none => simp
  | some doc =>
      obtain ⟨e, hdecode, -⟩ := h id doc hrow
      simp [hdecode]

/-- A look-up that succeeds finds what stands there, whatever else is in the table. -/
theorem get?_eq_ok_iff {id : String} {found : Option E} :
    get? s id = .ok found ↔ s.faults.reads = false ∧ stored? E s id = found ∧
      (found = none → (rows E s).get? id = none) := by
  rw [get?, Table.get?, Store.get?, stored?, rows]
  cases hreads : s.faults.reads with
  | true => simp [Except.mapError]
  | false =>
      cases hrow : (s.table (table (E := E)).name).get? id with
      | none => simp [Except.mapError]
      | some doc =>
          cases hdecode : (table (E := E)).decode doc with
          | none => simp [Table.read, hdecode, Except.mapError, eq_comm]
          | some e => simp +contextual [Table.read, hdecode, Except.mapError, eq_comm]

theorem find_eq_ok_iff {id : String} {e : E} :
    find s id = .ok e ↔
      Text.isBlank id = false ∧ s.faults.reads = false ∧ stored? E s id = some e := by
  rw [find]
  cases hblank : Text.isBlank id with
  | true => simp
  | false =>
      rw [if_neg (by simp), bind_eq_ok_iff]
      constructor
      · rintro ⟨found, hget, hfound⟩
        obtain ⟨hreads, hstored, -⟩ := get?_eq_ok_iff.1 hget
        cases found with
        | none => cases hfound
        | some e' =>
            cases hfound
            exact ⟨rfl, hreads, hstored⟩
      · rintro ⟨-, hreads, hstored⟩
        exact ⟨some e, get?_eq_ok_iff.2 ⟨hreads, hstored, by simp⟩, rfl⟩

/-! ## All records -/

theorem mapM_read_eq_ok_iff {α : Type} (t : Table α) {docs : List Json} {es : List α} :
    docs.mapM t.read = .ok es ↔
      (∀ doc ∈ docs, (t.decode doc).isSome) ∧ es = docs.filterMap t.decode := by
  induction docs generalizing es with
  | nil =>
      simp only [List.mapM_nil, pure, Except.pure, Except.ok.injEq, List.not_mem_nil, false_implies,
        implies_true, true_and, List.filterMap_nil]
      exact eq_comm
  | cons doc rest ih =>
      rw [List.mapM_cons, Table.read, List.forall_mem_cons]
      cases hdecode : t.decode doc with
      | none => simp [bind, Except.bind]
      | some e =>
          rw [List.filterMap_cons_some hdecode]
          cases hrest : rest.mapM t.read with
          | error error =>
              have hne : ¬∀ doc ∈ rest, (t.decode doc).isSome := fun h => by
                rw [ih.2 ⟨h, rfl⟩] at hrest
                cases hrest
              simp only [bind, Except.bind, hne]
              simp
          | ok es' =>
              obtain ⟨hall, rfl⟩ := ih.1 hrest
              simp only [bind, Except.bind, pure, Except.pure, Except.ok.injEq, Option.isSome_some,
                true_and]
              exact ⟨fun h => ⟨hall, h.symm⟩, fun h => h.2.symm⟩

/-- Listing the table succeeds if every document of it can be read. -/
theorem all_eq_ok_iff {es : List E} :
    all s = .ok es ↔ s.faults.reads = false ∧
      (∀ doc ∈ (rows E s).values, ((table (E := E)).decode doc).isSome) ∧ es = records E s := by
  rw [all, mapError_eq_ok_iff, Table.all, Store.all, ← rows]
  cases hreads : s.faults.reads with
  | true => simp
  | false =>
      rw [if_neg (by simp), records]
      simpa using mapM_read_eq_ok_iff (table (E := E))

theorem scopeOf_eq_ok_iff {e : E} {es : List E} :
    scopeOf s e = .ok es ↔ s.faults.reads = false ∧
      (∀ doc ∈ (rows E s).values, ((table (E := E)).decode doc).isSome) ∧ es = scope s e := by
  simp only [scopeOf, bind_eq_ok_iff, pure_eq_ok_iff, all_eq_ok_iff, scope]
  constructor
  · rintro ⟨_, ⟨hreads, hall, rfl⟩, rfl⟩
    exact ⟨hreads, hall, rfl⟩
  · rintro ⟨hreads, hall, rfl⟩
    exact ⟨records E s, ⟨hreads, hall, rfl⟩, rfl⟩

/-! ## Keyed tables -/

theorem mem_values_iff {α : Type} {m : SortedMap α} {a : α} :
    a ∈ m.values ↔ ∃ id, m.get? id = some a := by
  rw [SortedMap.values, List.mem_map]
  constructor
  · rintro ⟨⟨id, b⟩, hmem, rfl⟩
    exact ⟨id, SortedMap.mem_toList_iff.1 hmem⟩
  · rintro ⟨id, h⟩
    exact ⟨(id, a), SortedMap.mem_toList_iff.2 h, rfl⟩

theorem Keyed.isSome_decode (h : Keyed E s) :
    ∀ doc ∈ (rows E s).values, ((table (E := E)).decode doc).isSome := by
  intro doc hdoc
  obtain ⟨id, hrow⟩ := mem_values_iff.1 hdoc
  obtain ⟨e, hdecode, -⟩ := h id doc hrow
  simp [hdecode]

theorem scopeOf_eq (h : Keyed E s) (hreads : s.faults.reads = false) (e : E) :
    scopeOf s e = .ok (scope s e) :=
  scopeOf_eq_ok_iff.2 ⟨hreads, h.isSome_decode, rfl⟩

theorem Keyed.mem_records_iff (h : Keyed E s) {e : E} :
    e ∈ records E s ↔ stored? E s (key e) = some e := by
  rw [records, List.mem_filterMap, stored?_eq_some_iff]
  constructor
  · rintro ⟨doc, hdoc, hdecode⟩
    obtain ⟨id, hrow⟩ := mem_values_iff.1 hdoc
    obtain ⟨e', hdecode', rfl⟩ := h id doc hrow
    rw [hdecode] at hdecode'
    cases hdecode'
    exact ⟨doc, hrow, hdecode⟩
  · rintro ⟨doc, hrow, hdecode⟩
    exact ⟨doc, mem_values_iff.2 ⟨key e, hrow⟩, hdecode⟩

/-- The identifiers of the records are the keys of the table. -/
theorem Keyed.map_key_records (h : Keyed E s) : (records E s).map key = (rows E s).keys := by
  have hentries : ∀ entries : List (String × Json),
      (∀ m ∈ entries, ∃ e : E, table.decode m.2 = some e ∧ key e = m.1) →
        ((entries.map Prod.snd).filterMap (table (E := E)).decode).map key =
          entries.map Prod.fst := by
    intro entries hentries
    induction entries with
    | nil => rfl
    | cons m rest ih =>
        rw [List.forall_mem_cons] at hentries
        obtain ⟨⟨e, hdecode, hkey⟩, hrest⟩ := hentries
        rw [List.map_cons, List.filterMap_cons_some hdecode, List.map_cons, ih hrest, hkey,
          List.map_cons]
  exact hentries _ fun m hm => h m.1 m.2 (SortedMap.mem_toList_iff.1 hm)

theorem nodup_keys {α : Type} (m : SortedMap α) : m.keys.Nodup := by
  rw [SortedMap.keys, List.Nodup, List.pairwise_map]
  refine m.sorted.imp fun {a b} hlt heq => ?_
  rw [heq] at hlt
  exact String.lt_irrefl _ hlt

theorem Keyed.nodup_map_key (h : Keyed E s) : ((records E s).map key).Nodup := by
  rw [h.map_key_records]
  exact nodup_keys _

/-! ## Scopes -/

theorem Keyed.mem_scope_iff (h : Keyed E s) {e r : E} :
    r ∈ scope s e ↔ stored? E s (key r) = some r ∧ sameScope r e = true := by
  rw [scope, Priority.mem_sort, List.mem_filter, h.mem_records_iff]

theorem Keyed.nodup_map_key_filter (h : Keyed E s) (p : E → Bool) :
    (((records E s).filter p).map key).Nodup :=
  h.nodup_map_key.sublist (List.filter_sublist.map key)

theorem Keyed.nodup_map_key_scope (h : Keyed E s) (e : E) : ((scope s e).map key).Nodup :=
  Priority.nodup_map_key_sort (h.nodup_map_key_filter _)

theorem sort_scope (s : Store) (e : E) : Priority.sort (scope s e) = scope s e :=
  Priority.sort_sort _

theorem length_scope_le (s : Store) (e : E) : (scope s e).length ≤ (records E s).length := by
  rw [scope, (Priority.sort_perm _).length_eq]
  exact List.length_filter_le _ _

/-- A scope is determined by the records in it. -/
theorem Keyed.scope_eq_sort (h : Keyed E s) {e : E} {es : List E} (hnodup : (es.map key).Nodup)
    (hmem : ∀ r, r ∈ es ↔ stored? E s (key r) = some r ∧ sameScope r e = true) :
    scope s e = Priority.sort es := by
  have hperm : (scope s e).Perm es := by
    refine (List.perm_ext_iff_of_nodup ?_ ?_).2 fun r => ?_
    · exact (h.nodup_map_key_scope e).of_map
    · exact hnodup.of_map
    · rw [h.mem_scope_iff, hmem]
  rw [← sort_scope]
  exact Priority.sort_eq_of_perm (h.nodup_map_key_scope e) hperm

section Lawful

variable [LawfulKind E]

theorem sameScope_refl (e : E) : sameScope e e = true :=
  LawfulKind.sameScope_equivalence.refl e

theorem sameScope_comm {a b : E} : sameScope a b = true ↔ sameScope b a = true :=
  ⟨fun h => LawfulKind.sameScope_equivalence.symm h,
    fun h => LawfulKind.sameScope_equivalence.symm h⟩

theorem sameScope_trans {a b c : E} (h : sameScope a b = true) (h' : sameScope b c = true) :
    sameScope a c = true :=
  LawfulKind.sameScope_equivalence.trans h h'

/-- Records of the same scope are in the same scopes. -/
theorem sameScope_congr {a b : E} (h : sameScope a b = true) (c : E) :
    sameScope c a = sameScope c b := by
  rw [Bool.eq_iff_iff]
  exact ⟨fun hc => LawfulKind.sameScope_equivalence.trans hc h,
    fun hc => LawfulKind.sameScope_equivalence.trans hc (sameScope_comm.1 h)⟩

theorem scope_congr (s : Store) {a b : E} (h : sameScope a b = true) : scope s a = scope s b := by
  rw [scope, scope]
  simp only [sameScope_congr h]

theorem Keyed.mem_scope_self (h : Keyed E s) {id : String} {e : E}
    (he : stored? E s id = some e) : e ∈ scope s e := by
  rw [h.mem_scope_iff, h.key_eq he]
  exact ⟨he, sameScope_refl e⟩

end Lawful

end Rulebook.Admin
