import Rulebook.Proofs.Admin.Plans

/-!
# Rulebook.Proofs.Admin.Orderly

Orderly tables, and what may be stored in them.

A table is orderly if every document is that of a record under its own identifier, which is not
blank, and every scope is dense (`Orderly`).  A `Change` says which records are to be written, so
that one scope gets a certain order and all else stays:

* `orderly_of_rows_eq_empty` — an empty table is orderly;
* `Change.orderly` — what is stored leaves the table orderly.
-/

namespace Rulebook.Admin

open Prioritized RuleKind

variable {E : Type} [RuleKind E] {s s' : Store}

/-! ## Documents -/

/-- The record is written to its document without loss. -/
def Storable (e : E) : Prop :=
  (rule e).IsFinite ∧ Json.IsInt32 (priority e)

/-- Every document of the kind's table is that of a record under its own identifier, which is not
blank. -/
def Documented (E : Type) [RuleKind E] (s : Store) : Prop :=
  ∀ id doc, (rows E s).get? id = some doc →
    ∃ e : E, doc = table.encode e ∧ Storable e ∧ key e = id ∧ Text.isBlank id = false

theorem Documented.of_delete (h : Documented E s) {id : String}
    (hdelete : (table (E := E)).delete s id = .ok s') : Documented E s' := by
  intro n doc hrow
  rw [get?_rows_of_delete hdelete] at hrow
  split at hrow
  · cases hrow
  · exact h n doc hrow

section Lawful

variable [LawfulKind E]

theorem Storable.decode_encode {e : E} (h : Storable e) :
    table.decode (table.encode e) = some e := by
  rw [LawfulKind.decode_encode h.2, Rule.written_of_isFinite _ h.1, LawfulKind.withRule_rule]

/-- A record that is read from a proper document is written without loss. -/
theorem storable_of_decode {doc : Json} {e : E} (hdoc : doc.IsProper)
    (h : table.decode doc = some e) : Storable e :=
  LawfulKind.finite_of_decode hdoc h

theorem Storable.ready {e : E} (h : Storable e) (c : Config) (type : String) :
    Storable (ready c type e) := by
  refine ⟨?_, ?_⟩
  · rw [rule_ready]
    exact Rule.isFinite_normalize _ h.1
  · rw [priority_ready]
    exact h.2

theorem Storable.withId {e : E} (h : Storable e) (id : String) : Storable (withId e id) := by
  simpa [Storable] using h

theorem Storable.withPriority {e : E} (h : Storable e) {p : Int} (hp : Json.IsInt32 p) :
    Storable (withPriority e p) := by
  simpa [Storable, hp] using h.1

theorem Documented.keyed (h : Documented E s) : Keyed E s := by
  intro id doc hrow
  obtain ⟨e, rfl, hstorable, hkey, -⟩ := h id doc hrow
  exact ⟨e, hstorable.decode_encode, hkey⟩

theorem Documented.of_stored? (h : Documented E s) {id : String} {e : E}
    (he : stored? E s id = some e) : Storable e ∧ key e = id ∧ Text.isBlank id = false := by
  obtain ⟨doc, hrow, hdecode⟩ := stored?_eq_some_iff.1 he
  obtain ⟨e', rfl, hstorable, hkey, hblank⟩ := h id doc hrow
  rw [hstorable.decode_encode] at hdecode
  cases hdecode
  exact ⟨hstorable, hkey, hblank⟩

theorem Documented.of_mem_scope (h : Documented E s) {e r : E} (hr : r ∈ scope s e) :
    Storable r ∧ Text.isBlank (key r) = false := by
  obtain ⟨hstorable, -, hblank⟩ := h.of_stored? (h.keyed.mem_scope_iff.1 hr).1
  exact ⟨hstorable, hblank⟩

/-- A dense scope of documented records is no longer than the priorities reach. -/
theorem Documented.length_scope_le (h : Documented E s) {e : E}
    (hdense : Priority.Dense (scope s e)) : ((scope s e).length : Int) ≤ Priority.largest := by
  cases hlast : (scope s e)[(scope s e).length - 1]? with
  | none =>
      have hlength := List.getElem?_eq_none_iff.1 hlast
      have hpos : (0 : Int) ≤ Priority.largest := by decide
      omega
  | some r =>
      have hpriority := hdense _ r hlast
      have hbound : priority r ≤ Priority.largest :=
        (h.of_mem_scope (List.mem_of_getElem? hlast)).1.2.2
      omega

end Lawful

/-! ## Orderly tables -/

/-- All documents are in order, and all scopes are dense. -/
structure Orderly (E : Type) [RuleKind E] (s : Store) : Prop where
  documented : Documented E s
  dense : ∀ e : E, Priority.Dense (scope s e)

/-- An empty table is orderly. -/
theorem orderly_of_rows_eq_empty (h : rows E s = ∅) : Orderly E s := by
  refine ⟨fun id doc hrow => ?_, fun e => ?_⟩
  · rw [h] at hrow
    cases hrow
  · have hscope : scope s e = [] := by
      rw [scope, records, h]
      rfl
    rw [hscope]
    exact fun i a ha => by simp at ha

/-- Whether a table is orderly depends on its rows only. -/
theorem Orderly.of_rows_eq (h : Orderly E s) (hrows : rows E s' = rows E s) : Orderly E s' := by
  refine ⟨fun id doc hrow => h.documented id doc (hrows ▸ hrow), fun e => ?_⟩
  have hscope : scope s' e = scope s e := by
    rw [scope, scope, records, records, hrows]
  rw [hscope]
  exact h.dense e

/-! ## Changes -/

/-- The records `writes` turn the scope of `e` into the dense list `after` with the identifiers
`ids`, in which all records but the one under `id` are those from before, apart from their
priorities. -/
structure Change (s : Store) (e : E) (id : String) (after writes : List E) (ids : List String) :
    Prop extends Rewriting s e after writes where
  dense : Priority.Dense after
  storable : ∀ r ∈ writes, Storable r
  named : ∀ r ∈ writes, Text.isBlank (key r) = false
  order : after.map key = ids
  others : ∀ r ∈ after, key r ≠ id → ∃ b ∈ scope s e, ∃ p, r = withPriority b p

namespace Change

variable {e : E} {id : String} {after writes : List E} {ids : List String}

theorem scope_eq (h : Change s e id after writes ids) (hsaved : Saved writes s s') :
    scope s' e = after := by
  rw [h.toRewriting.scope_eq hsaved, Priority.sort_eq_self_of_dense h.dense]

variable [LawfulKind E]

/-- **A change leaves the table orderly**, if the other scopes were dense. -/
theorem orderly (h : Change s e id after writes ids) (hdocumented : Documented E s)
    (hothers : ∀ e' : E, sameScope e' e = false → Priority.Dense (scope s e'))
    (hsaved : Saved writes s s') : Orderly E s' := by
  refine ⟨fun n doc hrow => ?_, fun e' => ?_⟩
  · by_cases hn : n ∈ writes.map key
    · obtain ⟨r, hr, rfl⟩ := List.mem_map.1 hn
      rw [hsaved.written r hr] at hrow
      cases hrow
      exact ⟨r, rfl, h.storable r hr, rfl, h.named r hr⟩
    · rw [hsaved.kept n hn] at hrow
      exact hdocumented n doc hrow
  · cases he' : sameScope e' e with
    | true =>
        rw [scope_congr s' he', h.scope_eq hsaved]
        exact h.dense
    | false =>
        rw [h.toRewriting.scope_eq_of_not_sameScope hsaved he']
        exact hothers e' he'

end Change

end Rulebook.Admin
