import Rulebook.Proofs.Admin.Orderly

/-!
# Rulebook.Proofs.Admin.Reported

Every change of an orderly scope can be made, and reports the record that it is made for.

A plan refuses a change of a scope if there is no record at the old priority, and if the record that
is changed is not among the altered ones.  In an orderly table neither happens, for a record stands
at its own priority:

* `Keyed.exists_planScope_add` — a new record, if there is a priority left for it;
* `Orderly.exists_planScope_update`, `Orderly.exists_planScope_change` — a stored record.
-/

namespace Rulebook.Admin

open Prioritized RuleKind

variable {E : Type} [RuleKind E] [LawfulKind E] {s : Store}

omit [LawfulKind E] in
/-- A record whose identifier is new may be put behind its scope. -/
theorem Keyed.acting_append (h : Keyed E s) {r : E} (hunused : (rows E s).get? (key r) = none) :
    Priority.Acting (scope s r) (scope s r ++ [r]) r (scope s r).length := by
  refine Priority.acting_append (h.nodup_map_key_scope r) fun hmem => ?_
  obtain ⟨b, hb, hkeyb⟩ := List.mem_map.1 hmem
  have hstored := (h.mem_scope_iff.1 hb).1
  rw [hkeyb, h.stored?_eq_none_iff.2 hunused] at hstored
  cases hstored

/-- In an orderly table a record stands in its scope at its priority. -/
theorem Orderly.getElem?_scope (h : Orderly E s) {id : String} {stored : E}
    (hstored : stored? E s id = some stored) :
    ∃ j : Nat, (scope s stored)[j]? = some stored ∧ priority stored = (j : Int) + 1 := by
  have hmem := h.documented.keyed.mem_scope_self hstored
  obtain ⟨hlow, -, hj⟩ := (h.dense stored).getElem?_eq hmem
  exact ⟨(priority stored - 1).toNat, hj, by omega⟩

/-- A plan for a record that is moved from where it stands can be made. -/
theorem exists_planScope {scope items : List E} {item : E} {j : Nat}
    (hacting : Priority.Acting scope items item j) (hn : (items.length : Int) ≤ Priority.largest)
    (new : Int) (missing : Conflict) :
    ∃ plan, planScope (key item) missing (Priority.move items ((j : Int) + 1) new) = .ok plan := by
  obtain ⟨change, hmove, a, ha, hkey⟩ := hacting.exists_move hn new
  cases hfind : change.altered.find? fun e => key e == key item with
  | none => exact absurd hkey (by simpa using List.find?_eq_none.1 hfind a ha)
  | some result =>
      exact ⟨⟨result, change.altered⟩, planScope_eq_ok_iff.2 ⟨change, hmove, hfind, rfl⟩⟩

theorem Keyed.exists_planScope_add (h : Keyed E s) {r : E}
    (hunused : (rows E s).get? (key r) = none)
    (hroom : ((scope s r).length : Int) < Priority.largest) (missing : Conflict) :
    ∃ plan, planScope (key r) missing (Priority.add r (scope s r)) = .ok plan := by
  have hlength : (scope s r ++ [r]).length = (scope s r).length + 1 := List.length_append
  have hold : Priority.ofCount (scope s r ++ [r]).length = ((scope s r).length : Int) + 1 := by
    unfold Priority.ofCount
    omega
  rw [Priority.add, sort_scope, hold]
  exact exists_planScope (h.acting_append hunused) (by omega) (priority r) missing

theorem Orderly.exists_planScope_update (h : Orderly E s) {r stored : E}
    (hstored : stored? E s (key r) = some stored) (hsame : sameScope r stored = true)
    (missing : Conflict) :
    ∃ plan, planScope (key r) missing (Priority.update r (scope s r) (priority stored)) =
      .ok plan := by
  obtain ⟨j, hj, hpriority⟩ := h.getElem?_scope hstored
  rw [← scope_congr s hsame] at hj
  have hacting := Priority.acting_replace (h.documented.keyed.nodup_map_key_scope r) hj
    (h.documented.keyed.key_eq hstored)
  have hlength : (Priority.replace r (scope s r)).length = (scope s r).length := by
    rw [← List.length_map key, Priority.map_key_replace, List.length_map]
  have hnonempty : scope s r ≠ [] := fun hnil => by simp [hnil] at hj
  rw [Priority.update, Priority.withUpdated_eq hnonempty, sort_scope, hpriority]
  exact exists_planScope hacting (hlength ▸ h.documented.length_scope_le (h.dense r)) _ missing

theorem Orderly.exists_planScope_change (h : Orderly E s) {id : String} {stored : E}
    (hstored : stored? E s id = some stored) (new : Int) (missing : Conflict) :
    ∃ plan, planScope id missing (Priority.change (scope s stored) (priority stored) new) =
      .ok plan := by
  obtain ⟨j, hj, hpriority⟩ := h.getElem?_scope hstored
  have hacting := Priority.acting_self (h.documented.keyed.nodup_map_key_scope stored) hj
  rw [Priority.change, sort_scope, hpriority, ← h.documented.keyed.key_eq hstored]
  exact exists_planScope hacting (h.documented.length_scope_le (h.dense stored)) new missing

end Rulebook.Admin
