import Rulebook.Proofs.Admin.Reported

/-!
# Rulebook.Proofs.Admin.Changes

Every plan is a change of one scope.

In an orderly table a plan that succeeds changes the scope of its record and leaves it dense; the
order of the identifiers afterwards is given by list operations:

* `Orderly.change_of_planCreate` — the new identifier is inserted at the place asked for;
* `Orderly.change_of_planUpdate`, `Orderly.change_of_planMove` — the identifier is taken out and
  inserted again, or the order stays;
* `Orderly.change_of_delete` — the identifier is taken out.
-/

namespace Rulebook.Admin

open Prioritized RuleKind

variable {E : Type} [RuleKind E] [LawfulKind E] {s s' : Store}

/-- The position, counted from zero, that a requested priority stands for among `n` places: that of
the priority where there is such a place, and else the last one. -/
def position (p : Int) (n : Nat) : Nat :=
  if 1 ≤ p ∧ p ≤ n then (p - 1).toNat else n - 1

theorem clamp_eq_position {n : Nat} (hn : (n : Int) ≤ Priority.largest) (p : Int) :
    (Priority.clamp p n - 1).toNat = position p n := by
  rw [Priority.clamp_eq hn, position]
  split <;> omega

theorem isInt32_of_le_largest {p : Int} (h : 0 ≤ p) (h' : p ≤ Priority.largest) :
    Json.IsInt32 p := by
  unfold Priority.largest at h'
  constructor <;> omega

/-! ## Moves -/

section Moves

variable {e item : E} {items : List E} {j : Nat}

/-- The record that is changed belongs to the scope, and its identifier is its own. -/
structure Admissible (s : Store) (e item : E) : Prop where
  inScope : sameScope item e = true
  storable : Storable item
  named : Text.isBlank (key item) = false
  unused : key item ∉ (scope s e).map key → (rows E s).get? (key item) = none

theorem Documented.of_mem_items (h : Documented E s)
    (hacting : Priority.Acting (scope s e) items item j) (hitem : Admissible s e item) {b : E}
    (hb : b ∈ items) :
    sameScope b e = true ∧ Storable b ∧ Text.isBlank (key b) = false ∧
      (key b ≠ key item → b ∈ scope s e) := by
  by_cases hkey : key b = key item
  · have heq : b = item :=
      Priority.eq_of_key_eq hacting.nodup hb (List.mem_of_getElem? hacting.here) hkey
    subst heq
    exact ⟨hitem.inScope, hitem.storable, hitem.named, fun hne => absurd rfl hne⟩
  · have hmem := hacting.mem_of_mem hb hkey
    obtain ⟨hstorable, hnamed⟩ := h.of_mem_scope hmem
    exact ⟨(h.keyed.mem_scope_iff.1 hmem).2, hstorable, hnamed, fun _ => hmem⟩

/-- A move of the acting record in a dense scope is a change. -/
theorem Documented.change_of_move (h : Documented E s) (hdense : Priority.Dense (scope s e))
    (hacting : Priority.Acting (scope s e) items item j) (hitem : Admissible s e item)
    (hn : (items.length : Int) ≤ Priority.largest) {new : Int} {r : Priority.Reordered E}
    (hmove : Priority.move items ((j : Int) + 1) new = .ok r)
    (hid : ∃ a ∈ r.altered, key a = key item) :
    Change s e (key item) r.items r.altered
      (Priority.relocate (items.map key) j (position new items.length)) := by
  have hmoved := (Priority.moved_of_move hmove).2
  have hstorable : ∀ a ∈ r.altered, Storable a := by
    intro a ha
    obtain ⟨b, hb, p, hp, hp', rfl⟩ := hmoved.exists_of_mem_altered ha
    exact (h.of_mem_items hacting hitem hb).2.1.withPriority (isInt32_of_le_largest hp hp')
  refine ⟨⟨h.keyed, hacting.rewrite hmove hid, fun a ha hkey => ?_, fun a ha => ?_,
    fun a ha => (hstorable a ha).decode_encode⟩, hacting.dense hdense hmove rfl hn, hstorable,
    fun a ha => ?_, ?_, fun a ha hkey => hacting.exists_of_mem hmove ha hkey⟩
  · by_cases hne : key a = key item
    · rw [hne] at hkey ⊢
      exact hitem.unused hkey
    · obtain ⟨b, hb, p, rfl⟩ := hacting.exists_of_mem hmove ha hne
      rw [LawfulPrioritized.key_withPriority] at hkey
      exact absurd (List.mem_map_of_mem hb) hkey
  · obtain ⟨b, hb, p, rfl⟩ := hmoved.exists_of_mem ha
    exact LawfulKind.sameScope_equivalence.trans (LawfulKind.sameScope_withPriority b p)
      (h.of_mem_items hacting hitem hb).1
  · obtain ⟨b, hb, p, -, -, rfl⟩ := hmoved.exists_of_mem_altered ha
    rw [LawfulPrioritized.key_withPriority]
    exact (h.of_mem_items hacting hitem hb).2.2.1
  · rw [hacting.map_key hmove rfl, clamp_eq_position hn]

/-- Writing the acting record alone, where its priority is its place already, is a change. -/
theorem Documented.change_of_self (h : Documented E s) (hdense : Priority.Dense (scope s e))
    (hacting : Priority.Acting (scope s e) items item j) (hitem : Admissible s e item)
    (hpriority : priority item = (j : Int) + 1) :
    Change s e (key item) items [item] (items.map key) := by
  have hwrite : ∀ a ∈ [item], a = item := fun a ha => List.mem_singleton.1 ha
  refine ⟨⟨h.keyed, hacting.rewrite_self, fun a ha hkey => ?_, fun a ha => ?_, fun a ha => ?_⟩,
    hacting.dense_self hdense hpriority, fun a ha => hwrite a ha ▸ hitem.storable,
    fun a ha => hwrite a ha ▸ hitem.named, rfl, fun a ha hkey => ?_⟩
  · by_cases hne : key a = key item
    · rw [hne] at hkey ⊢
      exact hitem.unused hkey
    · exact absurd (List.mem_map_of_mem ((h.of_mem_items hacting hitem ha).2.2.2 hne)) hkey
  · exact (h.of_mem_items hacting hitem ha).1
  · rw [hwrite a ha]
    exact hitem.storable.decode_encode
  · exact ⟨a, (h.of_mem_items hacting hitem ha).2.2.2 hkey, priority a, by simp⟩

end Moves

/-! ## The plans -/

variable {c : Config} {type : String} {plan : Plan E}

/-- The answer of a plan is the acting record, in the scope of the acting record. -/
theorem sameScope_result {scope items : List E} {item a : E} {j : Nat} {old new : Int}
    {r : Priority.Reordered E} (hacting : Priority.Acting scope items item j)
    (hmove : Priority.move items old new = .ok r) (ha : a ∈ r.altered) (hkey : key a = key item) :
    sameScope item a = true := by
  rw [hacting.priority_eq hmove ha hkey]
  exact sameScope_comm.1 (LawfulKind.sameScope_withPriority _ _)

/-- A record that is created has an identifier that is new. -/
theorem unused_of_identify {fresh : String} {e e' : E}
    (hfresh : Text.isBlank (key e) = true → (rows E s).get? fresh = none)
    (h : identify s fresh e = .ok e') : (rows E s).get? (key e') = none := by
  rcases identify_eq_ok_iff.1 h with ⟨hblank, rfl⟩ | ⟨-, hget, rfl⟩
  · rw [LawfulKind.key_withId]
    exact hfresh hblank
  · exact (get?_eq_ok_iff.1 hget).2.2 rfl

/-- A record that is created has its own identifier, or the fresh one. -/
theorem key_of_identify {fresh : String} {e e' : E}
    (hfresh : Text.isBlank (key e) = true → Text.isBlank fresh = false)
    (h : identify s fresh e = .ok e') :
    key e' = (if Text.isBlank (key e) then fresh else key e) ∧ Text.isBlank (key e') = false := by
  rcases identify_eq_ok_iff.1 h with ⟨hblank, rfl⟩ | ⟨hblank, -, rfl⟩
  · rw [if_pos hblank, LawfulKind.key_withId]
    exact ⟨rfl, hfresh hblank⟩
  · rw [if_neg (by simp [hblank])]
    exact ⟨rfl, hblank⟩

theorem storable_of_identify {fresh : String} {e e' : E} (he : Storable e)
    (h : identify s fresh e = .ok e') : Storable e' ∧ priority e' = priority e := by
  rcases identify_eq_ok_iff.1 h with ⟨-, rfl⟩ | ⟨-, -, rfl⟩
  · exact ⟨he.withId fresh, LawfulKind.priority_withId e fresh⟩
  · exact ⟨he, rfl⟩

theorem storable_of_prepare [PatternEngine] {e r : E} (he : Storable e)
    (h : prepare c s type e = .ok r) :
    key r = key e ∧ priority r = priority e ∧ Storable r := by
  obtain ⟨-, -, rfl⟩ := prepare_eq_ok_iff.1 h
  exact ⟨key_ready c type e, priority_ready c type e, he.ready c type⟩

/-- To create a record is to move it up from behind its scope. -/
theorem Keyed.move_of_planCreate [PatternEngine] (h : Keyed E s) {fresh : String} {e : E}
    (hfresh : Text.isBlank (key e) = true → (rows E s).get? fresh = none)
    (hplan : planCreate c s fresh type e = .ok plan) :
    ∃ (e' r : E) (change : Priority.Reordered E), identify s fresh e = .ok e' ∧
      prepare c s type e' = .ok r ∧ s.faults.reads = false ∧
      checkDuplicates r (scope s r) = .ok () ∧
      Priority.Acting (scope s r) (scope s r ++ [r]) r (scope s r).length ∧
      Priority.move (scope s r ++ [r]) (Priority.ofCount (scope s r ++ [r]).length) (priority r) =
        .ok change ∧
      plan.result ∈ change.altered ∧ key plan.result = key r ∧ plan.writes = change.altered := by
  obtain ⟨e', r, es, change, hidentify, hprepare, hscope, hdistinct, hadd, hfind, hwrites⟩ :=
    planCreate_eq_ok_iff.1 hplan
  obtain ⟨hreads, -, rfl⟩ := scopeOf_eq_ok_iff.1 hscope
  obtain ⟨hresult, hid⟩ := key_of_find?_altered hfind
  have hunused : (rows E s).get? (key r) = none := by
    obtain ⟨-, -, rfl⟩ := prepare_eq_ok_iff.1 hprepare
    rw [key_ready]
    exact unused_of_identify hfresh hidentify
  have hacting := h.acting_append hunused
  rw [Priority.add, sort_scope] at hadd
  exact ⟨e', r, change, hidentify, hprepare, hreads, hdistinct, hacting, hadd, hresult, hid,
    hwrites⟩

/-- **Creating** inserts the identifier of the record, its own or the fresh one, at the place that
the record asks for. -/
theorem Orderly.change_of_planCreate [PatternEngine] (h : Orderly E s) {fresh : String} {e : E}
    (he : Storable e) (hfresh : Text.isBlank (key e) = true →
      Text.isBlank fresh = false ∧ (rows E s).get? fresh = none)
    (hplan : planCreate c s fresh type e = .ok plan) :
    key plan.result = (if Text.isBlank (key e) then fresh else key e) ∧
      plan.result ∈ plan.writes ∧
      ∃ after, Change s plan.result (key plan.result) after plan.writes
        (((scope s plan.result).map key).insertIdx
          (position (priority e) ((scope s plan.result).length + 1)) (key plan.result)) := by
  obtain ⟨e', r, change, hidentify, hprepare, -, -, hacting, hmove, hresult, hid, hwrites⟩ :=
    h.documented.keyed.move_of_planCreate (fun hblank => (hfresh hblank).2) hplan
  obtain ⟨hkey, hnamed⟩ := key_of_identify (fun hblank => (hfresh hblank).1) hidentify
  have hunused := unused_of_identify (fun hblank => (hfresh hblank).2) hidentify
  obtain ⟨hstorable, hpriority⟩ := storable_of_identify he hidentify
  obtain ⟨hkeyr, hpriorityr, hstorabler⟩ := storable_of_prepare hstorable hprepare
  rw [← hkeyr] at hkey hnamed hunused
  have hlt := hacting.lt_of_mem_altered hmove hresult hid
  have hlength : (scope s r ++ [r]).length = (scope s r).length + 1 := List.length_append
  -- the last place is one that there is a priority for, since the record was reported
  have hn : ((scope s r ++ [r]).length : Int) ≤ Priority.largest := by
    unfold Priority.ofCount at hlt
    omega
  have hold : Priority.ofCount (scope s r ++ [r]).length = ((scope s r).length : Int) + 1 := by
    unfold Priority.ofCount
    omega
  rw [hold] at hmove
  have hsame := sameScope_result hacting hmove hresult hid
  rw [scope_congr s hsame] at hacting hmove hn hlength
  have hchange := h.documented.change_of_move (h.dense plan.result) hacting
    ⟨hsame, hstorabler, hnamed, fun _ => hunused⟩ hn hmove ⟨plan.result, hresult, hid⟩
  rw [hid]
  refine ⟨hkey, hwrites ▸ hresult, change.items, ?_⟩
  rw [List.map_append, List.map_singleton, hlength, hpriorityr, hpriority,
    ← List.length_map key, Priority.relocate_concat, List.length_map, ← hwrites] at hchange
  exact hchange

/-- A record that replaces the stored one, in the same scope, may act in the place of it. -/
theorem Orderly.acting_of_stored? (h : Orderly E s) {stored r : E}
    (hstored : stored? E s (key r) = some stored) (hsame : sameScope r stored = true)
    (hstorable : Storable r) :
    ∃ j : Nat, priority stored = (j : Int) + 1 ∧ ∀ e : E, sameScope r e = true →
      (scope s e)[j]? = some stored ∧
      Priority.Acting (scope s e) (Priority.replace r (scope s e)) r j ∧ Admissible s e r := by
  obtain ⟨-, hkey, hnamed⟩ := h.documented.of_stored? hstored
  obtain ⟨j, hj, hpriority⟩ := h.getElem?_scope hstored
  refine ⟨j, hpriority, fun e he => ?_⟩
  rw [← scope_congr s hsame, scope_congr s he] at hj
  have hmem : key r ∈ (scope s e).map key :=
    hkey ▸ List.mem_map_of_mem (List.mem_of_getElem? hj)
  exact ⟨hj, Priority.acting_replace (h.documented.keyed.nodup_map_key_scope e) hj hkey,
    he, hstorable, hnamed, fun hne => absurd hmem hne⟩

/-- To update a record of a keyed table is to write it in the place of its stored version or, if its
priority differs, to move what stands at the stored one. -/
theorem Keyed.move_of_planUpdate [PatternEngine] (h : Keyed E s) {e : E}
    (hplan : planUpdate c s type e = .ok plan) :
    ∃ (r stored : E) (j : Nat), prepare c s type e = .ok r ∧ s.faults.reads = false ∧
      stored? E s (key r) = some stored ∧ sameScope r stored = true ∧
      checkDuplicates r (scope s r) = .ok () ∧ (scope s r)[j]? = some stored ∧
      Priority.Acting (scope s r) (Priority.replace r (scope s r)) r j ∧
      if priority r = priority stored then plan = ⟨r, [r]⟩
      else ∃ change : Priority.Reordered E,
        Priority.move (Priority.replace r (scope s r)) (priority stored) (priority r) =
          .ok change ∧
        plan.result ∈ change.altered ∧ key plan.result = key r ∧ plan.writes = change.altered := by
  obtain ⟨stored, r, es, hfind, hprepare, hunchanged, hscope, hdistinct, hplan⟩ :=
    planUpdate_eq_ok_iff.1 hplan
  obtain ⟨-, hreads, hstored⟩ := find_eq_ok_iff.1 hfind
  obtain ⟨-, -, rfl⟩ := scopeOf_eq_ok_iff.1 hscope
  have hkey : key r = key e := by
    obtain ⟨-, -, rfl⟩ := prepare_eq_ok_iff.1 hprepare
    exact key_ready c type e
  rw [← hkey] at hstored
  have hsame : sameScope r stored = true := LawfulKind.sameScope_of_changedField? hunchanged
  obtain ⟨j, hj⟩ := List.mem_iff_getElem?.1 (h.mem_scope_self hstored)
  rw [← scope_congr s hsame] at hj
  have hacting := Priority.acting_replace (h.nodup_map_key_scope r) hj (h.key_eq hstored)
  refine ⟨r, stored, j, hprepare, hreads, hstored, hsame, hdistinct, hj, hacting, ?_⟩
  split at hplan
  · next heq => rwa [if_pos heq]
  · next hne =>
      obtain ⟨change, hupdate, hresult, hwrites⟩ := hplan
      obtain ⟨hresult, hid⟩ := key_of_find?_altered hresult
      have hnonempty : scope s r ≠ [] := fun hnil => by simp [hnil] at hj
      rw [Priority.update, Priority.withUpdated_eq hnonempty, sort_scope] at hupdate
      rw [if_neg hne]
      exact ⟨change, hupdate, hresult, hid, hwrites⟩

/-- In an orderly table the stored version stands at its priority, and it is the record itself that
is moved. -/
theorem Orderly.move_of_planUpdate [PatternEngine] (h : Orderly E s) {e : E} (he : Storable e)
    (hplan : planUpdate c s type e = .ok plan) :
    ∃ (r stored : E) (j : Nat), prepare c s type e = .ok r ∧
      stored? E s (key r) = some stored ∧ sameScope r stored = true ∧
      checkDuplicates r (scope s r) = .ok () ∧ priority stored = (j : Int) + 1 ∧
      (∀ e : E, sameScope r e = true → (scope s e)[j]? = some stored ∧
        Priority.Acting (scope s e) (Priority.replace r (scope s e)) r j ∧ Admissible s e r) ∧
      if priority r = priority stored then plan = ⟨r, [r]⟩
      else ∃ change : Priority.Reordered E,
        Priority.move (Priority.replace r (scope s r)) ((j : Int) + 1) (priority r) = .ok change ∧
        plan.result ∈ change.altered ∧ key plan.result = key r ∧ plan.writes = change.altered := by
  obtain ⟨r, stored, -, hprepare, -, hstored, hsame, hdistinct, -, -, hplan⟩ :=
    h.documented.keyed.move_of_planUpdate hplan
  obtain ⟨-, -, hstorable⟩ := storable_of_prepare he hprepare
  obtain ⟨j, hpriority, hin⟩ := h.acting_of_stored? hstored hsame hstorable
  rw [hpriority] at hplan
  refine ⟨r, stored, j, hprepare, hstored, hsame, hdistinct, hpriority, hin, ?_⟩
  rwa [hpriority]

/-- **Updating** moves the identifier to the place that the record asks for; with the priority that
is stored already, the order stays. -/
theorem Orderly.change_of_planUpdate [PatternEngine] (h : Orderly E s) {e : E} (he : Storable e)
    (hplan : planUpdate c s type e = .ok plan) :
    key plan.result = key e ∧ plan.result ∈ plan.writes ∧
      ∃ stored, stored? E s (key e) = some stored ∧ sameScope plan.result stored = true ∧
      ∃ after, Change s plan.result (key e) after plan.writes
        (if priority e = priority stored then (scope s plan.result).map key
          else (((scope s plan.result).map key).erase (key e)).insertIdx
            (position (priority e) (scope s plan.result).length) (key e)) := by
  obtain ⟨r, stored, j, hprepare, hstored, hsame, -, hpriority, hin, hplan⟩ :=
    h.move_of_planUpdate he hplan
  obtain ⟨hkey, hpriorityr, -⟩ := storable_of_prepare he hprepare
  rw [← hkey, ← hpriorityr]
  split at hplan
  · next heq =>
      subst hplan
      obtain ⟨-, hacting, hadmissible⟩ := hin r (sameScope_refl r)
      have hchange := h.documented.change_of_self (h.dense r) hacting hadmissible
        (heq.trans hpriority)
      rw [Priority.map_key_replace] at hchange
      refine ⟨rfl, List.mem_singleton_self r, stored, hstored, hsame,
        Priority.replace r (scope s r), ?_⟩
      rw [if_pos heq]
      exact hchange
  · next hne =>
      obtain ⟨change, hmove, hresult, hid, hwrites⟩ := hplan
      have hsame' := sameScope_result (hin r (sameScope_refl r)).2.1 hmove hresult hid
      rw [scope_congr s hsame'] at hmove
      obtain ⟨hj, hacting, hadmissible⟩ := hin plan.result hsame'
      have hlength : (Priority.replace r (scope s plan.result)).length =
          (scope s plan.result).length := by
        rw [← List.length_map key, Priority.map_key_replace, List.length_map]
      have hchange := h.documented.change_of_move (h.dense plan.result) hacting hadmissible
        (hlength ▸ h.documented.length_scope_le (h.dense plan.result)) hmove
        ⟨plan.result, hresult, hid⟩
      have hkeystored := (h.documented.of_stored? hstored).2.1
      rw [Priority.map_key_replace, hlength,
        Priority.relocate_map_key (h.documented.keyed.nodup_map_key_scope _) hj, hkeystored,
        ← hwrites] at hchange
      refine ⟨hid, hwrites ▸ hresult, stored, hstored, ?_, change.items, ?_⟩
      · exact LawfulKind.sameScope_equivalence.trans (sameScope_comm.1 hsame') hsame
      · rw [if_neg hne]
        exact hchange

/-- **Moving** takes the identifier to the place that is asked for. -/
theorem Orderly.change_of_planMove (h : Orderly E s) {id : String} {new : Int} {altered : List E}
    (hplan : planMove s id new = .ok altered) :
    ∃ stored, stored? E s id = some stored ∧ key stored = id ∧
      (∃ p, withPriority stored p ∈ altered) ∧
      ∃ after, Change s stored id after altered
        ((((scope s stored).map key).erase id).insertIdx
          (position new (scope s stored).length) id) := by
  obtain ⟨stored, es, change, hfind, hscope, hchange, ⟨a, ha, hid⟩, rfl⟩ :=
    planMove_eq_ok_iff.1 hplan
  obtain ⟨-, -, hstored⟩ := find_eq_ok_iff.1 hfind
  obtain ⟨hstorable, hkey, hnamed⟩ := h.documented.of_stored? hstored
  obtain ⟨-, -, rfl⟩ := scopeOf_eq_ok_iff.1 hscope
  obtain ⟨j, hj, hpriority⟩ := h.getElem?_scope hstored
  have hnodup := h.documented.keyed.nodup_map_key_scope stored
  have hacting := Priority.acting_self hnodup hj
  rw [Priority.change, sort_scope, hpriority] at hchange
  have hresult := h.documented.change_of_move (h.dense stored) hacting
    ⟨sameScope_refl stored, hstorable, by rwa [hkey],
      fun hne => absurd (List.mem_map_of_mem (List.mem_of_getElem? hj)) hne⟩
    (h.documented.length_scope_le (h.dense stored)) hchange ⟨a, ha, hid.trans hkey.symm⟩
  rw [Priority.relocate_map_key hnodup hj, hkey] at hresult
  rw [hacting.priority_eq hchange ha (hid.trans hkey.symm)] at ha
  exact ⟨stored, hstored, hkey, ⟨_, ha⟩, change.items, hresult⟩

/-! ## Deletion -/

theorem Documented.of_mem_closed (h : Documented E s) {e r : E}
    (hn : ((scope s e).length : Int) ≤ Priority.largest)
    (hr : r ∈ Priority.closed 1 (scope s e)) :
    sameScope r e = true ∧ Storable r ∧ Text.isBlank (key r) = false := by
  obtain ⟨i, hi⟩ := List.mem_iff_getElem?.1 hr
  rw [Priority.getElem?_closed] at hi
  obtain ⟨b, hb, rfl⟩ := Option.map_eq_some_iff.1 hi
  have hlt : i < (scope s e).length := (List.getElem?_eq_some_iff.1 hb).1
  have hmem := List.mem_of_getElem? hb
  obtain ⟨hstorable, hnamed⟩ := h.of_mem_scope hmem
  rw [LawfulPrioritized.key_withPriority]
  refine ⟨?_, hstorable.withPriority (isInt32_of_le_largest (by omega) (by omega)), hnamed⟩
  exact LawfulKind.sameScope_equivalence.trans (LawfulKind.sameScope_withPriority b _)
    (h.keyed.mem_scope_iff.1 hmem).2

/-- **Deleting** takes the identifier out, and closing the gap makes the scope dense, whatever its
priorities were. -/
theorem Documented.change_of_delete (h : Documented E s) {id : String} {e : E}
    (hdelete : (table (E := E)).delete s id = .ok s')
    (hn : ((scope s e).length : Int) ≤ Priority.largest) :
    Change s' e id (Priority.closed 1 (scope s' e)) (Priority.pack (scope s' e) id)
      (((scope s e).map key).erase id) := by
  have hdocumented := h.of_delete hdelete
  have hle := length_scope_of_delete h.keyed hdelete e
  have hlength : ((scope s' e).length : Int) ≤ Priority.largest := by omega
  have hnodup := hdocumented.keyed.nodup_map_key_scope e
  have hclosed : ∀ r ∈ Priority.closeGaps 1 (scope s' e),
      sameScope r e = true ∧ Storable r ∧ Text.isBlank (key r) = false := fun r hr =>
    hdocumented.of_mem_closed hlength ((Priority.closeGaps_sublist _ _).subset hr)
  rw [pack_scope_of_delete h.keyed hdelete e]
  refine ⟨⟨hdocumented.keyed, Priority.rewrite_closeGaps hnodup 1, fun r hr hkey => ?_,
    fun r hr => (hdocumented.of_mem_closed hlength hr).1,
    fun r hr => (hclosed r hr).2.1.decode_encode⟩, Priority.dense_closed _,
    fun r hr => (hclosed r hr).2.1, fun r hr => (hclosed r hr).2.2, ?_,
    fun r hr _ => Priority.exists_of_mem_closed hr⟩
  · rw [← Priority.map_key_closed 1] at hkey
    exact absurd (List.mem_map_of_mem hr) hkey
  · rw [Priority.map_key_closed, map_key_scope_of_delete h.keyed hdelete]

end Rulebook.Admin
