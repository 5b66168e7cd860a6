import Rulebook.Proofs.Admin.Changes
import Rulebook.Proofs.Admin.Deletion

/-!
# Rulebook.Proofs.Admin.Steps

What each operation does to an orderly table, in a store that does not fail.

Whatever the outcome, the table stays orderly and no other table is touched (`Step`); a work that
fails stores nothing.  A work that succeeds has an `Effect`: it changes the order of identifiers in
one scope as a list operation says, and nothing else but the priorities in that scope.

* `step_createWork`, `step_updateWork`, `step_moveWork`, `step_deleteWork`, `step_importWork`;
* `effect_createWork`, `effect_updateWork`, `effect_moveWork`, `effect_deleteWork`.
-/

namespace Rulebook.Admin

open Prioritized RuleKind

variable {E : Type} [RuleKind E] {s s' s'' : Store}

/-! ## Steps -/

/-- The table stays orderly, and all else stays. -/
structure Step (E : Type) [RuleKind E] (s s' : Store) : Prop where
  orderly : Orderly E s'
  faults : s'.faults = s.faults
  others : ∀ n, n ≠ (table (E := E)).name → s'.table n = s.table n

namespace Step

theorem refl (h : Orderly E s) : Step E s s :=
  ⟨h, rfl, fun _ _ => rfl⟩

theorem of_eq (h : Orderly E s) (heq : s' = s) : Step E s s' := by
  subst heq
  exact refl h

theorem trans (h : Step E s s') (h' : Step E s' s'') : Step E s s'' :=
  ⟨h'.orderly, h'.faults.trans h.faults,
    fun n hn => (h'.others n hn).trans (h.others n hn)⟩

end Step

/-! ## Effects -/

/-- The identifiers of one scope are reordered as `ids` says.  Of the records in the scope, all but
the one under `id` keep everything but their priority; every row outside of the scope and every
other table is as before. -/
structure Effect (s s' : Store) (e : E) (id : String) (ids : List String → List String) :
    Prop where
  scope : ∃ before after, scopeOf s e = .ok before ∧ scopeOf s' e = .ok after ∧
    after.map key = ids (before.map key) ∧
    (∀ r ∈ after, key r ≠ id → ∃ b ∈ before, ∃ p, r = withPriority b p) ∧
    ∀ n, n ≠ id → n ∉ before.map key → (rows E s').get? n = (rows E s).get? n
  others : ∀ n, n ≠ (table (E := E)).name → s'.table n = s.table n

section Lawful

variable [LawfulKind E] {e : E} {id : String} {after writes : List E} {ids : List String}

theorem Change.step (h : Change s e id after writes ids) (horderly : Orderly E s)
    (hfaults : s.faults = {}) (hsave : save writes s = (.ok (), s')) : Step E s s' := by
  have hsaved := saved_of_save h.rewrite.nodup_written hsave
  exact ⟨h.orderly horderly.documented (fun e' _ => horderly.dense e') hsaved,
    faults_of_save (by rw [hfaults]) hsave, hsaved.others⟩

/-- A row outside of the scope is not written. -/
theorem Change.get?_rows (h : Change s e id after writes ids) (hsaved : Saved writes s s')
    {n : String} (hid : n ≠ id) (hn : n ∉ (Admin.scope s e).map key) :
    (rows E s').get? n = (rows E s).get? n := by
  refine hsaved.kept n fun hwritten => hn ?_
  obtain ⟨r, hr, rfl⟩ := List.mem_map.1 hwritten
  obtain ⟨b, hb, p, rfl⟩ := h.others r (h.rewrite.wanted.subset hr) hid
  rw [LawfulPrioritized.key_withPriority]
  exact List.mem_map_of_mem hb

theorem Change.effect (h : Change s e id after writes ids) (hfaults : s.faults = {})
    (hsave : save writes s = (.ok (), s')) {f : List String → List String}
    (hids : ids = f ((Admin.scope s e).map key)) : Effect s s' e id f := by
  have hsaved := saved_of_save h.rewrite.nodup_written hsave
  have hfaults' : s'.faults = {} := (faults_of_save (by rw [hfaults]) hsave).trans hfaults
  have hscope : scopeOf s' e = .ok after := by
    rw [scopeOf_eq (h.toRewriting.keyed_saved hsaved) (by rw [hfaults']), h.scope_eq hsaved]
  exact ⟨⟨Admin.scope s e, after, scopeOf_eq h.keyed (by rw [hfaults]) e, hscope,
    h.order.trans hids, h.others, fun n hid hn => h.get?_rows hsaved hid hn⟩, hsaved.others⟩

/-! ## Creating, updating, moving -/

variable {a : Admin} {type : String} {d d' : Desk}

/-- The next identifier to be issued is not blank, and nothing stands under it. -/
def Desk.Fresh (a : Admin) (E : Type) [RuleKind E] (d : Desk) : Prop :=
  Text.isBlank (a.newId d.issued) = false ∧ (rows E d.store).get? (a.newId d.issued) = none

theorem step_createWork [PatternEngine] (h : Orderly E d.store) (hfaults : d.store.faults = {})
    (he : Storable e) (hfresh : Text.isBlank (key e) = true → d.Fresh a E) :
    Step E d.store (createWork a type e d).2.store := by
  rcases store_createWork_cases (by rw [hfaults]) e with hstore | ⟨plan, hplan, hsave⟩
  · exact Step.of_eq h hstore
  · obtain ⟨-, -, after, hchange⟩ := h.change_of_planCreate he hfresh hplan
    exact hchange.step h hfaults hsave

theorem step_updateWork [PatternEngine] (h : Orderly E d.store) (hfaults : d.store.faults = {})
    (he : Storable e) : Step E d.store (updateWork a type e d).2.store := by
  rcases store_updateWork_cases (by rw [hfaults]) e with hstore | ⟨plan, hplan, hsave⟩
  · exact Step.of_eq h hstore
  · obtain ⟨-, -, stored, -, -, after, hchange⟩ := h.change_of_planUpdate he hplan
    exact hchange.step h hfaults hsave

theorem step_moveWork (h : Orderly E d.store) (hfaults : d.store.faults = {}) (id : String)
    (new : Int) : Step E d.store (moveWork E id new d).2.store := by
  rcases store_moveWork_cases (E := E) (by rw [hfaults]) id new with
    hstore | ⟨altered, hplan, hsave⟩
  · exact Step.of_eq h hstore
  · obtain ⟨stored, -, -, -, after, hchange⟩ := h.change_of_planMove hplan
    exact hchange.step h hfaults hsave

/-- **Creating** a record has it stored as it is answered, and its identifier inserted into the
order of its scope. -/
theorem effect_createWork [PatternEngine] (h : Orderly E d.store) (hfaults : d.store.faults = {})
    {r : E} (he : Storable e) (hfresh : Text.isBlank (key e) = true → d.Fresh a E)
    (hrun : createWork a type e d = (.ok r, d')) :
    key r = (if Text.isBlank (key e) then a.newId d.issued else key e) ∧
      stored? E d'.store (key r) = some r ∧
      Effect d.store d'.store r (key r) fun ids =>
        ids.insertIdx (position (priority e) (ids.length + 1)) (key r) := by
  obtain ⟨plan, hplan, rfl, hsave⟩ := createWork_eq_ok hrun
  obtain ⟨hkey, hresult, after, hchange⟩ := h.change_of_planCreate he hfresh hplan
  have hsaved := saved_of_save hchange.rewrite.nodup_written hsave
  exact ⟨hkey, hchange.toRewriting.stored?_of_mem hsaved hresult,
    hchange.effect hfaults hsave (by rw [List.length_map])⟩

/-- **Updating** a record has it stored as it is answered, and its identifier moved within the order
of its scope, unless its priority is the stored one. -/
theorem effect_updateWork [PatternEngine] (h : Orderly E d.store) (hfaults : d.store.faults = {})
    {r : E} (he : Storable e) (hrun : updateWork a type e d = (.ok r, d')) :
    key r = key e ∧ stored? E d'.store (key e) = some r ∧
      ∃ stored, stored? E d.store (key e) = some stored ∧ sameScope r stored = true ∧
        Effect d.store d'.store r (key e) fun ids =>
          if priority e = priority stored then ids
          else (ids.erase (key e)).insertIdx (position (priority e) ids.length) (key e) := by
  obtain ⟨plan, hplan, rfl, hsave⟩ := updateWork_eq_ok hrun
  obtain ⟨hkey, hresult, stored, hstored, hsame, after, hchange⟩ :=
    h.change_of_planUpdate he hplan
  have hsaved := saved_of_save hchange.rewrite.nodup_written hsave
  have hafter := hchange.toRewriting.stored?_of_mem hsaved hresult
  rw [hkey] at hafter
  exact ⟨hkey, hafter, stored, hstored, hsame,
    hchange.effect hfaults hsave (by rw [List.length_map])⟩

/-- **Moving** a record has its identifier moved within the order of its scope, and of the record
only the priority changes. -/
theorem effect_moveWork (h : Orderly E d.store) (hfaults : d.store.faults = {}) {id : String}
    {new : Int} {altered : List E} (hrun : moveWork E id new d = (.ok altered, d')) :
    ∃ stored, stored? E d.store id = some stored ∧
      (∃ p, stored? E d'.store id = some (withPriority stored p)) ∧
      Effect d.store d'.store stored id fun ids =>
        (ids.erase id).insertIdx (position new ids.length) id := by
  obtain ⟨hplan, hsave⟩ := moveWork_eq_ok hrun
  obtain ⟨stored, hstored, hkey, ⟨p, hp⟩, after, hchange⟩ := h.change_of_planMove hplan
  have hsaved := saved_of_save hchange.rewrite.nodup_written hsave
  have hafter := hchange.toRewriting.stored?_of_mem hsaved hp
  rw [LawfulPrioritized.key_withPriority, hkey] at hafter
  exact ⟨stored, hstored, ⟨p, hafter⟩, hchange.effect hfaults hsave (by rw [List.length_map])⟩

/-! ## Deleting -/

/-- A record without which a table is left belongs to no other scope. -/
theorem scope_of_delete_of_not_sameScope (hkeyed : Keyed E s)
    (hdelete : (table (E := E)).delete s id = .ok s') (hstored : stored? E s id = some e) {e' : E}
    (he' : sameScope e' e = false) : Admin.scope s' e' = Admin.scope s e' := by
  rw [scope_of_delete hkeyed hdelete, List.filter_eq_self]
  intro r hr
  obtain ⟨hr, hsame⟩ := hkeyed.mem_scope_iff.1 hr
  rw [bne_iff_ne]
  rintro rfl
  rw [hstored] at hr
  cases hr
  rw [sameScope_comm.1 hsame] at he'
  cases he'

omit [LawfulKind E] in
/-- In a store that does not fail, no record of a keyed table is stranded. -/
theorem Keyed.not_stranded (h : Keyed E s) (hfaults : s.faults = {}) (id : String) :
    ¬Stranded E s id := by
  rintro ⟨-, e, -, ⟨n, doc, -, hrow, hnone⟩ | ⟨n, hn, -⟩⟩
  · obtain ⟨e', hdecode, -⟩ := h n doc hrow
    rw [hnone] at hdecode
    cases hdecode
  · rw [hfaults] at hn
    cases hn

theorem Orderly.not_stranded (h : Orderly E s) (hfaults : s.faults = {}) (id : String) :
    ¬Stranded E s id :=
  h.documented.keyed.not_stranded hfaults id

/-- A deletion that succeeds, as a change of the store without the record. -/
theorem Orderly.change_of_deleteWork (h : Orderly E d.store) (hfaults : d.store.faults = {})
    (hrun : deleteWork E id d = (.ok e, d')) :
    stored? E d.store id = some e ∧ ∃ s, (table (E := E)).delete d.store id = .ok s ∧
      s.faults = {} ∧ save (Priority.pack (Admin.scope s e) id) s = (.ok (), d'.store) ∧
      Change s e id (Priority.closed 1 (Admin.scope s e)) (Priority.pack (Admin.scope s e) id)
        (((Admin.scope d.store e).map key).erase id) := by
  obtain ⟨hfind, s, es, hdelete, hscope, hsave⟩ := deleteWork_eq_ok hrun
  obtain ⟨-, -, hstored⟩ := find_eq_ok_iff.1 (findDeletable_eq_ok_iff.1 hfind).1
  obtain ⟨-, -, rfl⟩ := scopeOf_eq_ok_iff.1 hscope
  have hs : s.faults = {} := by
    rw [Table.delete, Store.delete, hfaults, if_neg (by simp)] at hdelete
    cases hdelete
    exact hfaults
  exact ⟨hstored, s, hdelete, hs, hsave,
    h.documented.change_of_delete hdelete (h.documented.length_scope_le (h.dense e))⟩

theorem step_deleteWork (h : Orderly E d.store) (hfaults : d.store.faults = {}) (id : String) :
    Step E d.store (deleteWork E id d).2.store := by
  rcases hrun : deleteWork E id d with ⟨outcome, d'⟩
  cases outcome with
  | error error =>
      exact Step.of_eq h (store_of_deleteWork_error (h.not_stranded hfaults id) hrun)
  | ok e =>
      obtain ⟨hstored, s, hdelete, hs, hsave, hchange⟩ :=
        h.change_of_deleteWork hfaults hrun
      have hsaved := saved_of_save hchange.rewrite.nodup_written hsave
      refine ⟨hchange.orderly (h.documented.of_delete hdelete) (fun e' he' => ?_) hsaved,
        (faults_of_save (by rw [hs]) hsave).trans (hs.trans hfaults.symm), fun n hn => ?_⟩
      · rw [scope_of_delete_of_not_sameScope h.documented.keyed hdelete hstored he']
        exact h.dense e'
      · rw [hsaved.others n hn, Store.table_of_delete hdelete, if_neg hn]

/-- **Deleting** a record takes its identifier out of the order of its scope. -/
theorem effect_deleteWork (h : Orderly E d.store) (hfaults : d.store.faults = {})
    (hrun : deleteWork E id d = (.ok e, d')) :
    stored? E d.store id = some e ∧ stored? E d'.store id = none ∧
      Effect d.store d'.store e id fun ids => ids.erase id := by
  obtain ⟨hstored, s, hdelete, hs, hsave, hchange⟩ := h.change_of_deleteWork hfaults hrun
  have hsaved := saved_of_save hchange.rewrite.nodup_written hsave
  have hfaults' : d'.store.faults = {} := (faults_of_save (by rw [hs]) hsave).trans hs
  have hscope := scope_of_delete h.documented.keyed hdelete e
  have hsubset : ∀ r ∈ Admin.scope s e, r ∈ Admin.scope d.store e := by
    intro r hr
    rw [hscope] at hr
    exact List.mem_of_mem_filter hr
  have hid := Priority.not_mem_map_key_pack (Admin.scope s e) id
  refine ⟨hstored, ?_, ⟨Admin.scope d.store e, Priority.closed 1 (Admin.scope s e),
    scopeOf_eq h.documented.keyed (by rw [hfaults]) e, ?_, hchange.order, fun r hr hne => ?_,
    fun n hne hn => ?_⟩, fun n hn => ?_⟩
  · rw [hsaved.stored?_of_not_mem hid, stored?_of_delete hdelete, if_pos rfl]
  · rw [scopeOf_eq (hchange.toRewriting.keyed_saved hsaved) (by rw [hfaults']),
      hchange.scope_eq hsaved]
  · obtain ⟨b, hb, p, rfl⟩ := hchange.others r hr hne
    exact ⟨b, hsubset b hb, p, rfl⟩
  · have hn' : n ∉ (Admin.scope s e).map key := by
      intro hmem
      obtain ⟨r, hr, rfl⟩ := List.mem_map.1 hmem
      exact hn (List.mem_map_of_mem (hsubset r hr))
    rw [hchange.get?_rows hsaved hne hn', get?_rows_of_delete hdelete, if_neg hne]
  · rw [hsaved.others n hn, Store.table_of_delete hdelete, if_neg hn]

/-! ## Importing -/

/-- Each identifier that an import issues is fresh when it is issued. -/
def FreshImport [PatternEngine] (a : Admin) (type : String) : List E → Desk → Prop
  | [], _ => True
  | e :: rest, d =>
    (Text.isBlank (key e) = true → d.Fresh a E) ∧ FreshImport a type rest (importOne a type e d).2

theorem step_importOne [PatternEngine] (h : Orderly E d.store) (hfaults : d.store.faults = {})
    (he : Storable e) (hfresh : Text.isBlank (key e) = true → d.Fresh a E) :
    Step E d.store (importOne a type e d).2.store := by
  rw [importOne]
  split
  · exact Step.refl h
  · exact step_updateWork h hfaults he
  · exact step_createWork h hfaults he hfresh

theorem step_importWork [PatternEngine] {records : List E} (h : Orderly E d.store)
    (hfaults : d.store.faults = {}) (hrecords : ∀ e ∈ records, Storable e)
    (hfresh : FreshImport a type records d) :
    Step E d.store (importWork a type records d).2.store := by
  induction records generalizing d with
  | nil => exact Step.refl h
  | cons e rest ih =>
      rw [List.forall_mem_cons] at hrecords
      have hone : Step E d.store (importOne a type e d).2.store :=
        step_importOne h hfaults hrecords.1 hfresh.1
      have hrest := ih hone.orderly (hone.faults.trans hfaults) hrecords.2 hfresh.2
      rw [desk_importWork_cons]
      exact hone.trans hrest

end Lawful

end Rulebook.Admin
