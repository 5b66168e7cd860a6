import Rulebook.Proofs.Admin.Belonging
import Rulebook.Proofs.Admin.Locking

/-!
# Rulebook.Proofs.Admin.Drafts

What a request for one record looks at, and what it writes.

Although a scope is found by listing the whole table, a request only depends on what stands under
its identifier and on the scopes of the records that it involves: the one it submits, and the one
that is stored (`Request.involved`).  Two stores that agree on those (`Agrees`) are the same to it.
What it then does is a draft, of an answer and of records to be taken away or written, all within
the same bounds:

* `Agrees.planCreate_eq`, `Agrees.planUpdate_eq`, `Agrees.planMove_eq` — plans only look at so much;
* `Draft.get?_rows_apply`, `Draft.get?_rows_apply_of_not_touches` — carrying a draft out;
* `Request.exists_draft` — every request for one record does what some draft says, in all stores
  that agree.
-/

namespace Rulebook

open Prioritized RuleKind

namespace Table

variable {α : Type} (t : Table α) {s s' : Store}

theorem get?_congr (hfaults : s'.faults = s.faults) (htable : s'.table t.name = s.table t.name)
    (id : String) : t.get? s' id = t.get? s id := by
  rw [get?, get?, Store.get?, Store.get?, hfaults, htable]

theorem all_congr (hfaults : s'.faults = s.faults) (htable : s'.table t.name = s.table t.name) :
    t.all s' = t.all s := by
  rw [all, all, Store.all, Store.all, hfaults, htable]

end Table

/-- The check of a feature rule consults the features. -/
theorem FeatureRule.check_congr (r : FeatureRule) {s s' : Store} (c : Config) (type : String)
    (hfaults : s'.faults = s.faults) (htable : s'.table features.name = s.table features.name) :
    r.check ⟨s', c, type⟩ = r.check ⟨s, c, type⟩ := by
  have hfeature : r.checkFeature s' = r.checkFeature s := by
    funext id
    rw [checkFeature, features.get?_congr hfaults htable id, checkFeature]
  rw [check, check, hfeature]

/-- The check of a template before it is deleted consults the firmware rules. -/
theorem Template.checkUnused_congr (t : Template) {s s' : Store} (hfaults : s'.faults = s.faults)
    (htable : s'.table firmwareRules.name = s.table firmwareRules.name) :
    t.checkUnused s' = t.checkUnused s := by
  rw [checkUnused, firmwareRules.all_congr hfaults htable, checkUnused]

namespace Admin

/-! ## Requests for one record -/

namespace Request

variable {E : Type} [RuleKind E]

/-- The identifier that a request addresses, if it is one for a single record. -/
def address : Request E → Option String
  | create e _ _ | update e _ _ => some (key e)
  | delete id _ | changePriority id _ _ => some id
  | importAll _ _ _ => none

/-- The record that a request submits, with the application type that it then has. -/
def submitted? (c : Config) : Request E → Option E
  | create e type _ | update e type _ => some (withType c type e)
  | _ => none

/-- The records whose scopes a request involves: the one that it submits, and the one that is stored
under the identifier that it addresses. -/
def involved (c : Config) (s : Store) (r : Request E) : List E :=
  (r.submitted? c).toList ++ (r.address.bind (stored? E s)).toList

theorem mem_involved_of_submitted {c : Config} {s : Store} {r : Request E} {e : E}
    (h : r.submitted? c = some e) : e ∈ r.involved c s := by
  simp [involved, h]

theorem mem_involved_of_stored {c : Config} {s : Store} {r : Request E} {id : String} {e : E}
    (haddress : r.address = some id) (he : stored? E s id = some e) : e ∈ r.involved c s := by
  simp [involved, haddress, he]

end Request

/-! ## Stores that are the same to a request -/

variable {k : Kind}

/-- The second store has the record under an identifier, some scopes, and all other tables from the
first. -/
structure Agrees (xs : List k.Record) (id : String) (s s' : Store) : Prop where
  keyed : Keyed k.Record s'
  faults : s'.faults = {}
  stored : stored? k.Record s' id = stored? k.Record s id
  scopes : ∀ x ∈ xs, scope s' x = scope s x
  others : ∀ n, n ≠ k.tableName → s'.table n = s.table n

theorem Agrees.refl {s : Store} (hkeyed : Keyed k.Record s) (hfaults : s.faults = {})
    (xs : List k.Record) (id : String) : Agrees xs id s s :=
  ⟨hkeyed, hfaults, rfl, fun _ _ => rfl, fun _ _ => rfl⟩

theorem Keyed.get?_eq {E : Type} [RuleKind E] {s : Store} (h : Keyed E s)
    (hreads : s.faults.reads = false) (id : String) : get? s id = .ok (stored? E s id) :=
  get?_eq_ok_iff.2 ⟨hreads, rfl, h.stored?_eq_none_iff.1⟩

variable {xs : List k.Record} {id : String} {s s' : Store} {c : Config} {type : String}
  {e : k.Record}

/-- The scope of a record that was prepared is that of the record as it was submitted. -/
theorem sameScope_of_prepare [PatternEngine] {r : k.Record} (h : prepare c s type e = .ok r) :
    sameScope r (withType c type e) = true := by
  obtain ⟨-, -, rfl⟩ := prepare_eq_ok_iff.1 h
  exact sameScope_withRule _ _

/-- A record that names its identifier keeps it. -/
theorem eq_of_identify {fresh : String} {e' : k.Record} (hblank : Text.isBlank (key e) = false)
    (h : identify s fresh e = .ok e') : e' = e := by
  cases identify_eq_ok_iff.1 h with
  | inl hissued => simp [hblank] at hissued
  | inr hnamed => exact hnamed.2.2

namespace Agrees

theorem get?_eq (h : Agrees xs id s s') (hkeyed : Keyed k.Record s) (hfaults : s.faults = {}) :
    get? (E := k.Record) s' id = get? s id := by
  rw [h.keyed.get?_eq (by rw [h.faults]), hkeyed.get?_eq (by rw [hfaults]), h.stored]

theorem find_eq (h : Agrees xs id s s') (hkeyed : Keyed k.Record s) (hfaults : s.faults = {}) :
    find (E := k.Record) s' id = find s id := by
  rw [find, find, h.get?_eq hkeyed hfaults]

theorem scope_eq (h : Agrees xs id s s') {x : k.Record} (hx : x ∈ xs)
    (hsame : sameScope e x = true) : scope s' e = scope s e := by
  rw [scope_congr s' hsame, scope_congr s hsame, h.scopes x hx]

theorem scopeOf_eq (h : Agrees xs id s s') (hkeyed : Keyed k.Record s) (hfaults : s.faults = {})
    {x : k.Record} (hx : x ∈ xs) (hsame : sameScope e x = true) :
    scopeOf s' e = scopeOf s e := by
  rw [Admin.scopeOf_eq h.keyed (by rw [h.faults]), Admin.scopeOf_eq hkeyed (by rw [hfaults]),
    h.scope_eq hx hsame]

/-- Before a record is stored, no table of rules is consulted. -/
theorem check_eq (h : Agrees xs id s s') (hfaults : s.faults = {}) (type : String) (e : k.Record) :
    RuleKind.check ⟨s', c, type⟩ e = RuleKind.check ⟨s, c, type⟩ e := by
  have hfaults' := h.faults.trans hfaults.symm
  have hfeatures := h.others features.name (Ne.symm k.tableName_ne_features)
  cases k with
  | firmwareRule => rfl
  | template => rfl
  | featureRule => exact FeatureRule.check_congr e c type hfaults' hfeatures

/-- Before a record is deleted, the table of its own kind is not consulted. -/
theorem checkDeletable_eq (h : Agrees xs id s s') (hfaults : s.faults = {}) (e : k.Record) :
    RuleKind.checkDeletable s' e = RuleKind.checkDeletable s e := by
  have hfaults' := h.faults.trans hfaults.symm
  cases k with
  | firmwareRule => rfl
  | template =>
      exact Template.checkUnused_congr e hfaults' (h.others firmwareRules.name (by decide))
  | featureRule => rfl

theorem prepare_eq [PatternEngine] (h : Agrees xs id s s') (hfaults : s.faults = {})
    (e : k.Record) :
    prepare c s' type e = prepare c s type e := by
  simp only [prepare, checkRecord, h.check_eq hfaults]

theorem identify_eq (h : Agrees xs (key e) s s') (hkeyed : Keyed k.Record s)
    (hfaults : s.faults = {}) (hblank : Text.isBlank (key e) = false) (fresh fresh' : String) :
    identify s' fresh' e = identify s fresh e := by
  rw [identify, identify, hblank, h.get?_eq hkeyed hfaults]
  rfl

/-- A record that names its identifier is created alike, whatever identifier would be issued. -/
theorem planCreate_eq [PatternEngine] (h : Agrees xs (key e) s s') (hkeyed : Keyed k.Record s)
    (hfaults : s.faults = {}) (hblank : Text.isBlank (key e) = false)
    (hx : withType c type e ∈ xs) (fresh fresh' : String) :
    planCreate c s' fresh' type e = planCreate c s fresh type e := by
  rw [planCreate, planCreate, h.identify_eq hkeyed hfaults hblank fresh fresh']
  refine bind_congr_ok fun e' he' => ?_
  obtain rfl := eq_of_identify hblank he'
  rw [h.prepare_eq hfaults]
  refine bind_congr_ok fun r hr => ?_
  rw [h.scopeOf_eq hkeyed hfaults hx (sameScope_of_prepare hr)]

theorem planUpdate_eq [PatternEngine] (h : Agrees xs (key e) s s') (hkeyed : Keyed k.Record s)
    (hfaults : s.faults = {}) (hx : withType c type e ∈ xs) :
    planUpdate c s' type e = planUpdate c s type e := by
  rw [planUpdate, planUpdate, h.find_eq hkeyed hfaults]
  refine bind_congr_ok fun stored _ => ?_
  rw [h.prepare_eq hfaults]
  refine bind_congr_ok fun r hr => ?_
  rw [h.scopeOf_eq hkeyed hfaults hx (sameScope_of_prepare hr)]

theorem planMove_eq (h : Agrees xs id s s') (hkeyed : Keyed k.Record s) (hfaults : s.faults = {})
    (hxs : ∀ x, stored? k.Record s id = some x → x ∈ xs) (new : Int) :
    planMove (E := k.Record) s' id new = planMove s id new := by
  rw [planMove, planMove, h.find_eq hkeyed hfaults]
  refine bind_congr_ok fun stored hstored => ?_
  obtain ⟨-, -, hstored⟩ := find_eq_ok_iff.1 hstored
  rw [h.scopeOf_eq hkeyed hfaults (hxs stored hstored) (sameScope_refl stored)]

theorem findDeletable_eq (h : Agrees xs id s s') (hkeyed : Keyed k.Record s)
    (hfaults : s.faults = {}) :
    findDeletable (E := k.Record) s' id = findDeletable s id := by
  rw [findDeletable, findDeletable, h.find_eq hkeyed hfaults]
  refine bind_congr_ok fun stored _ => ?_
  rw [h.checkDeletable_eq hfaults]

end Agrees

/-! ## Drafts -/

/-- An answer, with the identifier of a record to be taken away and the records to be written after
that. -/
structure Draft (E : Type) where
  answer : Except AdminError (Answer E)
  removed : Option String := none
  writes : List E := []

namespace Draft

section Apply

variable {E : Type} [RuleKind E] (draft : Draft E)

/-- The store without the record to be taken away. -/
def clear (s : Store) : Store :=
  match draft.removed with
  | some id => without E s id
  | none => s

/-- The store once the draft is carried out. -/
def apply (s : Store) : Store :=
  (save draft.writes (draft.clear s)).2

/-- The draft takes away or writes what stands under the identifier. -/
def Touches (n : String) : Prop :=
  draft.removed = some n ∨ n ∈ draft.writes.map key

theorem get?_rows_clear (s : Store) (n : String) :
    (rows E (draft.clear s)).get? n = if draft.removed = some n then none
      else (rows E s).get? n := by
  rw [clear]
  cases draft.removed with
  | none => simp
  | some id =>
      simp only [Option.some.injEq, rows, without]
      rw [Store.table_erase, if_pos rfl, SortedMap.get?_erase]
      simp only [eq_comm]

theorem faults_clear (s : Store) : (draft.clear s).faults = s.faults := by
  rw [clear]
  split <;> rfl

/-- What a draft does not touch, it leaves as it was. -/
theorem get?_rows_apply_of_not_touches {n : String} (hn : ¬draft.Touches n) (s : Store) :
    (rows E (draft.apply s)).get? n = (rows E s).get? n := by
  rw [Touches, not_or] at hn
  rw [apply, (save_kept draft.writes (draft.clear s)).1 n hn.2, get?_rows_clear, if_neg hn.1]

/-- What saving leaves under the identifier of a record that is saved does not depend on what was
there. -/
theorem exists_row_save {es : List E} {n : String} (hn : n ∈ es.map key) :
    ∃ doc, ∀ s : Store, s.faults.writesLeft = none →
      (rows E (save es s).2).get? n = some doc := by
  induction es with
  | nil => simp at hn
  | cons e rest ih =>
      have hwrite : ∀ s : Store, s.faults.writesLeft = none → (save (e :: rest) s).2 =
          (save rest (s.insert (table (E := E)).name (key e) (table.encode e))).2 := by
        intro s hs
        rw [save, Table.write, Store.write, hs]
      by_cases hrest : n ∈ rest.map key
      · obtain ⟨doc, hdoc⟩ := ih hrest
        refine ⟨doc, fun s hs => ?_⟩
        rw [hwrite s hs]
        exact hdoc _ hs
      · have heq : n = key e := by simpa [hrest] using hn
        refine ⟨table.encode e, fun s hs => ?_⟩
        rw [hwrite s hs, (save_kept rest _).1 n hrest, rows, Store.table_insert, if_pos rfl,
          SortedMap.get?_insert, if_pos heq]

/-- What a draft touches, it leaves the same in all stores. -/
theorem get?_rows_apply {n : String} (hn : draft.Touches n) :
    ∃ row, ∀ s : Store, s.faults.writesLeft = none →
      (rows E (draft.apply s)).get? n = row := by
  by_cases hwrites : n ∈ draft.writes.map key
  · obtain ⟨doc, hdoc⟩ := exists_row_save hwrites
    exact ⟨some doc, fun s hs => hdoc _ (by rwa [faults_clear])⟩
  · have hremoved : draft.removed = some n := hn.resolve_right hwrites
    refine ⟨none, fun s _ => ?_⟩
    rw [apply, (save_kept draft.writes (draft.clear s)).1 n hwrites, get?_rows_clear,
      if_pos hremoved]

end Apply

/-- The draft touches only the identifier and the scopes, and writes only into the scopes. -/
structure Within (draft : Draft k.Record) (xs : List k.Record) (id : String) (s : Store) :
    Prop where
  removed : ∀ n, draft.removed = some n → n = id
  named : ∀ e ∈ draft.writes, key e = id ∨ ∃ x ∈ xs, key e ∈ (scope s x).map key
  inScope : ∀ e ∈ draft.writes, ∃ x ∈ xs, sameScope e x = true
  inRange : ∀ e ∈ draft.writes, Json.IsInt32 (priority e)

variable {xs : List k.Record} {id : String} {s : Store}

theorem within_error (error : AdminError) :
    (⟨.error error, none, []⟩ : Draft k.Record).Within xs id s := by
  constructor <;> simp

/-- Records that are confined to an involved scope are within bounds. -/
theorem within_of_confined {s₁ : Store} {r x : k.Record} {writes : List k.Record}
    {answer : Except AdminError (Answer k.Record)} {removed : Option String}
    (hconfined : Confined s₁ r writes) (hremoved : ∀ n, removed = some n → n = id)
    (hkey : key r = id) (hx : x ∈ xs) (hsame : sameScope r x = true)
    (hsub : ∀ b ∈ scope s₁ r, b ∈ scope s r) :
    (⟨answer, removed, writes⟩ : Draft k.Record).Within xs id s := by
  refine ⟨hremoved, fun e he => ?_, fun e he => ⟨x, hx, ?_⟩, hconfined.inRange⟩
  · cases hconfined.key_eq_or_mem he with
    | inl hid => exact .inl (hid.trans hkey)
    | inr hmem =>
        obtain ⟨b, hb, hkey'⟩ := List.mem_map.1 hmem
        have hb' := hsub b hb
        rw [scope_congr s hsame] at hb'
        exact .inr ⟨x, hx, hkey' ▸ List.mem_map_of_mem hb'⟩
  · exact sameScope_trans (hconfined.inScope he) hsame

/-! ## The works -/

variable {E : Type}

/-- The draft of a plan. -/
def ofPlan : Except AdminError (Plan E) → Draft E
  | .error error => { answer := .error error }
  | .ok plan => { answer := .ok (.record plan.result), writes := plan.writes }

/-- The draft of a move. -/
def ofMove : Except AdminError (List E) → Draft E
  | .error error => { answer := .error error }
  | .ok altered => { answer := .ok (.altered altered), writes := altered }

theorem answer_ofPlan (planned : Except AdminError (Plan E)) :
    (ofPlan planned).answer = (planned.map Plan.result).map .record := by
  cases planned <;> rfl

theorem answer_ofMove (planned : Except AdminError (List E)) :
    (ofMove planned).answer = planned.map .altered := by
  cases planned <;> rfl

variable [RuleKind E] {a : Admin} {type : String}

/-- The draft of a deletion. -/
def ofDeletion (s : Store) (id : String) : Except AdminError E → Draft E
  | .error error => { answer := .error error }
  | .ok stored =>
    { answer := .ok (.record stored), removed := some id
      writes := Priority.pack (scope (without E s id) stored) id }

theorem store_createWork [PatternEngine] (e : E) (d : Desk) :
    (createWork a type e d).2.store =
      (ofPlan (planCreate a.config d.store (a.newId d.issued) type e)).apply d.store := by
  rw [createWork]
  cases planCreate a.config d.store (a.newId d.issued) type e with
  | error error => exact store_issued d e
  | ok plan =>
      dsimp only [Desk.after]
      rw [store_issued]
      exact snd_carryOut plan d.store

theorem store_updateWork [PatternEngine] (e : E) (d : Desk) :
    (updateWork a type e d).2.store =
      (ofPlan (planUpdate a.config d.store type e)).apply d.store := by
  rw [updateWork]
  cases planUpdate a.config d.store type e with
  | error error => rfl
  | ok plan => exact snd_carryOut plan d.store

theorem store_moveWork (id : String) (new : Int) (d : Desk) :
    (moveWork E id new d).2.store = (ofMove (planMove (E := E) d.store id new)).apply d.store := by
  cases hplan : planMove (E := E) d.store id new with
  | error error =>
      rw [moveWork, hplan]
      rfl
  | ok altered => exact store_moveWork_of_plan hplan

/-- A record that can be deleted is taken out, and the rest of its scope is numbered anew. -/
theorem deleteWork_eq {d : Desk} (h : Keyed E d.store) (hfaults : d.store.faults = {})
    (id : String) :
    answered Answer.record (deleteWork E id d) =
      ((ofDeletion (E := E) d.store id (findDeletable d.store id)).answer,
        { d with store :=
            (ofDeletion (E := E) d.store id (findDeletable d.store id)).apply d.store }) := by
  cases hfind : findDeletable (E := E) d.store id with
  | error error =>
      rw [deleteWork_of_error hfind]
      rfl
  | ok stored =>
      have hdelete := delete_eq_ok (E := E) (s := d.store) (by rw [hfaults]) id
      have hrest : (without E d.store id).faults = {} := hfaults
      have hscope := scopeOf_eq (h.of_delete hdelete) (by rw [hrest]) stored
      obtain ⟨s', hsave⟩ := exists_save_eq_ok (s := without E d.store id) (by rw [hrest])
        (Priority.pack (scope (without E d.store id) stored) id)
      rw [deleteWork_of_ok hfind, Desk.after, remove, hdelete]
      simp only [closeGap, hscope, hsave, answered, ofDeletion, apply, clear]
      rfl

/-- A deletion only looks at the record and at the scope of it. -/
theorem ofDeletion_congr {s' : Store} (hagrees : Agrees xs id s s') (hkeyed : Keyed k.Record s)
    (hfaults : s.faults = {}) (hxs : ∀ x, stored? k.Record s id = some x → x ∈ xs) :
    ofDeletion (E := k.Record) s' id (findDeletable s' id) =
      ofDeletion s id (findDeletable s id) := by
  rw [hagrees.findDeletable_eq hkeyed hfaults]
  cases hfind : findDeletable (E := k.Record) s id with
  | error error => rfl
  | ok stored =>
      obtain ⟨-, -, hstored⟩ := find_eq_ok_iff.1 (findDeletable_eq_ok_iff.1 hfind).1
      have hscope : scope (without k.Record s' id) stored =
          scope (without k.Record s id) stored := by
        rw [scope_of_delete hagrees.keyed (delete_eq_ok (by rw [hagrees.faults]) id),
          scope_of_delete hkeyed (delete_eq_ok (by rw [hfaults]) id),
          hagrees.scopes stored (hxs stored hstored)]
      rw [ofDeletion, ofDeletion, hscope]

/-! ## Bounds -/

variable {c : Config} {e : k.Record}

theorem within_planCreate [PatternEngine] (h : Tidy k.Record s)
    (hblank : Text.isBlank (key e) = false) (hx : withType c type e ∈ xs) (fresh : String) :
    (ofPlan (planCreate c s fresh type e)).Within xs (key e) s := by
  cases hplan : planCreate c s fresh type e with
  | error error => exact within_error error
  | ok plan =>
      obtain ⟨e', r, hidentify, hprepare, hconfined⟩ := h.confined_of_planCreate hplan
      obtain rfl := eq_of_identify hblank hidentify
      have hkey : key r = key e' := by
        obtain ⟨-, -, rfl⟩ := prepare_eq_ok_iff.1 hprepare
        exact key_ready c type e'
      exact within_of_confined hconfined (by simp) hkey hx (sameScope_of_prepare hprepare)
        fun b hb => hb

theorem within_planUpdate [PatternEngine] (h : Tidy k.Record s) (he : Json.IsInt32 (priority e))
    (hx : withType c type e ∈ xs) : (ofPlan (planUpdate c s type e)).Within xs (key e) s := by
  cases hplan : planUpdate c s type e with
  | error error => exact within_error error
  | ok plan =>
      obtain ⟨r, stored, hprepare, -, -, hconfined⟩ := h.confined_of_planUpdate he hplan
      have hkey : key r = key e := by
        obtain ⟨-, -, rfl⟩ := prepare_eq_ok_iff.1 hprepare
        exact key_ready c type e
      exact within_of_confined hconfined (by simp) hkey hx (sameScope_of_prepare hprepare)
        fun b hb => hb

theorem within_planMove (h : Tidy k.Record s)
    (hxs : ∀ x, stored? k.Record s id = some x → x ∈ xs) (new : Int) :
    (ofMove (planMove (E := k.Record) s id new)).Within xs id s := by
  cases hplan : planMove (E := k.Record) s id new with
  | error error => exact within_error error
  | ok altered =>
      obtain ⟨stored, hstored, hconfined⟩ := h.confined_of_planMove hplan
      exact within_of_confined hconfined (by simp) (h.keyed.key_eq hstored) (hxs stored hstored)
        (sameScope_refl stored) fun b hb => hb

theorem within_deletion (h : Tidy k.Record s) (hfaults : s.faults = {})
    (hxs : ∀ x, stored? k.Record s id = some x → x ∈ xs) :
    (ofDeletion (E := k.Record) s id (findDeletable s id)).Within xs id s := by
  cases hfind : findDeletable (E := k.Record) s id with
  | error error => exact within_error error
  | ok stored =>
      obtain ⟨-, -, hstored⟩ := find_eq_ok_iff.1 (findDeletable_eq_ok_iff.1 hfind).1
      have hdelete := delete_eq_ok (E := k.Record) (s := s) (by rw [hfaults]) id
      have hconfined := ((h.of_delete hdelete).fitting_pack stored id).confined
      refine within_of_confined hconfined (by simp) (h.keyed.key_eq hstored) (hxs stored hstored)
        (sameScope_refl stored) fun b hb => ?_
      rw [scope_of_delete h.keyed hdelete] at hb
      exact List.mem_of_mem_filter hb

end Draft

/-! ## Requests -/

open Draft in
/-- **A request for one record** does what a draft says, which is within the bounds of the request
and the same in all stores that the request cannot tell apart. -/
theorem Request.exists_draft [PatternEngine] {a : Admin} {d : Desk} (h : Tidy k.Record d.store)
    (hfaults : d.store.faults = {}) {r : Request k.Record} (htyped : r.IsTyped) {id : String}
    (haddress : r.address = some id) (hblank : Text.isBlank id = false) :
    ∃ draft : Draft k.Record, draft.Within (r.involved a.config d.store) id d.store ∧
      ∀ d' : Desk, Agrees (r.involved a.config d.store) id d.store d'.store →
        (r.work a d').1 = draft.answer ∧ (r.work a d').2.store = draft.apply d'.store := by
  have hstored : ∀ x, stored? k.Record d.store id = some x → x ∈ r.involved a.config d.store :=
    fun x => mem_involved_of_stored haddress
  have hwrites : ∀ {d' : Desk}, Agrees (r.involved a.config d.store) id d.store d'.store →
      d'.store.faults.writesLeft = none := fun hagrees => by rw [hagrees.faults]
  cases r with
  | create e type owner =>
      obtain rfl : key e = id := Option.some.inj haddress
      have hx : withType a.config type e ∈
          (create e type owner : Request k.Record).involved a.config d.store :=
        mem_involved_of_submitted rfl
      refine ⟨_, within_planCreate h hblank hx (a.newId d.issued), fun d' hagrees => ?_⟩
      rw [← hagrees.planCreate_eq h.keyed hfaults hblank hx _ (a.newId d'.issued), answer_ofPlan,
        ← fst_createWork (hwrites hagrees)]
      exact ⟨rfl, store_createWork e d'⟩
  | update e type owner =>
      obtain rfl : key e = id := Option.some.inj haddress
      have hx : withType a.config type e ∈
          (update e type owner : Request k.Record).involved a.config d.store :=
        mem_involved_of_submitted rfl
      refine ⟨_, within_planUpdate h htyped hx, fun d' hagrees => ?_⟩
      rw [← hagrees.planUpdate_eq h.keyed hfaults hx, answer_ofPlan,
        ← fst_updateWork (hwrites hagrees)]
      exact ⟨rfl, store_updateWork e d'⟩
  | delete id' owner =>
      obtain rfl : id' = id := Option.some.inj haddress
      refine ⟨_, within_deletion h hfaults hstored, fun d' hagrees => ?_⟩
      have hwork := deleteWork_eq hagrees.keyed hagrees.faults id'
      rw [ofDeletion_congr hagrees h.keyed hfaults hstored] at hwork
      exact ⟨congrArg Prod.fst hwork, congrArg (·.2.store) hwork⟩
  | changePriority id' new owner =>
      obtain rfl : id' = id := Option.some.inj haddress
      refine ⟨_, within_planMove h hstored new, fun d' hagrees => ?_⟩
      have hanswer := fst_moveWork (E := k.Record) (hwrites hagrees) id' new
      rw [← hagrees.planMove_eq h.keyed hfaults hstored, answer_ofMove]
      exact ⟨congrArg (·.map Answer.altered) hanswer, store_moveWork id' new d'⟩
  | importAll records type owner => cases haddress

end Admin

end Rulebook
