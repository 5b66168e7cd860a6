import Mathlib.Logic.Relation
import Rulebook.Proofs.Admin.Served

/-!
# Rulebook.Proofs.Admin.Visited

What holds after any requests at all.

The runs of `Reachable` bring records that documents hold, under identifiers that are fresh.  That
tables can be read needs neither: here all that is known of a record is that its priority is one
that its field can hold (`Request.IsTyped`).  Numbers in its tree may be lost when it is written,
and an identifier that is issued may be taken already, so that a record is put in the place of
another one and scopes are left with gaps.  But whatever is written is the document of a record
under its own identifier, and no scope outgrows the priorities (`Tidy`):

* `Tidy.save` — writing records over a scope, down to the first write that fails;
* `tidyStep_createWork` and its like — the works;
* `Settled.run` — every state of a run;
* `exists_run_of_served` — the runs with documents and fresh identifiers are among these.
-/

namespace Rulebook.Admin

open Prioritized RuleKind

/-! ## Tidy tables -/

/-- Every document of the kind's table is that of a record under its own identifier, with a priority
that can be written. -/
def Encoded (E : Type) [RuleKind E] (s : Store) : Prop :=
  ∀ id doc, (rows E s).get? id = some doc →
    ∃ e : E, doc = table.encode e ∧ Json.IsInt32 (priority e) ∧ key e = id

/-- The table holds documents of records, and no scope is longer than the priorities reach. -/
structure Tidy (E : Type) [RuleKind E] (s : Store) : Prop where
  encoded : Encoded E s
  bounded : ∀ e : E, ((scope s e).length : Int) ≤ Priority.largest

section Tables

variable {E : Type} [RuleKind E] {s s' : Store}

theorem tidy_of_rows_eq_empty (h : rows E s = ∅) : Tidy E s := by
  refine ⟨fun id doc hrow => ?_, fun e => ?_⟩
  · rw [h] at hrow
    cases hrow
  · rw [scope, records, h]
    exact (by decide : (0 : Int) ≤ Priority.largest)

theorem Tidy.of_rows_eq (h : Tidy E s) (hrows : rows E s' = rows E s) : Tidy E s' := by
  refine ⟨fun id doc hrow => h.encoded id doc (hrows ▸ hrow), fun e => ?_⟩
  rw [scope, records, hrows]
  exact h.bounded e

theorem Encoded.write (h : Encoded E s) {e : E} (hpriority : Json.IsInt32 (priority e))
    (hwrite : table.write s (key e) e = .ok s') : Encoded E s' := by
  intro id doc hrow
  rw [get?_rows_of_write hwrite] at hrow
  split at hrow
  · next hid =>
      cases hrow
      exact ⟨e, rfl, hpriority, hid.symm⟩
  · exact h id doc hrow

/-- A scope is no longer than a list that has its identifiers. -/
theorem Keyed.length_scope_le (h : Keyed E s) {e : E} {ids : List String}
    (hids : ∀ a ∈ scope s e, key a ∈ ids) : (scope s e).length ≤ ids.length := by
  rw [← List.length_map key]
  refine (List.subperm_of_subset (h.nodup_map_key_scope e) fun id hid => ?_).length_le
  obtain ⟨a, ha, rfl⟩ := List.mem_map.1 hid
  exact hids a ha

variable [LawfulKind E]

theorem Encoded.keyed (h : Encoded E s) : Keyed E s := by
  intro id doc hrow
  obtain ⟨e, rfl, hpriority, hkey⟩ := h id doc hrow
  exact ⟨_, LawfulKind.decode_encode hpriority, by rw [LawfulKind.key_withRule, hkey]⟩

theorem Tidy.keyed (h : Tidy E s) : Keyed E s :=
  h.encoded.keyed

/-- What is found is a record as its document has it. -/
theorem Tidy.of_stored? (h : Tidy E s) {id : String} {e : E} (he : stored? E s id = some e) :
    ∃ e₀ : E, (rows E s).get? id = some (table.encode e₀) ∧
      e = withRule e₀ (rule e₀).written ∧ key e₀ = id := by
  obtain ⟨doc, hrow, hdecode⟩ := stored?_eq_some_iff.1 he
  obtain ⟨e₀, rfl, hpriority, hkey⟩ := h.encoded id doc hrow
  rw [LawfulKind.decode_encode hpriority] at hdecode
  cases hdecode
  exact ⟨e₀, hrow, rfl, hkey⟩

end Tables

/-! ## Records that may be written -/

section Kinds

variable {k : Kind} {s s' : Store}

/-- The tree of a record does not decide its scope. -/
theorem sameScope_withRule (e : k.Record) (r : Rule) : sameScope (withRule e r) e = true := by
  cases k with
  | firmwareRule => exact beq_self_eq_true (FirmwareRule.applicationType e)
  | template => exact sameScope_refl (E := Template) e
  | featureRule => exact beq_self_eq_true (FeatureRule.applicationType e)

/-- The records may be written over the scope of `r`: they belong to it, their priorities can be
written, and with their identifiers, which are among `ids`, the scope does not outgrow the
priorities. -/
structure Fitting (s : Store) (r : k.Record) (ids : List String) (writes : List k.Record) :
    Prop where
  room : (ids.length : Int) ≤ Priority.largest
  covers : ∀ a ∈ scope s r, key a ∈ ids
  named : ∀ e ∈ writes, key e ∈ ids
  inScope : ∀ e ∈ writes, sameScope e r = true
  inRange : ∀ e ∈ writes, Json.IsInt32 (priority e)

/-- The records may be written over the scope of `r`, and go under identifiers of that scope or
under that of `r`. -/
def Confined (s : Store) (r : k.Record) (writes : List k.Record) : Prop :=
  ∃ ids, Fitting s r ids writes ∧ ∀ n ∈ ids, n = key r ∨ n ∈ (scope s r).map key

theorem Fitting.confined {r : k.Record} {writes : List k.Record}
    (h : Fitting s r ((scope s r).map key) writes) : Confined s r writes :=
  ⟨_, h, fun _ hn => .inr hn⟩

namespace Confined

variable {r e : k.Record} {writes : List k.Record}

theorem key_eq_or_mem (h : Confined s r writes) (he : e ∈ writes) :
    key e = key r ∨ key e ∈ (scope s r).map key := by
  obtain ⟨ids, hfit, hids⟩ := h
  exact hids _ (hfit.named e he)

theorem inScope (h : Confined s r writes) (he : e ∈ writes) : sameScope e r = true := by
  obtain ⟨ids, hfit, -⟩ := h
  exact hfit.inScope e he

theorem inRange (h : Confined s r writes) : ∀ e ∈ writes, Json.IsInt32 (priority e) := by
  obtain ⟨ids, hfit, -⟩ := h
  exact hfit.inRange

end Confined

/-- A record of a scope after a write is the one that was written, or was in the scope before. -/
theorem Encoded.mem_scope_of_write (h : Encoded k.Record s) {e e' a : k.Record}
    (hpriority : Json.IsInt32 (priority e)) (hwrite : table.write s (key e) e = .ok s')
    (ha : a ∈ scope s' e') : (key a = key e ∧ sameScope e e' = true) ∨ a ∈ scope s e' := by
  obtain ⟨hstored, hsame⟩ := (h.write hpriority hwrite).keyed.mem_scope_iff.1 ha
  rw [stored?, get?_rows_of_write hwrite] at hstored
  split at hstored
  · next hkey =>
      rw [Option.bind_some, LawfulKind.decode_encode hpriority] at hstored
      cases hstored
      exact .inl ⟨hkey, LawfulKind.sameScope_equivalence.trans
        (sameScope_comm.1 (sameScope_withRule e _)) hsame⟩
  · exact .inr (h.keyed.mem_scope_iff.2 ⟨hstored, hsame⟩)

theorem Tidy.write (h : Tidy k.Record s) {r e : k.Record} {ids : List String}
    (hfit : Fitting s r ids [e]) (hwrite : table.write s (key e) e = .ok s') :
    Tidy k.Record s' ∧ ∀ a ∈ scope s' r, key a ∈ ids := by
  have hmem : e ∈ [e] := List.mem_singleton_self e
  have hpriority := hfit.inRange e hmem
  have hencoded := h.encoded.write hpriority hwrite
  have hcovers : ∀ a ∈ scope s' r, key a ∈ ids := by
    intro a ha
    rcases h.encoded.mem_scope_of_write hpriority hwrite ha with ⟨hkey, -⟩ | ha
    · exact hkey ▸ hfit.named e hmem
    · exact hfit.covers a ha
  refine ⟨⟨hencoded, fun e' => ?_⟩, hcovers⟩
  by_cases hsame : sameScope e' r = true
  · rw [scope_congr s' hsame]
    have hle := hencoded.keyed.length_scope_le hcovers
    have hroom := hfit.room
    omega
  · -- another scope can only lose the record that stood under the identifier
    have hsub : ∀ a ∈ scope s' e', key a ∈ (scope s e').map key := by
      intro a ha
      rcases h.encoded.mem_scope_of_write hpriority hwrite ha with ⟨-, hsame'⟩ | ha
      · exact absurd (LawfulKind.sameScope_equivalence.trans (sameScope_comm.1 hsame')
          (hfit.inScope e hmem)) hsame
      · exact List.mem_map_of_mem ha
    have hle := hencoded.keyed.length_scope_le hsub
    have hbound := h.bounded e'
    rw [List.length_map] at hle
    omega

/-- **Saving** records that may be written leaves the table tidy, also if a write fails. -/
theorem Tidy.save (h : Tidy k.Record s) {r : k.Record} {ids : List String}
    {writes : List k.Record} (hfit : Fitting s r ids writes) :
    Tidy k.Record (save writes s).2 := by
  induction writes generalizing s with
  | nil => exact h
  | cons e rest ih =>
      rw [Admin.save]
      cases hwrite : (table (E := k.Record)).write s (key e) e with
      | error error => exact h
      | ok s₁ =>
          have hone : Fitting s r ids [e] :=
            ⟨hfit.room, hfit.covers, by simpa using hfit.named e List.mem_cons_self,
              by simpa using hfit.inScope e List.mem_cons_self,
              by simpa using hfit.inRange e List.mem_cons_self⟩
          obtain ⟨htidy, hcovers⟩ := h.write hone hwrite
          exact ih htidy ⟨hfit.room, hcovers,
            fun e' he' => hfit.named e' (List.mem_cons_of_mem e he'),
            fun e' he' => hfit.inScope e' (List.mem_cons_of_mem e he'),
            fun e' he' => hfit.inRange e' (List.mem_cons_of_mem e he')⟩

/-! ## What the plans write -/

variable {c : Config} {type : String} {e r : k.Record} {ids : List String}

/-- A move writes priorities that are in range, whatever they were before. -/
theorem fitting_of_move (hroom : (ids.length : Int) ≤ Priority.largest)
    (hcovers : ∀ a ∈ scope s r, key a ∈ ids) {items : List k.Record}
    (hitems : ∀ b ∈ items, key b ∈ ids ∧ sameScope b r = true) {old new : Int}
    {change : Priority.Reordered k.Record} (hmove : Priority.move items old new = .ok change) :
    Fitting s r ids change.altered := by
  have hmoved := (Priority.moved_of_move hmove).2
  refine ⟨hroom, hcovers, fun a ha => ?_, fun a ha => ?_, fun a ha => ?_⟩
  · obtain ⟨b, hb, p, -, -, rfl⟩ := hmoved.exists_of_mem_altered ha
    rw [LawfulPrioritized.key_withPriority]
    exact (hitems b hb).1
  · obtain ⟨b, hb, p, -, -, rfl⟩ := hmoved.exists_of_mem_altered ha
    exact LawfulKind.sameScope_equivalence.trans (LawfulKind.sameScope_withPriority b p)
      (hitems b hb).2
  · obtain ⟨b, hb, p, hp, hp', rfl⟩ := hmoved.exists_of_mem_altered ha
    rw [LawfulPrioritized.priority_withPriority]
    exact isInt32_of_le_largest hp hp'

/-- The records of a scope keep their identifiers. -/
theorem Tidy.fitting_of_move_scope (h : Tidy k.Record s) {items : List k.Record}
    (hitems : ∀ b ∈ items, key b ∈ (scope s r).map key ∧ sameScope b r = true) {old new : Int}
    {change : Priority.Reordered k.Record} (hmove : Priority.move items old new = .ok change) :
    Fitting s r ((scope s r).map key) change.altered := by
  have hroom := h.bounded r
  rw [← List.length_map key] at hroom
  exact fitting_of_move hroom (fun a ha => List.mem_map_of_mem ha) hitems hmove

theorem Tidy.of_mem_scope (h : Tidy k.Record s) {b : k.Record} (hb : b ∈ scope s r) :
    key b ∈ (scope s r).map key ∧ sameScope b r = true :=
  ⟨List.mem_map_of_mem hb, (h.keyed.mem_scope_iff.1 hb).2⟩

/-- A record is only created where a priority is left for it, or in the place of another one. -/
theorem Tidy.confined_of_planCreate [PatternEngine] (h : Tidy k.Record s) {fresh : String}
    {plan : Plan k.Record} (hplan : planCreate c s fresh type e = .ok plan) :
    ∃ e' r : k.Record, identify s fresh e = .ok e' ∧ prepare c s type e' = .ok r ∧
      Confined s r plan.writes := by
  obtain ⟨e', r, es, change, hidentify, hprepare, hscope, -, hadd, hfind, hwrites⟩ :=
    planCreate_eq_ok_iff.1 hplan
  obtain ⟨-, -, rfl⟩ := scopeOf_eq_ok_iff.1 hscope
  obtain ⟨hresult, hid⟩ := key_of_find?_altered hfind
  rw [Priority.add, sort_scope] at hadd
  refine ⟨e', r, hidentify, hprepare, ?_⟩
  rw [hwrites]
  by_cases htaken : key r ∈ (scope s r).map key
  · refine (h.fitting_of_move_scope (fun b hb => ?_) hadd).confined
    rcases List.mem_append.1 hb with hb | hb
    · exact h.of_mem_scope hb
    · rw [List.mem_singleton.1 hb]
      exact ⟨htaken, sameScope_refl r⟩
  · have hacting := Priority.acting_append (h.keyed.nodup_map_key_scope r) htaken
    have hlt := hacting.lt_of_mem_altered hadd hresult hid
    have hroom : ((((scope s r) ++ [r]).map key).length : Int) ≤ Priority.largest := by
      rw [List.length_map]
      unfold Priority.ofCount at hlt
      have hlength : (scope s r ++ [r]).length = (scope s r).length + 1 := List.length_append
      omega
    have hnamed : ∀ n ∈ ((scope s r) ++ [r]).map key, n = key r ∨ n ∈ (scope s r).map key := by
      simp [or_comm]
    refine ⟨_, fitting_of_move hroom
      (fun a ha => List.mem_map_of_mem (List.mem_append_left _ ha)) (fun b hb => ?_) hadd, hnamed⟩
    refine ⟨List.mem_map_of_mem hb, ?_⟩
    rcases List.mem_append.1 hb with hb | hb
    · exact (h.of_mem_scope hb).2
    · rw [List.mem_singleton.1 hb]
      exact sameScope_refl r

theorem Tidy.confined_of_planUpdate [PatternEngine] (h : Tidy k.Record s)
    (he : Json.IsInt32 (priority e)) {plan : Plan k.Record}
    (hplan : planUpdate c s type e = .ok plan) :
    ∃ r stored : k.Record, prepare c s type e = .ok r ∧
      stored? k.Record s (key r) = some stored ∧ sameScope r stored = true ∧
      Confined s r plan.writes := by
  obtain ⟨r, stored, j, hprepare, -, hstored, hsame, -, hj, hacting, hplan⟩ :=
    h.keyed.move_of_planUpdate hplan
  have hkey : key r ∈ (scope s r).map key := by
    rw [← hacting.same stored hj]
    exact List.mem_map_of_mem (List.mem_of_getElem? hj)
  refine ⟨r, stored, hprepare, hstored, hsame, Fitting.confined ?_⟩
  split at hplan
  · subst hplan
    have hroom := h.bounded r
    rw [← List.length_map key] at hroom
    have hpriority : priority r = priority e := by
      obtain ⟨-, -, rfl⟩ := prepare_eq_ok_iff.1 hprepare
      exact priority_ready c type e
    exact ⟨hroom, fun a ha => List.mem_map_of_mem ha, by simpa using hkey,
      by simpa using sameScope_refl r, by simpa [hpriority] using he⟩
  · obtain ⟨change, hmove, -, -, hwrites⟩ := hplan
    rw [hwrites]
    refine h.fitting_of_move_scope (fun b hb => ?_) hmove
    by_cases hb' : key b = key r
    · rw [Priority.eq_of_key_eq hacting.nodup hb (List.mem_of_getElem? hacting.here) hb']
      exact ⟨hkey, sameScope_refl r⟩
    · exact h.of_mem_scope (hacting.mem_of_mem hb hb')

theorem Tidy.confined_of_planMove (h : Tidy k.Record s) {id : String} {new : Int}
    {altered : List k.Record} (hplan : planMove s id new = .ok altered) :
    ∃ stored : k.Record, stored? k.Record s id = some stored ∧ Confined s stored altered := by
  obtain ⟨stored, es, change, hfind, hscope, hchange, -, rfl⟩ := planMove_eq_ok_iff.1 hplan
  obtain ⟨-, -, rfl⟩ := scopeOf_eq_ok_iff.1 hscope
  obtain ⟨-, -, hstored⟩ := find_eq_ok_iff.1 hfind
  rw [Priority.change, sort_scope] at hchange
  exact ⟨stored, hstored,
    (h.fitting_of_move_scope (fun b hb => h.of_mem_scope hb) hchange).confined⟩

/-- Closing a gap numbers the records of a scope by their places. -/
theorem Tidy.fitting_pack (h : Tidy k.Record s) (r : k.Record) (id : String) :
    Fitting s r ((scope s r).map key) (Priority.pack (scope s r) id) := by
  have hroom := h.bounded r
  rw [← List.length_map key] at hroom
  refine ⟨hroom, fun a ha => List.mem_map_of_mem ha, fun a ha => ?_, fun a ha => ?_,
    fun a ha => ?_⟩
  · obtain ⟨b, hb, p, -, -, rfl⟩ := Priority.exists_of_mem_pack ha
    rw [LawfulPrioritized.key_withPriority]
    exact List.mem_map_of_mem hb
  · obtain ⟨b, hb, p, -, -, rfl⟩ := Priority.exists_of_mem_pack ha
    exact LawfulKind.sameScope_equivalence.trans (LawfulKind.sameScope_withPriority b p)
      (h.of_mem_scope hb).2
  · obtain ⟨b, hb, p, hp, hp', rfl⟩ := Priority.exists_of_mem_pack ha
    have hbound := h.bounded r
    rw [LawfulPrioritized.priority_withPriority]
    exact isInt32_of_le_largest hp (by omega)

theorem Tidy.of_delete (h : Tidy k.Record s) {id : String}
    (hdelete : (table (E := k.Record)).delete s id = .ok s') : Tidy k.Record s' := by
  refine ⟨fun n doc hrow => ?_, fun e => ?_⟩
  · rw [get?_rows_of_delete hdelete] at hrow
    split at hrow
    · cases hrow
    · exact h.encoded n doc hrow
  · have hbound := h.bounded e
    have hle := length_scope_of_delete h.keyed hdelete e
    omega

/-! ## Works -/

/-- The table stays tidy, and all else stays. -/
structure TidyStep (k : Kind) (s s' : Store) : Prop where
  tidy : Tidy k.Record s'
  faults : s'.faults = s.faults
  others : ∀ n, n ≠ k.tableName → s'.table n = s.table n

theorem TidyStep.of_eq (h : Tidy k.Record s) (heq : s' = s) : TidyStep k s s' := by
  subst heq
  exact ⟨h, rfl, fun _ _ => rfl⟩

theorem TidyStep.trans {s'' : Store} (h : TidyStep k s s') (h' : TidyStep k s' s'') :
    TidyStep k s s'' :=
  ⟨h'.tidy, h'.faults.trans h.faults, fun n hn => (h'.others n hn).trans (h.others n hn)⟩

theorem tidyStep_save (h : Tidy k.Record s) (hfaults : s.faults = {}) {writes : List k.Record}
    (hconfined : Confined s r writes) (hsave : save writes s = (.ok (), s')) :
    TidyStep k s s' := by
  obtain ⟨ids, hfit, -⟩ := hconfined
  have htidy := h.save hfit
  have hothers := (save_kept writes s).2
  rw [hsave] at htidy hothers
  exact ⟨htidy, faults_of_save (by rw [hfaults]) hsave, hothers⟩

variable {a : Admin} {d : Desk}

theorem tidyStep_createWork [PatternEngine] (h : Tidy k.Record d.store)
    (hfaults : d.store.faults = {}) :
    TidyStep k d.store (createWork a type e d).2.store := by
  rcases store_createWork_cases (by rw [hfaults]) e with hstore | ⟨plan, hplan, hsave⟩
  · exact .of_eq h hstore
  · obtain ⟨_, _, -, -, hconfined⟩ := h.confined_of_planCreate hplan
    exact tidyStep_save h hfaults hconfined hsave

theorem tidyStep_updateWork [PatternEngine] (h : Tidy k.Record d.store)
    (hfaults : d.store.faults = {}) (he : Json.IsInt32 (priority e)) :
    TidyStep k d.store (updateWork a type e d).2.store := by
  rcases store_updateWork_cases (by rw [hfaults]) e with hstore | ⟨plan, hplan, hsave⟩
  · exact .of_eq h hstore
  · obtain ⟨_, _, -, -, -, hconfined⟩ := h.confined_of_planUpdate he hplan
    exact tidyStep_save h hfaults hconfined hsave

theorem tidyStep_moveWork (h : Tidy k.Record d.store) (hfaults : d.store.faults = {})
    (id : String) (new : Int) : TidyStep k d.store (moveWork k.Record id new d).2.store := by
  rcases store_moveWork_cases (E := k.Record) (by rw [hfaults]) id new with
    hstore | ⟨altered, hplan, hsave⟩
  · exact .of_eq h hstore
  · obtain ⟨_, -, hconfined⟩ := h.confined_of_planMove hplan
    exact tidyStep_save h hfaults hconfined hsave

theorem tidyStep_deleteWork (h : Tidy k.Record d.store) (hfaults : d.store.faults = {})
    (id : String) : TidyStep k d.store (deleteWork k.Record id d).2.store := by
  rcases hrun : deleteWork k.Record id d with ⟨outcome, d'⟩
  cases outcome with
  | error error =>
      exact .of_eq h (store_of_deleteWork_error (h.keyed.not_stranded hfaults id) hrun)
  | ok e =>
      obtain ⟨-, s, es, hdelete, hscope, hsave⟩ := deleteWork_eq_ok hrun
      obtain ⟨-, -, rfl⟩ := scopeOf_eq_ok_iff.1 hscope
      have htidy := h.of_delete hdelete
      have hwithout : TidyStep k d.store s := by
        refine ⟨htidy, ?_, fun n hn => ?_⟩
        · rw [delete_eq_ok (by rw [hfaults])] at hdelete
          cases hdelete
          rfl
        · rw [Store.table_of_delete hdelete]
          exact if_neg hn
      exact hwithout.trans (tidyStep_save htidy (hwithout.faults.trans hfaults)
        (htidy.fitting_pack e id).confined hsave)

theorem tidyStep_importOne [PatternEngine] (h : Tidy k.Record d.store)
    (hfaults : d.store.faults = {}) (he : Json.IsInt32 (priority e)) :
    TidyStep k d.store (importOne a type e d).2.store := by
  rw [importOne]
  split
  · exact .of_eq h rfl
  · exact tidyStep_updateWork h hfaults he
  · exact tidyStep_createWork h hfaults

theorem tidyStep_importWork [PatternEngine] {records : List k.Record} (h : Tidy k.Record d.store)
    (hfaults : d.store.faults = {}) (hrecords : ∀ e ∈ records, Json.IsInt32 (priority e)) :
    TidyStep k d.store (importWork a type records d).2.store := by
  induction records generalizing d with
  | nil => exact .of_eq h rfl
  | cons e rest ih =>
      rw [List.forall_mem_cons] at hrecords
      have hone : TidyStep k d.store (importOne a type e d).2.store :=
        tidyStep_importOne h hfaults hrecords.1
      rw [desk_importWork_cons]
      exact hone.trans (ih hone.tidy (hone.faults.trans hfaults) hrecords.2)

end Kinds

/-! ## Runs -/

/-- The priorities of the records are those that their fields can hold. -/
def Request.IsTyped {E : Type} [RuleKind E] : Request E → Prop
  | .create e _ _ => Json.IsInt32 (priority e)
  | .update e _ _ => Json.IsInt32 (priority e)
  | .importAll records _ _ => ∀ e ∈ records, Json.IsInt32 (priority e)
  | _ => True

/-- Something happens in a world. -/
inductive Transition [PatternEngine] (a : Admin) : World → World → Prop where
  | request {w : World} (k : Kind) (r : Request k.Record) (htyped : r.IsTyped) :
      Transition a w (r.perform a w)
  | createList {w : World} (l : NamedList) (owner : String) :
      Transition a w (createList a l owner w).2
  | deleteList {w : World} (id : String) (type : Option ListType) (owner : String) :
      Transition a w (deleteList a id type owner w).2
  /-- Other tables and the locks change at any time. -/
  | outside {w w' : World}
      (hrows : ∀ k : Kind, rows k.Record w'.desk.store = rows k.Record w.desk.store)
      (hfaults : w'.desk.store.faults = {}) : Transition a w w'

/-- There are no rule records, and operations of the store do not fail. -/
structure Blank (w : World) : Prop where
  empty : ∀ k : Kind, rows k.Record w.desk.store = ∅
  faults : w.desk.store.faults = {}

theorem blank_default : Blank {} :=
  ⟨fun _ => rfl, rfl⟩

/-- No operation of the store fails, and the tables of all kinds are tidy. -/
structure Settled (w : World) : Prop where
  faults : w.desk.store.faults = {}
  tidy : ∀ k : Kind, Tidy k.Record w.desk.store

variable {a : Admin} {w w' : World}

theorem Blank.settled (h : Blank w) : Settled w :=
  ⟨h.faults, fun k => tidy_of_rows_eq_empty (h.empty k)⟩

/-- What a work does to a table, an operation does, or nothing. -/
theorem tidyStep_underLock {α : Type} {k : Kind} (c : Config) (owner : String)
    {work : Desk → Except AdminError α × Desk} (h : Tidy k.Record w.desk.store)
    (hstep : TidyStep k w.desk.synced.store (work w.desk.synced).2.store) :
    TidyStep k w.desk.store (underLock c k.tableName owner work w).2.desk.store :=
  desk_underLock (P := fun d => TidyStep k w.desk.store d.store) c _ owner (.of_eq h rfl)
    ⟨hstep.tidy, hstep.faults, hstep.others⟩

/-- Every request leaves the table of its kind tidy, and the others alone. -/
theorem Settled.tidyStep_perform [PatternEngine] (h : Settled w) {k : Kind} (r : Request k.Record)
    (htyped : r.IsTyped) : TidyStep k w.desk.store (r.perform a w).desk.store := by
  have htidy := h.tidy k
  have hsynced : Tidy k.Record w.desk.synced.store := htidy.of_rows_eq rfl
  have hfaults : w.desk.synced.store.faults = {} := h.faults
  cases r with
  | create e type owner =>
      exact tidyStep_underLock a.config owner htidy (tidyStep_createWork hsynced hfaults)
  | update e type owner =>
      exact tidyStep_underLock a.config owner htidy (tidyStep_updateWork hsynced hfaults htyped)
  | delete id owner =>
      exact tidyStep_underLock a.config owner htidy (tidyStep_deleteWork hsynced hfaults id)
  | changePriority id new owner =>
      rw [Request.perform, Admin.changePriority]
      split
      · exact .of_eq htidy rfl
      · exact tidyStep_underLock a.config owner htidy (tidyStep_moveWork hsynced hfaults id new)
  | importAll records type owner =>
      exact tidyStep_underLock a.config owner htidy (tidyStep_importWork hsynced hfaults htyped)

/-- Requests for lists do not touch the rules. -/
theorem Settled.of_listStep (h : Settled w) (hstep : ListStep w.desk.store w'.desk.store) :
    Settled w' :=
  ⟨hstep.faults.trans h.faults, fun k =>
    (h.tidy k).of_rows_eq (hstep.others k.tableName k.tableName_ne_namedLists)⟩

/-- **Whatever happens leaves a world settled.** -/
theorem Settled.transition [PatternEngine] (h : Settled w) (ht : Transition a w w') :
    Settled w' := by
  cases ht with
  | request k r htyped =>
      have hstep := h.tidyStep_perform (a := a) r htyped
      refine ⟨hstep.faults.trans h.faults, fun k' => ?_⟩
      by_cases hk : k' = k
      · subst hk
        exact hstep.tidy
      · exact (h.tidy k').of_rows_eq
          (hstep.others k'.tableName fun hname => hk (Kind.tableName_injective hname))
  | createList l owner => exact h.of_listStep (listStep_createList h.faults l owner)
  | deleteList id type owner => exact h.of_listStep (listStep_deleteList h.faults id type owner)
  | outside hrows hfaults => exact ⟨hfaults, fun k => (h.tidy k).of_rows_eq (hrows k)⟩

/-- So every world of a run is settled. -/
theorem Settled.run [PatternEngine] (h : Settled w)
    (hrun : Relation.ReflTransGen (Transition a) w w') :
    Settled w' := by
  induction hrun with
  | refl => exact h
  | tail _ ht ih => exact ih.transition ht

/-! ## Runs with documents -/

/-- A priority that was read from a document is one that its field can hold. -/
theorem Request.IsDecoded.isTyped {k : Kind} {r : Request k.Record} (h : r.IsDecoded) :
    r.IsTyped := by
  cases r with
  | create e type owner => exact (FromJson.storable h).2
  | update e type owner => exact (FromJson.storable h).2
  | importAll records type owner => exact fun e he => (h e he).storable.2
  | delete id owner => trivial
  | changePriority id new owner => trivial

/-- **Whatever requests with documents lead to**, a run leads to from a world without rules. -/
theorem exists_run_of_served [PatternEngine] (h : Served a w) :
    ∃ w₀, Blank w₀ ∧ Relation.ReflTransGen (Transition a) w₀ w := by
  induction h with
  | start hempty hlists hfaults => exact ⟨_, ⟨hempty, hfaults⟩, .refl⟩
  | request _ k r hdecoded hfresh ih =>
      obtain ⟨w₀, hblank, hrun⟩ := ih
      exact ⟨w₀, hblank, hrun.tail (.request k r hdecoded.isTyped)⟩
  | createList _ l owner ih =>
      obtain ⟨w₀, hblank, hrun⟩ := ih
      exact ⟨w₀, hblank, hrun.tail (.createList l owner)⟩
  | deleteList _ id type owner ih =>
      obtain ⟨w₀, hblank, hrun⟩ := ih
      exact ⟨w₀, hblank, hrun.tail (.deleteList id type owner)⟩
  | outside _ hrows hlists hfaults ih =>
      obtain ⟨w₀, hblank, hrun⟩ := ih
      exact ⟨w₀, hblank, hrun.tail (.outside hrows hfaults)⟩

end Rulebook.Admin
