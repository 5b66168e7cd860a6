import Rulebook.Proofs.Admin.Admission
import Rulebook.Proofs.Admin.Imports
import Rulebook.Proofs.Admin.Served
import Rulebook.Proofs.Admin.Stored

/-!
# Rulebook.Proofs.Admin.Restoring

Records that are listed can be imported again.

What was stored has been prepared, and a prepared record passes its checks again and is left as it
is (`Prepared.prepare_eq`); only the features that it names may have gone in the meantime.  A list
of stored records is sorted by priority, and each scope in it is dense.  So when it is imported:

* where there are no records, each finds its scope filled up to its own priority, is put behind it
  and moves none of the others (`Export.importOne_eq`);
* where they came from, each replaces itself (`Orderly.importOne_eq`).

`restored_of_reachable` puts this together for every state of a run.
-/

namespace Rulebook

open Prioritized RuleKind

/-- Every feature that the record names is there, and belongs to its application type.  Only feature
rules name any. -/
def Kind.HasFeatures (s : Store) : (k : Kind) → k.Record → Prop
  | .featureRule, (r : FeatureRule) => ∀ id ∈ r.featureIds, ∃ feature : Feature,
    ((s.table features.name).get? id).bind features.decode = some feature ∧
      feature.applicationType = r.applicationType
  | _, _ => True

theorem Kind.HasFeatures.of_table_eq {s s' : Store} {k : Kind} {e : k.Record}
    (h : k.HasFeatures s e) (htable : s'.table features.name = s.table features.name) :
    k.HasFeatures s' e := by
  cases k with
  | firmwareRule => trivial
  | template => trivial
  | featureRule =>
      intro id hid
      rw [htable]
      exact h id hid

namespace Admin

variable {k : Kind} {c : Config} {s : Store}

/-! ## Records that pass their checks again -/

/-- What the kind asked for when the record was prepared, it would not ask for in vain again. -/
theorem Prepared.suits [PatternEngine] {e : k.Record} (h : Prepared c e)
    (hfeatures : k.HasFeatures s e) :
    k.Suits ⟨s, c, applicationType e⟩ e := by
  obtain ⟨s₀, type, e₀, r, p, hprepare, rfl⟩ := h
  obtain ⟨-, hrecord, rfl⟩ := prepare_eq_ok_iff.1 hprepare
  obtain ⟨-, -, hcheck⟩ := checkRecord_eq_ok_iff.1 hrecord
  cases k with
  | firmwareRule => trivial
  | template =>
      have hproperties := checkProperties_eq_ok_iff.1 hcheck
      exact hproperties
  | featureRule =>
      obtain ⟨hcount, -, -, hranges⟩ := checkFeatureRule_eq_ok_iff.1 hcheck
      obtain ⟨hnamed, hfew⟩ := checkCount_eq_ok_iff.1 hcount
      obtain ⟨ranges, hread, hvalid⟩ := checkRanges_eq_ok_iff.1 hranges
      exact ⟨hnamed, hfew, hfeatures, rfl, ranges, Validation.percentRanges_eq_ok_iff.1 hread,
        hvalid⟩

/-- A record that has its application type and is in normal form is stored as it is. -/
theorem Canonical.ready_eq [PatternEngine] {e : k.Record} (h : Canonical c e) (type : String) :
    ready c type e = e := by
  have htyped : withType c type e = e := if_neg (by simp [h.typed])
  rw [ready, htyped, normalized, h.normal, LawfulKind.withRule_rule]

/-- **A prepared record is prepared already**: it passes its checks again, and nothing is left to be
done with it. -/
theorem Prepared.prepare_eq [PatternEngine] {e : k.Record} (h : Prepared c e)
    (hreads : s.faults.reads = false) (hfeatures : k.HasFeatures s e) :
    prepare c s (applicationType e) e = .ok e := by
  have hcanonical := h.canonical k.upperAscii_of_mem_allowed
  have htyped : withType c (applicationType e) e = e := if_neg (by simp [hcanonical.typed])
  have hready := hcanonical.ready_eq (applicationType e)
  have hrequest : requestType c (applicationType e) = applicationType e := by
    rw [requestType, Text.firstNonBlank, if_neg (by simp [hcanonical.typed])]
  refine prepare_eq_ok_iff.2 ⟨?_, ?_, hready.symm⟩
  · rw [htyped]
    exact checkApplicationType_eq_ok_iff.2 ⟨hcanonical.typed, hcanonical.known⟩
  · rw [hready, checkRecord_eq_ok_iff, hrequest, Kind.check_eq_ok_iff hreads]
    exact ⟨hcanonical.valid, hcanonical.named, h.suits hfeatures⟩

/-! ## Listing the records of an application type -/

section Selection

variable {E : Type} [RuleKind E] {s : Store}

/-- The records of an application type, by priority. -/
def selection (s : Store) (type : String) : List E :=
  Priority.sort ((records E s).filter fun r => applicationType r == type)

theorem Keyed.list_eq (h : Keyed E s) (hreads : s.faults.reads = false) (type : String) :
    list (E := E) s type = .ok (selection s type) := by
  have hall : all (E := E) s = .ok (records E s) := all_eq_ok_iff.2 ⟨hreads, h.isSome_decode, rfl⟩
  rw [list, hall]
  rfl

theorem Keyed.mem_selection_iff (h : Keyed E s) {type : String} {e : E} :
    e ∈ selection s type ↔ stored? E s (key e) = some e ∧ applicationType e = type := by
  rw [selection, Priority.mem_sort, List.mem_filter, h.mem_records_iff, beq_iff_eq]

theorem Keyed.nodup_map_key_selection (h : Keyed E s) (type : String) :
    ((selection (E := E) s type).map key).Nodup :=
  Priority.nodup_map_key_sort (h.nodup_map_key_filter _)

end Selection

/-- Records of one scope are of one application type. -/
theorem applicationType_eq_of_sameScope {e e' : k.Record} (h : sameScope e e' = true) :
    applicationType e = applicationType e' := by
  cases k with
  | firmwareRule => exact beq_iff_eq.1 h
  | template => exact beq_iff_eq.1 (Bool.and_eq_true_iff.1 h).1
  | featureRule => exact beq_iff_eq.1 h

/-- The scope of a record is what is listed for its application type and belongs to the scope. -/
theorem Keyed.filter_selection (h : Keyed k.Record s) (e : k.Record) :
    (selection s (applicationType e)).filter (fun r => sameScope r e) = scope s e := by
  have hsorted : ((selection s (applicationType e)).filter fun r : k.Record =>
      sameScope r e).Pairwise fun a b => Priority.precedes a b = true :=
    (Priority.pairwise_sort _).filter _
  rw [← Priority.sort_eq_self hsorted]
  refine (h.scope_eq_sort ((h.nodup_map_key_selection _).sublist (List.filter_sublist.map key))
    fun r => ?_).symm
  rw [List.mem_filter, h.mem_selection_iff, and_assoc]
  exact and_congr_right fun _ =>
    ⟨fun hr => hr.2, fun hr => ⟨applicationType_eq_of_sameScope hr, hr⟩⟩

/-- What listing the records of an application type gives in an orderly and vetted table: they are
prepared, sorted and dense in each scope, and differ from each other. -/
structure Export [PatternEngine] (c : Config) (type : String) (es : List k.Record) : Prop where
  prepared : ∀ e ∈ es, Prepared c e
  storable : ∀ e ∈ es, Storable e
  named : ∀ e ∈ es, Text.isBlank (key e) = false
  typed : ∀ e ∈ es, applicationType e = type
  nodup : (es.map key).Nodup
  sorted : es.Pairwise fun a b => Priority.precedes a b = true
  distinct : ∀ e ∈ es, ∀ o ∈ es, key o ≠ key e → sameScope o e = true → Distinct o e
  dense : ∀ e ∈ es, Priority.Dense (es.filter fun r => sameScope r e)

/-- No record comes twice. -/
theorem Export.key_not_mem [PatternEngine] {type : String} {done rest : List k.Record}
    {e : k.Record} (h : Export c type (done ++ e :: rest)) : key e ∉ done.map key := by
  have hnodup := h.nodup
  rw [List.map_append, List.map_cons, List.nodup_append] at hnodup
  exact fun hmem => hnodup.2.2 _ hmem _ List.mem_cons_self rfl

theorem Orderly.export_selection [PatternEngine] (h : Orderly k.Record s)
    (hvetted : Vetted c k.Record s) (type : String) :
    Export (k := k) c type (selection s type) := by
  have hkeyed := h.documented.keyed
  have hmem : ∀ e ∈ selection (E := k.Record) s type,
      stored? k.Record s (key e) = some e ∧ applicationType e = type :=
    fun e he => hkeyed.mem_selection_iff.1 he
  refine ⟨fun e he => hvetted.prepared (hmem e he).1,
    fun e he => (h.documented.of_stored? (hmem e he).1).1,
    fun e he => (h.documented.of_stored? (hmem e he).1).2.2, fun e he => (hmem e he).2,
    hkeyed.nodup_map_key_selection type, Priority.pairwise_sort _,
    fun e he o ho hne hsame => hvetted.distinct (hmem o ho).1 (hmem e he).1 hne hsame,
    fun e he => ?_⟩
  have hscope := hkeyed.filter_selection e
  rw [(hmem e he).2] at hscope
  rw [hscope]
  exact h.dense e

/-! ## Records that are accepted as they are -/

section Accepted

variable {E : Type} [RuleKind E] {s : Store} {a : Admin} {type : String}

/-- An import reports all of its records as imported if each of them is accepted as it is once the
ones before it are in.  What holds of the desk in between is carried along. -/
theorem importWork_of_accepted [PatternEngine] {I : List E → Desk → Prop} {es : List E}
    (hstep : ∀ done e rest d, es = done ++ e :: rest → I done d →
      ∃ d', importOne a type e d = (.ok e, d') ∧ I (done ++ [e]) d') {d : Desk} (h : I [] d) :
    ∃ d', importWork a type es d = (⟨es.map key, []⟩, d') ∧ I es d' := by
  have hrun : ∀ (rest done : List E) (d : Desk), es = done ++ rest → I done d →
      ∃ d', importWork a type rest d = (⟨rest.map key, []⟩, d') ∧ I es d' := by
    intro rest
    induction rest with
    | nil =>
        intro done d hes h
        rw [List.append_nil] at hes
        exact ⟨d, rfl, hes ▸ h⟩
    | cons e rest ih =>
        intro done d hes h
        obtain ⟨d₁, hone, h₁⟩ := hstep done e rest d hes h
        obtain ⟨d', hrest, h'⟩ := ih (done ++ [e]) d₁ (by rw [hes, List.append_cons]) h₁
        refine ⟨d', ?_, h'⟩
        rw [importWork, hone]
        dsimp only
        rw [hrest]
        rfl
  exact hrun es [] d rfl h

theorem isStored_eq {id : String} (hblank : Text.isBlank id = false) {found : Option E}
    (hget : get? s id = .ok found) : isStored E s id = .ok found.isSome := by
  rw [isStored, if_neg (by simp [hblank]), hget]
  rfl

theorem save_singleton (hwrites : s.faults.writesLeft = none) (e : E) :
    save [e] s = (.ok (), s.insert (table (E := E)).name (key e) (table.encode e)) := by
  rw [save, Table.write, Store.write, hwrites]
  rfl

theorem Canonical.checkDuplicates_eq_ok [PatternEngine] {c : Config} {e : E} [LawfulKind E]
    (h : Canonical c e) {es : List E} (hdistinct : ∀ o ∈ es, key o ≠ key e → Distinct o e) :
    checkDuplicates e es = .ok () := by
  refine forM_eq_ok_iff.2 fun o ho => (checkDistinct_eq_ok_iff h.normal).2 ?_
  by_cases hkey : key o = key e
  · exact .inl hkey
  · exact .inr (hdistinct o ho hkey)

/-- A work that is planned to write one record as it is. -/
theorem carryOut_singleton (hwrites : s.faults.writesLeft = none) (e : E) :
    (⟨e, [e]⟩ : Plan E).carryOut s =
      (.ok e, s.insert (table (E := E)).name (key e) (table.encode e)) := by
  rw [Plan.carryOut, save_singleton hwrites]

end Accepted

/-! ## Into an empty table -/

/-- A record stands in its table as its document. -/
theorem Documented.get?_rows (h : Documented k.Record s) {id : String} {e : k.Record}
    (he : stored? k.Record s id = some e) :
    (rows k.Record s).get? id = some (table.encode e) := by
  obtain ⟨doc, hrow, hdecode⟩ := stored?_eq_some_iff.1 he
  obtain ⟨e', rfl, hstorable, -⟩ := h id doc hrow
  rw [hstorable.decode_encode] at hdecode
  cases hdecode
  exact hrow

/-- The table holds these records and nothing else, and all else is as in the store `v`. -/
structure Holding (v : Store) (es : List k.Record) (s : Store) : Prop where
  faults : s.faults = {}
  held : ∀ e ∈ es, (rows k.Record s).get? (key e) = some (table.encode e)
  only : ∀ id, id ∉ es.map key → (rows k.Record s).get? id = none
  others : ∀ n, n ≠ k.tableName → s.table n = v.table n

namespace Holding

variable {v : Store} {es : List k.Record}

theorem keyed (h : Holding v es s) (hstorable : ∀ e ∈ es, Storable e) : Keyed k.Record s := by
  intro id doc hrow
  by_cases hid : id ∈ es.map key
  · obtain ⟨e, he, rfl⟩ := List.mem_map.1 hid
    rw [h.held e he] at hrow
    cases hrow
    exact ⟨e, (hstorable e he).decode_encode, rfl⟩
  · rw [h.only id hid] at hrow
    cases hrow

theorem stored?_iff (h : Holding v es s) (hstorable : ∀ e ∈ es, Storable e) {e : k.Record} :
    stored? k.Record s (key e) = some e ↔ e ∈ es := by
  constructor
  · intro hstored
    obtain ⟨doc, hrow, hdecode⟩ := stored?_eq_some_iff.1 hstored
    by_cases hid : key e ∈ es.map key
    · obtain ⟨e', he', hkey⟩ := List.mem_map.1 hid
      rw [← hkey, h.held e' he'] at hrow
      cases hrow
      rw [(hstorable e' he').decode_encode] at hdecode
      cases hdecode
      exact he'
    · rw [h.only _ hid] at hrow
      cases hrow
  · intro he
    exact stored?_eq_some_iff.2 ⟨_, h.held e he, (hstorable e he).decode_encode⟩

/-- A scope of the table is what the records have of it. -/
theorem scope_eq (h : Holding v es s) (hstorable : ∀ e ∈ es, Storable e)
    (hnodup : (es.map key).Nodup) (hsorted : es.Pairwise fun a b => Priority.precedes a b = true)
    (e : k.Record) : scope s e = es.filter fun r => sameScope r e := by
  rw [← Priority.sort_eq_self (hsorted.filter fun r => sameScope r e)]
  refine (h.keyed hstorable).scope_eq_sort (hnodup.sublist (List.filter_sublist.map key))
    fun r => ?_
  rw [List.mem_filter, h.stored?_iff hstorable]

theorem insert (h : Holding v es s) {e : k.Record} (hnew : key e ∉ es.map key) :
    Holding v (es ++ [e]) (s.insert k.tableName (key e) (table.encode e)) := by
  have hrows : ∀ id, (rows k.Record (s.insert k.tableName (key e) (table.encode e))).get? id =
      if id = key e then some (table.encode e) else (rows k.Record s).get? id := by
    intro id
    rw [rows, ← Kind.tableName, Store.table_insert, if_pos rfl, SortedMap.get?_insert]
    rfl
  refine ⟨h.faults, fun o ho => ?_, fun id hid => ?_, fun n hn => ?_⟩
  · rw [hrows]
    rcases List.mem_append.1 ho with ho | ho
    · have hne : key o ≠ key e := fun heq => hnew (heq ▸ List.mem_map_of_mem ho)
      rw [if_neg hne, h.held o ho]
    · rw [List.mem_singleton.1 ho, if_pos rfl]
  · rw [List.map_append, List.map_singleton, List.mem_append, List.mem_singleton, not_or] at hid
    rw [hrows, if_neg hid.2, h.only id hid.1]
  · rw [Store.table_insert, if_neg hn, h.others n hn]

/-- The documents of the table are those that the records of the application type have where they
were listed. -/
theorem get?_iff {u : Store} {type : String} (h : Holding (k := k) v (selection u type) s)
    (hu : Documented k.Record u) {id : String} {doc : Json} :
    (rows k.Record s).get? id = some doc ↔ (rows k.Record u).get? id = some doc ∧
      ∃ e : k.Record, table.decode doc = some e ∧ applicationType e = type := by
  constructor
  · intro hrow
    by_cases hid : id ∈ (selection (E := k.Record) u type).map key
    · obtain ⟨e, he, rfl⟩ := List.mem_map.1 hid
      obtain ⟨hstored, htype⟩ := hu.keyed.mem_selection_iff.1 he
      rw [h.held e he] at hrow
      cases hrow
      exact ⟨hu.get?_rows hstored, e, (hu.of_stored? hstored).1.decode_encode, htype⟩
    · rw [h.only id hid] at hrow
      cases hrow
  · rintro ⟨hrow, e, hdecode, htype⟩
    have hstored : stored? k.Record u id = some e := stored?_eq_some_iff.2 ⟨doc, hrow, hdecode⟩
    obtain rfl := hu.keyed.key_eq hstored
    rw [hu.get?_rows hstored] at hrow
    cases hrow
    exact h.held e (hu.keyed.mem_selection_iff.2 ⟨hstored, htype⟩)

end Holding

section Restore

variable [PatternEngine] {b : Admin} {type : String} {done rest : List k.Record} {e : k.Record}
  {v : Store}

/-- Behind the records that go before it, a record of an export stands at the priority that it has
already, so creating it writes it as it is and nothing else. -/
theorem Export.planCreate_eq (h : Export c type (done ++ e :: rest)) (hd : Holding v done s)
    (hfeatures : k.HasFeatures v e) (fresh : String) :
    planCreate c s fresh type e = .ok ⟨e, [e]⟩ := by
  have he : e ∈ done ++ e :: rest := List.mem_append_right done List.mem_cons_self
  have hdone : ∀ o ∈ done, o ∈ done ++ e :: rest := fun o ho => List.mem_append_left _ ho
  have hstorable : ∀ o ∈ done, Storable o := fun o ho => h.storable o (hdone o ho)
  have hbefore : done.Sublist (done ++ e :: rest) := List.sublist_append_left _ _
  have hkeyed := hd.keyed hstorable
  have hreads : s.faults.reads = false := by rw [hd.faults]
  have hscope : scope s e = done.filter fun r => sameScope r e :=
    hd.scope_eq hstorable (h.nodup.sublist (hbefore.map key)) (h.sorted.sublist hbefore) e
  have hnone := hd.only (key e) h.key_not_mem
  have hidentify : identify s fresh e = .ok e :=
    identify_eq_ok_iff.2 (.inr ⟨h.named e he,
      get?_eq_ok_iff.2 ⟨hreads, hkeyed.stored?_eq_none_iff.2 hnone, fun _ => hnone⟩, rfl⟩)
  have hprepare : prepare c s type e = .ok e :=
    h.typed e he ▸ (h.prepared e he).prepare_eq hreads
      (hfeatures.of_table_eq (hd.others _ (Ne.symm k.tableName_ne_features)))
  have hdistinct : checkDuplicates e (scope s e) = .ok () := by
    refine ((h.prepared e he).canonical k.upperAscii_of_mem_allowed).checkDuplicates_eq_ok
      fun o ho hne => ?_
    rw [hscope, List.mem_filter] at ho
    exact h.distinct e he o (hdone o ho.1) hne ho.2
  -- the records of its scope that are in already are those that stand before it in the export
  have hpriority : priority e = ((scope s e).length : Int) + 1 := by
    refine h.dense e he _ e ?_
    rw [List.filter_append, List.filter_cons, if_pos (sameScope_refl e), hscope,
      List.getElem?_append_right (Nat.le_refl _), Nat.sub_self, List.getElem?_cons_zero]
  have hadd := Priority.add_eq_append (sort_scope s e) hpriority (h.storable e he).2.2
  exact planCreate_eq_ok_iff.2 ⟨e, e, scope s e, _, hidentify, hprepare, scopeOf_eq hkeyed hreads e,
    hdistinct, hadd, by simp, rfl⟩

/-- **A step of restoring**: behind the records that go before it, a record of an export is created
as it is. -/
theorem Export.importOne_eq (h : Export b.config type (done ++ e :: rest)) {d : Desk}
    (hd : Holding v done d.store) (hfeatures : k.HasFeatures v e) :
    ∃ d', importOne b type e d = (.ok e, d') ∧ Holding v (done ++ [e]) d'.store := by
  have he : e ∈ done ++ e :: rest := List.mem_append_right done List.mem_cons_self
  have hblank := h.named e he
  have hnone := hd.only (key e) h.key_not_mem
  have hget : get? (E := k.Record) d.store (key e) = .ok none :=
    get?_eq_ok_iff.2 ⟨by rw [hd.faults], by rw [stored?, hnone]; rfl, fun _ => hnone⟩
  refine ⟨{ d with store := d.store.insert k.tableName (key e) (table.encode e) }, ?_,
    hd.insert h.key_not_mem⟩
  rw [importOne, isStored_eq hblank hget]
  dsimp only [Option.isSome_none]
  rw [createWork, h.planCreate_eq hd hfeatures, if_neg (by simp [hblank])]
  dsimp only
  rw [Desk.after, carryOut_singleton (by rw [hd.faults])]
  rfl

/-- An export is imported as it is into a store that has no records of the kind. -/
theorem Export.importWork_eq {es : List k.Record} (h : Export b.config type es) {d : Desk}
    (hempty : rows k.Record d.store = ∅) (hfaults : d.store.faults = {})
    (hfeatures : ∀ e ∈ es, k.HasFeatures d.store e) :
    ∃ d', importWork b type es d = (⟨es.map key, []⟩, d') ∧ Holding d.store es d'.store := by
  have hstart : Holding (k := k) d.store [] d.store :=
    ⟨hfaults, nofun, fun id _ => by rw [hempty]; rfl, fun _ _ => rfl⟩
  refine importWork_of_accepted (I := fun done d' => Holding d.store done d'.store)
    (fun done e rest d' hes hd => ?_) hstart
  have he : e ∈ es := hes ▸ List.mem_append_right done List.mem_cons_self
  rw [hes] at h
  exact h.importOne_eq hd (hfeatures e he)

end Restore

/-! ## Into the table that they came from -/

section Again

variable {a : Admin} {type : String} {e : k.Record}

/-- To write a document where it stands already changes no table. -/
theorem table_insert_of_get? {name id : String} {doc : Json}
    (h : (s.table name).get? id = some doc) (n : String) :
    (s.insert name id doc).table n = s.table n := by
  rw [Store.table_insert]
  split
  · next hn =>
      subst hn
      refine SortedMap.ext_get? fun m => ?_
      rw [SortedMap.get?_insert]
      split
      · next hm => rw [hm, h]
      · rfl
  · rfl

/-- A stored record replaces itself: its priority is the one that is stored, so it alone is
written. -/
theorem Orderly.planUpdate_eq [PatternEngine] (h : Orderly k.Record s) (hfaults : s.faults = {})
    (hvetted : Vetted c k.Record s) (he : stored? k.Record s (key e) = some e)
    (hfeatures : k.HasFeatures s e) :
    planUpdate c s (applicationType e) e = .ok ⟨e, [e]⟩ := by
  have hkeyed := h.documented.keyed
  have hreads : s.faults.reads = false := by rw [hfaults]
  have hprepared := hvetted.prepared he
  have hfind : find s (key e) = .ok e :=
    find_eq_ok_iff.2 ⟨(h.documented.of_stored? he).2.2, hreads, he⟩
  have hdistinct : checkDuplicates e (scope s e) = .ok () := by
    refine (hprepared.canonical k.upperAscii_of_mem_allowed).checkDuplicates_eq_ok
      fun o ho hne => ?_
    obtain ⟨hstored, hsame⟩ := hkeyed.mem_scope_iff.1 ho
    exact hvetted.distinct hstored he hne hsame
  refine planUpdate_eq_ok_iff.2 ⟨e, e, scope s e, hfind, hprepared.prepare_eq hreads hfeatures,
    Kind.changedField?_eq_none_iff.2 (sameScope_refl e), scopeOf_eq hkeyed hreads e, hdistinct, ?_⟩
  rw [if_pos rfl]

/-- **A step of restoring in place**: a stored record is updated to what it is. -/
theorem Orderly.importOne_eq [PatternEngine] {d : Desk} (h : Orderly k.Record d.store)
    (hfaults : d.store.faults = {}) (hvetted : Vetted a.config k.Record d.store)
    (he : stored? k.Record d.store (key e) = some e) (hfeatures : k.HasFeatures d.store e) :
    ∃ d', importOne a (applicationType e) e d = (.ok e, d') ∧ d'.store.faults = {} ∧
      ∀ n, d'.store.table n = d.store.table n := by
  have hblank := (h.documented.of_stored? he).2.2
  have hget : get? d.store (key e) = .ok (some e) :=
    get?_eq_ok_iff.2 ⟨by rw [hfaults], he, nofun⟩
  refine ⟨{ d with store := d.store.insert k.tableName (key e) (table.encode e) }, ?_, hfaults,
    table_insert_of_get? (h.documented.get?_rows he)⟩
  rw [importOne, isStored_eq hblank hget]
  dsimp only [Option.isSome_some]
  rw [updateWork, h.planUpdate_eq hfaults hvetted he hfeatures]
  dsimp only
  rw [Desk.after, carryOut_singleton (by rw [hfaults])]
  rfl

/-- What is listed of a table is imported into the same table as it is, and changes nothing. -/
theorem Orderly.importWork_selection [PatternEngine] {d : Desk} (h : Orderly k.Record d.store)
    (hfaults : d.store.faults = {}) (hvetted : Vetted a.config k.Record d.store) (type : String)
    (hfeatures : ∀ e ∈ selection d.store type, k.HasFeatures d.store e) :
    ∃ d', importWork a type (selection (E := k.Record) d.store type) d =
        (⟨(selection (E := k.Record) d.store type).map key, []⟩, d') ∧
      ∀ n, d'.store.table n = d.store.table n := by
  have hstep : ∀ (done : List k.Record) (e : k.Record) (rest : List k.Record) (d' : Desk),
      selection d.store type = done ++ e :: rest →
      (d'.store.faults = {} ∧ ∀ n, d'.store.table n = d.store.table n) →
      ∃ d₁, importOne a type e d' = (.ok e, d₁) ∧
        d₁.store.faults = {} ∧ ∀ n, d₁.store.table n = d.store.table n := by
    rintro done e rest d' hes ⟨hfaults', htables⟩
    have he : e ∈ selection d.store type := hes ▸ List.mem_append_right done List.mem_cons_self
    obtain ⟨hstored, rfl⟩ := h.documented.keyed.mem_selection_iff.1 he
    have hrows : rows k.Record d'.store = rows k.Record d.store := htables k.tableName
    have hstored' : stored? k.Record d'.store (key e) = some e := by rwa [stored?, hrows]
    obtain ⟨d₁, hone, hfaults₁, htables₁⟩ := (h.of_rows_eq hrows).importOne_eq hfaults'
      (hvetted.of_rows_eq hrows) hstored' ((hfeatures e he).of_table_eq (htables _))
    exact ⟨d₁, hone, hfaults₁, fun n => (htables₁ n).trans (htables n)⟩
  obtain ⟨d', hrun, -, htables⟩ := importWork_of_accepted hstep ⟨hfaults, fun _ => rfl⟩
  exact ⟨d', hrun, htables⟩

end Again

/-! ## Runs -/

/-- **Export, then import**: in every state that requests can lead to, the records of an application
type can be listed; and where the lock of their table is free and the features that they name are
there, they are all imported as they are, be it into a store without records of the kind, which then
has just these documents, or into the store that they came from, in which nothing changes. -/
theorem restored_of_reachable [PatternEngine] {a : Admin} {w : World} (h : Reachable a w) (k : Kind)
    (type : String) :
    ∃ es : List k.Record, list w.desk.store type = .ok es ∧
      (∀ (b : Admin) (v : World) (owner : String), b.config = a.config →
        v.desk.store.table k.tableName = ∅ → v.desk.store.faults = {} →
        (v.lock b.config k.tableName).owner = none →
        (∀ e ∈ es, k.HasFeatures v.desk.store e) →
        ∃ v', importAll b es type owner v = (.ok ⟨es.map key, []⟩, v') ∧
          (∀ id doc, (v'.desk.store.table k.tableName).get? id = some doc ↔
            (w.desk.store.table k.tableName).get? id = some doc ∧
              ∃ e : k.Record, table.decode doc = some e ∧ applicationType e = type) ∧
          ∀ n, n ≠ k.tableName → v'.desk.store.table n = v.desk.store.table n) ∧
      ∀ owner : String, (w.lock a.config k.tableName).owner = none →
        (∀ e ∈ es, k.HasFeatures w.desk.store e) →
        ∃ w', importAll a es type owner w = (.ok ⟨es.map key, []⟩, w') ∧
          ∀ n, w'.desk.store.table n = w.desk.store.table n := by
  have hinv := inv_of_reachable h
  have horderly := hinv.orderly k
  have hvetted := vetted_of_reachable h k
  have hkeyed := horderly.documented.keyed
  refine ⟨selection w.desk.store type, hkeyed.list_eq (by rw [hinv.faults]) type, ?_, ?_⟩
  · intro b v owner hconfig hempty hfaults hfree hfeatures
    have hexport : Export (k := k) b.config type (selection w.desk.store type) :=
      hconfig ▸ horderly.export_selection hvetted type
    obtain ⟨d', hwork, hholding⟩ := hexport.importWork_eq (d := v.desk.synced) hempty hfaults
      fun e he => (hfeatures e he).of_table_eq rfl
    obtain ⟨v', hrun, hdesk⟩ := importAll_of_free b type owner
      (selection (E := k.Record) w.desk.store type) hfree (by rw [hfaults])
    rw [hwork] at hrun hdesk
    refine ⟨v', hrun, fun id doc => ?_, fun n hn => ?_⟩
    · rw [hdesk]
      exact hholding.get?_iff horderly.documented
    · rw [hdesk]
      exact hholding.others n hn
  · intro owner hfree hfeatures
    obtain ⟨d', hwork, htables⟩ := Orderly.importWork_selection (a := a)
      (d := w.desk.synced) (horderly.of_rows_eq rfl) hinv.faults (hvetted.of_rows_eq rfl) type
      fun e he => (hfeatures e he).of_table_eq rfl
    obtain ⟨w', hrun, hdesk⟩ := importAll_of_free a type owner
      (selection (E := k.Record) w.desk.store type) hfree (by rw [hinv.faults])
    have hsynced : selection (E := k.Record) w.desk.synced.store type =
      selection w.desk.store type := rfl
    rw [hsynced] at hwork
    rw [hwork] at hrun hdesk
    refine ⟨w', hrun, fun n => ?_⟩
    rw [hdesk]
    exact htables n

/-! ## Templates of two actions, and a feature rule -/

/-- A template for the devices that say something under its own identifier. -/
def plainTemplate (id type : String) (action : TemplateAction) (priority : Int) : Template :=
  { id, action, applicationType := type, priority
    rule := { condition := some ({ name := id } : FreeArg).present } }

theorem fromJson_plainTemplate (id type : String) (action : TemplateAction) {priority : Int}
    (hpriority : Json.IsInt32 priority) : FromJson (plainTemplate id type action priority) := by
  refine ⟨(plainTemplate id type action priority).toJson, ?_, Template.ofJson?_toJson hpriority⟩
  simp [plainTemplate, Template.toJson, TemplateAction.toJson, Rule.toJson, Condition.toJson,
    FreeArg.toJson, FreeArg.present, FreeArgType.toJson, Json.optionalMember, Json.IsProper,
    Json.MembersProper, Json.ofStrings]
  obtain ⟨hlow, hhigh⟩ := hpriority
  exact ⟨trivial, trivial, by omega, by omega⟩

/-- Requests for templates of two actions in turn, with one of another application type. -/
def stencils : List (Request Kind.template.Record) :=
  [.create (plainTemplate "İ" "stb" .rule 1) "stb" "admin",
    .create (plainTemplate "İİ" "stb" .blockingFilter 1) "stb" "admin",
    .create (plainTemplate "İİİ" "stb" .rule 1) "stb" "admin",
    .create (plainTemplate "İİİİ" "stb" .blockingFilter 5) "stb" "admin",
    .create (plainTemplate "İİİİİ" "rdkcloud" .rule 1) "rdkcloud" "admin"]

/-- The world after these requests. -/
def stenciled [PatternEngine] (a : Admin) : World :=
  Request.performEach a stencils {}

theorem reachable_stenciled [PatternEngine] (a : Admin) : Reachable a (stenciled a) := by
  have hstart : Reachable a {} := .start (fun _ => rfl) rfl
  refine hstart.performEach fun r hr => ?_
  simp only [stencils, List.mem_cons, List.not_mem_nil, or_false] at hr
  rcases hr with rfl | rfl | rfl | rfl | rfl
  all_goals
    exact ⟨fromJson_plainTemplate _ _ _ (by decide), show Text.isBlank _ = false by decide +kernel⟩

/-- Four templates, whose two scopes take turns in the list, are moved to an empty world and to the
one that they came from; and a feature rule is moved to a world that has its feature and no rules,
and back. -/
theorem restored_stenciled :
    (∃ (es : List Kind.template.Record) (v' w' : World),
      list (stenciled { newId := toString }).desk.store "stb" = .ok es ∧
      es.map (fun t : Template => (t.action, t.priority)) =
        [(.blockingFilter, 1), (.rule, 1), (.rule, 2), (.blockingFilter, 2)] ∧
      importAll { newId := toString } es "stb" "admin" {} =
        (.ok ⟨["İİ", "İİİ", "İ", "İİİİ"], []⟩, v') ∧
      (∀ id doc, (v'.desk.store.table Kind.template.tableName).get? id = some doc ↔
        ((stenciled { newId := toString }).desk.store.table Kind.template.tableName).get? id =
            some doc ∧
          ∃ e : Kind.template.Record, table.decode doc = some e ∧ applicationType e = "stb") ∧
      importAll { newId := toString } es "stb" "admin" (stenciled { newId := toString }) =
        (.ok ⟨["İİ", "İİİ", "İ", "İİİİ"], []⟩, w') ∧
      ∀ n, w'.desk.store.table n = (stenciled { newId := toString }).desk.store.table n) ∧
    ∃ (es : List Kind.featureRule.Record) (v' w' : World),
      list (withRanges { newId := toString } (.string "0-50") (.string "50-100")).desk.store "stb" =
        .ok es ∧
      importAll { newId := toString } es "stb" "admin" featured = (.ok ⟨["r"], []⟩, v') ∧
      importAll { newId := toString } es "stb" "admin"
        (withRanges { newId := toString } (.string "0-50") (.string "50-100")) =
          (.ok ⟨["r"], []⟩, w') := by
  constructor
  · obtain ⟨es, hlist, hother, hsame⟩ :=
      restored_of_reachable (reachable_stenciled { newId := toString }) .template "stb"
    have hseen : (list (E := Kind.template.Record) (stenciled { newId := toString }).desk.store
        "stb").toOption.map (fun es =>
          (es.map key, es.map fun t : Template => (t.action, t.priority))) =
            some (["İİ", "İİİ", "İ", "İİİİ"],
              [(.blockingFilter, 1), (.rule, 1), (.rule, 2), (.blockingFilter, 2)]) := by
      decide +kernel
    rw [hlist] at hseen
    obtain ⟨hkeys, hes⟩ := Prod.mk.inj (Option.some.inj hseen)
    obtain ⟨v', hinto, hdocs, -⟩ := hother { newId := toString } {} "admin" rfl rfl rfl
      (by decide +kernel) fun _ _ => trivial
    obtain ⟨w', hagain, htables⟩ := hsame "admin" (by decide +kernel) fun _ _ => trivial
    rw [hkeys] at hinto hagain
    exact ⟨es, v', w', hlist, hes, hinto, hdocs, hagain, htables⟩
  · have hjson : FromJson (rangeRule (.string "0-50") (.string "50-100")) :=
      ⟨(rangeRule (.string "0-50") (.string "50-100")).toJson, by decide +kernel,
        FeatureRule.ofJson?_toJson (by decide +kernel)⟩
    obtain ⟨es, hlist, hother, hsame⟩ := restored_of_reachable
      (reachable_withRanges { newId := toString } hjson) .featureRule "stb"
    have hseen : (list (E := Kind.featureRule.Record) (withRanges { newId := toString }
        (.string "0-50") (.string "50-100")).desk.store "stb").toOption.map (fun es =>
          (es.map key, es.map fun r : FeatureRule => (r.featureIds, r.applicationType))) =
            some (["r"], [(["f"], "stb")]) := by decide +kernel
    rw [hlist] at hseen
    obtain ⟨hkeys, hes⟩ := Prod.mk.inj (Option.some.inj hseen)
    have hfeatures : ∀ s : Store, ((s.table features.name).get? "f").bind features.decode =
        some { id := "f", name := "f", applicationType := "stb" } →
        ∀ e ∈ es, Kind.featureRule.HasFeatures s e := by
      intro s hfeature e he id hid
      have hmem := List.mem_map_of_mem
        (f := fun r : FeatureRule => (r.featureIds, r.applicationType)) he
      rw [hes, List.mem_singleton, Prod.mk.injEq] at hmem
      obtain ⟨hids, htype⟩ := hmem
      rw [hids, List.mem_singleton] at hid
      exact ⟨_, hid ▸ hfeature, htype.symm⟩
    obtain ⟨v', hinto, -⟩ := hother { newId := toString } featured "admin" rfl rfl rfl
      (by decide +kernel) (hfeatures _ (by decide +kernel))
    obtain ⟨w', hagain, -⟩ := hsame "admin" (by decide +kernel) (hfeatures _ (by decide +kernel))
    rw [hkeys] at hinto hagain
    exact ⟨es, v', w', hlist, hinto, hagain⟩

end Admin

end Rulebook
