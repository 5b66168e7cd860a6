import Rulebook.Proofs.Admin.ListWork
import Rulebook.Proofs.Admin.Reachable
import Rulebook.Proofs.Codec.Documents

/-!
# Rulebook.Proofs.Admin.Served

What holds in every state that requests for rules and for named lists can lead to.

Named lists are written and deleted next to the rules, and their table can be read for the same
reason as those of the rules: whatever is written to it reads back.  As far as the rules go,
requests for lists are changes outside of their tables.

* `Kind.exists_ruleRecord` — the documents of all kinds are read as rule records;
* `listStep_createList`, `listStep_deleteList` — what a request for a list leaves;
* `reachable_of_served`, `intact_of_served` — the invariants of a run.
-/

namespace Rulebook

open Prioritized RuleKind

/-! ## Tables that can be read -/

namespace Table

variable {α : Type} {t : Table α} {s s' : Store}

/-- Every document of the table reads. -/
def Readable (t : Table α) (s : Store) : Prop :=
  ∀ id doc, (s.table t.name).get? id = some doc → ∃ a, t.decode doc = some a

theorem Readable.of_table_eq (h : t.Readable s) (htable : s'.table t.name = s.table t.name) :
    t.Readable s' := by
  intro id doc hrow
  rw [htable] at hrow
  exact h id doc hrow

theorem Readable.exists_get? (h : t.Readable s) (hreads : s.faults.reads = false) (id : String) :
    ∃ found, t.get? s id = .ok found := by
  rw [get?, Store.get?, hreads]
  cases hrow : (s.table t.name).get? id with
  | none => exact ⟨none, rfl⟩
  | some doc =>
      obtain ⟨a, hdecode⟩ := h id doc hrow
      exact ⟨some a, by simp [read, hdecode]⟩

theorem Readable.all_eq (h : t.Readable s) (hreads : s.faults.reads = false) :
    t.all s = .ok ((s.table t.name).values.filterMap t.decode) := by
  rw [all, Store.all, hreads, if_neg (by simp)]
  dsimp only
  refine (Admin.mapM_read_eq_ok_iff t).2 ⟨fun doc hdoc => ?_, rfl⟩
  obtain ⟨id, hrow⟩ := Admin.mem_values_iff.1 hdoc
  obtain ⟨a, hdecode⟩ := h id doc hrow
  simp [hdecode]

theorem Readable.exists_all (h : t.Readable s) (hreads : s.faults.reads = false) :
    ∃ as, t.all s = .ok as :=
  ⟨_, h.all_eq hreads⟩

/-- A look-up finds what the document under the identifier reads as. -/
theorem get?_eq_some_iff (hreads : s.faults.reads = false) {id : String} {a : α} :
    t.get? s id = .ok (some a) ↔
      ∃ doc, (s.table t.name).get? id = some doc ∧ t.decode doc = some a := by
  rw [get?, Store.get?, hreads]
  cases (s.table t.name).get? id with
  | none => simp
  | some doc => cases hdecode : t.decode doc <;> simp [read, hdecode]

/-- The records of a table are those that look-ups find. -/
theorem mem_filterMap_values_iff (hreads : s.faults.reads = false) {a : α} :
    a ∈ (s.table t.name).values.filterMap t.decode ↔ ∃ id, t.get? s id = .ok (some a) := by
  simp only [List.mem_filterMap, Admin.mem_values_iff, get?_eq_some_iff hreads]
  constructor
  · rintro ⟨doc, ⟨id, hrow⟩, hdecode⟩
    exact ⟨id, doc, hrow, hdecode⟩
  · rintro ⟨id, doc, hrow, hdecode⟩
    exact ⟨doc, ⟨id, hrow⟩, hdecode⟩

end Table

namespace RuleRecord

theorem ofJson?_firmwareRule (r : FirmwareRule) :
    ofJson? r.toJson = some ⟨r.id, r.name, r.rule.written⟩ := by
  rw [ofJson?, FirmwareRule.toJson, Json.record?_object _ (by simp)]
  simp [Json.withDefault, List.lookup_cons, Json.string?, Rule.ofJson?_toJson]

/-- The document of a template has no name. -/
theorem ofJson?_template (t : Template) : ofJson? t.toJson = some ⟨t.id, "", t.rule.written⟩ := by
  rw [ofJson?, Template.toJson, Json.record?_object _ (by simp)]
  simp [Json.withDefault, List.lookup_cons, Json.string?, Rule.ofJson?_toJson]

theorem ofJson?_featureRule (r : FeatureRule) :
    ofJson? r.toJson = some ⟨r.id, r.name, r.rule.written⟩ := by
  rw [ofJson?, FeatureRule.toJson, Json.record?_object _ (by simp)]
  simp [Json.withDefault, List.lookup_cons, Json.string?, Rule.ofJson?_toJson]

end RuleRecord

namespace Kind

/-- **The documents of all kinds** are read as rule records, with the identifier and the tree. -/
theorem exists_ruleRecord {k : Kind} (e : k.Record) :
    ∃ r, RuleRecord.ofJson? (table.encode e) = some r ∧ r.id = key e ∧
      r.rule = (rule e).written := by
  cases k with
  | firmwareRule => exact ⟨_, RuleRecord.ofJson?_firmwareRule e, rfl, rfl⟩
  | template => exact ⟨_, RuleRecord.ofJson?_template e, rfl, rfl⟩
  | featureRule => exact ⟨_, RuleRecord.ofJson?_featureRule e, rfl, rfl⟩

theorem tableName_ne_namedLists (k : Kind) : k.tableName ≠ namedLists.name := by
  cases k <;> decide

theorem tableName_ne_features (k : Kind) : k.tableName ≠ features.name := by
  cases k <;> decide

end Kind

namespace Admin

/-! ## What requests for lists leave -/

/-- The table of lists can still be read, and all else stays. -/
structure ListStep (s s' : Store) : Prop where
  faults : s'.faults = s.faults
  readable : namedLists.Readable s → namedLists.Readable s'
  others : ∀ n, n ≠ namedLists.name → s'.table n = s.table n

theorem ListStep.refl (s : Store) : ListStep s s :=
  ⟨rfl, id, fun _ _ => rfl⟩

theorem listStep_addList {s : Store} (hfaults : s.faults = {}) (l : NamedList) :
    ListStep s (addList l s).2 := by
  rcases addList_cases l s with ⟨error, hrun⟩ | ⟨s', -, hwrite, hrun⟩
  · rw [hrun]
    exact ListStep.refl s
  · rw [hrun]
    rw [Table.write, Store.write, hfaults] at hwrite
    cases hwrite
    refine ⟨rfl, fun hreadable id doc hrow => ?_, fun n hn => ?_⟩
    · rw [Store.table_insert, if_pos rfl, SortedMap.get?_insert] at hrow
      split at hrow
      · cases hrow
        exact ⟨l, NamedList.ofJson?_toJson l⟩
      · exact hreadable id doc hrow
    · rw [Store.table_insert, if_neg hn]

theorem listStep_dropList {s : Store} (hfaults : s.faults = {}) (id : String)
    (type : Option ListType) : ListStep s (dropList id type s).2 := by
  rcases dropList_cases id type s with ⟨error, hrun⟩ | ⟨l, s', -, hdelete, hrun⟩
  · rw [hrun]
    exact ListStep.refl s
  · rw [hrun]
    rw [Table.delete, Store.delete, hfaults, if_neg (by simp)] at hdelete
    cases hdelete
    refine ⟨rfl, fun hreadable n doc hrow => ?_, fun n hn => ?_⟩
    · rw [Store.table_erase, if_pos rfl, SortedMap.get?_erase] at hrow
      split at hrow
      · cases hrow
      · exact hreadable n doc hrow
    · rw [Store.table_erase, if_neg hn]

/-- Bringing the store up to date before a step adds nothing to it. -/
theorem ListStep.of_synced {d : Desk} {s' : Store} (h : ListStep d.synced.store s') :
    ListStep d.store s' :=
  ⟨h.faults, h.readable, h.others⟩

variable {a : Admin} {w : World}

theorem listStep_createList (hfaults : w.desk.store.faults = {}) (l : NamedList)
    (owner : String) : ListStep w.desk.store (createList a l owner w).2.desk.store := by
  rw [createList]
  split
  · exact ListStep.refl _
  · exact desk_underLock (P := fun d => ListStep w.desk.store d.store) a.config _ owner
      (ListStep.refl _) (listStep_addList (s := w.desk.synced.store) hfaults l).of_synced

theorem listStep_deleteList (hfaults : w.desk.store.faults = {}) (id : String)
    (type : Option ListType) (owner : String) :
    ListStep w.desk.store (deleteList a id type owner w).2.desk.store :=
  desk_underLock (P := fun d => ListStep w.desk.store d.store) a.config _ owner
    (ListStep.refl _) (listStep_dropList (s := w.desk.synced.store) hfaults id type).of_synced

/-! ## Runs -/

/-- A world in which a run of requests for rules and for lists can end. -/
inductive Served [PatternEngine] (a : Admin) : World → Prop where
  /-- At first there are no rule records and no lists; operations of the store do not fail. -/
  | start {w : World} (hempty : ∀ k : Kind, rows k.Record w.desk.store = ∅)
      (hlists : w.desk.store.table namedLists.name = ∅) (hfaults : w.desk.store.faults = {}) :
      Served a w
  | request {w : World} (h : Served a w) (k : Kind) (r : Request k.Record)
      (hdecoded : r.IsDecoded) (hfresh : r.Fresh a w.desk.synced) : Served a (r.perform a w)
  | createList {w : World} (h : Served a w) (l : NamedList) (owner : String) :
      Served a (createList a l owner w).2
  | deleteList {w : World} (h : Served a w) (id : String) (type : Option ListType)
      (owner : String) : Served a (deleteList a id type owner w).2
  /-- Features and the locks change at any time. -/
  | outside {w w' : World} (h : Served a w)
      (hrows : ∀ k : Kind, rows k.Record w'.desk.store = rows k.Record w.desk.store)
      (hlists : w'.desk.store.table namedLists.name = w.desk.store.table namedLists.name)
      (hfaults : w'.desk.store.faults = {}) : Served a w'

theorem ListStep.reachable [PatternEngine] (h : Reachable a w) {w' : World}
    (hstep : ListStep w.desk.store w'.desk.store) : Reachable a w' :=
  h.outside (fun k => hstep.others k.tableName k.tableName_ne_namedLists)
    (hstep.faults.trans (inv_of_reachable h).faults)

/-- For the rules, requests for lists are changes from outside. -/
theorem reachable_of_served [PatternEngine] (h : Served a w) : Reachable a w := by
  induction h with
  | start hempty hlists hfaults => exact .start hempty hfaults
  | request _ k r hdecoded hfresh ih => exact ih.request k r hdecoded hfresh
  | createList _ l owner ih =>
      exact (listStep_createList (inv_of_reachable ih).faults l owner).reachable ih
  | deleteList _ id type owner ih =>
      exact (listStep_deleteList (inv_of_reachable ih).faults id type owner).reachable ih
  | outside _ hrows hlists hfaults ih => exact ih.outside hrows hfaults

/-- In every state of a run the table of lists can be read. -/
theorem readable_of_served [PatternEngine] (h : Served a w) : namedLists.Readable w.desk.store := by
  induction h with
  | start hempty hlists hfaults =>
      intro id doc hrow
      rw [hlists] at hrow
      cases hrow
  | @request w h k r hdecoded hfresh ih =>
      have hinv := inv_of_reachable (reachable_of_served h)
      have hstep := step_perform (hinv.orderly k) hinv.faults r hdecoded hfresh
      exact ih.of_table_eq (hstep.others namedLists.name (Ne.symm k.tableName_ne_namedLists))
  | @createList w h l owner ih =>
      exact (listStep_createList (inv_of_reachable (reachable_of_served h)).faults l
        owner).readable ih
  | @deleteList w h id type owner ih =>
      exact (listStep_deleteList (inv_of_reachable (reachable_of_served h)).faults id type
        owner).readable ih
  | outside _ hrows hlists hfaults ih => exact ih.of_table_eq hlists

/-! ## Stores in order -/

/-- Nothing fails, every table of rules is in order, and the other tables can be read. -/
structure Intact (s : Store) : Prop where
  faults : s.faults = {}
  orderly : ∀ k : Kind, Orderly k.Record s
  lists : namedLists.Readable s
  features : features.Readable s

namespace Intact

variable {s s' : Store}

theorem reads (h : Intact s) : s.faults.reads = false := by
  rw [h.faults]

theorem writes (h : Intact s) : s.faults.writesLeft = none := by
  rw [h.faults]

theorem keyed (h : Intact s) (k : Kind) : Keyed k.Record s :=
  (h.orderly k).documented.keyed

/-- Every document of a table of rules is read as a rule record. -/
theorem ruleRecords (h : Intact s) (k : Kind) :
    ∀ doc ∈ (s.table k.tableName).values, ∃ r, RuleRecord.ofJson? doc = some r := by
  intro doc hdoc
  obtain ⟨id, hrow⟩ := mem_values_iff.1 hdoc
  obtain ⟨e, rfl, -⟩ := (h.orderly k).documented id doc hrow
  obtain ⟨r, hread, -⟩ := Kind.exists_ruleRecord e
  exact ⟨r, hread⟩

/-- A step of one table of rules leaves the store intact. -/
theorem of_step (h : Intact s) {k : Kind} (hstep : Step k.Record s s') : Intact s' := by
  refine ⟨hstep.faults.trans h.faults, fun k' => ?_, ?_, ?_⟩
  · by_cases hk : k' = k
    · subst hk
      exact hstep.orderly
    · exact (h.orderly k').of_rows_eq
        (hstep.others k'.tableName fun hname => hk (Kind.tableName_injective hname))
  · exact h.lists.of_table_eq (hstep.others _ (Ne.symm k.tableName_ne_namedLists))
  · exact h.features.of_table_eq (hstep.others _ (Ne.symm k.tableName_ne_features))

theorem synced {d : Desk} (h : Intact d.store) : Intact d.synced.store :=
  ⟨h.faults, fun k => (h.orderly k).of_rows_eq rfl, h.lists, h.features⟩

end Intact

/-- **In every state of a run** in which the features can be read, the store is intact. -/
theorem intact_of_served [PatternEngine] (h : Served a w)
    (hfeatures : features.Readable w.desk.store) :
    Intact w.desk.store :=
  ⟨(inv_of_reachable (reachable_of_served h)).faults,
    (inv_of_reachable (reachable_of_served h)).orderly, readable_of_served h, hfeatures⟩

end Admin

end Rulebook
