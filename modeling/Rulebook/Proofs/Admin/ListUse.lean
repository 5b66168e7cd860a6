import Rulebook.Proofs.Admin.Defenses
import Rulebook.Proofs.Admin.Visited
import Rulebook.Proofs.Rule.References

/-!
# Rulebook.Proofs.Admin.ListUse

Named lists that are in use.

Before a list is deleted, the tables of rules are searched for a reference to it, and after them the
features.  The search reads no more of a document than its identifier, its name and its tree, and it
ends at the first reference.  That it finds nothing says as much as if every record was read in
full:

* `findRule_eq_none_iff`, `findRuleUsage_eq_none_iff` — the search, document by document;
* `Tidy.findRule_eq_none_iff` — the same for a table of records, tree by tree;
* `findUsage_eq_none_iff` — the search through all tables;
* `deleteList_iff_unused` — which lists can be deleted, after any requests at all.
-/

namespace Rulebook

open Prioritized RuleKind

theorem RuleRecord.usesList_iff {r : RuleRecord} {list : String} :
    r.usesList list = true ↔ r.rule.RefersTo list := by
  rw [usesList, List.contains_iff_mem, Rule.mem_fixedStrings_iff, Rule.RefersTo]

theorem Feature.usesList_iff {f : Feature} {list : String} :
    f.usesList list = true ↔ f.whitelisted = true ∧ f.whitelist = some list := by
  rw [usesList, Bool.and_eq_true, beq_iff_eq]

namespace Admin

/-! ## The search -/

/-- Nothing is found if all documents are read and none of them refers to the list. -/
theorem findRule_eq_none_iff {list : String} {docs : List Json} :
    findRule list docs = .ok none ↔
      ∀ doc ∈ docs, ∃ r, RuleRecord.ofJson? doc = some r ∧ r.usesList list = false := by
  induction docs with
  | nil => simp [findRule]
  | cons doc rest ih =>
      rw [findRule, List.forall_mem_cons, ← ih]
      cases hread : RuleRecord.ofJson? doc with
      | none => simp
      | some r => cases huses : r.usesList list <;> simp [huses]

variable {s : Store} {list : String}

/-- Nothing is found in the tables if nothing is found in any of them. -/
theorem findRuleUsage_eq_none_iff (hreads : s.faults.reads = false)
    {sources : List (String × String)} :
    findRuleUsage s list sources = .ok none ↔
      ∀ source ∈ sources, findRule list (s.table source.1).values = .ok none := by
  induction sources with
  | nil => simp [findRuleUsage]
  | cons source rest ih =>
      obtain ⟨table, label⟩ := source
      have hall : s.all table = .ok (s.table table).values := by
        rw [Store.all, hreads, if_neg (by simp)]
      rw [List.forall_mem_cons, ← ih, findRuleUsage, hall, bind_eq_ok_iff]
      constructor
      · rintro ⟨docs, hdocs, hrest⟩
        cases hdocs
        obtain ⟨found, hfound, hrest⟩ := bind_eq_ok_iff.1 hrest
        cases found with
        | some r => cases hrest
        | none => exact ⟨hfound, hrest⟩
      · rintro ⟨hfound, hrest⟩
        exact ⟨_, rfl, bind_eq_ok_iff.2 ⟨none, hfound, hrest⟩⟩

/-! ## What refers to a list -/

/-- The tree of a stored rule of some kind refers to the list. -/
def UsedByRule (s : Store) (list : String) : Prop :=
  ∃ (k : Kind) (id : String) (e : k.Record), stored? k.Record s id = some e ∧
    (rule e).RefersTo list

/-- A stored feature is restricted to the members of the list. -/
def UsedByFeature (s : Store) (list : String) : Prop :=
  ∃ (id : String) (f : Feature), features.get? s id = .ok (some f) ∧ f.whitelisted = true ∧
    f.whitelist = some list

/-- The search goes through the documents of a table as through the trees of its records: what is
read of a document is the tree as the record has it when it is read in full. -/
theorem Tidy.findRule_eq_none_iff {k : Kind} (h : Tidy k.Record s) :
    findRule list (s.table k.tableName).values = .ok none ↔
      ∀ (id : String) (e : k.Record), stored? k.Record s id = some e → ¬(rule e).RefersTo list := by
  rw [Admin.findRule_eq_none_iff]
  constructor
  · intro hunused id e he
    obtain ⟨e₀, hrow, rfl, -⟩ := h.of_stored? he
    obtain ⟨r, hread, hr⟩ := hunused _ (mem_values_iff.2 ⟨id, hrow⟩)
    obtain ⟨r', hread', -, hrule⟩ := Kind.exists_ruleRecord e₀
    rw [hread'] at hread
    cases hread
    rw [LawfulKind.rule_withRule, ← hrule, ← RuleRecord.usesList_iff, hr]
    simp
  · intro hunused doc hdoc
    obtain ⟨id, hrow⟩ := mem_values_iff.1 hdoc
    obtain ⟨e₀, rfl, hpriority, -⟩ := h.encoded id doc hrow
    obtain ⟨r, hread, -, hrule⟩ := Kind.exists_ruleRecord e₀
    have hstored := stored?_eq_some_iff.2 ⟨_, hrow, LawfulKind.decode_encode hpriority⟩
    have hr := hunused id _ hstored
    rw [LawfulKind.rule_withRule, ← hrule, ← RuleRecord.usesList_iff, Bool.not_eq_true] at hr
    exact ⟨r, hread, hr⟩

/-- The tables that are searched for rules are those of all kinds. -/
theorem forall_mem_ruleSources {P : String → Prop} :
    (∀ source ∈ ruleSources, P source.1) ↔ ∀ k : Kind, P k.tableName := by
  rw [ruleSources, List.forall_mem_cons, List.forall_mem_cons, List.forall_mem_singleton]
  constructor
  · rintro ⟨hfirmware, htemplates, hfeatures⟩ k
    cases k with
    | firmwareRule => exact hfirmware
    | template => exact htemplates
    | featureRule => exact hfeatures
  · intro h
    exact ⟨h .firmwareRule, h .template, h .featureRule⟩

/-- **The search finds nothing** exactly if nothing refers to the list. -/
theorem findUsage_eq_none_iff (hreads : s.faults.reads = false)
    (htidy : ∀ k : Kind, Tidy k.Record s) (hfeatures : features.Readable s) :
    findUsage s list = .ok none ↔ ¬UsedByRule s list ∧ ¬UsedByFeature s list := by
  have hrules : findRuleUsage s list ruleSources = .ok none ↔ ¬UsedByRule s list := by
    rw [findRuleUsage_eq_none_iff hreads,
      forall_mem_ruleSources (P := fun table => findRule list (s.table table).values = .ok none)]
    simp only [UsedByRule, not_exists, not_and, (htidy _).findRule_eq_none_iff]
  have hnone : ((s.table features.name).values.filterMap features.decode).find?
      (fun f => f.usesList list) = none ↔ ¬UsedByFeature s list := by
    simp only [List.find?_eq_none, Table.mem_filterMap_values_iff hreads, Feature.usesList_iff,
      UsedByFeature, not_exists, forall_exists_index, not_and]
    exact forall_comm
  rw [← hrules, ← hnone, findUsage, bind_eq_ok_iff, hfeatures.all_eq hreads]
  constructor
  · rintro ⟨found, hfound, hrest⟩
    cases found with
    | some usage => cases hrest
    | none =>
        refine ⟨hfound, ?_⟩
        simpa [Except.mapError, bind, Except.bind, pure, Except.pure] using hrest
  · rintro ⟨hfound, hnone⟩
    refine ⟨none, hfound, ?_⟩
    simp [Except.mapError, bind, Except.bind, pure, Except.pure, hnone]

/-! ## Deleting a list -/

theorem findUnusedList_eq_ok_iff {id : String} {type : Option ListType} {l : NamedList} :
    findUnusedList s id type = .ok l ↔
      namedLists.get? s id = .ok (some l) ∧ (∀ t, type = some t → l.type = t) ∧
        findUsage s id = .ok none := by
  have htype : ∀ l : NamedList,
      (type.all fun t => t == l.type) = true ↔ ∀ t, type = some t → l.type = t := fun l => by
    cases type with
    | none => simp
    | some t => simp [eq_comm (a := t)]
  simp only [findUnusedList, getList?, bind_eq_ok_iff, mapError_eq_ok_iff]
  constructor
  · rintro ⟨stored, hget, hunused⟩
    split at hunused
    · cases hunused
    · next l' hfilter =>
        obtain ⟨hstored, hsuits⟩ := Option.filter_eq_some_iff.1 hfilter
        obtain ⟨found, hfound, hpure⟩ := bind_eq_ok_iff.1 hunused
        cases found with
        | some usage => cases hpure
        | none =>
            cases hpure
            exact ⟨hstored ▸ hget, (htype l).1 hsuits, hfound⟩
  · rintro ⟨hget, hsuits, hfound⟩
    have hfilter : (some l).filter (fun l => type.all fun t => t == l.type) = some l :=
      Option.filter_eq_some_iff.2 ⟨rfl, (htype l).2 hsuits⟩
    refine ⟨some l, hget, ?_⟩
    rw [hfilter]
    exact bind_eq_ok_iff.2 ⟨none, hfound, rfl⟩

/-- Where deletions do not fail, an unused list is dropped, and nothing else. -/
theorem dropList_eq_ok_iff {id : String} {type : Option ListType} {l : NamedList} {s' : Store}
    (hdeletes : s.faults.deletes = false) :
    dropList id type s = (.ok l, s') ↔
      findUnusedList s id type = .ok l ∧ s' = s.erase namedLists.name id := by
  have hdelete : namedLists.delete s id = .ok (s.erase namedLists.name id) := by
    rw [Table.delete, Store.delete, hdeletes, if_neg (by simp)]
  rw [dropList]
  cases findUnusedList s id type with
  | error error => simp
  | ok stored => simp [hdelete, eq_comm (a := s')]

/-- Under a free lock, a list is deleted if it can be dropped. -/
theorem exists_deleteList_iff {a : Admin} {w : World}
    (hfree : (w.lock a.config namedLists.name).owner = none)
    (hsyncs : w.desk.store.faults.syncs = false) (id : String) (type : Option ListType)
    (owner : String) :
    (∃ l, (deleteList a id type owner w).1 = .ok l) ↔
      ∃ l s', dropList id type w.desk.synced.store = (.ok l, s') := by
  rw [deleteList, exists_underLock_iff owner _ hfree hsyncs]
  simp only [Desk.after_eq, Prod.ext_iff, exists_and_left, exists_eq', and_true]

theorem deleteList_eq_ok {a : Admin} {w w' : World} {id owner : String} {type : Option ListType}
    {l : NamedList} (h : deleteList a id type owner w = (.ok l, w')) :
    dropList id type w.desk.synced.store = (.ok l, w'.desk.store) := by
  have hwork := underLock_eq_ok h
  rw [Desk.after_eq] at hwork
  obtain ⟨hl, hdesk⟩ := Prod.mk.inj hwork
  rw [← hdesk]
  exact Prod.ext hl rfl

/-- **Lists in use cannot be deleted**, and all others can.  After any requests at all that began
without rules, and whatever the features are as long as they can be read, the deletion of a list
succeeds exactly if a list of the type that is asked for stands under the identifier, no condition
of `IN_LIST` in any stored rule compares with the identifier, and no whitelisted feature is
restricted to it; then that list is gone, and nothing else. -/
theorem deleteList_iff_unused [PatternEngine] {a : Admin} {w₀ w : World} (hblank : Blank w₀)
    (hrun : Relation.ReflTransGen (Transition a) w₀ w)
    (hfeatures : features.Readable w.desk.store)
    (hfree : (w.lock a.config namedLists.name).owner = none)
    (id owner : String) (type : Option ListType) :
    ((∃ l, (deleteList a id type owner w).1 = .ok l) ↔
      (∃ l, namedLists.get? w.desk.store id = .ok (some l) ∧ ∀ t, type = some t → l.type = t) ∧
        ¬UsedByRule w.desk.store id ∧ ¬UsedByFeature w.desk.store id) ∧
    ∀ (l : NamedList) (w' : World), deleteList a id type owner w = (.ok l, w') →
      namedLists.get? w.desk.store id = .ok (some l) ∧
        (∀ n, (w'.desk.store.table namedLists.name).get? n =
          if n = id then none else (w.desk.store.table namedLists.name).get? n) ∧
        ∀ name, name ≠ namedLists.name → w'.desk.store.table name = w.desk.store.table name := by
  have hsettled := hblank.settled.run hrun
  have hsyncs : w.desk.store.faults.syncs = false := by rw [hsettled.faults]
  have hdeletes : w.desk.synced.store.faults.deletes = false := by
    rw [Desk.synced, hsettled.faults]
  have hunused : ∀ l, findUnusedList w.desk.synced.store id type = .ok l ↔
      namedLists.get? w.desk.store id = .ok (some l) ∧ (∀ t, type = some t → l.type = t) ∧
        ¬UsedByRule w.desk.store id ∧ ¬UsedByFeature w.desk.store id := fun l => by
    rw [findUnusedList_eq_ok_iff, ← findUsage_eq_none_iff (by rw [hsettled.faults]) hsettled.tidy
      hfeatures]
    rfl
  constructor
  · rw [exists_deleteList_iff hfree hsyncs]
    simp only [dropList_eq_ok_iff hdeletes, hunused]
    constructor
    · rintro ⟨l, -, ⟨hget, htype, hnone⟩, -⟩
      exact ⟨⟨l, hget, htype⟩, hnone⟩
    · rintro ⟨⟨l, hget, htype⟩, hnone⟩
      exact ⟨l, _, ⟨hget, htype, hnone⟩, rfl⟩
  · intro l w' hdelete
    obtain ⟨hfind, hstore⟩ := (dropList_eq_ok_iff hdeletes).1 (deleteList_eq_ok hdelete)
    refine ⟨((hunused l).1 hfind).1, fun n => ?_, fun name hname => ?_⟩
    · rw [hstore, Store.table_erase, if_pos rfl, SortedMap.get?_erase]
      rfl
    · rw [hstore, Store.table_erase, if_neg hname]
      rfl

/-! ## With a rule and without it -/

/-- The world after the list alone was created. -/
def listAlone (a : Admin) : World :=
  (createList a { id := "models" } "admin" {}).2

/-- In the world with the list alone, nothing refers to it. -/
theorem not_used_listAlone (a : Admin) (list : String) :
    ¬UsedByRule (listAlone a).desk.store list ∧ ¬UsedByFeature (listAlone a).desk.store list := by
  have hothers := (listStep_createList (a := a) (w := {}) rfl { id := "models" } "admin").others
  have hfaults := (listStep_createList (a := a) (w := {}) rfl { id := "models" } "admin").faults
  constructor
  · rintro ⟨k, id, e, he, -⟩
    obtain ⟨doc, hrow, -⟩ := stored?_eq_some_iff.1 he
    have hempty : rows k.Record (listAlone a).desk.store = ∅ :=
      hothers _ k.tableName_ne_namedLists
    rw [hempty] at hrow
    cases hrow
  · rintro ⟨id, f, hf, -⟩
    have hreads : (listAlone a).desk.store.faults.reads = false := congrArg Faults.reads hfaults
    obtain ⟨doc, hrow, -⟩ := (Table.get?_eq_some_iff hreads).1 hf
    have hempty : (listAlone a).desk.store.table features.name = ∅ := hothers _ (by decide)
    rw [hempty] at hrow
    cases hrow

/-- The rule that was created refers to the list. -/
theorem used_listed : UsedByRule (listed { newId := toString }).desk.store "models" := by
  have huses : (stored? Kind.firmwareRule.Record (listed { newId := toString }).desk.store "a").any
      (fun e => ((rule e).fixedStrings Operation.inList).contains "models") = true := by
    decide +kernel
  obtain ⟨e, he, hlist⟩ := (Option.any_eq_true _ _).1 huses
  exact ⟨.firmwareRule, "a", e, he,
    Rule.mem_fixedStrings_iff.1 (List.contains_iff_mem.1 hlist)⟩

/-- The list can be deleted before the rule is created, and not after it. -/
theorem deleteList_models :
    (∃ l, (deleteList { newId := toString } "models" (some .string) "admin"
      (listAlone { newId := toString })).1 = .ok l) ∧
    ¬∃ l, (deleteList { newId := toString } "models" none "admin"
      (listed { newId := toString })).1 = .ok l := by
  have hreadable : ∀ {s : Store}, (s.table features.name).values.length = 0 →
      features.Readable s := by
    intro s hempty id doc hrow
    have hmem := mem_values_iff.2 ⟨id, hrow⟩
    rw [List.length_eq_zero_iff.1 hempty] at hmem
    cases hmem
  have halone : Relation.ReflTransGen (Transition { newId := toString }) {} (listAlone _) :=
    .single (.createList { id := "models" } "admin")
  obtain ⟨w₀, hblank, hlisted⟩ := exists_run_of_served (served_listed { newId := toString })
  constructor
  · have hfound : namedLists.get? (listAlone { newId := toString }).desk.store "models" =
        .ok (some { id := "models" }) := eq_ok_of_toOption (by decide +kernel)
    exact (deleteList_iff_unused blank_default halone (hreadable (by decide +kernel))
      (by decide +kernel) "models" "admin" (some .string)).1.2
        ⟨⟨_, hfound, fun t ht => Option.some.inj ht⟩, not_used_listAlone _ "models"⟩
  · intro hdeleted
    exact ((deleteList_iff_unused hblank hlisted (hreadable (by decide +kernel))
      (by decide +kernel) "models" "admin" none).1.1 hdeleted).2.1 used_listed

end Admin

end Rulebook
