import Rulebook.Proofs.Admin.Contents
import Rulebook.Proofs.Validation.Rule

/-!
# Rulebook.Proofs.Admin.Admission

Exactly which records are accepted.

Whether a request to create or to update a record succeeds is a question of the record and of what
is stored (`Acceptable`): its application type is one that is configured, its tree is valid in
normal form, it has a name, it meets what its kind asks for besides (`Kind.Suits`), and no other
record of its scope has its name or its rule.  Nothing else can go wrong in a state that requests
can lead to:

* `Kind.check_eq_ok_iff` — the checks of each kind;
* `passes_iff` — all checks of a record, those against its scope included;
* `Keyed.exists_planCreate_iff`, `Orderly.exists_planUpdate_iff` — when planning succeeds;
* `admission_of_reachable` — when a request is answered with a record.
-/

namespace Rulebook

open Prioritized RuleKind

/-! ## What the kinds ask for -/

/-- What is asked of a feature rule besides what is asked of all records. -/
structure FeatureRule.Suits (context : Context) (r : FeatureRule) : Prop where
  named : r.featureIds ≠ []
  few : r.featureIds.length ≤ context.config.maxFeatures
  /-- The features are there, and belong to the application type of the rule. -/
  found : ∀ id ∈ r.featureIds, ∃ feature : Feature,
    ((context.store.table features.name).get? id).bind features.decode = some feature ∧
      feature.applicationType = r.applicationType
  requested : r.applicationType = context.applicationType
  /-- The texts of `RANGE` conditions read as ranges that are in order and share no point. -/
  ranges : ∃ ranges : List Percent.Range,
    (Validation.rangeTexts r.rule).map Percent.readRange = ranges.map .ok ∧
      Percent.validateRanges ranges = .ok ()

/-- What a kind asks of its records besides what is asked of all. -/
def Kind.Suits (context : Context) : (k : Kind) → k.Record → Prop
  | .firmwareRule, _ => True
  | .template, (t : Template) =>
    t.action = .defineProperties → ∀ name ∈ t.properties.keys, Text.isBlank name = false
  | .featureRule, (r : FeatureRule) => r.Suits context

theorem checkProperties_eq_ok_iff {t : Template} :
    t.checkProperties = .ok () ↔
      (t.action = .defineProperties → ∀ name ∈ t.properties.keys, Text.isBlank name = false) := by
  rw [Template.checkProperties, ite_error_eq_ok_iff]
  simp

theorem checkCount_eq_ok_iff {r : FeatureRule} {max : Nat} :
    r.checkCount max = .ok () ↔ r.featureIds ≠ [] ∧ r.featureIds.length ≤ max := by
  rw [FeatureRule.checkCount, ite_error_eq_ok_iff, ite_error_eq_ok_iff]
  simp

theorem checkRequestType_eq_ok_iff {r : FeatureRule} {request : String} :
    r.checkRequestType request = .ok () ↔ r.applicationType = request := by
  rw [FeatureRule.checkRequestType, ite_error_eq_ok_iff]
  simp

/-- A feature is accepted if it is found, and belongs to the application type of the rule. -/
theorem checkFeature_eq_ok_iff {r : FeatureRule} {s : Store} {id : String}
    (hreads : s.faults.reads = false) :
    r.checkFeature s id = .ok () ↔ ∃ feature : Feature,
      ((s.table features.name).get? id).bind features.decode = some feature ∧
        feature.applicationType = r.applicationType := by
  rw [FeatureRule.checkFeature, bind_eq_ok_iff]
  simp only [mapError_eq_ok_iff]
  rw [Table.get?, Store.get?, hreads]
  cases (s.table features.name).get? id with
  | none => simp
  | some doc =>
      cases hdecode : features.decode doc with
      | none => simp [Table.read, hdecode]
      | some feature => simp [Table.read, hdecode]

/-- The checks of a feature rule succeed exactly if it suits the kind. -/
theorem FeatureRule.check_eq_ok_iff {r : FeatureRule} {context : Context}
    (hreads : context.store.faults.reads = false) : r.check context = .ok () ↔ r.Suits context := by
  rw [Admin.checkFeatureRule_eq_ok_iff, checkCount_eq_ok_iff, checkRequestType_eq_ok_iff,
    Admin.checkRanges_eq_ok_iff]
  simp only [checkFeature_eq_ok_iff hreads, Validation.percentRanges_eq_ok_iff]
  constructor
  · rintro ⟨⟨hnamed, hfew⟩, hfound, hrequested, hranges⟩
    exact ⟨hnamed, hfew, hfound, hrequested, hranges⟩
  · rintro ⟨hnamed, hfew, hfound, hrequested, hranges⟩
    exact ⟨⟨hnamed, hfew⟩, hfound, hrequested, hranges⟩

namespace Kind

/-- **The checks of a kind** succeed exactly for the records that suit it. -/
theorem check_eq_ok_iff {k : Kind} {context : Context} {e : k.Record}
    (hreads : context.store.faults.reads = false) :
    RuleKind.check context e = .ok () ↔ k.Suits context e := by
  cases k with
  | firmwareRule => exact iff_of_true rfl trivial
  | template => exact checkProperties_eq_ok_iff
  | featureRule => exact FeatureRule.check_eq_ok_iff hreads

/-- The fields that may not change are those that decide the scope. -/
theorem changedField?_eq_none_iff {k : Kind} {new stored : k.Record} :
    changedField? new stored = none ↔ sameScope new stored = true := by
  refine ⟨LawfulKind.sameScope_of_changedField?, fun hsame => ?_⟩
  cases k with
  | firmwareRule => exact if_pos hsame
  | template =>
      obtain ⟨htype, haction⟩ := Bool.and_eq_true_iff.1 hsame
      have htype : Template.applicationType new = Template.applicationType stored := by
        simpa using htype
      have haction : Template.action new = Template.action stored := by simpa using haction
      exact (if_neg (by simpa using htype)).trans (if_neg (by simpa using haction))
  | featureRule => exact if_pos hsame

end Kind

namespace Admin

/-! ## Acceptable records -/

/-- The application type that a record is given: the first that is not blank of its own, that of the
request, and the default one. -/
def resolvedType {E : Type} [RuleKind E] (c : Config) (type : String) (e : E) : String :=
  Text.firstNonBlank (applicationType e) (requestType c type)

/-- The record with the identifier that it is created under. -/
def identified {E : Type} [RuleKind E] (fresh : String) (e : E) : E :=
  if Text.isBlank (key e) then withId e fresh else e

/-- A record that may be stored, under its identifier and in its scope. -/
structure Acceptable [PatternEngine] (c : Config) (s : Store) (type : String) {k : Kind}
    (e : k.Record) : Prop where
  typed : Text.isBlank (resolvedType c type e) = false
  known : resolvedType c type e ∈ c.applicationTypes
  valid : Validation.validateRule (rule e).normalize (allowed k.Record) = .ok ()
  named : Text.isBlank (name e) = false
  suits : k.Suits ⟨s, c, requestType c type⟩ (ready c type e)
  /-- No other record of the scope has the name or the rule. -/
  distinct : ∀ (id : String) (o : k.Record), stored? k.Record s id = some o → id ≠ key e →
    sameScope o (ready c type e) = true → Distinct o e

/-- The record passes all checks, those against its scope included. -/
def Passes [PatternEngine] {E : Type} [RuleKind E] (c : Config) (s : Store) (type : String)
    (e : E) : Prop :=
  prepare c s type e = .ok (ready c type e) ∧
    checkDuplicates (ready c type e) (scope s (ready c type e)) = .ok ()

section Records

variable {k : Kind} {c : Config} {s : Store} {type : String}

theorem applicationType_withType (c : Config) (type : String) (e : k.Record) :
    applicationType (withType c type e) = resolvedType c type e := by
  rw [withType, resolvedType, Text.firstNonBlank]
  cases Text.isBlank (applicationType e) <;> cases k <;> rfl

theorem name_ready (c : Config) (type : String) (e : k.Record) :
    name (ready c type e) = name e := by
  rw [ready, normalized, withType]
  cases Text.isBlank (applicationType e) <;> cases k <;> rfl

/-- The record that is stored has the name and the rule of the one that was brought. -/
theorem distinct_ready_iff {o e : k.Record} : Distinct o (ready c type e) ↔ Distinct o e := by
  have hnames : name (ready c type e) = name e := name_ready c type e
  have hrules : (rule (ready c type e)).normalize = (rule e).normalize := by
    rw [rule_ready, Rule.normalize_normalize]
  constructor
  · rintro ⟨hname, hrule⟩
    exact ⟨hnames ▸ hname, hrules ▸ hrule⟩
  · rintro ⟨hname, hrule⟩
    exact ⟨hnames.symm ▸ hname, hrules.symm ▸ hrule⟩

/-- The check against the scope asks about every other record that is stored. -/
theorem checkDuplicates_eq_ok_iff (h : Keyed k.Record s) {e : k.Record} :
    checkDuplicates (ready c type e) (scope s (ready c type e)) = .ok () ↔
      ∀ (id : String) (o : k.Record), stored? k.Record s id = some o → id ≠ key e →
        sameScope o (ready c type e) = true → Distinct o e := by
  have hnormal : (rule (ready c type e)).normalize = rule (ready c type e) := by
    rw [rule_ready, Rule.normalize_normalize]
  rw [checkDuplicates, forM_eq_ok_iff]
  simp only [checkDistinct_eq_ok_iff hnormal, distinct_ready_iff, key_ready]
  constructor
  · intro hall id o ho hid hsame
    have hkey := h.key_eq ho
    have hmem : o ∈ scope s (ready c type e) := h.mem_scope_iff.2 ⟨hkey.symm ▸ ho, hsame⟩
    exact (hall o hmem).resolve_left fun heq => hid (hkey.symm.trans heq)
  · intro hall o ho
    obtain ⟨hstored, hsame⟩ := h.mem_scope_iff.1 ho
    by_cases hkey : key o = key e
    · exact .inl hkey
    · exact .inr (hall (key o) o hstored hkey hsame)

/-- **All checks of a record** succeed exactly if it is acceptable. -/
theorem passes_iff [PatternEngine] (h : Keyed k.Record s) (hreads : s.faults.reads = false)
    {e : k.Record} :
    Passes c s type e ↔ Acceptable c s type e := by
  rw [Passes, prepare_eq_ok_iff, applicationType_withType, checkApplicationType_eq_ok_iff,
    checkRecord_eq_ok_iff, rule_ready, name_ready, Kind.check_eq_ok_iff hreads,
    checkDuplicates_eq_ok_iff h]
  constructor
  · rintro ⟨⟨⟨htyped, hknown⟩, ⟨hvalid, hnamed, hsuits⟩, -⟩, hdistinct⟩
    exact ⟨htyped, hknown, hvalid, hnamed, hsuits, hdistinct⟩
  · rintro ⟨htyped, hknown, hvalid, hnamed, hsuits, hdistinct⟩
    exact ⟨⟨⟨htyped, hknown⟩, ⟨hvalid, hnamed, hsuits⟩, rfl⟩, hdistinct⟩

/-- Bringing the store up to date does not matter for what is acceptable. -/
theorem acceptable_synced_iff [PatternEngine] {d : Desk} {e : k.Record} :
    Acceptable c d.synced.store type e ↔ Acceptable c d.store type e := by
  have hsuits : k.Suits ⟨d.synced.store, c, requestType c type⟩ (ready c type e) ↔
      k.Suits ⟨d.store, c, requestType c type⟩ (ready c type e) := by
    cases k with
    | firmwareRule => exact Iff.rfl
    | template => exact Iff.rfl
    | featureRule =>
        exact ⟨fun h => ⟨h.named, h.few, h.found, h.requested, h.ranges⟩,
          fun h => ⟨h.named, h.few, h.found, h.requested, h.ranges⟩⟩
  exact ⟨fun h => ⟨h.typed, h.known, h.valid, h.named, hsuits.1 h.suits, h.distinct⟩,
    fun h => ⟨h.typed, h.known, h.valid, h.named, hsuits.2 h.suits, h.distinct⟩⟩

end Records

/-! ## Plans that can be made -/

section Plans

variable {E : Type} [RuleKind E] {c : Config} {s : Store} {type : String}

theorem identify_eq_ok_iff_identified (hreads : s.faults.reads = false) {fresh : String} {e e' : E}
    (h : Keyed E s) :
    identify s fresh e = .ok e' ↔
      (Text.isBlank (key e) = true ∨ (rows E s).get? (key e) = none) ∧
        e' = identified fresh e := by
  rw [identify_eq_ok_iff, identified, get?_eq_ok_iff]
  cases Text.isBlank (key e) with
  | true => simp
  | false => simp [hreads, h.stored?_eq_none_iff]

variable [LawfulKind E] [PatternEngine]

/-- A record can be created if its identifier is free, and it passes all checks. -/
theorem Keyed.exists_planCreate_iff (h : Keyed E s) (hreads : s.faults.reads = false)
    {fresh : String} {e : E} (hfresh : Text.isBlank (key e) = true → (rows E s).get? fresh = none)
    (hroom : ∀ r : E, ((scope s r).length : Int) < Priority.largest) :
    (∃ plan, planCreate c s fresh type e = .ok plan) ↔
      (Text.isBlank (key e) = true ∨ (rows E s).get? (key e) = none) ∧
        Passes c s type (identified fresh e) := by
  constructor
  · rintro ⟨plan, hplan⟩
    obtain ⟨e', r, change, hidentify, hprepare, -, hdistinct, -⟩ :=
      h.move_of_planCreate hfresh hplan
    obtain ⟨hfree, rfl⟩ := (identify_eq_ok_iff_identified hreads h).1 hidentify
    obtain ⟨-, -, rfl⟩ := prepare_eq_ok_iff.1 hprepare
    exact ⟨hfree, hprepare, hdistinct⟩
  · rintro ⟨hfree, hprepare, hdistinct⟩
    have hidentify : identify s fresh e = .ok (identified fresh e) :=
      (identify_eq_ok_iff_identified hreads h).2 ⟨hfree, rfl⟩
    have hunused : (rows E s).get? (key (ready c type (identified fresh e))) = none := by
      rw [key_ready]
      exact unused_of_identify hfresh hidentify
    -- All checks have passed, so only the order of the scope could still be in the way.
    obtain ⟨plan, hplan⟩ := h.exists_planScope_add hunused (hroom _)
      (.createdMissing (label E) (key (ready c type (identified fresh e))))
    refine ⟨plan, ?_⟩
    simp only [planCreate, bind_eq_ok_iff]
    exact ⟨_, hidentify, _, hprepare, _, scopeOf_eq h hreads _, (), hdistinct, hplan⟩

/-- A record can be updated if it is there, no field that may not change does, and it passes all
checks. -/
theorem Orderly.exists_planUpdate_iff (h : Orderly E s) (hreads : s.faults.reads = false) {e : E} :
    (∃ plan, planUpdate c s type e = .ok plan) ↔
      Text.isBlank (key e) = false ∧ (∃ stored, stored? E s (key e) = some stored ∧
        changedField? (ready c type e) stored = none) ∧ Passes c s type e := by
  have hkeyed := h.documented.keyed
  constructor
  · rintro ⟨plan, hplan⟩
    obtain ⟨stored, r, es, hfind, hprepare, hunchanged, hscope, hdistinct, -⟩ :=
      planUpdate_eq_ok_iff.1 hplan
    obtain ⟨hblank, -, hstored⟩ := find_eq_ok_iff.1 hfind
    obtain ⟨-, -, rfl⟩ := scopeOf_eq_ok_iff.1 hscope
    obtain ⟨-, -, rfl⟩ := prepare_eq_ok_iff.1 hprepare
    exact ⟨hblank, ⟨stored, hstored, hunchanged⟩, hprepare, hdistinct⟩
  · rintro ⟨hblank, ⟨stored, hstored, hunchanged⟩, hprepare, hdistinct⟩
    have hstored' : stored? E s (key (ready c type e)) = some stored := by rwa [key_ready]
    obtain ⟨moved, hmoved⟩ := h.exists_planScope_update hstored'
      (LawfulKind.sameScope_of_changedField? hunchanged)
      (.updatedMissing (label E) (key (ready c type e)))
    have hlast : ∃ plan, (if priority (ready c type e) = priority stored then
        pure ⟨ready c type e, [ready c type e]⟩
      else planScope (key (ready c type e)) (.updatedMissing (label E) (key (ready c type e)))
        (Priority.update (ready c type e) (scope s (ready c type e)) (priority stored))) =
          .ok plan := by
      split
      · exact ⟨_, rfl⟩
      · exact ⟨moved, hmoved⟩
    obtain ⟨plan, hplan⟩ := hlast
    refine ⟨plan, ?_⟩
    simp only [planUpdate, bind_eq_ok_iff]
    exact ⟨stored, find_eq_ok_iff.2 ⟨hblank, hreads, hstored⟩, _, hprepare, (),
      checkUnchanged_eq_ok_iff.2 hunchanged, _, scopeOf_eq hkeyed hreads _, (), hdistinct, hplan⟩

end Plans

/-! ## Requests -/

/-- **Exact admission**: in every state that requests can lead to, with the lock of the table free
and a priority left in every scope, a record is created exactly if its identifier is blank or not
taken and the record is acceptable under it, and updated exactly if it is stored, stays in its scope
and is acceptable. -/
theorem admission_of_reachable [PatternEngine] {a : Admin} {w : World} (h : Reachable a w)
    (k : Kind) (hfree : (w.lock a.config k.tableName).owner = none)
    (hroom : ∀ r : k.Record, ((scope w.desk.store r).length : Int) < Priority.largest)
    (e : k.Record) (type owner : String) :
    ((Text.isBlank (key e) = true → w.desk.Fresh a k.Record) →
      ((∃ r, (create a e type owner w).1 = .ok r) ↔
        (Text.isBlank (key e) = true ∨ (w.desk.store.table k.tableName).get? (key e) = none) ∧
          Acceptable a.config w.desk.store type (identified (a.newId w.desk.issued) e))) ∧
    ((∃ r, (update a e type owner w).1 = .ok r) ↔
      Text.isBlank (key e) = false ∧
        (∃ stored, stored? k.Record w.desk.store (key e) = some stored ∧
          sameScope (ready a.config type e) stored = true) ∧
        Acceptable a.config w.desk.store type e) := by
  have hinv := inv_of_reachable h
  have horderly : Orderly k.Record w.desk.store := hinv.orderly k
  have horderly' : Orderly k.Record w.desk.synced.store := horderly.of_rows_eq rfl
  have hkeyed := horderly'.documented.keyed
  have hreads : w.desk.store.faults.reads = false := by rw [hinv.faults]
  have hwrites : w.desk.synced.store.faults.writesLeft = none := by
    show w.desk.store.faults.writesLeft = none
    rw [hinv.faults]
  have hsyncs : w.desk.store.faults.syncs = false := by rw [hinv.faults]
  constructor
  · intro hfresh
    obtain ⟨w', hrun, -⟩ := underLock_of_free owner (createWork a type e) hfree hsyncs
    have hcreate : (create a e type owner w).1 = (createWork a type e w.desk.synced).1 := by
      rw [create, ← Kind.tableName, hrun]
    have hplan : (∃ plan, planCreate a.config w.desk.synced.store
        (a.newId w.desk.synced.issued) type e = .ok plan) ↔ _ :=
      hkeyed.exists_planCreate_iff hreads (fun hblank => (hfresh hblank).2) hroom
    rw [hcreate, fst_createWork hwrites, exists_map_eq_ok_iff, hplan, passes_iff hkeyed hreads,
      acceptable_synced_iff]
    exact Iff.rfl
  · obtain ⟨w', hrun, -⟩ := underLock_of_free owner (updateWork a type e) hfree hsyncs
    have hupdate : (update a e type owner w).1 = (updateWork a type e w.desk.synced).1 := by
      rw [update, ← Kind.tableName, hrun]
    rw [hupdate, fst_updateWork hwrites, exists_map_eq_ok_iff,
      horderly'.exists_planUpdate_iff hreads, passes_iff hkeyed hreads, acceptable_synced_iff]
    simp only [Kind.changedField?_eq_none_iff]
    exact Iff.rfl

/-- A rule that leaves its application type to the request. -/
def untypedRule : Kind.firmwareRule.Record :=
  plainRule "n" "İİİ" "" 7

/-- A new version of a stored rule that leaves its application type to the request. -/
def renamedRule : Kind.firmwareRule.Record :=
  plainRule "a" "Σ" "" 1

/-- After a run that left rules of two application types, a rule without one is created if the
request names a type that is configured, and not if it names one that is not.  A stored rule is
given another name that way if the request names its own application type, and not if it names the
other one. -/
theorem admission_untypedRule :
    (∃ r, (create { newId := toString } untypedRule "rdkcloud" "admin"
      (rolledOut { newId := toString })).1 = .ok r) ∧
    (¬∃ r, (create { newId := toString } untypedRule "xhome" "admin"
      (rolledOut { newId := toString })).1 = .ok r) ∧
    (∃ r, (update { newId := toString } renamedRule "stb" "admin"
      (rolledOut { newId := toString })).1 = .ok r) ∧
    ¬∃ r, (update { newId := toString } renamedRule "rdkcloud" "admin"
      (rolledOut { newId := toString })).1 = .ok r := by
  have hreachable := reachable_rolledOut { newId := toString }
  have hkeyed := ((inv_of_reachable hreachable).orderly .firmwareRule).documented.keyed
  have hrecords : (records Kind.firmwareRule.Record
      (rolledOut { newId := toString }).desk.store).length = 5 := by decide +kernel
  have hroom : ∀ r : Kind.firmwareRule.Record,
      ((scope (rolledOut { newId := toString }).desk.store r).length : Int) < Priority.largest := by
    intro r
    have hlength := length_scope_le (rolledOut { newId := toString }).desk.store r
    unfold Priority.largest
    omega
  have hadmission := admission_of_reachable hreachable .firmwareRule (by decide +kernel) hroom
  have hnamed : Text.isBlank (key untypedRule) = false := by decide +kernel
  have hidentified : ∀ fresh, identified fresh untypedRule = untypedRule :=
    fun _ => if_neg (by simp [hnamed])
  have hcreate := fun type => (hadmission untypedRule type "admin").1
    fun hblank => absurd hblank (by simp [hnamed])
  have hupdate := fun type => (hadmission renamedRule type "admin").2
  refine ⟨?_, fun hcreated => ?_, ?_, fun hupdated => ?_⟩
  · refine (hcreate "rdkcloud").2 ⟨.inr (by decide +kernel), ?_⟩
    rw [hidentified]
    exact ⟨by decide +kernel, by decide +kernel, eq_ok_of_toOption (by decide +kernel),
      by decide +kernel, trivial,
      (checkDuplicates_eq_ok_iff hkeyed).1 (eq_ok_of_toOption (by decide +kernel))⟩
  · have hknown := ((hcreate "xhome").1 hcreated).2.known
    revert hknown
    decide +kernel
  · have hstands : (stored? Kind.firmwareRule.Record (rolledOut { newId := toString }).desk.store
        (key renamedRule)).any (sameScope (ready {} "stb" renamedRule)) = true := by
      decide +kernel
    obtain ⟨stored, hstored, hsame⟩ := (Option.any_eq_true _ _).1 hstands
    refine (hupdate "stb").2 ⟨by decide +kernel, ⟨stored, hstored, hsame⟩, ?_⟩
    exact ⟨by decide +kernel, by decide +kernel, eq_ok_of_toOption (by decide +kernel),
      by decide +kernel, trivial,
      (checkDuplicates_eq_ok_iff hkeyed).1 (eq_ok_of_toOption (by decide +kernel))⟩
  · obtain ⟨-, ⟨stored, hstored, hsame⟩, -⟩ := (hupdate "rdkcloud").1 hupdated
    have hmoves : (stored? Kind.firmwareRule.Record (rolledOut { newId := toString }).desk.store
        (key renamedRule)).any (sameScope (ready {} "rdkcloud" renamedRule)) = false := by
      decide +kernel
    have hstays := (Option.any_eq_true _ _).2 ⟨stored, hstored, hsame⟩
    exact absurd (hstays.symm.trans hmoves) (by decide)

end Admin

end Rulebook
