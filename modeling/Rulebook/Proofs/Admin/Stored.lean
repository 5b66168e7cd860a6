import Rulebook.Proofs.Admin.Contents
import Rulebook.Proofs.Percent.Points
import Rulebook.Proofs.Validation.Rule

/-!
# Rulebook.Proofs.Admin.Stored

What can be relied on of every stored record, in every state of a run.

Records are checked when they come in, and never again; what the checks found then still holds of
what is read back later, for the contents of a record are only ever replaced by checked ones:

* `distinct_of_reachable` — within a scope no name and no rule occurs twice;
* `canonical_of_reachable` — every record is valid, and in its one spelling;
* `slices_of_reachable` — the percent ranges of a feature rule are slices that share no point.
-/

namespace Rulebook.Admin

open Prioritized RuleKind

variable {E : Type} [RuleKind E] {c : Config}

/-! ## Runs -/

/-- A rule that is written loosely: it leaves its application type to the request, and its condition
is not in normal form. -/
def looseRule (id name value : String) : FirmwareRule :=
  { id, name, priority := 1
    rule := { condition := some { freeArg := { name := value }, operation := " exists " } } }

/-- The world after two rules of one application type were created, and a third one was refused for
having the tree of the second. -/
def loosened [PatternEngine] (a : Admin) : World :=
  Request.perform a (.create (looseRule "c" "İİ" "env") "stb" "admin")
    (Request.perform a (.create (looseRule "b" "Σ" " env ") "stb" "admin")
      (Request.perform a (.create (looseRule "a" "İ" "model") "stb" "admin") {}))

theorem reachable_loosened [PatternEngine] (a : Admin) : Reachable a (loosened a) := by
  have hjson : ∀ {id name value : String}, (looseRule id name value).toJson.IsProper →
      FromJson (looseRule id name value) := fun hproper =>
    ⟨_, hproper, FirmwareRule.ofJson?_toJson (show Json.IsInt32 1 by decide)⟩
  have hstart : Reachable a {} := .start (fun _ => rfl) rfl
  have hfirst := hstart.request .firmwareRule (.create (looseRule "a" "İ" "model") "stb" "admin")
    (hjson (by decide +kernel)) (fun hblank => absurd hblank (by decide +kernel))
  have hsecond := hfirst.request .firmwareRule (.create (looseRule "b" "Σ" " env ") "stb" "admin")
    (hjson (by decide +kernel)) (fun hblank => absurd hblank (by decide +kernel))
  exact hsecond.request .firmwareRule (.create (looseRule "c" "İİ" "env") "stb" "admin")
    (hjson (by decide +kernel)) (fun hblank => absurd hblank (by decide +kernel))

/-- A rule for the devices in one slice or another. -/
def rangeRule (first second : FixedValue) : FeatureRule :=
  let mac : FreeArg := { name := "eStbMac" }
  { id := "r", name := "r", featureIds := ["f"], applicationType := "stb", priority := 1
    rule :=
      { parts := [{ condition := some (mac.test Operation.range first) },
          { relation := some .or, condition := some (mac.test Operation.range second) }] } }

/-- A world with a feature, and no rules. -/
def featured : World :=
  let f : Feature := { id := "f", name := "f", applicationType := "stb" }
  { desk := { store := ({} : Store).insert features.name f.id f.toJson } }

/-- The world after a rule for two slices was created. -/
def withRanges [PatternEngine] (a : Admin) (first second : FixedValue) : World :=
  Request.perform a (.create (rangeRule first second) "stb" "admin") featured

theorem reachable_withRanges [PatternEngine] (a : Admin) {first second : FixedValue}
    (h : FromJson (rangeRule first second)) : Reachable a (withRanges a first second) := by
  have hstart : Reachable a featured := .start (fun k => by cases k <;> rfl) rfl
  exact hstart.request .featureRule (.create (rangeRule first second) "stb" "admin") h
    (fun hblank => absurd hblank (show ¬Text.isBlank "r" = true by decide +kernel))

/-! ## Names and rules -/

/-- **Uniqueness over runs**: in every state that requests can lead to, a scope can be read, and any
two records in it have different names, when letter case is ignored, and different rules. -/
theorem distinct_of_reachable [PatternEngine] {a : Admin} {w : World} (h : Reachable a w) (k : Kind)
    (e : k.Record) : ∃ es, scopeOf w.desk.store e = .ok es ∧ es.Pairwise Distinct := by
  have hinv := inv_of_reachable h
  have hkeyed := (hinv.orderly k).documented.keyed
  refine ⟨scope w.desk.store e, scopeOf_eq hkeyed (by rw [hinv.faults]) e, ?_⟩
  have hkeys := List.pairwise_map.1 (hkeyed.nodup_map_key_scope e)
  refine hkeys.imp_of_mem fun {r r'} hr hr' hne => ?_
  obtain ⟨hstored, hsame⟩ := hkeyed.mem_scope_iff.1 hr
  obtain ⟨hstored', hsame'⟩ := hkeyed.mem_scope_iff.1 hr'
  exact (vetted_of_reachable h k).distinct hstored hstored' hne
    (LawfulKind.sameScope_equivalence.trans hsame (sameScope_comm.1 hsame'))

theorem distinct_loosened :
    ∃ es, scopeOf (loosened { newId := toString }).desk.store
        { looseRule "a" "İ" "model" with applicationType := "stb" } = .ok es ∧
      es.map key = ["b", "a"] ∧ es.Pairwise Distinct := by
  obtain ⟨es, hscope, hdistinct⟩ :=
    distinct_of_reachable (reachable_loosened { newId := toString }) .firmwareRule
      { looseRule "a" "İ" "model" with applicationType := "stb" }
  have hkeys : es.map key = ["b", "a"] := by
    rw [(scopeOf_eq_ok_iff.1 hscope).2.2]
    decide +kernel
  exact ⟨es, hscope, hkeys, hdistinct⟩

/-! ## Validity -/

/-- The record is valid, and in its one spelling. -/
structure Canonical [PatternEngine] (c : Config) (e : E) : Prop where
  /-- The tree is its own normal form. -/
  normal : (rule e).normalize = rule e
  valid : Validation.validateRule (rule e) (allowed E) = .ok ()
  /-- Operations are spelled as in the list of the kind. -/
  spelled : ∀ condition ∈ (rule e).conditions, condition.operation ∈ allowed E
  named : Text.isBlank (name e) = false
  typed : Text.isBlank (applicationType e) = false
  known : applicationType e ∈ c.applicationTypes

theorem Prepared.canonical [PatternEngine] [LawfulKind E] {e : E} (h : Prepared c e)
    (hupper : ∀ operation ∈ allowed E, Text.upperAscii operation = operation) :
    Canonical c e := by
  obtain ⟨s, type, e₀, r, p, hprepare, rfl⟩ := h
  obtain ⟨htype, hrecord, rfl⟩ := prepare_eq_ok_iff.1 hprepare
  obtain ⟨hvalid, hname, -⟩ := checkRecord_eq_ok_iff.1 hrecord
  obtain ⟨htyped, hknown⟩ := checkApplicationType_eq_ok_iff.1 htype
  have hnormal : (rule (ready c type e₀)).normalize = rule (ready c type e₀) := by
    rw [rule_ready, Rule.normalize_normalize]
  obtain ⟨-, -, -, hconditions, -⟩ := Validation.validateRule_eq_ok_iff.1 hvalid
  refine ⟨?_, ?_, fun condition hmem => ?_, ?_, ?_, ?_⟩
  · rwa [LawfulKind.rule_withPriority]
  · rwa [LawfulKind.rule_withPriority]
  · rw [LawfulKind.rule_withPriority] at hmem
    have hallowed := (Validation.checkCondition_eq_ok_iff.1 (hconditions condition hmem)).2.1
    exact Validation.mem_of_isAllowed (Rule.normalize_of_mem_conditions hnormal hmem) hupper
      hallowed
  · rwa [LawfulKind.name_withPriority]
  · rwa [LawfulKind.applicationType_withPriority, applicationType_ready]
  · rwa [LawfulKind.applicationType_withPriority, applicationType_ready]

/-- **Everything stored is valid**: in every state that requests can lead to, every document of a
table of rule records is that of a record that would pass its checks again, with its tree in normal
form and its operations spelled as in the list of the kind. -/
theorem canonical_of_reachable [PatternEngine] {a : Admin} {w : World} (h : Reachable a w)
    (k : Kind) :
    ∀ id doc, (w.desk.store.table k.tableName).get? id = some doc →
      ∃ e : k.Record, table.decode doc = some e ∧ Canonical a.config e := by
  intro id doc hrow
  obtain ⟨e, hdecode, hprepared⟩ := prepared_of_reachable h k hrow
  exact ⟨e, hdecode, hprepared.canonical k.upperAscii_of_mem_allowed⟩

/-- The rule that was written loosely is stored with its operation in upper case. -/
theorem canonical_loosened :
    ∃ (doc : Json) (e : FirmwareRule),
      ((loosened { newId := toString }).desk.store.table "FirmwareRule4").get? "b" = some doc ∧
      firmwareRules.decode doc = some e ∧ Canonical {} e ∧
      e.rule.conditions.map Condition.operation = [Operation.present] := by
  have hstored : (stored? FirmwareRule (loosened { newId := toString }).desk.store "b").map
      (fun e => e.rule.conditions.map Condition.operation) = some [Operation.present] := by
    decide +kernel
  obtain ⟨e, hstored, hoperations⟩ := Option.map_eq_some_iff.1 hstored
  obtain ⟨doc, hrow, hdecode⟩ := stored?_eq_some_iff.1 hstored
  obtain ⟨e', hdecode', hcanonical⟩ :=
    canonical_of_reachable (reachable_loosened { newId := toString }) .firmwareRule "b" doc hrow
  cases Option.some.inj (hdecode.symm.trans hdecode')
  exact ⟨doc, e, hrow, hdecode, hcanonical, hoperations⟩

/-! ## Percent ranges -/

/-- The conditions of `RANGE` compare with something; where that is a string, it reads as a slice
of the line from zero to a hundred percent, and the slices share no point. -/
structure Sliced (r : Rule) : Prop where
  slices : ∀ c ∈ r.conditions, c.uses Operation.range = true →
    ∃ value, c.fixedArg = some value ∧
      ∀ s, value = .string s → ∃ range, Percent.readRange s = .ok range ∧ range.IsSlice
  disjoint : r.conditions.Pairwise fun c d =>
    ∀ ρ σ, c.Slices ρ → d.Slices σ → Disjoint ρ.points σ.points

theorem sliced_of_checks [PatternEngine] {r : FeatureRule} {allowed : List String}
    (hvalid : Validation.validateRule r.rule allowed = .ok ()) (h : r.checkRanges = .ok ()) :
    Sliced r.rule := by
  obtain ⟨ranges, hread, hranges⟩ := checkRanges_eq_ok_iff.1 h
  obtain ⟨hslices, hdisjoint⟩ := Percent.validateRanges_eq_ok_iff.1 hranges
  obtain ⟨-, -, -, hconditions, -⟩ := Validation.validateRule_eq_ok_iff.1 hvalid
  refine ⟨fun c hc huses => ?_, (Validation.pairwise_slices_iff hread).2 hdisjoint⟩
  obtain ⟨hblanks, -, -⟩ := Validation.checkCondition_eq_ok_iff.1 (hconditions c hc)
  obtain ⟨value, hvalue, -⟩ := Validation.exists_fixedArg hblanks
    (Condition.uses_eq_false huses (by decide +kernel))
  refine ⟨value, hvalue, ?_⟩
  rintro s rfl
  obtain ⟨range, hrange, hs⟩ :=
    Validation.exists_slices hread hc (Condition.rangeText?_eq_some_iff.2 ⟨huses, hvalue⟩)
  exact ⟨range, hs, hslices range hrange⟩

theorem Prepared.sliced [PatternEngine] {r : FeatureRule} (h : Prepared c r) : Sliced r.rule := by
  obtain ⟨s, type, e₀, r, p, hprepare, rfl⟩ := h
  obtain ⟨-, hrecord, rfl⟩ := prepare_eq_ok_iff.1 hprepare
  obtain ⟨hvalid, -, hcheck⟩ := checkRecord_eq_ok_iff.1 hrecord
  exact sliced_of_checks hvalid (checkFeatureRule_eq_ok_iff.1 hcheck).2.2.2

/-- **Slices do not collide**: in every state that requests can lead to, every document of the table
of feature rules is that of a rule whose `RANGE` conditions compare with something, and as far as
that is a string, with slices of the line from zero to a hundred percent that share no point. -/
theorem slices_of_reachable [PatternEngine] {a : Admin} {w : World} (h : Reachable a w) :
    ∀ id doc, (w.desk.store.table Kind.featureRule.tableName).get? id = some doc →
      ∃ r : FeatureRule, featureRules.decode doc = some r ∧ Sliced r.rule := by
  intro id doc hrow
  obtain ⟨r, hdecode, hprepared⟩ := prepared_of_reachable h .featureRule hrow
  exact ⟨r, hdecode, Prepared.sliced hprepared⟩

theorem slices_halves :
    ∃ (doc : Json) (r : FeatureRule),
      ((withRanges { newId := toString } (.string "0-50") (.string "50-100")).desk.store.table
        "FeatureControlRule2").get? "r" = some doc ∧
      featureRules.decode doc = some r ∧ Sliced r.rule ∧
      Validation.rangeTexts r.rule = ["0-50", "50-100"] := by
  have hjson : FromJson (rangeRule (.string "0-50") (.string "50-100")) :=
    ⟨(rangeRule (.string "0-50") (.string "50-100")).toJson, by decide +kernel,
      FeatureRule.ofJson?_toJson (by decide +kernel)⟩
  have hstored : (stored? FeatureRule (withRanges { newId := toString } (.string "0-50")
      (.string "50-100")).desk.store "r").map (fun r => Validation.rangeTexts r.rule) =
        some ["0-50", "50-100"] := by decide +kernel
  obtain ⟨r, hstored, htexts⟩ := Option.map_eq_some_iff.1 hstored
  obtain ⟨doc, hrow, hdecode⟩ := stored?_eq_some_iff.1 hstored
  obtain ⟨r', hdecode', hsliced⟩ :=
    slices_of_reachable (reachable_withRanges { newId := toString } hjson) "r" doc hrow
  cases Option.some.inj (hdecode.symm.trans hdecode')
  exact ⟨doc, r, hrow, hdecode, hsliced, htexts⟩

/-- Ranges in a list are not looked at: not in every stored rule do all texts of `RANGE` conditions
read as slices that share no point. -/
theorem collision_listed :
    ¬∀ (a : Admin) (w : World), Reachable a w → ∀ id doc,
      (w.desk.store.table Kind.featureRule.tableName).get? id = some doc →
        ∃ r : FeatureRule, featureRules.decode doc = some r ∧
          (∀ c ∈ r.rule.conditions, c.uses Operation.range = true → c.fixedStrings ≠ [] ∧
            ∀ s ∈ c.fixedStrings, ∃ range, Percent.readRange s = .ok range ∧ range.IsSlice) ∧
          (r.rule.fixedStrings Operation.range).Pairwise fun s t => ∀ ρ σ,
            Percent.readRange s = .ok ρ → Percent.readRange t = .ok σ →
              Disjoint ρ.points σ.points := by
  intro h
  have hjson : FromJson (rangeRule (.string "0-60") (.collection ["40-80"])) :=
    ⟨(rangeRule (.string "0-60") (.collection ["40-80"])).toJson, by decide +kernel,
      FeatureRule.ofJson?_toJson (by decide +kernel)⟩
  have hstored : (stored? FeatureRule (withRanges { newId := toString } (.string "0-60")
      (.collection ["40-80"])).desk.store "r").map (fun r => r.rule.fixedStrings Operation.range) =
        some ["0-60", "40-80"] := by decide +kernel
  obtain ⟨r, hstored, htexts⟩ := Option.map_eq_some_iff.1 hstored
  obtain ⟨doc, hrow, hdecode⟩ := stored?_eq_some_iff.1 hstored
  obtain ⟨r', hdecode', -, hdisjoint⟩ :=
    h { newId := toString } _ (reachable_withRanges { newId := toString } hjson) "r" doc hrow
  cases Option.some.inj (hdecode.symm.trans hdecode')
  rw [htexts, List.pairwise_pair] at hdisjoint
  have hfirst : Percent.readRange "0-60" = .ok ⟨.ofInt 0, .ofInt 60⟩ :=
    eq_ok_of_toOption (by decide +kernel)
  have hsecond : Percent.readRange "40-80" = .ok ⟨.ofInt 40, .ofInt 80⟩ :=
    eq_ok_of_toOption (by decide +kernel)
  have hinside := (Percent.Range.disjoint_points_iff
    (Percent.checkBounds_eq_ok_iff.1 (eq_ok_of_toOption (by decide +kernel)))
    (Percent.checkBounds_eq_ok_iff.1 (eq_ok_of_toOption (by decide +kernel)))).1
      (hdisjoint _ _ hfirst hsecond)
  exact absurd hinside.1 (by decide +kernel)

end Rulebook.Admin
