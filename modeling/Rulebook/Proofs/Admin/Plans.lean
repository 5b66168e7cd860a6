import Rulebook.Proofs.Admin.Writing

/-!
# Rulebook.Proofs.Admin.Plans

What a plan says, if planning succeeds.

Each plan is taken apart once, into the checks that were passed and the change of the scope that was
made, and is not unfolded again:

* `checkRecord_eq_ok_iff`, `checkFeatureRule_eq_ok_iff` — the checks of a record;
* `prepare_eq_ok_iff`, `identify_eq_ok_iff`, `planScope_eq_ok_iff` — the steps;
* `planCreate_eq_ok_iff`, `planUpdate_eq_ok_iff`, `planMove_eq_ok_iff` — the plans.
-/

namespace Rulebook.Admin

open Prioritized RuleKind

variable {E : Type} [RuleKind E] {s : Store} {c : Config} {type : String}

/-! ## The record as it is stored -/

/-- The record with an application type and with its tree in normal form. -/
def ready (c : Config) (type : String) (e : E) : E :=
  normalized (withType c type e)

section Lawful

variable [LawfulKind E]

@[simp] theorem key_ready (c : Config) (type : String) (e : E) : key (ready c type e) = key e := by
  unfold ready normalized withType
  split <;> simp

@[simp] theorem priority_ready (c : Config) (type : String) (e : E) :
    priority (ready c type e) = priority e := by
  unfold ready normalized withType
  split <;> simp

@[simp] theorem applicationType_ready (c : Config) (type : String) (e : E) :
    applicationType (ready c type e) = applicationType (withType c type e) :=
  LawfulKind.applicationType_withRule _ _

@[simp] theorem rule_ready (c : Config) (type : String) (e : E) :
    rule (ready c type e) = (rule e).normalize := by
  unfold ready normalized withType
  split <;> simp

end Lawful

/-! ## Checks -/

theorem checkApplicationType_eq_ok_iff :
    c.checkApplicationType type = .ok () ↔
      Text.isBlank type = false ∧ type ∈ c.applicationTypes := by
  rw [Config.checkApplicationType, ite_error_eq_ok_iff, ite_error_eq_ok_iff]
  simp [Config.knows]

theorem checkRecord_eq_ok_iff [PatternEngine] {e : E} :
    checkRecord c s type e = .ok () ↔
      Validation.validateRule (rule e) (allowed E) = .ok () ∧ Text.isBlank (name e) = false ∧
        RuleKind.check ⟨s, c, requestType c type⟩ e = .ok () := by
  rw [checkRecord, check_bind_eq_ok_iff, mapError_eq_ok_iff]
  cases Text.isBlank (name e) with
  | true => simp [bind, Except.bind]
  | false => simp

theorem checkRanges_eq_ok_iff {r : FeatureRule} :
    r.checkRanges = .ok () ↔ ∃ ranges, Validation.percentRanges r.rule = .ok ranges ∧
      Percent.validateRanges ranges = .ok () := by
  rw [FeatureRule.checkRanges, bind_eq_ok_iff]
  refine exists_congr fun ranges => and_congr_right fun _ => ?_
  rw [Validation.validateRanges]
  cases Percent.validateRanges ranges <;> simp

theorem checkFeatureRule_eq_ok_iff {r : FeatureRule} {context : Context} :
    r.check context = .ok () ↔ r.checkCount context.config.maxFeatures = .ok () ∧
      (∀ id ∈ r.featureIds, r.checkFeature context.store id = .ok ()) ∧
      r.checkRequestType context.applicationType = .ok () ∧ r.checkRanges = .ok () := by
  rw [FeatureRule.check, check_bind_eq_ok_iff, check_bind_eq_ok_iff, check_bind_eq_ok_iff,
    mapError_eq_ok_iff, mapError_eq_ok_iff, mapError_eq_ok_iff, forM_eq_ok_iff]

theorem checkUnchanged_eq_ok_iff {e stored : E} :
    checkUnchanged e stored = .ok () ↔ changedField? e stored = none := by
  rw [checkUnchanged]
  cases changedField? e stored <;> simp

/-- A record is refused for its scope if its name or its rule is taken. -/
theorem failsOnly_checkDuplicates {P : AdminError → Prop}
    (hname : ∀ name, P (.conflict (.nameTaken name)))
    (hrule : ∀ name, P (.conflict (.ruleTaken name))) (e : E) (scope : List E) :
    FailsOnly P (checkDuplicates e scope) := by
  refine failsOnly_forM fun other _ => ?_
  exact failsOnly_ite (failsOnly_ok ()) (failsOnly_ite (failsOnly_error (hname _))
    (failsOnly_ite (failsOnly_error (hrule _)) (failsOnly_ok ())))

/-! ## The steps of planning -/

theorem prepare_eq_ok_iff [PatternEngine] {e r : E} :
    prepare c s type e = .ok r ↔
      c.checkApplicationType (applicationType (withType c type e)) = .ok () ∧
        checkRecord c s type (ready c type e) = .ok () ∧ r = ready c type e := by
  simp only [prepare, check_bind_eq_ok_iff, pure_eq_ok_iff, mapError_eq_ok_iff, ready]
  exact and_congr_right fun _ => and_congr_right fun _ => eq_comm

theorem identify_eq_ok_iff {fresh : String} {e e' : E} :
    identify s fresh e = .ok e' ↔
      (Text.isBlank (key e) = true ∧ e' = withId e fresh) ∨
        (Text.isBlank (key e) = false ∧ get? (E := E) s (key e) = .ok none ∧ e' = e) := by
  rw [identify]
  cases Text.isBlank (key e) with
  | true => simp [eq_comm]
  | false =>
      rw [if_neg (by simp), bind_eq_ok_iff]
      constructor
      · rintro ⟨found, hget, hfound⟩
        cases found with
        | none => exact .inr ⟨rfl, hget, (pure_eq_ok_iff.1 hfound).symm⟩
        | some stored => cases hfound
      · rintro (⟨htrue, -⟩ | ⟨-, hget, rfl⟩)
        · cases htrue
        · exact ⟨none, hget, rfl⟩

theorem planScope_eq_ok_iff {id : String} {missing : Conflict}
    {r : Except Priority.OutOfRange (Priority.Reordered E)} {plan : Plan E} :
    planScope id missing r = .ok plan ↔ ∃ change, r = .ok change ∧
      change.altered.find? (fun e => key e == id) = some plan.result ∧
        plan.writes = change.altered := by
  simp only [planScope, bind_eq_ok_iff, mapError_eq_ok_iff]
  refine exists_congr fun change => and_congr_right fun _ => ?_
  cases change.altered.find? (fun e => key e == id) with
  | none => simp
  | some e =>
      obtain ⟨result, writes⟩ := plan
      simp [pure_eq_ok_iff, eq_comm]

theorem key_of_find?_altered {altered : List E} {id : String} {a : E}
    (h : altered.find? (fun e => key e == id) = some a) : a ∈ altered ∧ key a = id := by
  have hkey := List.find?_some h
  exact ⟨List.mem_of_find?_eq_some h, by simpa using hkey⟩

/-! ## Plans -/

theorem planCreate_eq_ok_iff [PatternEngine] {fresh : String} {e : E} {plan : Plan E} :
    planCreate c s fresh type e = .ok plan ↔
      ∃ identified r es change, identify s fresh e = .ok identified ∧
        prepare c s type identified = .ok r ∧ scopeOf s r = .ok es ∧
        checkDuplicates r es = .ok () ∧ Priority.add r es = .ok change ∧
        change.altered.find? (fun a => key a == key r) = some plan.result ∧
        plan.writes = change.altered := by
  simp only [planCreate, bind_eq_ok_iff, planScope_eq_ok_iff]
  constructor
  · rintro ⟨identified, hidentified, r, hr, es, hes, _, hdistinct, change, hchange⟩
    exact ⟨identified, r, es, change, hidentified, hr, hes, hdistinct, hchange⟩
  · rintro ⟨identified, r, es, change, hidentified, hr, hes, hdistinct, hchange⟩
    exact ⟨identified, hidentified, r, hr, es, hes, (), hdistinct, change, hchange⟩

theorem planUpdate_eq_ok_iff [PatternEngine] {e : E} {plan : Plan E} :
    planUpdate c s type e = .ok plan ↔
      ∃ stored r es, find s (key e) = .ok stored ∧ prepare c s type e = .ok r ∧
        changedField? r stored = none ∧ scopeOf s r = .ok es ∧ checkDuplicates r es = .ok () ∧
        if priority r = priority stored then plan = ⟨r, [r]⟩
        else ∃ change, Priority.update r es (priority stored) = .ok change ∧
          change.altered.find? (fun a => key a == key r) = some plan.result ∧
          plan.writes = change.altered := by
  simp only [planUpdate, bind_eq_ok_iff]
  have hlast : ∀ (stored r : E) (es : List E),
      (if priority r = priority stored then pure ⟨r, [r]⟩
        else planScope (key r) (.updatedMissing (label E) (key r))
          (Priority.update r es (priority stored))) = .ok plan ↔
        if priority r = priority stored then plan = ⟨r, [r]⟩
        else ∃ change, Priority.update r es (priority stored) = .ok change ∧
          change.altered.find? (fun a => key a == key r) = some plan.result ∧
          plan.writes = change.altered := by
    intro stored r es
    split
    · rw [pure_eq_ok_iff, eq_comm]
    · rw [planScope_eq_ok_iff]
  simp only [hlast]
  constructor
  · rintro ⟨stored, hstored, r, hr, _, hunchanged, es, hes, _, hdistinct, hplan⟩
    exact ⟨stored, r, es, hstored, hr, checkUnchanged_eq_ok_iff.1 hunchanged, hes, hdistinct, hplan⟩
  · rintro ⟨stored, r, es, hstored, hr, hunchanged, hes, hdistinct, hplan⟩
    exact ⟨stored, hstored, r, hr, (), checkUnchanged_eq_ok_iff.2 hunchanged, es, hes, (),
      hdistinct, hplan⟩

theorem planMove_eq_ok_iff {id : String} {new : Int} {altered : List E} :
    planMove s id new = .ok altered ↔
      ∃ (stored : E) (es : List E) (change : Priority.Reordered E), find s id = .ok stored ∧
        scopeOf s stored = .ok es ∧ Priority.change es (priority stored) new = .ok change ∧
        (∃ a ∈ change.altered, key a = id) ∧ altered = change.altered := by
  simp only [planMove, bind_eq_ok_iff, pure_eq_ok_iff, planScope_eq_ok_iff]
  constructor
  · rintro ⟨stored, hstored, es, hes, plan, ⟨change, hchange, hfind, hwrites⟩, rfl⟩
    have hkey := List.find?_some hfind
    exact ⟨stored, es, change, hstored, hes, hchange,
      ⟨plan.result, List.mem_of_find?_eq_some hfind, by simpa using hkey⟩, hwrites⟩
  · rintro ⟨stored, es, change, hstored, hes, hchange, ⟨a, ha, hkey⟩, rfl⟩
    cases hfind : change.altered.find? (fun e => key e == id) with
    | none => exact absurd hkey (by simpa using List.find?_eq_none.1 hfind a ha)
    | some result =>
        exact ⟨stored, hstored, es, hes, ⟨result, change.altered⟩, ⟨change, hchange, hfind, rfl⟩,
          rfl⟩

end Rulebook.Admin
