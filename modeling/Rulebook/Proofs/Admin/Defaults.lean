import Rulebook.Proofs.Admin.Admission

/-!
# Rulebook.Proofs.Admin.Defaults

Requests that leave the application type to the settings.

A record without an application type is given that of the request, and if there is none either, the
default one.  Settings are accepted if their default is among the configured types; that it is not
blank is asked of the type of a record only.  So a default can be accepted that no record can have:

* `failsOnly_validateRule`, `failsOnly_checkRanges` — no tree is refused for an application type;
* `failsOnly_prepare` — nor is a record whose type is configured, and that of its request;
* `resolvedType_of_blank` — the type of a record that leaves it to the settings;
* `usable_default_iff` — which of the accepted settings have a default that can be used.
-/

namespace Rulebook

open Prioritized RuleKind

/-! ## Errors about application types -/

/-- The application type of a record, or that of the request, is the reason of the refusal. -/
def ValidationError.isAboutType : ValidationError → Bool
  | .blankApplicationType => true
  | .unknownApplicationType _ => true
  | .applicationTypeMismatch _ _ => true
  | _ => false

def AdminError.isAboutType : AdminError → Bool
  | .validation error => error.isAboutType
  | _ => false

/-! ## Trees -/

namespace Validation

theorem failsOnly_checkParts (index : Nat) (parts : List Rule) :
    FailsOnly (·.isAboutType = false) (checkParts index parts) := by
  induction parts generalizing index with
  | nil => exact failsOnly_ok ()
  | cons part rest ih =>
      rw [checkParts]
      exact failsOnly_ite (failsOnly_error rfl) (failsOnly_ite (failsOnly_error rfl) (ih _))

theorem failsOnly_checkStructure (r : Rule) :
    FailsOnly (·.isAboutType = false) (checkStructure r) :=
  failsOnly_ite (failsOnly_error rfl) (failsOnly_checkParts 0 r.parts)

theorem failsOnly_checkLaterRelations (index : Nat) (parts : List Rule) :
    FailsOnly (·.isAboutType = false) (checkLaterRelations index parts) := by
  induction parts generalizing index with
  | nil => exact failsOnly_ok ()
  | cons part rest ih =>
      rw [checkLaterRelations]
      exact failsOnly_ite (failsOnly_error rfl) (ih _)

theorem failsOnly_checkRelations (r : Rule) :
    FailsOnly (·.isAboutType = false) (checkRelations r) := by
  rw [checkRelations]
  cases r.parts with
  | nil => exact failsOnly_ok ()
  | cons first rest =>
      exact failsOnly_ite (failsOnly_error rfl) (failsOnly_checkLaterRelations 1 rest)

theorem failsOnly_checkBlanks (c : Condition) :
    FailsOnly (·.isAboutType = false) (checkBlanks c) := by
  refine failsOnly_ite (failsOnly_error rfl) (failsOnly_ite (failsOnly_error rfl)
    (failsOnly_ite (failsOnly_ok ()) ?_))
  cases c.fixedArg with
  | none => exact failsOnly_error rfl
  | some value => exact failsOnly_ite (failsOnly_error rfl) (failsOnly_ok ())

theorem failsOnly_checkOperation (operation : String) (allowed : List String) :
    FailsOnly (·.isAboutType = false) (checkOperation operation allowed) :=
  failsOnly_ite (failsOnly_ok ()) (failsOnly_error rfl)

theorem failsOnly_checkValue [PatternEngine] (c : Condition) :
    FailsOnly (·.isAboutType = false) (checkValue c) := by
  rw [checkValue]
  cases c.fixedArg with
  | none => exact failsOnly_ok ()
  | some value =>
      refine failsOnly_ite (failsOnly_error rfl) (failsOnly_ite (failsOnly_error rfl) ?_)
      cases repeatedItems (value.asCollection?.getD []) with
      | nil => exact failsOnly_ok ()
      | cons a rest => exact failsOnly_error rfl

theorem failsOnly_checkCondition [PatternEngine] (allowed : List String) (c : Condition) :
    FailsOnly (·.isAboutType = false) (checkCondition allowed c) :=
  (failsOnly_checkBlanks c).bind fun _ _ =>
    (failsOnly_checkOperation c.operation allowed).bind fun _ _ => failsOnly_checkValue c

/-- No tree is refused for an application type. -/
theorem failsOnly_validateRule [PatternEngine] (r : Rule) (allowed : List String) :
    FailsOnly (·.isAboutType = false) (validateRule r allowed) := by
  rw [validateRule]
  dsimp only
  refine failsOnly_ite (failsOnly_error rfl) ?_
  refine (failsOnly_checkStructure r).bind fun _ _ => ?_
  refine (failsOnly_checkRelations r).bind fun _ _ => ?_
  refine (failsOnly_forM fun c _ => failsOnly_checkCondition allowed c).bind fun _ _ => ?_
  exact failsOnly_ite (failsOnly_ok ()) (failsOnly_error rfl)

theorem failsOnly_percentRanges (r : Rule) :
    FailsOnly (·.isAboutType = false) (percentRanges r) := by
  refine failsOnly_mapM fun s _ => ?_
  cases Percent.readRange s with
  | ok range => exact failsOnly_ok range
  | error error => exact failsOnly_error rfl

theorem failsOnly_validateRanges (ranges : List Percent.Range) :
    FailsOnly (·.isAboutType = false) (validateRanges ranges) := by
  rw [validateRanges]
  cases Percent.validateRanges ranges with
  | ok _ => exact failsOnly_ok ()
  | error error => exact failsOnly_error rfl

end Validation

/-! ## Records -/

namespace FeatureRule

theorem failsOnly_checkCount (r : FeatureRule) (max : Nat) :
    FailsOnly (·.isAboutType = false) (r.checkCount max) :=
  failsOnly_ite (failsOnly_error rfl) (failsOnly_ite (failsOnly_error rfl) (failsOnly_ok ()))

theorem failsOnly_checkRanges (r : FeatureRule) :
    FailsOnly (·.isAboutType = false) r.checkRanges :=
  (Validation.failsOnly_percentRanges r.rule).bind fun ranges _ =>
    Validation.failsOnly_validateRanges ranges

/-- A feature of another application type is refused as such a feature. -/
theorem failsOnly_checkFeature (r : FeatureRule) (s : Store) (id : String) :
    FailsOnly (·.isAboutType = false) (r.checkFeature s id) := by
  refine FailsOnly.bind (.mapError fun _ _ => rfl) fun found _ => ?_
  cases found with
  | none => exact failsOnly_error rfl
  | some feature => exact failsOnly_ite (failsOnly_error rfl) (failsOnly_ok ())

end FeatureRule

namespace Admin

/-- The kinds compare the type of a record with that of its request, if they look at it at all. -/
theorem failsOnly_check {k : Kind} {e : k.Record} {context : Context}
    (h : applicationType e = context.applicationType) :
    FailsOnly (·.isAboutType = false) (RuleKind.check context e) := by
  cases k with
  | firmwareRule => exact failsOnly_ok ()
  | template => exact failsOnly_ite (failsOnly_error rfl) (failsOnly_ok ())
  | featureRule =>
      refine (FailsOnly.mapError (FeatureRule.failsOnly_checkCount e _)).bind fun _ _ => ?_
      refine (failsOnly_forM fun id _ => FeatureRule.failsOnly_checkFeature e _ id).bind
        fun _ _ => ?_
      have htype : FeatureRule.applicationType e = context.applicationType := h
      have hrequest : FeatureRule.checkRequestType e context.applicationType = .ok () :=
        if_neg (by simp [htype])
      rw [hrequest]
      exact FailsOnly.mapError (FeatureRule.failsOnly_checkRanges e)

section Records

variable {k : Kind} {c : Config} {s : Store} {type : String} {e : k.Record}

/-- A record whose type is configured, and that of its request, is not refused for it. -/
theorem failsOnly_prepare [PatternEngine]
    (hconfigured : c.checkApplicationType (resolvedType c type e) = .ok ())
    (hrequest : resolvedType c type e = requestType c type) :
    FailsOnly (·.isAboutType = false) (prepare c s type e) := by
  have htype : applicationType (ready c type e) = requestType c type := by
    rw [applicationType_ready, applicationType_withType, hrequest]
  rw [← applicationType_withType] at hconfigured
  rw [prepare, hconfigured]
  refine (failsOnly_ok ()).bind fun _ _ => ?_
  refine FailsOnly.bind ?_ fun _ _ => failsOnly_ok _
  refine (FailsOnly.mapError (Validation.failsOnly_validateRule _ _)).bind fun _ _ => ?_
  exact failsOnly_ite (failsOnly_error rfl) (failsOnly_check htype)

theorem failsOnly_identify (s : Store) (fresh : String) (e : k.Record) :
    FailsOnly (·.isAboutType = false) (identify s fresh e) := by
  refine failsOnly_ite (failsOnly_ok _) ?_
  refine FailsOnly.bind (.mapError fun _ _ => rfl) fun found _ => ?_
  cases found with
  | none => exact failsOnly_ok e
  | some stored => exact failsOnly_error rfl

theorem failsOnly_scopeOf (s : Store) (e : k.Record) :
    FailsOnly (·.isAboutType = false) (scopeOf s e) :=
  FailsOnly.bind (.mapError fun _ _ => rfl) fun _ _ => failsOnly_ok _

theorem failsOnly_planScope (id : String) (missing : Conflict)
    (r : Except Priority.OutOfRange (Priority.Reordered k.Record)) :
    FailsOnly (·.isAboutType = false) (planScope id missing r) := by
  refine FailsOnly.bind (.mapError fun _ _ => rfl) fun reordered _ => ?_
  cases reordered.altered.find? fun e => key e == id with
  | some e => exact failsOnly_ok _
  | none => exact failsOnly_error rfl

theorem failsOnly_planCreate [PatternEngine] {fresh : String}
    (hprepare : ∀ e', identify s fresh e = .ok e' →
      FailsOnly (·.isAboutType = false) (prepare c s type e')) :
    FailsOnly (·.isAboutType = false) (planCreate c s fresh type e) := by
  refine (failsOnly_identify s fresh e).bind fun e' hidentify => ?_
  refine (hprepare e' hidentify).bind fun r _ => ?_
  refine (failsOnly_scopeOf s r).bind fun es _ => ?_
  refine (failsOnly_checkDuplicates (fun _ => rfl) (fun _ => rfl) r es).bind fun _ _ => ?_
  exact failsOnly_planScope _ _ _

end Records

/-- The store fails for reasons of its own. -/
theorem failsOnly_save {E : Type} [RuleKind E] (es : List E) (s : Store) :
    FailsOnly (·.isAboutType = false) (save es s).1 := by
  induction es generalizing s with
  | nil => exact failsOnly_ok ()
  | cons e rest ih =>
      rw [save]
      cases (table (E := E)).write s (key e) e with
      | error error => exact failsOnly_error rfl
      | ok s' => exact ih s'

theorem failsOnly_carryOut {E : Type} [RuleKind E] (plan : Plan E) (s : Store) :
    FailsOnly (·.isAboutType = false) (plan.carryOut s).1 := by
  have hsave := failsOnly_save plan.writes s
  rw [Plan.carryOut]
  cases hwritten : save plan.writes s with
  | mk outcome s' =>
      rw [hwritten] at hsave
      cases outcome with
      | ok _ => exact failsOnly_ok _
      | error error => exact failsOnly_error (hsave error rfl)

theorem failsOnly_createWork [PatternEngine] {k : Kind} {a : Admin} {type : String} {e : k.Record}
    {d : Desk} (hprepare : ∀ e', identify d.store (a.newId d.issued) e = .ok e' →
      FailsOnly (·.isAboutType = false) (prepare a.config d.store type e')) :
    FailsOnly (·.isAboutType = false) (createWork a type e d).1 := by
  have hplan := failsOnly_planCreate hprepare
  rw [createWork]
  cases hresult : planCreate a.config d.store (a.newId d.issued) type e with
  | error error => exact failsOnly_error (hplan error hresult)
  | ok plan => exact failsOnly_carryOut plan _

/-! ## Types left to the settings -/

section Blank

variable {k : Kind} {c : Config} {s : Store} {type : String} {e : k.Record}

theorem requestType_of_blank (htype : Text.isBlank type = true) :
    requestType c type = c.defaultApplicationType :=
  if_pos htype

theorem resolvedType_of_blank (he : Text.isBlank (applicationType e) = true)
    (htype : Text.isBlank type = true) : resolvedType c type e = c.defaultApplicationType :=
  (if_pos he).trans (requestType_of_blank htype)

/-- An identifier of its own does not give a record another type. -/
theorem applicationType_of_identify {fresh : String} {e' : k.Record}
    (h : identify s fresh e = .ok e') : applicationType e' = applicationType e := by
  obtain ⟨-, rfl⟩ | ⟨-, -, rfl⟩ := identify_eq_ok_iff.1 h
  · cases k <;> rfl
  · rfl

theorem prepare_of_blank_default [PatternEngine]
    (hdefault : Text.isBlank c.defaultApplicationType = true)
    (he : Text.isBlank (applicationType e) = true) (htype : Text.isBlank type = true) :
    prepare c s type e = .error (.validation .blankApplicationType) := by
  have hrefused : c.checkApplicationType (applicationType (withType c type e)) =
      .error .blankApplicationType := by
    rw [applicationType_withType, resolvedType_of_blank he htype]
    exact if_pos hdefault
  rw [prepare, hrefused]
  rfl

end Blank

end Admin

/-! ## Settings -/

namespace Config

/-- The default of settings that are accepted is among the configured types. -/
theorem mem_of_validate {c : Config} (h : c.validate = .ok ()) :
    c.defaultApplicationType ∈ c.applicationTypes := by
  rw [validate, ite_error_eq_ok_iff, ite_error_eq_ok_iff] at h
  simpa [knows] using h.2.1

/-- Settings that are read are accepted. -/
theorem validate_of_read {text : String} {c : Config} (h : read text = .ok c) :
    c.validate = .ok () := by
  rw [read] at h
  split at h
  · cases h
  · next c' _ =>
      split at h
      · next hvalid =>
          cases h
          exact hvalid
      · cases h

end Config

namespace Admin

/-- No record that leaves its type to the settings is refused for it. -/
def UsableDefault [PatternEngine] (a : Admin) : Prop :=
  ∀ (k : Kind) (e : k.Record) (type owner : String) (w : World),
    Text.isBlank (applicationType e) = true → Text.isBlank type = true →
      ∀ error, (create a e type owner w).1 = .error error → error.isAboutType = false

variable {a : Admin}

theorem usableDefault_of_validate [PatternEngine] (h : a.config.validate = .ok ())
    (hdefault : Text.isBlank a.config.defaultApplicationType = false) : a.UsableDefault := by
  intro k e type owner w he htype
  refine failsOnly_underLock a.config _ owner rfl rfl (failsOnly_createWork fun e' hidentify => ?_)
  have he' : Text.isBlank (applicationType e') = true := by
    rwa [applicationType_of_identify hidentify]
  have hresolved : resolvedType a.config type e' = a.config.defaultApplicationType :=
    resolvedType_of_blank he' htype
  refine failsOnly_prepare ?_ (hresolved.trans (requestType_of_blank htype).symm)
  rw [hresolved]
  exact checkApplicationType_eq_ok_iff.2 ⟨hdefault, Config.mem_of_validate h⟩

/-- With a blank default, no record is created whose type is left to the settings. -/
theorem create_of_blank_default [PatternEngine]
    (hdefault : Text.isBlank a.config.defaultApplicationType = true) {k : Kind} {e : k.Record}
    {type : String} (he : Text.isBlank (applicationType e) = true)
    (htype : Text.isBlank type = true) (owner : String) (w : World) (r : k.Record) :
    (create a e type owner w).1 ≠ .ok r := by
  intro hcreate
  have hwork := underLock_eq_ok (Prod.ext hcreate rfl)
  obtain ⟨plan, hplan, -⟩ := createWork_eq_ok hwork
  obtain ⟨e', r', -, -, hidentify, hprepare, -⟩ := planCreate_eq_ok_iff.1 hplan
  have he' : Text.isBlank (applicationType e') = true := by
    rwa [applicationType_of_identify hidentify]
  rw [prepare_of_blank_default hdefault he' htype] at hprepare
  cases hprepare

/-- The refusal, where nothing else is in the way. -/
theorem create_untypedRule [PatternEngine]
    (hdefault : Text.isBlank a.config.defaultApplicationType = true) :
    (create a untypedRule "" "admin" {}).1 = .error (.validation .blankApplicationType) := by
  have hfree : (World.lock {} a.config Kind.firmwareRule.tableName).owner = none := rfl
  obtain ⟨w', hrun, -⟩ := underLock_of_free "admin" (createWork a "" untypedRule) hfree rfl
  have hidentify : identify (Desk.synced {}).store (a.newId 0) untypedRule = .ok untypedRule :=
    identify_eq_ok_iff.2 (.inr ⟨by decide +kernel, get?_eq_ok_iff.2 ⟨rfl, rfl, fun _ => rfl⟩, rfl⟩)
  have hplan : planCreate a.config (Desk.synced {}).store (a.newId 0) "" untypedRule =
      .error (.validation .blankApplicationType) := by
    rw [planCreate, hidentify]
    show prepare a.config _ "" untypedRule >>= _ = _
    rw [prepare_of_blank_default hdefault (by decide +kernel) (by decide +kernel)]
    rfl
  rw [create, ← Kind.tableName, hrun, fst_createWork rfl]
  exact congrArg (Except.map Plan.result) hplan

/-- **Which settings have a default that can be used**: of those that are accepted, the ones whose
default is not blank.  With a blank one no record is created at all whose type is left to the
settings. -/
theorem usable_default_iff [PatternEngine] (h : a.config.validate = .ok ()) :
    (a.UsableDefault ↔ Text.isBlank a.config.defaultApplicationType = false) ∧
      (Text.isBlank a.config.defaultApplicationType = true →
        ∀ (k : Kind) (e : k.Record) (type owner : String) (w : World),
          Text.isBlank (applicationType e) = true → Text.isBlank type = true →
            ∀ r, (create a e type owner w).1 ≠ .ok r) := by
  refine ⟨⟨fun husable => ?_, usableDefault_of_validate h⟩,
    fun hdefault k e type owner w he htype => create_of_blank_default hdefault he htype owner w⟩
  cases hdefault : Text.isBlank a.config.defaultApplicationType with
  | false => rfl
  | true =>
      exact husable .firmwareRule untypedRule "" "admin" {} (by decide +kernel)
        (by decide +kernel) _ (create_untypedRule hdefault)

/-- Settings with a blank application type, which is the default one too. -/
def blankDefault : Config :=
  { applicationTypes := [" "], defaultApplicationType := " " }

def blankDefaultText : String :=
  "\x7b\"application_types\": [\" \"], \"default_application_type\": \" \"\x7d"

/-- Both these settings and the default ones are accepted, and the default ones only have a default
that can be used. -/
theorem usable_default_stb :
    Config.validate {} = .ok () ∧ UsableDefault { newId := toString } ∧
      blankDefault.validate = .ok () ∧
      ¬UsableDefault { config := blankDefault, newId := toString } := by
  have hstb := usable_default_iff (a := { newId := toString }) rfl
  have hblank := usable_default_iff (a := { config := blankDefault, newId := toString }) rfl
  refine ⟨rfl, hstb.1.2 (by decide +kernel), rfl, fun husable => ?_⟩
  have hnot := hblank.1.1 husable
  revert hnot
  decide +kernel

/-- The settings are read, and a rule that leaves its type to them is refused for it. -/
theorem unusable_blankDefault :
    Config.read blankDefaultText = .ok blankDefault ∧
      (create { config := blankDefault, newId := toString } untypedRule "" "admin" {}).1 =
        .error (.validation .blankApplicationType) ∧
      ¬∀ a : Admin, a.config.validate = .ok () → a.UsableDefault := by
  have hread : Config.read blankDefaultText = .ok blankDefault :=
    eq_ok_of_toOption (by decide +kernel)
  have hrefused : (create { config := blankDefault, newId := toString } untypedRule "" "admin" {}).1
      = .error (.validation .blankApplicationType) := create_untypedRule (by decide +kernel)
  refine ⟨hread, hrefused, fun husable => ?_⟩
  have hother := husable { config := blankDefault, newId := toString }
    (Config.validate_of_read hread) .firmwareRule untypedRule "" "admin" {} (by decide +kernel)
    (by decide +kernel) _ hrefused
  cases hother

end Admin

end Rulebook
