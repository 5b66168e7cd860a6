import Rulebook.Admin.Error
import Rulebook.Config
import Rulebook.Rule.Basic
import Rulebook.Store.Table
import Rulebook.Validation.Rule

/-!
# Rulebook.Admin.Kind

The kinds of rule records that are administered.

Firmware rules, templates and feature rules are administered alike: each kind has a table, a list of
allowed operations, and scopes within which its priorities are dense.  What is special about a kind
is which scope a record belongs to, which fields may not change, and what else is checked before a
record is stored or deleted.
-/

namespace Rulebook

/-- What the checks of a kind may consult besides the record itself. -/
structure Context where
  store : Store
  config : Config
  /-- The application type of the request, or the default where it names none. -/
  applicationType : String

/-- A kind of records that hold a rule tree and a priority. -/
class RuleKind (E : Type) extends Prioritized E where
  table : Table E
  label : String
  allowed : List String
  name : E → String
  rule : E → Rule
  withRule : E → Rule → E
  withId : E → String → E
  applicationType : E → String
  withApplicationType : E → String → E
  /-- The records share one sequence of priorities. -/
  sameScope : E → E → Bool := fun a b => applicationType a == applicationType b
  /-- A field in which a record differs from its stored version, though it may not. -/
  changedField? : E → E → Option String := fun new stored =>
    if applicationType new == applicationType stored then none else some "ApplicationType"
  /-- The checks of the kind before a record is stored. -/
  check : Context → E → Except AdminError Unit := fun _ _ => .ok ()
  /-- The checks of the kind before a record is deleted. -/
  checkDeletable : Store → E → Except AdminError Unit := fun _ _ => .ok ()

/-! ## Firmware rules -/

instance : RuleKind FirmwareRule where
  table := firmwareRules
  label := "FirmwareRule"
  allowed := Operation.firmware
  name := FirmwareRule.name
  rule := FirmwareRule.rule
  withRule r rule := { r with rule }
  withId r id := { r with id }
  applicationType := FirmwareRule.applicationType
  withApplicationType r applicationType := { r with applicationType }

/-! ## Templates -/

namespace Template

/-- The properties that a template defines have names. -/
def checkProperties (t : Template) : Except AdminError Unit :=
  if t.action = .defineProperties && t.properties.keys.any Text.isBlank then
    .error (.validation .blankPropertyKey)
  else .ok ()

/-- No firmware rule is made from the template. -/
def checkUnused (t : Template) (s : Store) : Except AdminError Unit := do
  let rules ← (firmwareRules.all s).mapError .store
  match (rules.filter fun r => r.templateId == t.id).map FirmwareRule.name with
  | [] => .ok ()
  | users => .error (.conflict (.templateInUse t.id users))

end Template

instance : RuleKind Template where
  table := templates
  label := "FirmwareRuleTemplate"
  allowed := Operation.firmware
  name := Template.id
  rule := Template.rule
  withRule t rule := { t with rule }
  withId t id := { t with id }
  applicationType := Template.applicationType
  withApplicationType t applicationType := { t with applicationType }
  sameScope a b := a.applicationType == b.applicationType && a.action == b.action
  changedField? new stored :=
    if new.applicationType != stored.applicationType then some "ApplicationType"
    else if new.action != stored.action then some "ActionType"
    else none
  check _ t := t.checkProperties
  checkDeletable s t := t.checkUnused s

/-! ## Feature rules -/

namespace FeatureRule

/-- The rule names features, and not more than allowed. -/
def checkCount (r : FeatureRule) (max : Nat) : Except ValidationError Unit :=
  if r.featureIds.isEmpty then .error .missingFeatures
  else if max < r.featureIds.length then .error (.tooManyFeatures max)
  else .ok ()

/-- A feature that the rule names is there and belongs to the rule's application type. -/
def checkFeature (r : FeatureRule) (s : Store) (id : String) : Except AdminError Unit := do
  match ← (features.get? s id).mapError .store with
  | none => .error (.notFound (.feature id))
  | some feature =>
    if feature.applicationType != r.applicationType then
      .error (.validation
        (.featureApplicationMismatch feature.name feature.applicationType r.applicationType))
    else .ok ()

/-- The rule belongs to the application type of the request. -/
def checkRequestType (r : FeatureRule) (request : String) : Except ValidationError Unit :=
  if r.applicationType != request then .error (.applicationTypeMismatch r.applicationType request)
  else .ok ()

/-- The percent ranges of the rule's tree are in order and share no point. -/
def checkRanges (r : FeatureRule) : Except ValidationError Unit := do
  let ranges ← Validation.percentRanges r.rule
  Validation.validateRanges ranges

/-- All checks of a feature rule. -/
def check (r : FeatureRule) (c : Context) : Except AdminError Unit := do
  (r.checkCount c.config.maxFeatures).mapError .validation
  r.featureIds.forM (r.checkFeature c.store)
  (r.checkRequestType c.applicationType).mapError .validation
  r.checkRanges.mapError .validation

end FeatureRule

instance : RuleKind FeatureRule where
  table := featureRules
  label := "FeatureRule"
  allowed := Operation.feature
  name := FeatureRule.name
  rule := FeatureRule.rule
  withRule r rule := { r with rule }
  withId r id := { r with id }
  applicationType := FeatureRule.applicationType
  withApplicationType r applicationType := { r with applicationType }
  check c r := r.check c

end Rulebook
