import Rulebook.Priority.Basic
import Rulebook.Rule.Codec

/-!
# Rulebook.Record.FeatureRule

Feature rules: a rule tree that switches on a set of features.
-/

namespace Rulebook

/-- A feature rule. -/
structure FeatureRule where
  id : String := ""
  name : String := ""
  rule : Rule := {}
  featureIds : List String := []
  applicationType : String := ""
  priority : Int := 0

namespace FeatureRule

instance : Prioritized FeatureRule where
  key := FeatureRule.id
  priority := FeatureRule.priority
  withPriority r priority := { r with priority }

def toJson (r : FeatureRule) : Json :=
  .object [("id", .string r.id), ("name", .string r.name), ("rule", r.rule.toJson),
    ("featureIds", .ofStrings r.featureIds), ("applicationType", .string r.applicationType),
    ("priority", .integer r.priority)]

def ofJson? (j : Json) : Option FeatureRule := do
  let fields ← j.record? ["id", "name", "rule", "featureIds", "applicationType", "priority"]
  let id ← Json.withDefault fields "id" "" Json.string?
  let name ← Json.withDefault fields "name" "" Json.string?
  let rule ← Json.withDefault fields "rule" {} Rule.ofJson?
  let featureIds ← Json.withDefault fields "featureIds" [] Json.strings?
  let applicationType ← Json.withDefault fields "applicationType" "" Json.string?
  let priority ← Json.withDefault fields "priority" 0 Json.int32?
  pure { id, name, rule, featureIds, applicationType, priority }

end FeatureRule

end Rulebook
