import Rulebook.Priority.Basic
import Rulebook.Rule.Codec

/-!
# Rulebook.Record.Template

Firmware-rule templates: the skeletons that firmware rules are made from.

A template is known by its identifier alone, which is also its name.  Templates are ordered among
those of the same application type and action.
-/

namespace Rulebook

/-- What a rule made from a template does when it matches. -/
inductive TemplateAction where
  | rule
  | blockingFilter
  | defineProperties
  deriving DecidableEq

namespace TemplateAction

def toName : TemplateAction → String
  | .rule => "RULE"
  | .blockingFilter => "BLOCKING_FILTER"
  | .defineProperties => "DEFINE_PROPERTIES"

def names : List (String × TemplateAction) :=
  [("RULE", .rule), ("BLOCKING_FILTER", .blockingFilter),
    ("DEFINE_PROPERTIES", .defineProperties)]

def toJson (a : TemplateAction) : Json := .string a.toName

def ofJson? : Json → Option TemplateAction := Json.oneOf? names

end TemplateAction

/-- A firmware-rule template. -/
structure Template where
  id : String := ""
  rule : Rule := {}
  action : TemplateAction := .rule
  properties : SortedMap String := ∅
  bypassFilters : List String := []
  editable : Bool := true
  applicationType : String := ""
  priority : Int := 0

namespace Template

instance : Prioritized Template where
  key := Template.id
  priority := Template.priority
  withPriority t priority := { t with priority }

/-- The template with a property set. -/
def withProperty (t : Template) (key value : String) : Template :=
  { t with properties := t.properties.insert key value }

def toJson (t : Template) : Json :=
  .object [("id", .string t.id), ("rule", t.rule.toJson), ("actionType", t.action.toJson),
    ("properties", .object (t.properties.toList.map fun e => (e.1, .string e.2))),
    ("bypassFilters", .ofStrings t.bypassFilters), ("editable", .bool t.editable),
    ("applicationType", .string t.applicationType), ("priority", .integer t.priority)]

/-- A template is editable only where its document says so. -/
def ofJson? (j : Json) : Option Template := do
  let fields ← j.record? ["id", "rule", "actionType", "properties", "bypassFilters", "editable",
    "applicationType", "priority"]
  let id ← Json.withDefault fields "id" "" Json.string?
  let rule ← Json.withDefault fields "rule" {} Rule.ofJson?
  let action ← Json.withDefault fields "actionType" .rule TemplateAction.ofJson?
  let properties ← Json.withDefault fields "properties" ∅ (Json.map? Json.string?)
  let bypassFilters ← Json.withDefault fields "bypassFilters" [] Json.strings?
  let editable ← Json.withDefault fields "editable" false Json.bool?
  let applicationType ← Json.withDefault fields "applicationType" "" Json.string?
  let priority ← Json.withDefault fields "priority" 0 Json.int32?
  pure { id, rule, action, properties, bypassFilters, editable, applicationType, priority }

end Template

end Rulebook
