import Rulebook.Priority.Basic
import Rulebook.Rule.Codec

/-!
# Rulebook.Record.FirmwareRule

Firmware rules: a rule tree bound to a template and an application type.

Every field of the document may be absent.  A rule is active unless it says otherwise.
-/

namespace Rulebook

/-- A firmware rule. -/
structure FirmwareRule where
  id : String := ""
  name : String := ""
  rule : Rule := {}
  templateId : String := ""
  applicationType : String := ""
  priority : Int := 0
  active : Bool := true

namespace FirmwareRule

instance : Prioritized FirmwareRule where
  key := FirmwareRule.id
  priority := FirmwareRule.priority
  withPriority r priority := { r with priority }

def toJson (r : FirmwareRule) : Json :=
  .object [("id", .string r.id), ("name", .string r.name), ("rule", r.rule.toJson),
    ("type", .string r.templateId), ("applicationType", .string r.applicationType),
    ("priority", .integer r.priority), ("active", .bool r.active)]

def ofJson? (j : Json) : Option FirmwareRule := do
  let fields ←
    j.record? ["id", "name", "rule", "type", "applicationType", "priority", "active"]
  let id ← Json.withDefault fields "id" "" Json.string?
  let name ← Json.withDefault fields "name" "" Json.string?
  let rule ← Json.withDefault fields "rule" {} Rule.ofJson?
  let templateId ← Json.withDefault fields "type" "" Json.string?
  let applicationType ← Json.withDefault fields "applicationType" "" Json.string?
  let priority ← Json.withDefault fields "priority" 0 Json.int32?
  let active ← Json.withDefault fields "active" true Json.bool?
  pure { id, name, rule, templateId, applicationType, priority, active }

end FirmwareRule

end Rulebook
