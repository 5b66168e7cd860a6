import Rulebook.Proofs.Codec.Rule
import Rulebook.Record.FeatureRule
import Rulebook.Record.FirmwareRule
import Rulebook.Record.Template

/-!
# Rulebook.Proofs.Codec.Records

Rule records read back from their documents.

A record with a 32-bit priority is written without loss but for numbers that are not finite
(`Rule.written`), and a record that was read from a proper document has no such numbers.
-/

namespace Rulebook

/-- A tree in a field that may be left out has finite numbers. -/
theorem Rule.isFinite_of_withDefault {fields : List (String × Json)} {name : String} {r : Rule}
    (hfields : ∀ m ∈ fields, m.2.IsProper)
    (h : Json.withDefault fields name {} ofJson? = some r) : r.IsFinite := by
  rw [Json.withDefault] at h
  split at h
  · next j hj => exact isFinite_of_ofJson? j r (Json.isProper_of_lookup hfields hj) h
  · cases h
    exact isFinite_empty

namespace FirmwareRule

theorem ofJson?_toJson {r : FirmwareRule} (hpriority : Json.IsInt32 r.priority) :
    ofJson? r.toJson = some { r with rule := r.rule.written } := by
  rw [ofJson?, toJson, Json.record?_object _ (by simp)]
  simp [Json.withDefault, List.lookup_cons, Json.string?, Json.bool?, Rule.ofJson?_toJson,
    Json.int32?_integer hpriority]

theorem finite_of_ofJson? {j : Json} {r : FirmwareRule} (hj : j.IsProper)
    (h : ofJson? j = some r) : r.rule.IsFinite ∧ Json.IsInt32 r.priority := by
  simp only [ofJson?, Option.bind_eq_bind, Option.pure_def, Option.bind_eq_some_iff,
    Option.some.injEq] at h
  obtain ⟨fields, hrecord, _, _, _, _, rule, hrule, _, _, _, _, priority, hpriority, _, _, rfl⟩ := h
  exact ⟨Rule.isFinite_of_withDefault (Json.isProper_of_record? hj hrecord) hrule,
    Json.isInt32_of_withDefault hpriority⟩

end FirmwareRule

namespace FeatureRule

theorem ofJson?_toJson {r : FeatureRule} (hpriority : Json.IsInt32 r.priority) :
    ofJson? r.toJson = some { r with rule := r.rule.written } := by
  rw [ofJson?, toJson, Json.record?_object _ (by simp)]
  simp [Json.withDefault, List.lookup_cons, Json.string?, Rule.ofJson?_toJson,
    Json.strings?_ofStrings, Json.int32?_integer hpriority]

theorem finite_of_ofJson? {j : Json} {r : FeatureRule} (hj : j.IsProper)
    (h : ofJson? j = some r) : r.rule.IsFinite ∧ Json.IsInt32 r.priority := by
  simp only [ofJson?, Option.bind_eq_bind, Option.pure_def, Option.bind_eq_some_iff,
    Option.some.injEq] at h
  obtain ⟨fields, hrecord, _, _, _, _, rule, hrule, _, _, _, _, priority, hpriority, rfl⟩ := h
  exact ⟨Rule.isFinite_of_withDefault (Json.isProper_of_record? hj hrecord) hrule,
    Json.isInt32_of_withDefault hpriority⟩

end FeatureRule

theorem TemplateAction.ofJson?_toJson (a : TemplateAction) : ofJson? a.toJson = some a := by
  cases a <;> rfl

namespace Template

theorem ofJson?_toJson {t : Template} (hpriority : Json.IsInt32 t.priority) :
    ofJson? t.toJson = some { t with rule := t.rule.written } := by
  have hproperties :=
    @Json.map?_object String Json.string Json.string? (fun _ => rfl) t.properties
  rw [ofJson?, toJson, Json.record?_object _ (by simp)]
  simp [Json.withDefault, List.lookup_cons, Json.string?, Json.bool?, hproperties,
    Rule.ofJson?_toJson, TemplateAction.ofJson?_toJson, Json.strings?_ofStrings,
    Json.int32?_integer hpriority]

theorem finite_of_ofJson? {j : Json} {t : Template} (hj : j.IsProper)
    (h : ofJson? j = some t) : t.rule.IsFinite ∧ Json.IsInt32 t.priority := by
  simp only [ofJson?, Option.bind_eq_bind, Option.pure_def, Option.bind_eq_some_iff,
    Option.some.injEq] at h
  obtain ⟨fields, hrecord, _, _, rule, hrule, _, _, _, _, _, _, _, _, _, _, priority, hpriority,
    rfl⟩ := h
  exact ⟨Rule.isFinite_of_withDefault (Json.isProper_of_record? hj hrecord) hrule,
    Json.isInt32_of_withDefault hpriority⟩

end Template

end Rulebook
