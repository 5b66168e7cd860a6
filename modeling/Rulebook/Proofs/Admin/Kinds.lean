import Rulebook.Admin.Kind
import Rulebook.Proofs.Codec.Records
import Rulebook.Proofs.Priority.Order

/-!
# Rulebook.Proofs.Admin.Kinds

The laws of the kinds of rule records.

What is proved of the operations holds for every kind that is lawful (`LawfulKind`): writing a field
changes no other field, scopes partition the records, and a record reads back from its document.
The three kinds are lawful, and `Kind` ranges over them.
-/

namespace Rulebook

open Prioritized RuleKind

/-- The laws of a kind of rule records. -/
class LawfulKind (E : Type) [RuleKind E] : Prop extends LawfulPrioritized E where
  rule_withPriority (e : E) (p : Int) : rule (withPriority e p) = rule e := by intros; rfl
  name_withPriority (e : E) (p : Int) : name (withPriority e p) = name e := by intros; rfl
  applicationType_withPriority (e : E) (p : Int) :
    applicationType (withPriority e p) = applicationType e := by intros; rfl
  key_withId (e : E) (id : String) : key (withId e id) = id := by intros; rfl
  priority_withId (e : E) (id : String) : priority (withId e id) = priority e := by intros; rfl
  rule_withId (e : E) (id : String) : rule (withId e id) = rule e := by intros; rfl
  key_withRule (e : E) (r : Rule) : key (withRule e r) = key e := by intros; rfl
  priority_withRule (e : E) (r : Rule) : priority (withRule e r) = priority e := by intros; rfl
  rule_withRule (e : E) (r : Rule) : rule (withRule e r) = r := by intros; rfl
  applicationType_withRule (e : E) (r : Rule) :
    applicationType (withRule e r) = applicationType e := by intros; rfl
  withRule_rule (e : E) : withRule e (rule e) = e := by intros; rfl
  key_withApplicationType (e : E) (type : String) :
    key (withApplicationType e type) = key e := by intros; rfl
  priority_withApplicationType (e : E) (type : String) :
    priority (withApplicationType e type) = priority e := by intros; rfl
  rule_withApplicationType (e : E) (type : String) :
    rule (withApplicationType e type) = rule e := by intros; rfl
  /-- Every record is in exactly one scope. -/
  sameScope_equivalence : Equivalence fun a b : E => sameScope a b = true
  /-- A priority does not decide the scope. -/
  sameScope_withPriority (e : E) (p : Int) : sameScope (withPriority e p) e = true
  /-- The fields that decide the scope may not change. -/
  sameScope_of_changedField? {new stored : E} : changedField? new stored = none →
    sameScope new stored = true
  decode_encode {e : E} : Json.IsInt32 (priority e) →
    (table (E := E)).decode ((table (E := E)).encode e) = some (withRule e (rule e).written)
  finite_of_decode {doc : Json} {e : E} : doc.IsProper → (table (E := E)).decode doc = some e →
    (rule e).IsFinite ∧ Json.IsInt32 (priority e)

attribute [simp] LawfulKind.rule_withPriority LawfulKind.name_withPriority
  LawfulKind.applicationType_withPriority LawfulKind.key_withId LawfulKind.priority_withId
  LawfulKind.rule_withId LawfulKind.key_withRule LawfulKind.priority_withRule
  LawfulKind.rule_withRule LawfulKind.applicationType_withRule LawfulKind.withRule_rule
  LawfulKind.key_withApplicationType LawfulKind.priority_withApplicationType
  LawfulKind.rule_withApplicationType LawfulKind.sameScope_withPriority

/-! ## The kinds -/

instance : LawfulKind FirmwareRule where
  sameScope_equivalence := by
    simp only [sameScope, beq_iff_eq]
    exact ⟨fun _ => rfl, Eq.symm, Eq.trans⟩
  sameScope_withPriority _ _ := beq_self_eq_true _
  sameScope_of_changedField? h := by
    simpa [changedField?, sameScope] using h
  decode_encode h := FirmwareRule.ofJson?_toJson h
  finite_of_decode hj h := FirmwareRule.finite_of_ofJson? hj h

instance : LawfulKind Template where
  sameScope_equivalence := by
    simp only [sameScope, Bool.and_eq_true, beq_iff_eq]
    exact ⟨fun _ => ⟨rfl, rfl⟩, fun h => ⟨h.1.symm, h.2.symm⟩,
      fun h h' => ⟨h.1.trans h'.1, h.2.trans h'.2⟩⟩
  sameScope_withPriority _ _ := by simp [sameScope, withPriority]
  sameScope_of_changedField? h := by
    simp only [changedField?] at h
    split at h
    · cases h
    · split at h
      · cases h
      · next htype haction =>
          simp only [bne_iff_ne, ne_eq, Decidable.not_not] at htype haction
          simp [sameScope, htype, haction]
  decode_encode h := Template.ofJson?_toJson h
  finite_of_decode hj h := Template.finite_of_ofJson? hj h

instance : LawfulKind FeatureRule where
  sameScope_equivalence := by
    simp only [sameScope, beq_iff_eq]
    exact ⟨fun _ => rfl, Eq.symm, Eq.trans⟩
  sameScope_withPriority _ _ := beq_self_eq_true _
  sameScope_of_changedField? h := by
    simpa [changedField?, sameScope] using h
  decode_encode h := FeatureRule.ofJson?_toJson h
  finite_of_decode hj h := FeatureRule.finite_of_ofJson? hj h

/-- The kinds of rule records. -/
inductive Kind where
  | firmwareRule
  | template
  | featureRule
  deriving DecidableEq

namespace Kind

/-- The records of a kind. -/
def Record : Kind → Type
  | firmwareRule => FirmwareRule
  | template => Template
  | featureRule => FeatureRule

instance : (k : Kind) → RuleKind k.Record
  | firmwareRule => inferInstanceAs (RuleKind FirmwareRule)
  | template => inferInstanceAs (RuleKind Template)
  | featureRule => inferInstanceAs (RuleKind FeatureRule)

instance : (k : Kind) → LawfulKind k.Record
  | firmwareRule => inferInstanceAs (LawfulKind FirmwareRule)
  | template => inferInstanceAs (LawfulKind Template)
  | featureRule => inferInstanceAs (LawfulKind FeatureRule)

/-- The name of the kind's table. -/
def tableName (k : Kind) : String :=
  (table (E := k.Record)).name

/-- Each kind has a table of its own. -/
theorem tableName_injective {k k' : Kind} (h : k.tableName = k'.tableName) : k = k' := by
  cases k <;> cases k' <;> first | rfl | (revert h; decide)

/-- The lists of allowed operations are in upper case. -/
theorem upperAscii_of_mem_allowed (k : Kind) :
    ∀ operation ∈ allowed k.Record, Text.upperAscii operation = operation := by
  cases k <;> decide +kernel

end Kind

end Rulebook
