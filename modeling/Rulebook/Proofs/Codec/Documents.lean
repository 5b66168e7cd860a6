import Rulebook.Config
import Rulebook.Proofs.Codec.Records
import Rulebook.Record.Feature
import Rulebook.Record.NamedList

/-!
# Rulebook.Proofs.Codec.Documents

Every type that has documents, and that all of its values read back.

A document can hold less than a value: it has no notation for a number that is not finite, and its
whole numbers are read in the range of the field.  `DocumentType.Fits` says that a value stays
within that, and then nothing of it is lost, whatever its shape (`reads_back`): no field that is
left out when it is empty has a default other than that, and no form of one value is taken for
another.
-/

namespace Rulebook

/-! ## Features, lists and settings -/

theorem Feature.ofJson?_toJson (f : Feature) : ofJson? f.toJson = some f := by
  obtain ⟨id, name, applicationType, whitelisted, whitelist⟩ := f
  cases whitelist with
  | none =>
      rw [ofJson?, toJson, Json.record?_object _ (by simp [Json.optionalMember])]
      simp [Json.required, Json.withDefault, Json.optional, Json.optionalMember, List.lookup_cons,
        Json.string?, Json.bool?]
  | some list =>
      rw [ofJson?, toJson, Json.record?_object _ (by simp [Json.optionalMember])]
      simp [Json.required, Json.withDefault, Json.optional, Json.optionalMember, List.lookup_cons,
        Json.string?, Json.bool?]

theorem ListType.ofJson?_toJson (t : ListType) : ofJson? t.toJson = some t := by
  cases t <;> rfl

theorem NamedList.ofJson?_toJson (l : NamedList) : ofJson? l.toJson = some l := by
  rw [ofJson?, toJson, Json.record?_object _ (by simp)]
  simp [Json.required, Json.withDefault, List.lookup_cons, Json.string?,
    ListType.ofJson?_toJson, Json.strings?_ofStrings]

namespace Json

/-- The range of an unsigned 64-bit integer. -/
def IsNat64 (n : Nat) : Prop :=
  n ≤ 18446744073709551615

theorem nat64?_integer {n : Nat} (h : IsNat64 n) : nat64? (.integer n) = some n := by
  have hrange : (0 : Int) ≤ n ∧ (n : Int) ≤ 18446744073709551615 :=
    ⟨Int.natCast_nonneg n, Int.ofNat_le.2 h⟩
  rw [nat64?, integer?, if_pos hrange, Option.map_some, Int.toNat_natCast]

end Json

theorem Config.ofJson?_toJson {c : Config} (hmax : Json.IsNat64 c.maxFeatures)
    (hseconds : Json.IsNat64 c.lockSeconds) : ofJson? c.toJson = some c := by
  rw [ofJson?, toJson, Json.record?_object _ (by simp)]
  simp [Json.withDefault, List.lookup_cons, Json.string?, Json.strings?_ofStrings,
    Json.nat64?_integer hmax, Json.nat64?_integer hseconds]

/-! ## All types of documents -/

/-- The types that have documents. -/
inductive DocumentType where
  | fixedValue
  | condition
  | rule
  | firmwareRule
  | template
  | featureRule
  | feature
  | namedList
  | config
  deriving DecidableEq

namespace DocumentType

/-- The values of a type. -/
def Value : DocumentType → Type
  | fixedValue => FixedValue
  | condition => Condition
  | rule => Rule
  | firmwareRule => FirmwareRule
  | template => Template
  | featureRule => FeatureRule
  | feature => Feature
  | namedList => NamedList
  | config => Config

/-- The document of a value. -/
def encode : (t : DocumentType) → t.Value → Json
  | fixedValue => FixedValue.toJson
  | condition => Condition.toJson
  | rule => Rule.toJson
  | firmwareRule => FirmwareRule.toJson
  | template => Template.toJson
  | featureRule => FeatureRule.toJson
  | feature => Feature.toJson
  | namedList => NamedList.toJson
  | config => Config.toJson

/-- The value of a document, if it is one of the type. -/
def decode : (t : DocumentType) → Json → Option t.Value
  | fixedValue => FixedValue.ofJson?
  | condition => Condition.ofJson?
  | rule => Rule.ofJson?
  | firmwareRule => FirmwareRule.ofJson?
  | template => Template.ofJson?
  | featureRule => FeatureRule.ofJson?
  | feature => Feature.ofJson?
  | namedList => NamedList.ofJson?
  | config => Config.ofJson?

/-- The numbers of a value are finite, priorities have 32 bits, and sizes 64. -/
def Fits : (t : DocumentType) → t.Value → Prop
  | fixedValue, v => FixedValue.IsFinite v
  | condition, c => Condition.IsFinite c
  | rule, r => Rule.IsFinite r
  | firmwareRule, r => (FirmwareRule.rule r).IsFinite ∧ Json.IsInt32 (FirmwareRule.priority r)
  | template, t => (Template.rule t).IsFinite ∧ Json.IsInt32 (Template.priority t)
  | featureRule, r => (FeatureRule.rule r).IsFinite ∧ Json.IsInt32 (FeatureRule.priority r)
  | feature, _ => True
  | namedList, _ => True
  | config, c => Json.IsNat64 (Config.maxFeatures c) ∧ Json.IsNat64 (Config.lockSeconds c)

/-- **Every document reads back** as the value that it was written for. -/
theorem reads_back (t : DocumentType) {x : t.Value} (h : t.Fits x) :
    t.decode (t.encode x) = some x := by
  cases t with
  | fixedValue => exact FixedValue.ofJson?_toJson h
  | condition =>
      have hwritten : Condition.written x = x := Condition.written_of_isFinite h
      exact (Condition.ofJson?_toJson x).trans (congrArg some hwritten)
  | rule =>
      have hwritten : Rule.written x = x := Rule.written_of_isFinite x h
      exact (Rule.ofJson?_toJson x).trans (congrArg some hwritten)
  | firmwareRule =>
      have hwritten := Rule.written_of_isFinite (FirmwareRule.rule x) h.1
      have hread := FirmwareRule.ofJson?_toJson h.2
      rw [hwritten] at hread
      exact hread
  | template =>
      have hwritten := Rule.written_of_isFinite (Template.rule x) h.1
      have hread := Template.ofJson?_toJson h.2
      rw [hwritten] at hread
      exact hread
  | featureRule =>
      have hwritten := Rule.written_of_isFinite (FeatureRule.rule x) h.1
      have hread := FeatureRule.ofJson?_toJson h.2
      rw [hwritten] at hread
      exact hread
  | feature => exact Feature.ofJson?_toJson x
  | namedList => exact NamedList.ofJson?_toJson x
  | config => exact Config.ofJson?_toJson h.1 h.2

/-- A tree of depth three that compares with negative zero, with a list of nothing, and with nothing
at all. -/
def deepRule : Rule :=
  let env : FreeArg := { name := "env", type := .any }
  { parts :=
      [{ condition := some (env.percent (.finite true .zero)) },
        { relation := some .or, negated := true
          parts := [{ condition := some (env.oneOf []) }, { condition := some env.present }] }] }

theorem reads_back_deepRule :
    rule.Fits deepRule ∧ rule.decode (rule.encode deepRule) = some deepRule := by
  have hfits : rule.Fits deepRule := by
    show Rule.IsFinite deepRule
    simp [deepRule, Rule.isFinite_mk, Condition.IsFinite, FixedValue.IsFinite, FreeArg.percent,
      FreeArg.oneOf, FreeArg.present, FreeArg.test, Number.isFinite]
  exact ⟨hfits, reads_back rule hfits⟩

end DocumentType

end Rulebook
