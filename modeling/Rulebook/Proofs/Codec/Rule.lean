import Rulebook.Proofs.Codec.Fields
import Rulebook.Rule.Codec

/-!
# Rulebook.Proofs.Codec.Rule

Rule trees read back from their documents.

A number that is not finite is written as null, and a condition with such a number reads back
without anything to compare with.  So a tree has a part that is kept in its document (`written`):

* `ofJson?_toJson` — the document of a tree reads back as that part, whatever the shape and depth;
* `written_of_isFinite` — all of a tree with finite numbers is kept;
* `isFinite_of_ofJson?` — every tree read from a proper document has finite numbers.
-/

namespace Rulebook

/-! ## Finite numbers -/

/-- The value is no number, or a finite one. -/
def FixedValue.IsFinite : FixedValue → Prop
  | .number x => x.isFinite = true
  | _ => True

/-- A number that the condition compares with is finite. -/
def Condition.IsFinite (c : Condition) : Prop :=
  ∀ v ∈ c.fixedArg, v.IsFinite

/-- Every number of the tree is finite. -/
def Rule.IsFinite (r : Rule) : Prop :=
  ∀ c ∈ r.conditions, c.IsFinite

namespace Rule

theorem isFinite_mk (negated : Bool) (relation : Option Relation) (condition : Option Condition)
    (parts : List Rule) :
    IsFinite ⟨negated, relation, condition, parts⟩ ↔
      (∀ c ∈ condition, c.IsFinite) ∧ ∀ p ∈ parts, p.IsFinite := by
  simp only [IsFinite, conditions, partsConditions_eq_flatMap, List.mem_append, List.mem_flatMap,
    Option.mem_toList, Option.mem_def]
  constructor
  · intro h
    exact ⟨fun c hc => h c (.inl hc), fun p hp c hc => h c (.inr ⟨p, hp, hc⟩)⟩
  · rintro ⟨hcondition, hparts⟩ c (hc | ⟨p, hp, hc⟩)
    · exact hcondition c hc
    · exact hparts p hp c hc

theorem isFinite_empty : IsFinite {} := by
  simp [isFinite_mk]

mutual

/-- Normalising changes no number. -/
theorem isFinite_normalize : ∀ r : Rule, r.IsFinite → r.normalize.IsFinite
  | ⟨negated, relation, condition, parts⟩, h => by
      obtain ⟨hcondition, hparts⟩ := (isFinite_mk ..).1 h
      rw [normalize, isFinite_mk]
      refine ⟨fun c hc => ?_, isFinite_normalizeParts parts hparts⟩
      obtain ⟨d, hd, rfl⟩ := Option.map_eq_some_iff.1 hc
      exact hcondition d hd

theorem isFinite_normalizeParts :
    ∀ parts : List Rule, (∀ p ∈ parts, p.IsFinite) → ∀ p ∈ normalizeParts parts, p.IsFinite
  | [], _ => by simp [normalizeParts]
  | part :: rest, h => by
      rw [normalizeParts, List.forall_mem_cons]
      rw [List.forall_mem_cons] at h
      exact ⟨isFinite_normalize part h.1, isFinite_normalizeParts rest h.2⟩

end

end Rule

/-! ## What a document keeps -/

/-- The value, if its document tells it from null. -/
def FixedValue.written? : FixedValue → Option FixedValue
  | .number x => if x.isFinite then some (.number x) else none
  | v => some v

/-- The condition as its document has it. -/
def Condition.written (c : Condition) : Condition :=
  { c with fixedArg := c.fixedArg.bind FixedValue.written? }

namespace Rule

mutual

/-- The tree as its document has it. -/
def written : Rule → Rule
  | ⟨negated, relation, condition, parts⟩ =>
    ⟨negated, relation, condition.map Condition.written, writtenParts parts⟩

def writtenParts : List Rule → List Rule
  | [] => []
  | part :: rest => written part :: writtenParts rest

end

end Rule

theorem FixedValue.written?_of_isFinite {v : FixedValue} (hv : v.IsFinite) :
    v.written? = some v := by
  cases v with
  | number x =>
      have hx : x.isFinite = true := hv
      rw [written?, if_pos hx]
  | _ => rfl

theorem Condition.written_of_isFinite {c : Condition} (hc : c.IsFinite) : c.written = c := by
  obtain ⟨freeArg, operation, fixedArg⟩ := c
  cases fixedArg with
  | none => rfl
  | some v =>
      have hv := FixedValue.written?_of_isFinite (hc v rfl)
      simp [written, hv]

namespace Rule

mutual

theorem written_of_isFinite : ∀ r : Rule, r.IsFinite → r.written = r
  | ⟨negated, relation, condition, parts⟩, h => by
      obtain ⟨hcondition, hparts⟩ := (isFinite_mk ..).1 h
      rw [written, writtenParts_of_isFinite parts hparts]
      cases condition with
      | none => rfl
      | some c => rw [Option.map_some, Condition.written_of_isFinite (hcondition c rfl)]

theorem writtenParts_of_isFinite :
    ∀ parts : List Rule, (∀ p ∈ parts, p.IsFinite) → writtenParts parts = parts
  | [], _ => rfl
  | part :: rest, h => by
      rw [List.forall_mem_cons] at h
      rw [writtenParts, written_of_isFinite part h.1, writtenParts_of_isFinite rest h.2]

end

end Rule

theorem Condition.isFinite_written (c : Condition) : c.written.IsFinite := by
  intro v hv
  obtain ⟨v₀, -, hv⟩ := Option.bind_eq_some_iff.1 hv
  cases v₀ with
  | number x =>
      rw [FixedValue.written?] at hv
      split at hv
      · next hx =>
          cases hv
          exact hx
      · cases hv
  | _ =>
      cases hv
      trivial

namespace Rule

mutual

/-- No number of what a document keeps is lost when it is written again. -/
theorem isFinite_written : ∀ r : Rule, r.written.IsFinite
  | ⟨negated, relation, condition, parts⟩ => by
      rw [written, isFinite_mk]
      refine ⟨fun c hc => ?_, isFinite_writtenParts parts⟩
      obtain ⟨d, -, rfl⟩ := Option.map_eq_some_iff.1 hc
      exact d.isFinite_written

theorem isFinite_writtenParts : ∀ parts : List Rule, ∀ p ∈ writtenParts parts, p.IsFinite
  | [] => by simp [writtenParts]
  | part :: rest => by
      rw [writtenParts, List.forall_mem_cons]
      exact ⟨isFinite_written part, isFinite_writtenParts rest⟩

end

end Rule

/-! ## Conditions -/

theorem FixedValue.ofJson?_toJson {v : FixedValue} (hv : v.IsFinite) :
    ofJson? v.toJson = some v := by
  cases v with
  | bool b => rfl
  | number x =>
      have hx : x.isFinite = true := hv
      rw [toJson, Json.ofNumber, if_pos hx, ofJson?]
  | string s => rfl
  | collection items =>
      simp only [toJson, Json.ofStrings, ofJson?]
      rw [← Json.ofStrings, Json.strings?_ofStrings, Option.map_some]

theorem FixedValue.toJson_ne_null {v : FixedValue} (hv : v.IsFinite) : v.toJson ≠ .null := by
  cases v with
  | number x =>
      have hx : x.isFinite = true := hv
      simp [toJson, Json.ofNumber, hx]
  | _ => simp [toJson, Json.ofStrings]

/-- A value in a field that may be null. -/
theorem FixedValue.optional_toJson {fields : List (String × Json)} {name : String}
    {a : Option FixedValue} (h : fields.lookup name = a.map toJson) :
    Json.optional fields name ofJson? = some (a.bind written?) := by
  cases a with
  | none => rw [Json.optional, h]; rfl
  | some v =>
      by_cases hv : v.IsFinite
      · rw [Option.bind_some, written?_of_isFinite hv]
        refine Json.optional_encoded h ?_ ?_ <;> rintro w ⟨⟩
        · exact ofJson?_toJson hv
        · exact toJson_ne_null hv
      · cases v with
        | number x =>
            have hx : ¬x.isFinite = true := hv
            simp [Json.optional, h, toJson, Json.ofNumber, written?, hx]
        | _ => exact absurd trivial hv

theorem FixedValue.isFinite_of_ofJson? {j : Json} {v : FixedValue} (hj : j.IsProper)
    (h : ofJson? j = some v) : v.IsFinite := by
  cases j with
  | integer i =>
      cases h
      exact Number.isFinite_ofInt hj
  | number x =>
      cases h
      exact hj
  | array items =>
      obtain ⟨items, -, rfl⟩ := Option.map_eq_some_iff.1 h
      trivial
  | bool b => cases h; trivial
  | string s => cases h; trivial
  | _ => cases h

theorem FreeArgType.ofJson?_toJson (t : FreeArgType) : ofJson? t.toJson = some t := by
  cases t <;> rfl

theorem FreeArg.ofJson?_toJson (a : FreeArg) : ofJson? a.toJson = some a := by
  rw [ofJson?, toJson, Json.record?_object _ (by simp)]
  simp [Json.required, Json.withDefault, List.lookup_cons, Json.string?,
    FreeArgType.ofJson?_toJson]

namespace Condition

theorem toJson_ne_null (c : Condition) : c.toJson ≠ .null := by
  simp [toJson]

theorem ofJson?_toJson (c : Condition) : ofJson? c.toJson = some c.written := by
  obtain ⟨freeArg, operation, fixedArg⟩ := c
  have hnames : ([("freeArg", freeArg.toJson), ("operation", .string operation)] ++
      Json.optionalMember "fixedArg" FixedValue.toJson fixedArg).map Prod.fst |>.Nodup := by
    cases fixedArg <;> simp [Json.optionalMember]
  have hfixed : Json.optional ([("freeArg", freeArg.toJson), ("operation", .string operation)] ++
      Json.optionalMember "fixedArg" FixedValue.toJson fixedArg) "fixedArg"
      FixedValue.ofJson? = some (fixedArg.bind FixedValue.written?) := by
    refine FixedValue.optional_toJson ?_
    have hlookup := Json.lookup_optionalMember "fixedArg" FixedValue.toJson fixedArg [] "fixedArg"
    rw [List.append_nil] at hlookup
    simp [List.lookup_cons, hlookup]
  rw [ofJson?, toJson, Json.record?_object _ hnames]
  simp only [Option.bind_eq_bind, Option.bind_some, hfixed]
  simp [Json.required, List.lookup_cons, Json.string?, FreeArg.ofJson?_toJson, written]

theorem isFinite_of_ofJson? {j : Json} {c : Condition} (hj : j.IsProper)
    (h : ofJson? j = some c) : c.IsFinite := by
  simp only [ofJson?, Option.bind_eq_bind, Option.pure_def, Option.bind_eq_some_iff,
    Option.some.injEq] at h
  obtain ⟨fields, hrecord, _, _, _, _, fixedArg, hfixed, rfl⟩ := h
  intro v hv
  obtain ⟨j', hj', hread⟩ :=
    Json.exists_isProper_of_optional (Json.isProper_of_record? hj hrecord) hfixed v hv
  exact FixedValue.isFinite_of_ofJson? hj' hread

end Condition

theorem Relation.ofJson?_toJson (r : Relation) : ofJson? r.toJson = some r := by
  cases r <;> rfl

namespace Rule

/-! ## The document of a node -/

/-- The members of a node's document. -/
def members (negated : Bool) (relation : Option Relation) (condition : Option Condition)
    (parts : List Rule) : List (String × Json) :=
  ("negated", .bool negated) :: (Json.optionalMember "relation" Relation.toJson relation ++
    (Json.optionalMember "condition" Condition.toJson condition ++
      Json.optionalMember "compoundParts" (fun ps => .array (partsToJson ps))
        (if parts.isEmpty then none else some parts)))

theorem toJson_eq_members (negated : Bool) (relation : Option Relation)
    (condition : Option Condition) (parts : List Rule) :
    toJson ⟨negated, relation, condition, parts⟩ =
      .object (members negated relation condition parts) := by
  cases parts <;> simp [toJson, members, partsToJson, Json.optionalMember]

theorem nodup_members (negated : Bool) (relation : Option Relation) (condition : Option Condition)
    (parts : List Rule) : ((members negated relation condition parts).map Prod.fst).Nodup := by
  cases relation <;> cases condition <;> cases parts <;> simp [members, Json.optionalMember]

theorem lookup_members (negated : Bool) (relation : Option Relation)
    (condition : Option Condition) (parts : List Rule) (n : String) :
    (members negated relation condition parts).lookup n =
      if n = "negated" then some (.bool negated)
      else if n = "relation" then relation.map Relation.toJson
      else if n = "condition" then condition.map Condition.toJson
      else if n = "compoundParts" then
        (if parts.isEmpty then none else some (.array (partsToJson parts)))
      else none := by
  rw [members, ← List.append_nil (Json.optionalMember "compoundParts" _ _),
    SortedMap.lookup_cons_eq_ite, Json.lookup_optionalMember, Json.lookup_optionalMember,
    Json.lookup_optionalMember]
  grind

theorem partsAmong?_eq (members : List (String × Json)) :
    partsAmong? members = (members.lookup "compoundParts").elim (some []) listOfJson? := by
  induction members with
  | nil => simp [partsAmong?]
  | cons m rest ih =>
      obtain ⟨name, j⟩ := m
      rw [partsAmong?, SortedMap.lookup_cons_eq_ite, ih]
      by_cases h : name = "compoundParts"
      · simp [h]
      · simp [h, Ne.symm h]

theorem ofFields?_members (negated : Bool) (relation : Option Relation)
    (condition : Option Condition) (parts written : List Rule) :
    ofFields? (members negated relation condition parts) written =
      some ⟨negated, relation, condition.map Condition.written, written⟩ := by
  have hrelation : Json.optional (members negated relation condition parts) "relation"
      Relation.ofJson? = some relation :=
    Json.optional_encoded (by simp [lookup_members]) (fun r _ => r.ofJson?_toJson) nofun
  have hcondition : Json.optional (members negated relation condition parts) "condition"
      Condition.ofJson? = some (condition.map Condition.written) := by
    rw [Json.optional, lookup_members]
    cases condition with
    | none => rfl
    | some c => simp [Condition.ofJson?_toJson, c.toJson_ne_null]
  rw [ofFields?, hrelation, hcondition]
  simp [Json.withDefault, lookup_members, Json.bool?]

/-! ## The tree reads back -/

mutual

/-- **Trees read back**: the document of a tree holds all of it but numbers that are not finite. -/
theorem ofJson?_toJson : ∀ r : Rule, ofJson? r.toJson = some r.written
  | ⟨negated, relation, condition, parts⟩ => by
      have hread : partsAmong? (members negated relation condition parts) =
          some (writtenParts parts) := by
        rw [partsAmong?_eq]
        cases parts with
        | nil => simp [lookup_members, writtenParts]
        | cons part rest =>
            have hitems := itemsOfJson?_partsToJson (part :: rest)
            simpa [lookup_members, listOfJson?] using hitems
      rw [toJson_eq_members, ofJson?, Json.record?_object _ (nodup_members ..)]
      simp [hread, ofFields?_members, written]

theorem itemsOfJson?_partsToJson :
    ∀ parts : List Rule, itemsOfJson? (partsToJson parts) = some (writtenParts parts)
  | [] => by simp [partsToJson, itemsOfJson?, writtenParts]
  | part :: rest => by
      have hpart := ofJson?_toJson part
      have hrest := itemsOfJson?_partsToJson rest
      simp [partsToJson, itemsOfJson?, writtenParts, hpart, hrest]

end

/-! ## What is read is finite -/

theorem isFinite_of_ofFields? {fields : List (String × Json)} {parts : List Rule} {r : Rule}
    (hfields : ∀ m ∈ fields, m.2.IsProper) (hparts : ∀ p ∈ parts, p.IsFinite)
    (h : ofFields? fields parts = some r) : r.IsFinite := by
  simp only [ofFields?, Option.bind_eq_bind, Option.pure_def, Option.bind_eq_some_iff,
    Option.some.injEq] at h
  obtain ⟨_, _, _, _, condition, hcondition, rfl⟩ := h
  refine (isFinite_mk ..).2 ⟨fun c hc => ?_, hparts⟩
  obtain ⟨j, hj, hread⟩ := Json.exists_isProper_of_optional hfields hcondition c hc
  exact Condition.isFinite_of_ofJson? hj hread

mutual

/-- A tree read from a proper document has finite numbers. -/
theorem isFinite_of_ofJson? :
    ∀ (j : Json) (r : Rule), j.IsProper → ofJson? j = some r → r.IsFinite
  | .object members, r, hj, h => by
      simp only [ofJson?, Option.bind_eq_bind, Option.bind_eq_some_iff] at h
      obtain ⟨fields, hrecord, parts, hparts, hr⟩ := h
      have hfields := Json.isProper_of_record? hj hrecord
      rw [Json.IsProper] at hj
      exact isFinite_of_ofFields? hfields (isFinite_of_partsAmong? members parts hj hparts) hr
  | .array items, r, hj, h => by
      simp only [ofJson?, Option.bind_eq_bind, Option.bind_eq_some_iff] at h
      obtain ⟨fields, hrecord, parts, hparts, hr⟩ := h
      have hfields := Json.isProper_of_record? hj hrecord
      rw [Json.IsProper] at hj
      exact isFinite_of_ofFields? hfields (isFinite_of_partsAt? 3 items parts hj hparts) hr
  | .null, _, _, h | .bool _, _, _, h | .integer _, _, _, h | .number _, _, _, h
  | .string _, _, _, h | .unreadable, _, _, h => by simp [ofJson?] at h

theorem isFinite_of_listOfJson? :
    ∀ (j : Json) (rs : List Rule), j.IsProper → listOfJson? j = some rs → ∀ r ∈ rs, r.IsFinite
  | .array items, rs, hj, h => by
      rw [Json.IsProper] at hj
      rw [listOfJson?] at h
      exact isFinite_of_itemsOfJson? items rs hj h
  | .null, _, _, h | .bool _, _, _, h | .integer _, _, _, h | .number _, _, _, h
  | .string _, _, _, h | .object _, _, _, h | .unreadable, _, _, h => by simp [listOfJson?] at h

theorem isFinite_of_itemsOfJson? :
    ∀ (items : List Json) (rs : List Rule), Json.ItemsProper items → itemsOfJson? items = some rs →
      ∀ r ∈ rs, r.IsFinite
  | [], rs, _, h => by
      rw [itemsOfJson?] at h
      cases h
      simp
  | j :: rest, rs, hj, h => by
      simp only [itemsOfJson?, Option.bind_eq_bind, Option.pure_def, Option.bind_eq_some_iff,
        Option.some.injEq] at h
      obtain ⟨r, hr, rs', hrs, rfl⟩ := h
      rw [Json.ItemsProper] at hj
      intro r' hr'
      rcases List.mem_cons.1 hr' with rfl | hmem
      · exact isFinite_of_ofJson? j r' hj.1 hr
      · exact isFinite_of_itemsOfJson? rest rs' hj.2 hrs r' hmem

theorem isFinite_of_partsAmong? :
    ∀ (members : List (String × Json)) (rs : List Rule), Json.MembersProper members →
      partsAmong? members = some rs → ∀ r ∈ rs, r.IsFinite
  | [], rs, _, h => by
      rw [partsAmong?] at h
      cases h
      simp
  | (name, j) :: rest, rs, hj, h => by
      rw [Json.MembersProper] at hj
      rw [partsAmong?] at h
      split at h
      · exact isFinite_of_listOfJson? j rs hj.1 h
      · exact isFinite_of_partsAmong? rest rs hj.2 h

theorem isFinite_of_partsAt? :
    ∀ (n : Nat) (items : List Json) (rs : List Rule), Json.ItemsProper items →
      partsAt? n items = some rs → ∀ r ∈ rs, r.IsFinite
  | _, [], rs, _, h => by
      simp only [partsAt?, Option.some.injEq] at h
      simp [← h]
  | 0, j :: _, rs, hj, h => by
      rw [Json.ItemsProper] at hj
      rw [partsAt?] at h
      exact isFinite_of_listOfJson? j rs hj.1 h
  | n + 1, _ :: rest, rs, hj, h => by
      rw [Json.ItemsProper] at hj
      rw [partsAt?] at h
      exact isFinite_of_partsAt? n rest rs hj.2 h

end

end Rule

end Rulebook
