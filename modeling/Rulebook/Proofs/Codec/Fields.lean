import Rulebook.Json.Decode

/-!
# Rulebook.Proofs.Codec.Fields

What the codecs of all records share: which documents there are, and the laws of the fields.

A document that comes from a text holds finite numbers only, and whole numbers of at most 64 bits
(`Json.IsProper`).  The type of documents is larger, and outside of it a number can be written as
null.

* `record?_object` — members of different names are read as they stand;
* `optional_encoded`, `strings?_ofStrings`, `map?_object` — each kind of field reads back;
* `isProper_of_lookup` — a field of a proper document is proper.
-/

namespace Rulebook

/-! ## Whole numbers are finite -/

namespace Magnitude

theorem step_le (units : Nat) : step units ≤ units + 1 := by
  by_cases h : units = 0
  · subst h
    decide
  · have hlog : 2 ^ units.log2 ≤ units := Nat.log2_self_le h
    have hpow : 2 ^ (units.log2 - 52) ≤ 2 ^ units.log2 :=
      Nat.pow_le_pow_right (by decide) (by omega)
    rw [step, Nat.pow_eq]
    omega

/-- Rounding a whole number at most doubles it. -/
theorem roundUnits_one_le (n : Nat) : roundUnits n 1 ≤ 2 * (n * one) + 1 := by
  unfold roundUnits
  dsimp only
  generalize n * one = scaled
  rw [Nat.div_one, Nat.one_mul]
  have hstep := step_le scaled
  generalize step scaled = s at hstep
  calc
    roundDiv scaled s * s ≤ (scaled / s + 1) * s :=
      Nat.mul_le_mul_right s (roundDiv_le scaled s)
    _ = scaled / s * s + s := Nat.succ_mul _ _
    _ ≤ scaled + (scaled + 1) := Nat.add_le_add (Nat.div_mul_le_self scaled s) hstep
    _ = 2 * scaled + 1 := by omega

theorem one_mul_two_pow_le_limit {k : Nat} (h : k ≤ 1024) : one * Nat.pow 2 k ≤ limit := by
  unfold one limit
  generalize unitExponent = u
  rw [Nat.pow_eq, Nat.pow_eq, Nat.pow_eq, ← Nat.pow_add]
  exact Nat.pow_le_pow_right (by decide) (Nat.add_le_add_left h u)

theorem one_pos : 0 < one := by
  unfold one
  generalize unitExponent = u
  exact Nat.two_pow_pos u

/-- A whole number of at most 64 bits stays far below the limit of the format. -/
theorem roundUnits_one_lt_limit {n : Nat} (h : n ≤ 18446744073709551616) :
    roundUnits n 1 < limit := by
  have hround := roundUnits_one_le n
  have hlimit := one_mul_two_pow_le_limit (k := 66) (by decide)
  have hone := one_pos
  have hmul := Nat.mul_le_mul_right one h
  -- both are numbers of hundreds of digits, which no step here may write out
  generalize limit = top at *
  generalize one = unit at *
  have hpow : Nat.pow 2 66 = 73786976294838206464 := rfl
  rw [hpow] at hlimit
  omega

end Magnitude

namespace Number

theorem isFinite_ofRatio (negative : Bool) {num den : Nat}
    (h : Magnitude.roundUnits num den < Magnitude.limit) :
    (ofRatio negative num den).isFinite = true := by
  rw [ofRatio, Magnitude.ofRatio?, dif_pos h]
  rfl

theorem isFinite_ofInt {i : Int} (h : -9223372036854775808 ≤ i ∧ i ≤ 18446744073709551615) :
    (ofInt i).isFinite = true :=
  isFinite_ofRatio _ (Magnitude.roundUnits_one_lt_limit (by omega))

end Number

namespace Json

/-! ## Proper documents -/

mutual

/-- Every number of the document is finite, and within 64 bits if it is whole. -/
def IsProper : Json → Prop
  | .integer i => -9223372036854775808 ≤ i ∧ i ≤ 18446744073709551615
  | .number x => x.isFinite = true
  | .array items => ItemsProper items
  | .object members => MembersProper members
  | _ => True

def ItemsProper : List Json → Prop
  | [] => True
  | j :: rest => IsProper j ∧ ItemsProper rest

def MembersProper : List (String × Json) → Prop
  | [] => True
  | (_, j) :: rest => IsProper j ∧ MembersProper rest

end

mutual

/-- Whether a document is proper can be computed. -/
def decidableIsProper : (j : Json) → Decidable j.IsProper
  | .integer _ => inferInstanceAs (Decidable (_ ∧ _))
  | .number x => inferInstanceAs (Decidable (x.isFinite = true))
  | .array items => decidableItemsProper items
  | .object members => decidableMembersProper members
  | .null | .bool _ | .string _ | .unreadable => isTrue trivial

def decidableItemsProper : (items : List Json) → Decidable (ItemsProper items)
  | [] => isTrue trivial
  | j :: rest => @instDecidableAnd _ _ (decidableIsProper j) (decidableItemsProper rest)

def decidableMembersProper : (members : List (String × Json)) → Decidable (MembersProper members)
  | [] => isTrue trivial
  | (_, j) :: rest => @instDecidableAnd _ _ (decidableIsProper j) (decidableMembersProper rest)

end

instance : DecidablePred IsProper := decidableIsProper

theorem itemsProper_iff {items : List Json} : ItemsProper items ↔ ∀ j ∈ items, j.IsProper := by
  induction items with
  | nil => simp [ItemsProper]
  | cons j rest ih => simp [ItemsProper, ih]

theorem membersProper_iff {members : List (String × Json)} :
    MembersProper members ↔ ∀ m ∈ members, m.2.IsProper := by
  induction members with
  | nil => simp [MembersProper]
  | cons m rest ih =>
      obtain ⟨name, j⟩ := m
      simp [MembersProper, ih]

theorem isProper_of_record? {j : Json} {names : List String} {fields : List (String × Json)}
    (hj : j.IsProper) (h : j.record? names = some fields) : ∀ m ∈ fields, m.2.IsProper := by
  cases j with
  | object members =>
      rw [IsProper, membersProper_iff] at hj
      rw [record?] at h
      split at h
      · cases h
        exact hj
      · contradiction
  | array items =>
      rw [IsProper, itemsProper_iff] at hj
      rw [record?] at h
      split at h
      · cases h
        intro m hm
        exact hj m.2 (List.of_mem_zip hm).2
      · contradiction
  | _ => simp [record?] at h

theorem isProper_of_lookup {fields : List (String × Json)} {name : String} {j : Json}
    (hfields : ∀ m ∈ fields, m.2.IsProper) (h : fields.lookup name = some j) : j.IsProper := by
  obtain ⟨before, after, rfl, -⟩ := List.lookup_eq_some_iff.1 h
  exact hfields (name, j) (by simp)

/-- What an optional field holds was read from a document of the record. -/
theorem exists_isProper_of_optional {α : Type} {fields : List (String × Json)} {name : String}
    {decode : Json → Option α} {a : Option α} (hfields : ∀ m ∈ fields, m.2.IsProper)
    (h : optional fields name decode = some a) :
    ∀ x ∈ a, ∃ j : Json, j.IsProper ∧ decode j = some x := by
  intro x hx
  rw [optional] at h
  split at h
  · cases h
    contradiction
  · next j _ hj =>
      obtain ⟨y, hy, rfl⟩ := Option.map_eq_some_iff.1 h
      cases hx
      exact ⟨j, isProper_of_lookup hfields hj, hy⟩
  · cases h
    contradiction

/-! ## Fields that read back -/

/-- Members of different names are the fields of a record as they stand. -/
theorem record?_object {members : List (String × Json)} (names : List String)
    (h : (members.map Prod.fst).Nodup) : (Json.object members).record? names = some members := by
  have hle : ∀ n ∈ names, (members.filter fun m => m.1 == n).length ≤ 1 := by
    intro n _
    have hcount := List.nodup_iff_count.1 h n
    rwa [List.count_eq_countP, List.countP_map, List.countP_eq_length_filter] at hcount
  rw [record?, if_pos (by simpa using hle)]

theorem lookup_optionalMember {α : Type} (name : String) (encode : α → Json) (a : Option α)
    (rest : List (String × Json)) (n : String) :
    (optionalMember name encode a ++ rest).lookup n =
      if n = name then (a.map encode).or (rest.lookup n) else rest.lookup n := by
  cases a with
  | none => simp [optionalMember]
  | some x =>
      rw [optionalMember, List.singleton_append, SortedMap.lookup_cons_eq_ite]
      split <;> simp

/-- A field that is absent without a value, and holds the document of the value otherwise. -/
theorem optional_encoded {α : Type} {fields : List (String × Json)} {name : String}
    {encode : α → Json} {decode : Json → Option α} {a : Option α}
    (h : fields.lookup name = a.map encode) (hdecode : ∀ x ∈ a, decode (encode x) = some x)
    (hnull : ∀ x ∈ a, encode x ≠ .null) : optional fields name decode = some a := by
  rw [optional, h]
  cases a with
  | none => rfl
  | some x => simp [hdecode x rfl, hnull x rfl]

theorem strings?_ofStrings (items : List String) : strings? (ofStrings items) = some items := by
  rw [strings?, ofStrings, list?]
  induction items with
  | nil => rfl
  | cons s rest ih => simp [string?, ih]

/-- The range of a signed 32-bit integer. -/
def IsInt32 (i : Int) : Prop :=
  -2147483648 ≤ i ∧ i ≤ 2147483647

instance (i : Int) : Decidable (IsInt32 i) :=
  inferInstanceAs (Decidable (_ ∧ _))

theorem int32?_integer {i : Int} (h : IsInt32 i) : int32? (.integer i) = some i :=
  if_pos h

theorem isInt32_of_int32? {j : Json} {i : Int} (h : int32? j = some i) : IsInt32 i := by
  cases j with
  | integer n =>
      rw [int32?, integer?] at h
      split at h
      · next hn =>
          cases h
          exact hn
      · contradiction
  | _ => simp [int32?, integer?] at h

theorem isInt32_of_withDefault {fields : List (String × Json)} {name : String} {i : Int}
    (h : withDefault fields name 0 int32? = some i) : IsInt32 i := by
  rw [withDefault] at h
  split at h
  · exact isInt32_of_int32? h
  · cases h
    decide

end Json

/-! ## Maps -/

namespace SortedMap

variable {α : Type}

/-- Of ascending entries that are put into a map, every one stands. -/
theorem get?_foldl_insert {entries : List (String × α)}
    (h : entries.Pairwise (fun a b => a.1 < b.1)) (m : SortedMap α) (n : String) :
    (entries.foldl (fun m e => m.insert e.1 e.2) m).get? n = (entries.lookup n).or (m.get? n) := by
  induction entries generalizing m with
  | nil => simp
  | cons e rest ih =>
      have ⟨hhead, htail⟩ := List.pairwise_cons.1 h
      rw [List.foldl_cons, ih htail, get?_insert, lookup_cons_eq_ite]
      by_cases hn : n = e.1
      · rw [if_pos hn, if_pos hn, hn, lookup_eq_none_of_lt hhead]
        rfl
      · rw [if_neg hn, if_neg hn]

/-- A map is the map of its entries. -/
theorem ofList_toList (m : SortedMap α) : ofList m.toList = m := by
  refine ext_get? fun n => ?_
  rw [ofList, get?_foldl_insert m.sorted, get?_empty, Option.or_none, get?]

end SortedMap

theorem Json.map?_object {α : Type} {encode : α → Json} {decode : Json → Option α}
    (h : ∀ x, decode (encode x) = some x) (m : SortedMap α) :
    map? decode (.object (m.toList.map fun e => (e.1, encode e.2))) = some m := by
  have hread : ∀ entries : List (String × α),
      (entries.map fun e => (e.1, encode e.2)).mapM
        (fun e => (decode e.2).map fun v => (e.1, v)) = some entries := by
    intro entries
    induction entries with
    | nil => rfl
    | cons e rest ih => simp [h, ih]
  rw [map?, hread, Option.map_some, SortedMap.ofList_toList]

end Rulebook
