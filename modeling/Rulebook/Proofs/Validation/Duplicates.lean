import Rulebook.Proofs.Validation.Rule
import Std.Data.HashSet.Lemmas

/-!
# Rulebook.Proofs.Validation.Duplicates

What is reported as a duplicate.

Conditions that occur again and items of a list that occur again are found by going through a list
with what has come before at hand, and picking what stands in a certain relation to it.  Said of
positions, a scan of that kind picks the items that stand in the relation to the part of the list in
front of them (`scan_eq_map_fst`).  From there:

* `keepsFirst_remaining` — without the duplicates that are found, every condition is there once, and
  it is the first of those that are equal;
* `namesRepeated_repeatedItems` — the repeated items are those that occur twice or more, each once,
  in the order of their second occurrences;
* `collectRepeated_eq` — it makes no difference to remember the items met in a set, and those
  reported in a list;
* `checkCondition_eq_duplicateListItems_iff` — which conditions are refused for their items;
* `duplicate_reports_exact` — both reports.
-/

namespace Rulebook

/-! ## Equality of conditions -/

theorem Number.same_trans {a b c : Number} (hab : a.same b = true) (hbc : b.same c = true) :
    a.same c = true := by
  unfold same compareBy at *
  cases ha : a.key? <;> cases hb : b.key? <;> cases hc : c.key? <;> simp_all

theorem Number.same_self {a : Number} (h : a ≠ .nan) : a.same a = true := by
  cases a with
  | nan => exact absurd rfl h
  | infinite negative => simp [same, compareBy, key?]
  | finite negative magnitude => simp [same, compareBy, key?]

theorem FixedValue.same_trans {a b c : FixedValue} (hab : a.same b = true)
    (hbc : b.same c = true) : a.same c = true := by
  cases a <;> cases b <;> cases c <;> simp_all [same]
  exact Number.same_trans hab hbc

theorem FixedValue.same_self {a : FixedValue} (h : a ≠ .number .nan) : a.same a = true := by
  cases a with
  | number x => exact Number.same_self fun hx => h (congrArg _ hx)
  | bool | string | collection => simp [same]

namespace Condition

theorem same_trans {c d e : Condition} (hcd : c.same d = true) (hde : d.same e = true) :
    c.same e = true := by
  simp only [same, Bool.and_eq_true, beq_iff_eq] at hcd hde ⊢
  obtain ⟨⟨hname, hoperation⟩, hvalue⟩ := hcd
  obtain ⟨⟨hname', hoperation'⟩, hvalue'⟩ := hde
  refine ⟨⟨hname.trans hname', hoperation.trans hoperation'⟩, ?_⟩
  cases hc : c.fixedArg <;> cases hd : d.fixedArg <;> cases he : e.fixedArg <;>
    simp_all only [reduceCtorEq]
  exact FixedValue.same_trans hvalue hvalue'

/-- The items that a condition compares with; without a list there are none. -/
def items (c : Condition) : List String :=
  (c.fixedArg.bind FixedValue.asCollection?).getD []

/-- The condition does not compare with a number that is none. -/
def IsOrdinary (c : Condition) : Prop :=
  c.fixedArg ≠ some (.number .nan)

instance (c : Condition) : Decidable c.IsOrdinary :=
  inferInstanceAs (Decidable (_ ≠ _))

theorem same_self {c : Condition} (h : c.IsOrdinary) : c.same c = true := by
  unfold same
  cases hc : c.fixedArg with
  | none => simp
  | some value =>
      have hvalue : value ≠ .number .nan := fun heq => h (by rw [hc, heq])
      simp [FixedValue.same_self hvalue]

end Condition

namespace Validation

/-! ## Scans -/

section Scans

variable {β : Type}

/-- **A scan** that looks at what has come before picks the items that stand in a relation to the
part of the list in front of them. -/
theorem scan_eq_map_fst (scan : List β → List β → List β) (picks : List β → β → Bool)
    (hnil : ∀ before, scan before [] = [])
    (hcons : ∀ before a rest, scan before (a :: rest) =
      if picks before.reverse a then a :: scan (a :: before) rest else scan (a :: before) rest)
    (before items : List β) :
    scan before items = ((items.zipIdx before.length).filter fun o =>
      picks ((before.reverse ++ items).take o.2) o.1).map Prod.fst := by
  induction items generalizing before with
  | nil => simp [hnil]
  | cons a rest ih =>
      have hfront : (before.reverse ++ a :: rest).take before.length = before.reverse :=
        List.take_left' (by rw [List.length_reverse])
      have hwhole : (a :: before).reverse ++ rest = before.reverse ++ a :: rest := by simp
      rw [hcons, ih, hwhole, List.zipIdx_cons, List.filter_cons, hfront, List.length_cons]
      split <;> simp

/-- Occurrences that are picked from a list are in the order of their positions. -/
theorem pairwise_filter_zipIdx (items : List β) (p : β × Nat → Bool) :
    (items.zipIdx.filter p).Pairwise fun o o' => o.2 < o'.2 := by
  have hpositions : (items.zipIdx.map Prod.snd).Pairwise (· < ·) := by
    rw [List.zipIdx_map_snd]
    exact List.pairwise_lt_range'
  exact (List.pairwise_map.1 hpositions).filter p

end Scans

/-! ## Conditions -/

section Conditions

variable {conditions : List Condition}

/-- The conditions that are equal to an earlier one, each with its position. -/
def duplicateOccurrences (conditions : List Condition) : List (Condition × Nat) :=
  conditions.zipIdx.filter fun o => (conditions.take o.2).any fun d => d.same o.1

/-- The conditions that are left when some occurrences of them are removed. -/
def remaining (conditions : List Condition) (occurrences : List (Condition × Nat)) :
    List Condition :=
  (conditions.zipIdx.removeAll occurrences).map Prod.fst

/-- What is found are the conditions at these positions. -/
theorem duplicateConditions_eq_map_fst (r : Rule) :
    duplicateConditions r = (duplicateOccurrences r.conditions).map Prod.fst := by
  have hscan := scan_eq_map_fst duplicatesAfter
    (fun before c => before.any fun d => d.same c) (fun _ => rfl)
    (fun before a rest => by rw [duplicatesAfter, List.any_reverse]) [] r.conditions
  simpa [duplicateConditions, duplicateOccurrences] using hscan

/-- The occurrences of conditions that no earlier one is equal to. -/
def firstOccurrences (conditions : List Condition) : List (Condition × Nat) :=
  conditions.zipIdx.filter fun o => !(conditions.take o.2).any fun d => d.same o.1

theorem remaining_duplicateOccurrences (conditions : List Condition) :
    remaining conditions (duplicateOccurrences conditions) =
      (firstOccurrences conditions).map Prod.fst := by
  rw [remaining, List.removeAll, firstOccurrences]
  congr 1
  refine List.filter_congr fun o ho => ?_
  rw [Bool.eq_iff_iff]
  simp [duplicateOccurrences, List.mem_filter, ho]

theorem mem_firstOccurrences_iff {c : Condition} {i : Nat} :
    (c, i) ∈ firstOccurrences conditions ↔
      conditions[i]? = some c ∧ ∀ d ∈ conditions.take i, d.same c = false := by
  simp [firstOccurrences, List.mem_filter, List.mk_mem_zipIdx_iff_getElem?]

theorem isOrdinary_of_mem_firstOccurrences (h : ∀ c ∈ conditions, c.IsOrdinary)
    {o : Condition × Nat} (ho : o ∈ firstOccurrences conditions) : o.1.IsOrdinary :=
  h o.1 (List.mem_of_getElem? (mem_firstOccurrences_iff.1 ho).1)

/-- A condition stands at the first place where it is found. -/
theorem findIdx_of_mem_firstOccurrences {o : Condition × Nat}
    (h : o ∈ firstOccurrences conditions) (ho : o.1.IsOrdinary) :
    conditions.findIdx (fun c => c.same o.1) = o.2 := by
  obtain ⟨hitem, hfront⟩ := mem_firstOccurrences_iff.1 h
  obtain ⟨hi, hc⟩ := List.getElem?_eq_some_iff.1 hitem
  rw [List.findIdx_eq hi, hc]
  refine ⟨Condition.same_self ho, fun j hj => hfront _ ?_⟩
  exact List.mem_take_iff_getElem.2 ⟨j, by omega, rfl⟩

/-- Every condition has a first occurrence. -/
theorem exists_mem_firstOccurrences {c : Condition} (hc : c ∈ conditions) (h : c.IsOrdinary) :
    ∃ o ∈ firstOccurrences conditions, o.1.same c = true := by
  have hfound : conditions.findIdx (fun d => d.same c) < conditions.length :=
    List.findIdx_lt_length_of_exists ⟨c, hc, Condition.same_self h⟩
  have hsame := List.findIdx_getElem (w := hfound)
  refine ⟨(conditions[conditions.findIdx fun d => d.same c], _),
    mem_firstOccurrences_iff.2 ⟨List.getElem?_eq_getElem hfound, fun d hd => ?_⟩, hsame⟩
  obtain ⟨j, hj, rfl⟩ := List.mem_take_iff_getElem.1 hd
  -- what is equal to the first occurrence is equal to the condition, and stands no earlier
  have hnot : conditions[j].same c = false :=
    List.not_of_lt_findIdx (p := fun d : Condition => d.same c) (by omega)
  rw [← Bool.not_eq_true] at hnot ⊢
  exact fun hd => hnot (Condition.same_trans hd hsame)

/-- No first occurrence is equal to another one. -/
theorem pairwise_firstOccurrences (conditions : List Condition) :
    (firstOccurrences conditions).Pairwise fun o o' => o.1.same o'.1 = false := by
  refine (pairwise_filter_zipIdx conditions _).imp_of_mem fun {o o'} ho ho' hlt => ?_
  obtain ⟨hi, hc⟩ := List.getElem?_eq_some_iff.1 (mem_firstOccurrences_iff.1 ho).1
  refine (mem_firstOccurrences_iff.1 ho').2 _ (List.mem_take_iff_getElem.2 ⟨o.2, by omega, hc⟩)

/-- **Without the duplicates, every condition is there once.** -/
theorem countP_remaining {c : Condition} (hc : c ∈ conditions) (h : c.IsOrdinary) :
    (remaining conditions (duplicateOccurrences conditions)).countP (fun d => d.same c) = 1 := by
  rw [remaining_duplicateOccurrences, List.countP_map, List.countP_eq_length_filter]
  obtain ⟨o, ho, hsame⟩ := exists_mem_firstOccurrences hc h
  have hmem : o ∈ (firstOccurrences conditions).filter ((fun d => d.same c) ∘ Prod.fst) :=
    List.mem_filter.2 ⟨ho, hsame⟩
  have hpairs := (pairwise_firstOccurrences conditions).filter ((fun d => d.same c) ∘ Prod.fst)
  have hall : ∀ o ∈ (firstOccurrences conditions).filter ((fun d => d.same c) ∘ Prod.fst),
      o.1.same c = true := fun o ho => (List.mem_filter.1 ho).2
  generalize (firstOccurrences conditions).filter ((fun d => d.same c) ∘ Prod.fst) = found
    at hmem hpairs hall ⊢
  match found with
  | [] => cases hmem
  | [_] => rfl
  | a :: b :: rest =>
      -- two that are equal to the condition are equal to each other
      have hne := (List.pairwise_cons.1 hpairs).1 b List.mem_cons_self
      have ha := hall a List.mem_cons_self
      have hb := hall b (List.mem_cons_of_mem a List.mem_cons_self)
      rw [Condition.same_comm] at hb
      rw [Condition.same_trans ha hb] at hne
      cases hne

/-- What remains is in the order of first occurrences. -/
theorem pairwise_findIdx_remaining (h : ∀ c ∈ conditions, c.IsOrdinary) :
    ((remaining conditions (duplicateOccurrences conditions)).map fun d =>
      conditions.findIdx fun c => c.same d).Pairwise (· < ·) := by
  rw [remaining_duplicateOccurrences, List.map_map, List.pairwise_map]
  refine (pairwise_filter_zipIdx conditions _).imp_of_mem fun {o o'} ho ho' hlt => ?_
  rw [Function.comp_apply, Function.comp_apply,
    findIdx_of_mem_firstOccurrences ho (isOrdinary_of_mem_firstOccurrences h ho),
    findIdx_of_mem_firstOccurrences ho' (isOrdinary_of_mem_firstOccurrences h ho')]
  exact hlt

/-- Of conditions that are equal the first one is kept, and no other; those that are kept are in
their order. -/
structure KeepsFirst (conditions kept : List Condition) : Prop where
  once : ∀ c ∈ conditions, kept.countP (fun d => d.same c) = 1
  first : ∀ d ∈ kept, conditions.find? (fun c => c.same d) = some d
  ordered : (kept.map fun d => conditions.findIdx fun c => c.same d).Pairwise (· < ·)

/-- **Without the duplicates, the first of equal conditions is kept**, and no other. -/
theorem keepsFirst_remaining (h : ∀ c ∈ conditions, c.IsOrdinary) :
    KeepsFirst conditions (remaining conditions (duplicateOccurrences conditions)) where
  once := fun c hc => countP_remaining hc (h c hc)
  first := fun d hd => by
    rw [remaining_duplicateOccurrences] at hd
    obtain ⟨o, ho, rfl⟩ := List.mem_map.1 hd
    have hindex := findIdx_of_mem_firstOccurrences ho (isOrdinary_of_mem_firstOccurrences h ho)
    rw [List.find?_eq_getElem?_findIdx, hindex]
    exact (mem_firstOccurrences_iff.1 ho).1
  ordered := pairwise_findIdx_remaining h

end Conditions

/-! ## Items of a list -/

section Items

variable {β : Type} [BEq β] [LawfulBEq β]

/-- The items that occur twice or more are picked, each of them once. -/
theorem count_secondOccurrences (before items : List β) (a : β) :
    (secondOccurrences before items).count a =
      if before.count a ≤ 1 ∧ 2 ≤ before.count a + items.count a then 1 else 0 := by
  induction items generalizing before with
  | nil => grind [secondOccurrences]
  | cons b rest ih =>
      have hrest := ih (b :: before)
      rw [secondOccurrences]
      by_cases hab : b = a
      · subst hab
        split <;> grind
      · split <;> grind

/-- An item that has occurred `n` times is next found where it stands. -/
theorem idxOfNth_append_cons (front back : List β) (a : β) :
    (front ++ a :: back).idxOfNth a (front.count a) = front.length := by
  induction front with
  | nil => simp [List.idxOfNth_cons]
  | cons b rest ih =>
      rw [List.cons_append, List.idxOfNth_cons, List.count_cons, List.length_cons]
      by_cases hab : b = a
      · simp [hab, ih]
      · grind

omit [LawfulBEq β] in
theorem secondOccurrences_eq_map_fst (items : List β) :
    secondOccurrences [] items =
      (items.zipIdx.filter fun o => (items.take o.2).count o.1 == 1).map Prod.fst := by
  have hscan := scan_eq_map_fst secondOccurrences
    (fun before (a : β) => before.count a == 1) (fun _ => rfl)
    (fun before a rest => by rw [secondOccurrences, List.count_reverse]) [] items
  simpa using hscan

/-- They are picked in the order of their second occurrences. -/
theorem pairwise_idxOfNth_secondOccurrences (items : List β) :
    ((secondOccurrences [] items).map fun a => items.idxOfNth a 1).Pairwise (· < ·) := by
  have hposition : ∀ o ∈ items.zipIdx.filter fun o => (items.take o.2).count o.1 == 1,
      items.idxOfNth o.1 1 = o.2 := by
    intro o ho
    obtain ⟨hmem, hcount⟩ := List.mem_filter.1 ho
    obtain ⟨hi, hitem⟩ := List.getElem?_eq_some_iff.1 (List.mk_mem_zipIdx_iff_getElem?.1 hmem)
    have hsplit : items = items.take o.2 ++ o.1 :: items.drop (o.2 + 1) := by
      rw [← hitem, List.getElem_cons_drop, List.take_append_drop]
    have hfound := idxOfNth_append_cons (items.take o.2) (items.drop (o.2 + 1)) o.1
    rwa [← hsplit, beq_iff_eq.1 hcount, List.length_take, Nat.min_eq_left hi.le] at hfound
  rw [secondOccurrences_eq_map_fst, List.map_map, List.pairwise_map]
  refine (pairwise_filter_zipIdx items _).imp_of_mem fun {o o'} ho ho' hlt => ?_
  rw [Function.comp_apply, Function.comp_apply, hposition o ho, hposition o' ho']
  exact hlt

end Items

/-- The repeated items, collected with the items met so far in a set and the repeated ones in a
list: an item is new among the latter if it is not new among the former. -/
def collectRepeated (seen : Std.HashSet String) (repeated : List String) :
    List String → List String
  | [] => repeated
  | a :: rest =>
    collectRepeated (seen.insert a)
      (if seen.contains a && !repeated.contains a then repeated ++ [a] else repeated) rest

theorem collectRepeated_eq_append {seen : Std.HashSet String} {repeated : List String}
    (before : List String) (hseen : ∀ a, a ∈ seen ↔ a ∈ before)
    (hrepeated : ∀ a, a ∈ repeated ↔ 2 ≤ before.count a) (items : List String) :
    collectRepeated seen repeated items = repeated ++ secondOccurrences before items := by
  induction items generalizing seen repeated before with
  | nil => simp [collectRepeated, secondOccurrences]
  | cons a rest ih =>
      have hpick : (seen.contains a && !repeated.contains a) = (before.count a == 1) := by
        have hmem : a ∈ before ↔ 1 ≤ before.count a := List.count_pos_iff.symm
        rw [Bool.eq_iff_iff, Bool.and_eq_true, Std.HashSet.contains_iff_mem, hseen,
          Bool.not_eq_true', ← Bool.not_eq_true, List.contains_iff_mem, hrepeated, beq_iff_eq, hmem]
        omega
      have hseen' : ∀ b, b ∈ seen.insert a ↔ b ∈ a :: before := fun b => by
        rw [Std.HashSet.mem_insert, hseen, List.mem_cons, beq_iff_eq, eq_comm]
      rw [collectRepeated, secondOccurrences, hpick, ih (a :: before) hseen' fun b => ?_]
      · split <;> simp
      · have hb := hrepeated b
        split <;> grind

/-- **It makes no difference how the repeated items are collected.** -/
theorem collectRepeated_eq (items : List String) :
    collectRepeated ∅ [] items = repeatedItems items := by
  rw [collectRepeated_eq_append [] (by simp) (by simp), List.nil_append, repeatedItems]

/-- Of the items of a list those that occur twice or more are named, each once and in the order of
their second occurrences. -/
structure NamesRepeated (items named : List String) : Prop where
  once : ∀ a, named.count a = if 2 ≤ items.count a then 1 else 0
  ordered : (named.map fun a => items.idxOfNth a 1).Pairwise (· < ·)

theorem namesRepeated_repeatedItems (items : List String) :
    NamesRepeated items (repeatedItems items) where
  once := fun a => by
    rw [repeatedItems, count_secondOccurrences]
    simp
  ordered := pairwise_idxOfNth_secondOccurrences items

theorem NamesRepeated.ne_nil_iff {items named : List String} (h : NamesRepeated items named) :
    named ≠ [] ↔ ∃ a, 2 ≤ items.count a := by
  have hmem : ∀ a, a ∈ named ↔ 2 ≤ items.count a := fun a => by
    rw [← List.count_pos_iff, h.once]
    split <;> simp [*]
  rw [← exists_congr hmem]
  exact ⟨List.exists_mem_of_ne_nil named, fun ⟨_, ha⟩ => List.ne_nil_of_mem ha⟩

/-- No item is repeated in a list of different ones, and in no other list. -/
theorem repeatedItems_eq_nil_iff {items : List String} :
    repeatedItems items = [] ↔ items.Nodup := by
  rw [← not_iff_not, ← ne_eq, (namesRepeated_repeatedItems items).ne_nil_iff,
    List.nodup_iff_count_le_one, not_forall]
  exact exists_congr fun a => Nat.not_le.symm

/-! ## Conditions with a list -/

section Lists

variable {allowed : List String} {c : Condition} [PatternEngine]

/-- The checks in front of that of its items are passed by a condition. -/
structure ReachesItems (allowed : List String) (c : Condition) : Prop where
  blanks : checkBlanks c = .ok ()
  operation : checkOperation c.operation allowed = .ok ()
  percent : ∀ value, c.fixedArg = some value → c.uses Operation.percent = true →
    isPercent value = true
  pattern : ∀ value, c.fixedArg = some value → c.uses Operation.like = true →
    isPattern value = true

/-- What the check of the items says of them. -/
theorem ReachesItems.checkCondition_eq (h : ReachesItems allowed c) :
    checkCondition allowed c = match repeatedItems c.items with
      | [] => .ok ()
      | named => .error (.duplicateListItems (Text.trim c.freeArg.name) named) := by
  have hfront : checkCondition allowed c = checkValue c := by
    rw [checkCondition, h.blanks, h.operation]
    rfl
  rw [hfront, checkValue, Condition.items]
  cases hvalue : c.fixedArg with
  | none => rfl
  | some value =>
      have hpercent := h.percent value hvalue
      have hpattern := h.pattern value hvalue
      exact (if_neg (by simpa using hpercent)).trans (if_neg (by simpa using hpattern))

/-- Only the check of the items finds repeated ones. -/
theorem reachesItems_of_duplicateListItems {name : String} {named : List String}
    (h : checkCondition allowed c = .error (.duplicateListItems name named)) :
    ReachesItems allowed c := by
  rw [checkCondition, check_bind_eq_error_iff, check_bind_eq_error_iff] at h
  obtain hblanks | ⟨hblanks, hoperation | ⟨hoperation, hvalue⟩⟩ := h
  · exact absurd hblanks (by unfold checkBlanks; grind)
  · exact absurd hoperation (by unfold checkOperation; grind)
  · refine ⟨hblanks, hoperation, fun value heq huses => ?_, fun value heq huses => ?_⟩
    all_goals
      simp only [checkValue, heq, huses, Bool.true_and, Bool.not_eq_true', ite_error_eq_error_iff,
        reduceCtorEq, and_false, false_or, Bool.not_eq_false] at hvalue
    · exact hvalue.1
    · exact hvalue.2.1

/-- **Which conditions are refused for their items**, and with what. -/
theorem checkCondition_eq_duplicateListItems_iff {name : String} {named : List String} :
    checkCondition allowed c = .error (.duplicateListItems name named) ↔
      ReachesItems allowed c ∧ name = Text.trim c.freeArg.name ∧
        named = repeatedItems c.items ∧ named ≠ [] := by
  constructor
  · intro h
    have hreaches := reachesItems_of_duplicateListItems h
    rw [hreaches.checkCondition_eq] at h
    cases hitems : repeatedItems c.items with
    | nil => simp [hitems] at h
    | cons a rest =>
        rw [hitems] at h
        injection h with h
        injection h with hname hnamed
        exact ⟨hreaches, hname.symm, hnamed.symm, by simp [← hnamed]⟩
  · rintro ⟨hreaches, rfl, rfl, hne⟩
    rw [hreaches.checkCondition_eq]
    cases hitems : repeatedItems c.items with
    | nil => exact absurd hitems hne
    | cons a rest => rfl

end Lists

/-! ## Both reports -/

/-- **What is reported as a duplicate.**

Without the conditions found to be equal to an earlier one, the first of equal conditions is kept,
and no other.  A condition is refused for its items if one of them occurs twice; then those that do
are named, each once, as going through the items with a set of those met finds them. -/
theorem duplicate_reports_exact [PatternEngine] :
    (∀ r : Rule, (∀ c ∈ r.conditions, c.IsOrdinary) →
      duplicateConditions r = (duplicateOccurrences r.conditions).map Prod.fst ∧
        KeepsFirst r.conditions (remaining r.conditions (duplicateOccurrences r.conditions))) ∧
    ∀ (allowed : List String) (c : Condition),
      ((∃ name named, checkCondition allowed c = .error (.duplicateListItems name named)) ↔
        ReachesItems allowed c ∧ ∃ a, 2 ≤ c.items.count a) ∧
      ∀ name named, checkCondition allowed c = .error (.duplicateListItems name named) →
        named = collectRepeated ∅ [] c.items ∧ NamesRepeated c.items named := by
  refine ⟨fun r h => ⟨duplicateConditions_eq_map_fst r, keepsFirst_remaining h⟩,
    fun allowed c => ⟨?_, fun name named h => ?_⟩⟩
  · rw [← (namesRepeated_repeatedItems c.items).ne_nil_iff]
    simp only [checkCondition_eq_duplicateListItems_iff]
    constructor
    · rintro ⟨_, _, hreaches, -, rfl, hne⟩
      exact ⟨hreaches, hne⟩
    · rintro ⟨hreaches, hne⟩
      exact ⟨_, _, hreaches, rfl, rfl, hne⟩
  · obtain ⟨-, -, rfl, -⟩ := checkCondition_eq_duplicateListItems_iff.1 h
    exact ⟨(collectRepeated_eq c.items).symm, namesRepeated_repeatedItems c.items⟩

/-- A list in which `b` comes back before `a` does. -/
def repetitiveList : Condition :=
  { freeArg := { name := "model" }, operation := "IN",
    fixedArg := some (.collection ["a", "b", "b", "a", "a"]) }

/-- A share of nothing, written `0` or `-0`. -/
def noShare (negative : Bool) : Condition :=
  { freeArg := { name := "share" }, operation := "PERCENT",
    fixedArg := some (.number (.finite negative .zero)) }

/-- The same share again after a list. -/
def repetitiveRule : Rule :=
  { parts :=
      [{ condition := some (noShare false) },
       { relation := some .and, condition := some repetitiveList },
       { relation := some .or, condition := some (noShare true) }] }

theorem duplicate_reports_repetitiveRule :
    duplicateConditions repetitiveRule = [noShare true] ∧
      KeepsFirst repetitiveRule.conditions [noShare false, repetitiveList] ∧
      (∃ name, checkCondition ["IN"] repetitiveList =
        .error (.duplicateListItems name ["b", "a"])) ∧
      NamesRepeated repetitiveList.items ["b", "a"] := by
  obtain ⟨hrules, hlists⟩ := duplicate_reports_exact
  obtain ⟨hrefused, hnames⟩ := hlists ["IN"] repetitiveList
  obtain ⟨hfound, hkept⟩ := hrules repetitiveRule (by decide)
  have hreaches : ReachesItems ["IN"] repetitiveList := {
    blanks := rfl
    operation := rfl
    percent := fun _ _ huses => absurd huses (by decide)
    pattern := fun _ _ huses => absurd huses (by decide) }
  obtain ⟨name, named, hreport⟩ := hrefused.2 ⟨hreaches, "b", by decide⟩
  obtain ⟨hcollected, hexact⟩ := hnames name named hreport
  have hnamed : named = ["b", "a"] := hcollected.trans (by rw [collectRepeated_eq]; decide)
  have hremaining : remaining repetitiveRule.conditions (duplicateOccurrences
      repetitiveRule.conditions) = [noShare false, repetitiveList] := by decide
  subst hnamed
  exact ⟨hfound.trans (by decide), hremaining ▸ hkept, ⟨name, hreport⟩, hexact⟩

end Validation

end Rulebook
