/-!
# Rulebook.SortedMap

Finite maps from names to values, listed in the order of their names.

A map is its list of entries, and the list is strictly ascending (by code point), so a map has
exactly one list and two maps with the same entries are equal.  Properties of a template, the
tables of a store and the rows of a table are such maps.

* `get?_insert` and `get?_erase` say what is found after a change;
* `ext_get?` says that a map is determined by what is found in it.
-/

namespace Rulebook

/-- Entries in strictly ascending order of their names. -/
structure SortedMap (α : Type u) where
  toList : List (String × α)
  sorted : toList.Pairwise (fun a b => a.1 < b.1)

namespace SortedMap

variable {α : Type u}

/-! ## Entries -/

/-- Put an entry into its place among ascending entries, replacing the one of that name. -/
def insertEntry (name : String) (value : α) : List (String × α) → List (String × α)
  | [] => [(name, value)]
  | (n, v) :: rest =>
    if name < n then (name, value) :: (n, v) :: rest
    else if name = n then (name, value) :: rest
    else (n, v) :: insertEntry name value rest

theorem mem_of_mem_insertEntry {name : String} {value : α} {entries : List (String × α)}
    {e : String × α} (h : e ∈ insertEntry name value entries) :
    e = (name, value) ∨ e ∈ entries := by
  induction entries with
  | nil => simpa [insertEntry] using h
  | cons entry rest ih =>
    obtain ⟨n, v⟩ := entry
    simp only [insertEntry] at h
    split at h
    · simpa using h
    · split at h
      · rcases List.mem_cons.1 h with h | h
        · exact .inl h
        · exact .inr (List.mem_cons_of_mem _ h)
      · rcases List.mem_cons.1 h with h | h
        · exact .inr (h ▸ List.mem_cons_self)
        · exact (ih h).imp_right (List.mem_cons_of_mem _)

theorem pairwise_insertEntry {name : String} {value : α} {entries : List (String × α)}
    (h : entries.Pairwise (fun a b => a.1 < b.1)) :
    (insertEntry name value entries).Pairwise (fun a b => a.1 < b.1) := by
  induction entries with
  | nil => simp [insertEntry]
  | cons entry rest ih =>
    obtain ⟨n, v⟩ := entry
    have ⟨hhead, htail⟩ := List.pairwise_cons.1 h
    simp only [insertEntry]
    split
    · next hlt =>
      refine List.pairwise_cons.2 ⟨fun e he => ?_, h⟩
      rcases List.mem_cons.1 he with he | he
      · exact he ▸ hlt
      · exact String.lt_trans hlt (hhead e he)
    · next hnlt =>
      split
      · next heq => exact List.pairwise_cons.2 ⟨heq ▸ hhead, htail⟩
      · next hne =>
        refine List.pairwise_cons.2 ⟨fun e he => ?_, ih htail⟩
        rcases mem_of_mem_insertEntry he with he | he
        · subst he
          refine String.not_le.1 fun hle => ?_
          exact hne (String.le_antisymm hle (String.not_lt.1 hnlt))
        · exact hhead e he

/-! ## The map -/

/-- No entries. -/
def empty : SortedMap α := ⟨[], List.Pairwise.nil⟩

instance : EmptyCollection (SortedMap α) := ⟨empty⟩

instance : Inhabited (SortedMap α) := ⟨empty⟩

/-- The value under a name. -/
def get? (m : SortedMap α) (name : String) : Option α :=
  m.toList.lookup name

/-- The map with a value under a name, in place of the one that was there. -/
def insert (m : SortedMap α) (name : String) (value : α) : SortedMap α :=
  ⟨insertEntry name value m.toList, pairwise_insertEntry m.sorted⟩

/-- The map without a name. -/
def erase (m : SortedMap α) (name : String) : SortedMap α :=
  ⟨m.toList.filter (fun e => e.1 != name), m.sorted.sublist List.filter_sublist⟩

/-- The map of a list of entries, of which the last one of a name stands. -/
def ofList (entries : List (String × α)) : SortedMap α :=
  entries.foldl (fun m e => m.insert e.1 e.2) ∅

/-- The names in ascending order. -/
def keys (m : SortedMap α) : List String :=
  m.toList.map Prod.fst

/-- The values in ascending order of their names. -/
def values (m : SortedMap α) : List α :=
  m.toList.map Prod.snd

/-! ## Look-up -/

theorem lookup_cons_eq_ite (n : String) (e : String × α) (rest : List (String × α)) :
    (e :: rest).lookup n = if n = e.1 then some e.2 else rest.lookup n := by
  obtain ⟨k, value⟩ := e
  by_cases h : n = k
  · simp [h]
  · simp [List.lookup_cons, h, beq_eq_false_iff_ne.2 h]

theorem lookup_insertEntry (name n : String) (value : α) (entries : List (String × α)) :
    (insertEntry name value entries).lookup n =
      if n = name then some value else entries.lookup n := by
  induction entries with
  | nil => simp [insertEntry, lookup_cons_eq_ite]
  | cons e rest ih =>
    rw [insertEntry]
    split
    · rw [lookup_cons_eq_ite]
    · split
      · next heq =>
        rw [lookup_cons_eq_ite, lookup_cons_eq_ite, heq]
        split <;> rfl
      · next hne =>
        rw [lookup_cons_eq_ite, lookup_cons_eq_ite, ih]
        by_cases h : n = e.1
        · rw [if_pos h, if_pos h, if_neg fun hn : n = name => hne (hn.symm.trans h)]
        · rw [if_neg h, if_neg h]

theorem lookup_filter_ne (name n : String) (entries : List (String × α)) :
    (entries.filter fun e => e.1 != name).lookup n =
      if n = name then none else entries.lookup n := by
  induction entries with
  | nil => simp
  | cons e rest ih =>
    by_cases he : e.1 = name
    · rw [List.filter_cons_of_neg (by simp [he]), ih, lookup_cons_eq_ite, he]
      split <;> rfl
    · rw [List.filter_cons_of_pos (by simp [he]), lookup_cons_eq_ite, lookup_cons_eq_ite, ih]
      by_cases h : n = e.1
      · rw [if_pos h, if_pos h, if_neg fun hn : n = name => he (h.symm.trans hn)]
      · rw [if_neg h, if_neg h]

@[simp] theorem get?_empty (n : String) : (∅ : SortedMap α).get? n = none := rfl

/-- What was inserted is found under its name, and all else as before. -/
theorem get?_insert (m : SortedMap α) (name n : String) (value : α) :
    (m.insert name value).get? n = if n = name then some value else m.get? n :=
  lookup_insertEntry name n value m.toList

/-- What was erased is not found, and all else as before. -/
theorem get?_erase (m : SortedMap α) (name n : String) :
    (m.erase name).get? n = if n = name then none else m.get? n :=
  lookup_filter_ne name n m.toList

theorem lookup_eq_none_of_lt {n : String} {entries : List (String × α)}
    (h : ∀ e ∈ entries, n < e.1) : entries.lookup n = none := by
  refine List.lookup_eq_none_iff.2 fun e he => ?_
  simpa using fun heq : n = e.1 => String.lt_irrefl e.1 (heq ▸ h e he)

/-- The first name of ascending entries is not below one under which something is found. -/
theorem not_lt_of_lookup_eq_some {n : String} {v : α} {e : String × α}
    {rest : List (String × α)}
    (h : (e :: rest).Pairwise (fun a b => a.1 < b.1)) (hn : (e :: rest).lookup n = some v) :
    ¬ n < e.1 := by
  intro hlt
  have hnone : (e :: rest).lookup n = none := lookup_eq_none_of_lt fun x hx => by
    rcases List.mem_cons.1 hx with hx | hx
    · exact hx ▸ hlt
    · exact String.lt_trans hlt (List.rel_of_pairwise_cons h hx)
  rw [hnone] at hn
  cases hn

/-- Ascending entries are determined by what is found under each name. -/
theorem eq_of_lookup_eq {l l' : List (String × α)} (hl : l.Pairwise (fun a b => a.1 < b.1))
    (hl' : l'.Pairwise (fun a b => a.1 < b.1)) (h : ∀ n, l.lookup n = l'.lookup n) : l = l' := by
  induction l generalizing l' with
  | nil =>
    cases l' with
    | nil => rfl
    | cons e' rest' => simpa [lookup_cons_eq_ite] using h e'.1
  | cons e rest ih =>
    cases l' with
    | nil => simpa [lookup_cons_eq_ite] using h e.1
    | cons e' rest' =>
      have ⟨hhead, htail⟩ := List.pairwise_cons.1 hl
      have ⟨hhead', htail'⟩ := List.pairwise_cons.1 hl'
      have hself : (e :: rest).lookup e.1 = some e.2 := by rw [lookup_cons_eq_ite, if_pos rfl]
      have hself' : (e' :: rest').lookup e'.1 = some e'.2 := by
        rw [lookup_cons_eq_ite, if_pos rfl]
      have hname : e.1 = e'.1 :=
        String.le_antisymm (String.not_lt.1 (not_lt_of_lookup_eq_some hl ((h e'.1).trans hself')))
          (String.not_lt.1 (not_lt_of_lookup_eq_some hl' ((h e.1).symm.trans hself)))
      have hvalue : e.2 = e'.2 := by
        have := hself.symm.trans ((h e.1).trans (hname ▸ hself'))
        exact Option.some.inj this
      refine List.cons_eq_cons.2 ⟨Prod.ext hname hvalue, ih htail htail' fun n => ?_⟩
      by_cases hn : n = e.1
      · rw [hn, lookup_eq_none_of_lt hhead, hname, lookup_eq_none_of_lt hhead']
      · have := h n
        rwa [lookup_cons_eq_ite, lookup_cons_eq_ite, if_neg hn, if_neg (hname ▸ hn)] at this

/-- Maps in which the same is found under every name are equal. -/
theorem ext_get? {m m' : SortedMap α} (h : ∀ n, m.get? n = m'.get? n) : m = m' := by
  obtain ⟨l, hl⟩ := m
  obtain ⟨l', hl'⟩ := m'
  have hll : l = l' := eq_of_lookup_eq hl hl' h
  subst hll
  rfl

theorem mem_iff_lookup_eq_some {l : List (String × α)} (hl : l.Pairwise (fun a b => a.1 < b.1))
    {n : String} {v : α} : (n, v) ∈ l ↔ l.lookup n = some v := by
  induction l with
  | nil => simp
  | cons e rest ih =>
    have ⟨hhead, htail⟩ := List.pairwise_cons.1 hl
    rw [List.mem_cons, lookup_cons_eq_ite, ih htail, Prod.ext_iff]
    by_cases hn : n = e.1
    · rw [if_pos hn, hn, lookup_eq_none_of_lt hhead]
      simp [eq_comm]
    · simp [hn]

/-- The entries are what is found. -/
theorem mem_toList_iff {m : SortedMap α} {n : String} {v : α} :
    (n, v) ∈ m.toList ↔ m.get? n = some v :=
  mem_iff_lookup_eq_some m.sorted

end SortedMap

end Rulebook
