import Rulebook.Proofs.Validation.Shape

/-!
# Rulebook.Proofs.Validation.Spelling

What the normal form of a tree leaves as it was.

Normalising spells the names and the operations of the conditions anew.  `Rule.unspelled` is a tree
without them: all that is left of it, the values and types of its conditions included, is left by
normalising too, and what the checks of the shape look at is part of it:

* `Text.trim_eq_self_of_utf8ByteSize_eq` — a text that trimming makes no shorter is as it was;
* `mapConditions_respell` — writing a name only where that makes it shorter is enough;
* `unspelled_normalize` — nothing but the spelling differs;
* `normalize_spells` — the normal form as a whole, for trees of any depth.
-/

namespace Rulebook

/-! ## Trimming and size -/

namespace Text

/-- Trimming takes characters off both ends. -/
theorem exists_append_trimChars_append (cs : List Char) :
    ∃ front back, cs = front ++ trimChars cs ++ back := by
  have hfront : cs = cs.takeWhile isBlankChar ++ cs.dropWhile isBlankChar :=
    List.takeWhile_append_dropWhile.symm
  generalize hrest : cs.dropWhile isBlankChar = rest at hfront
  have hback : rest.reverse = rest.reverse.takeWhile isBlankChar ++
      rest.reverse.dropWhile isBlankChar := List.takeWhile_append_dropWhile.symm
  refine ⟨cs.takeWhile isBlankChar, (rest.reverse.takeWhile isBlankChar).reverse, ?_⟩
  rw [trimChars, hrest, List.append_assoc, ← List.reverse_append, ← hback, List.reverse_reverse]
  exact hfront

/-- **A text that is no shorter when it is trimmed** has nothing to trim, whatever the size of its
characters. -/
theorem trim_eq_self_of_utf8ByteSize_eq {s : String}
    (h : (trim s).utf8ByteSize = s.utf8ByteSize) : trim s = s := by
  obtain ⟨front, back, hchars⟩ := exists_append_trimChars_append s.toList
  have hsize : s.utf8ByteSize = String.utf8Len s.toList := by
    rw [← String.utf8ByteSize_ofList, String.ofList_toList]
  rw [trim, String.utf8ByteSize_ofList, hsize] at h
  have hlen := congrArg String.utf8Len hchars
  rw [String.utf8Len_append, String.utf8Len_append] at hlen
  have hfront : front = [] := String.utf8Len_eq_zero.1 (by omega)
  have hback : back = [] := String.utf8Len_eq_zero.1 (by omega)
  rw [hfront, hback, List.nil_append, List.append_nil] at hchars
  rw [trim, ← hchars, String.ofList_toList]

end Text

/-! ## Conditions -/

namespace Condition

/-- The condition spelled anew in place: the operation is always written, the name only where
trimming changes its size. -/
def respell (c : Condition) : Condition :=
  let trimmed := Text.trim c.freeArg.name
  let spelled := { c with operation := Text.upperAscii (Text.trim c.operation) }
  if trimmed.utf8ByteSize != c.freeArg.name.utf8ByteSize then
    { spelled with freeArg := { c.freeArg with name := trimmed } }
  else spelled

theorem respell_eq_normalize (c : Condition) : c.respell = c.normalize := by
  rw [respell, normalize]
  split
  · rfl
  · next hsize =>
      have hname : Text.trim c.freeArg.name = c.freeArg.name :=
        Text.trim_eq_self_of_utf8ByteSize_eq (by simpa using hsize)
      rw [hname]

/-- The condition without its name and its operation. -/
def unspelled (c : Condition) : Condition :=
  { c with freeArg := { c.freeArg with name := "" }, operation := "" }

end Condition

/-! ## Trees -/

namespace Rule

section

variable (f g : Condition → Condition)

mutual

theorem mapConditions_mapConditions : ∀ r : Rule,
    (r.mapConditions f).mapConditions g = r.mapConditions (g ∘ f)
  | ⟨negated, relation, condition, parts⟩ => by
      rw [mapConditions, mapConditions, mapConditions, Option.map_map,
        mapPartsConditions_mapPartsConditions parts]

theorem mapPartsConditions_mapPartsConditions : ∀ parts : List Rule,
    mapPartsConditions g (mapPartsConditions f parts) = mapPartsConditions (g ∘ f) parts
  | [] => rfl
  | part :: rest => by
      rw [mapPartsConditions, mapPartsConditions, mapPartsConditions,
        mapConditions_mapConditions part, mapPartsConditions_mapPartsConditions rest]

end

end

mutual

theorem normalize_eq_mapConditions : ∀ r : Rule, r.normalize = r.mapConditions Condition.normalize
  | ⟨negated, relation, condition, parts⟩ => by
      rw [normalize, mapConditions, normalizeParts_eq_mapPartsConditions parts]

theorem normalizeParts_eq_mapPartsConditions : ∀ parts : List Rule,
    normalizeParts parts = mapPartsConditions Condition.normalize parts
  | [] => rfl
  | part :: rest => by
      rw [normalizeParts, mapPartsConditions, normalize_eq_mapConditions part,
        normalizeParts_eq_mapPartsConditions rest]

end

/-- To normalise a tree is to spell its conditions anew in place. -/
theorem mapConditions_respell (r : Rule) : r.mapConditions Condition.respell = r.normalize := by
  rw [funext Condition.respell_eq_normalize, normalize_eq_mapConditions]

/-- The tree without the names and the operations of its conditions: negations, relations, all parts
in their places, values and types. -/
def unspelled (r : Rule) : Rule :=
  r.mapConditions Condition.unspelled

theorem unspelled_normalize (r : Rule) : r.normalize.unspelled = r.unspelled := by
  have hcondition : Condition.unspelled ∘ Condition.normalize = Condition.unspelled := rfl
  rw [unspelled, normalize_eq_mapConditions, mapConditions_mapConditions, hcondition, unspelled]

/-- **Normalising is a matter of spelling**, whatever the depth of the tree.  It is done once and
for all, and done as well by writing only those names that get shorter; it leaves everything but
names and operations as it was, so the checks of the shape give what they gave before; and the
conditions are those of the tree, each with its name trimmed and its operation trimmed and in upper
case. -/
theorem normalize_spells (r : Rule) :
    r.normalize.normalize = r.normalize ∧
    r.mapConditions Condition.respell = r.normalize ∧
    r.normalize.unspelled = r.unspelled ∧
    (r.normalize.isEmpty = r.isEmpty ∧
      Validation.checkStructure r.normalize = Validation.checkStructure r ∧
      Validation.checkRelations r.normalize = Validation.checkRelations r) ∧
    r.normalize.conditions = r.conditions.map fun c =>
      { c with
        freeArg := { c.freeArg with name := Text.trim c.freeArg.name }
        operation := Text.upperAscii (Text.trim c.operation) } := by
  refine ⟨r.normalize_normalize, r.mapConditions_respell, r.unspelled_normalize, ?_,
    r.conditions_normalize⟩
  rw [normalize_eq_mapConditions]
  exact ⟨isEmpty_mapConditions _ r, Validation.checkStructure_mapConditions r,
    Validation.checkRelations_mapConditions r⟩

end Rule

end Rulebook
