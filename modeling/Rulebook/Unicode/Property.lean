import Rulebook.Unicode.Age
import Rulebook.Unicode.Break

/-!
# Rulebook.Unicode.Property

Properties of characters, found by name.

Names are compared loosely: letter case, spaces, hyphens and underscores do not count, nor does the
word `is` in front.  A bare name is a property that is true or false, a general category or a
script; a property with a value is a category, a script, an age, or one of three kinds of break.
-/

namespace Rulebook.Unicode

/-- A name without what loose comparison ignores.  The one exception keeps the name `isc` whole,
which is a property of its own and not the category `c`. -/
def looseName (cs : List Char) : String :=
  let lower := cs.map Char.toLower
  let bare := fun (cs : List Char) =>
    cs.filter fun c => c.toNat < 0x80 && c != ' ' && c != '_' && c != '-'
  match lower with
  | 'i' :: 's' :: rest =>
    if bare rest = ['c'] then "isc" else String.ofList (bare rest)
  | _ => String.ofList (bare lower)

/-- The set that a table lists under a name. -/
def lookUp? (table : List (List String × CodeSet)) (name : String) : Option CodeSet :=
  (table.find? fun entry => entry.1.contains name).map (·.2)

/-- Properties that take a value, under all of their names, with the sets of their values. -/
def valued : List (List String × List (List String × CodeSet)) := [
  (["gc", "generalcategory"], Category.named),
  (["sc", "script"], Script.named),
  (["scx", "scriptextensions"], Script.namedExtended),
  (["age"], Age.named),
  (["gcb", "graphemeclusterbreak"], Break.Grapheme.named),
  (["wb", "wordbreak"], Break.Word.named),
  (["sb", "sentencebreak"], Break.Sentence.named)]

/-- The characters with a property, if it is known. -/
def property? (name : List Char) : Option CodeSet :=
  let name := looseName name
  lookUp? Derived.named name <|> lookUp? Category.named name <|> lookUp? Script.named name

/-- The characters for which a property has a value, if both are known. -/
def propertyValue? (name value : List Char) : Option CodeSet :=
  match valued.find? fun entry => entry.1.contains (looseName name) with
  | some (_, table) => lookUp? table (looseName value)
  | none => none

end Rulebook.Unicode
