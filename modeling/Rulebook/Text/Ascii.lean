/-!
# Rulebook.Text.Ascii

Letter case of operation names.  Names of operations are compared and written in ASCII case only:
`in_list` is `IN_LIST`, while a dotless or accented letter is equal to nothing but itself.
-/

namespace Rulebook.Text

/-- The text with every ASCII letter in upper case and all else as it was. -/
def upperAscii (s : String) : String :=
  String.ofList (s.toList.map Char.toUpper)

/-- The texts are equal when the case of ASCII letters is ignored. -/
def sameIgnoringCase (s t : String) : Bool :=
  s.toList.map Char.toLower == t.toList.map Char.toLower

end Rulebook.Text
