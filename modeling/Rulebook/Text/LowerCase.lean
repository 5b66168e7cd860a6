import Rulebook.Text.CaseTable

/-!
# Rulebook.Text.LowerCase

Lower case of names, by the rules of the Unicode standard.

Every character has its own lower-case form but the capital sigma, which becomes a final sigma at
the end of a word: a cased letter goes before it and none follows, where case-ignorable characters
in between do not count.  The capital I with a dot is the one character that becomes two.
-/

namespace Rulebook.Text

/-- The lower-case form of a character by itself. -/
def lowerChar (c : Char) : List Char :=
  if c.toNat = 0x130 then ['i', Char.ofNat 0x307]
  else
    match lowerings.find? fun entry => entry.2.contains c.toNat with
    | some (distance, _) => [Char.ofNat ((c.toNat : Int) + distance).toNat]
    | none => [c]

/-- The first character that is not case-ignorable is a cased letter. -/
def meetsCased (cs : List Char) : Bool :=
  match cs.dropWhile fun c => caseIgnorable.contains c.toNat with
  | c :: _ => cased.contains c.toNat
  | [] => false

/-- The lower-case form of characters that come after `before`, which is listed backwards. -/
def lowerAfter (before : List Char) : List Char → List Char
  | [] => []
  | c :: rest =>
    if c.toNat = 0x3A3 then
      Char.ofNat (if meetsCased before && !meetsCased rest then 0x3C2 else 0x3C3) ::
        lowerAfter (c :: before) rest
    else lowerChar c ++ lowerAfter (c :: before) rest

/-- The text in lower case. -/
def lowerCase (s : String) : String :=
  String.ofList (lowerAfter [] s.toList)

end Rulebook.Text
