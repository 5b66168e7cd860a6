import Rulebook.Percent.Range

/-!
# Rulebook.Percent.Reader

Reading a range from its written form.

A range is written as two numbers with a minus between them.  Spaces and tabs may stand around each
number, any white space around the whole.  The minus is also a sign, so the reader goes from left to
right and takes the longest number it can: `-1--2` is the range from `-1` to `-2`, and `1e-5-2` the
one from `0.00001` to `2`.
-/

namespace Rulebook.Percent

/-- What is wrong with the written form of a range. -/
inductive Fault where
  | bound
  | separator
  | trailing
  deriving DecidableEq

/-- A text that is no range, with its fault. -/
structure ReadError where
  input : String
  fault : Fault
  deriving DecidableEq

/-- A space or a tab. -/
def isGap (c : Char) : Bool :=
  c == ' ' || c == '\t'

/-- A number with spaces and tabs around it, and the rest. -/
def readBound (cs : List Char) : Option (Number × List Char) :=
  (Number.scan (cs.dropWhile isGap)).map fun (n, rest) => (n, rest.dropWhile isGap)

/-- Two bounds with a minus between them, and nothing else. -/
def readChars (cs : List Char) : Except Fault Range :=
  match readBound cs with
  | none => .error .bound
  | some (start, '-' :: rest) =>
    match readBound rest with
    | none => .error .bound
    | some (stop, []) => .ok ⟨start, stop⟩
    | some _ => .error .trailing
  | some _ => .error .separator

/-- The range that a text writes. -/
def readRange (s : String) : Except ReadError Range :=
  match readChars (Text.trimChars s.toList) with
  | .ok r => .ok r
  | .error fault => .error ⟨s, fault⟩

/-- The fault in words. -/
def Fault.message : Fault → String
  | .bound => "invalid percent\nexpected a decimal number"
  | .separator => "expected `-`"
  | .trailing => ""

/-- The error in words, with the text as it was given. -/
def ReadError.message (e : ReadError) : String :=
  "range format exception '" ++ e.input ++ "', format pattern is: startRange-endRange: " ++
    e.fault.message

end Rulebook.Percent
