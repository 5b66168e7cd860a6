import Rulebook.Pattern.Syntax

/-!
# Rulebook.Pattern.Form

Patterns in normal form.

A form is what is left of a pattern when flags, escapes and brackets are resolved: texts, sets of
characters, places, and four ways to put forms together.  Forms are built by the functions `ofSet`,
`repeated`, `inSequence` and `inChoice`, which simplify what they are given: neighbouring texts
become one text, a choice between single characters becomes a set, what all branches of a choice
start with is taken out in front, and what matches only the empty text is not repeated.
-/

namespace Rulebook.Pattern

open Unicode (CodeSet)

/-- Places between characters. -/
inductive Place where
  | textStart
  | textEnd
  | lineStart (crlf : Bool)
  | lineEnd (crlf : Bool)
  | word (place : WordPlace) (unicode : Bool)
  deriving DecidableEq

/-- A pattern in normal form. -/
inductive Form where
  /-- The empty text. -/
  | empty
  | place (p : Place)
  /-- A text, which is not empty. -/
  | text (cs : List Char)
  /-- A character of a set; `bytes` if the pattern was read without the Unicode flag. -/
  | oneOf (bytes : Bool) (set : CodeSet)
  /-- At least `low` and at most `high` times the same. -/
  | repetition (low : Nat) (high : Option Nat) (greedy : Bool) (form : Form)
  /-- A group that remembers what it matches. -/
  | capture (form : Form)
  | choice (branches : List Form)
  | sequence (parts : List Form)

namespace Form

/-- The form that matches nothing, not even the empty text. -/
def fail : Form :=
  .oneOf true ∅

/-! ## Lengths and ends -/

mutual

/-- The length in bytes of the shortest match, if the form can match. -/
def minLength : Form → Option Nat
  | .empty | .place _ => some 0
  | .text cs => some (cs.map Char.utf8Size).sum
  | .oneOf _ set => set.bounds.head?.map fun first => (Char.ofNat first).utf8Size
  | .repetition low _ _ form => form.minLength.map (low * ·)
  | .capture form => form.minLength
  | .choice branches => minOfAll branches
  | .sequence parts => minOfSum parts

/-- The least of the lengths, if there is one for every branch. -/
def minOfAll : List Form → Option Nat
  | [] => none
  | [branch] => branch.minLength
  | branch :: rest => do
    let n ← branch.minLength
    let m ← minOfAll rest
    pure (min n m)

def minOfSum : List Form → Option Nat
  | [] => some 0
  | part :: rest => do
    let n ← part.minLength
    let m ← minOfSum rest
    pure (n + m)

end

mutual

/-- The form matches the empty text at most. -/
def isEmptyAtMost : Form → Bool
  | .empty | .place _ => true
  | .text _ | .oneOf _ _ => false
  | .repetition _ high _ form => high.isSome && form.isEmptyAtMost
  | .capture form => form.isEmptyAtMost
  | .choice branches => areEmptyAtMost branches
  | .sequence parts => areEmptyAtMost parts

def areEmptyAtMost : List Form → Bool
  | [] => true
  | form :: rest => form.isEmptyAtMost && areEmptyAtMost rest

end

mutual

/-- Every match of the form starts at the place. -/
def startsAt (p : Place) : Form → Bool
  | .place q => p == q
  | .repetition low _ _ form => low != 0 && form.startsAt p
  | .capture form => form.startsAt p
  | .choice branches => allStartAt p branches
  | .sequence parts => firstStartsAt p parts
  | _ => false

def allStartAt (p : Place) : List Form → Bool
  | [] => true
  | branch :: rest => branch.startsAt p && allStartAt p rest

/-- One of the parts starts at the place, and those before it match the empty text at most. -/
def firstStartsAt (p : Place) : List Form → Bool
  | [] => false
  | part :: rest => part.startsAt p || (part.isEmptyAtMost && firstStartsAt p rest)

end

mutual

/-- Every match of the form ends at the place. -/
def endsAt (p : Place) : Form → Bool
  | .place q => p == q
  | .repetition low _ _ form => low != 0 && form.endsAt p
  | .capture form => form.endsAt p
  | .choice branches => allEndAt p branches
  | .sequence parts => lastEndsAt p parts
  | _ => false

def allEndAt (p : Place) : List Form → Bool
  | [] => true
  | branch :: rest => branch.endsAt p && allEndAt p rest

/-- One of the parts ends at the place, and those after it match the empty text at most. -/
def lastEndsAt (p : Place) : List Form → Bool
  | [] => false
  | part :: rest => lastEndsAt p rest || (areEmptyAtMost rest && part.endsAt p)

end

/-! ## Comparison -/

mutual

/-- The forms are the same.  Groups that remember their match never are, for each has a number of
its own. -/
def same : Form → Form → Bool
  | .empty, .empty => true
  | .place p, .place q => p == q
  | .text cs, .text ds => cs == ds
  | .oneOf bytes s, .oneOf bytes' t => bytes == bytes' && s.bounds == t.bounds
  | .repetition low high greedy form, .repetition low' high' greedy' form' =>
    low == low' && high == high' && greedy == greedy' && form.same form'
  | .choice branches, .choice branches' => allSame branches branches'
  | .sequence parts, .sequence parts' => allSame parts parts'
  | _, _ => false

def allSame : List Form → List Form → Bool
  | [], [] => true
  | form :: rest, form' :: rest' => form.same form' && allSame rest rest'
  | _, _ => false

end

/-- The number of forms at the front that two lists have in common. -/
def commonLength : List Form → List Form → Nat
  | form :: rest, form' :: rest' => if form.same form' then commonLength rest rest' + 1 else 0
  | _, _ => 0

/-! ## Sets -/

/-- A character of the set; a set of one is a text. -/
def ofSet (bytes : Bool) (set : CodeSet) : Form :=
  match set.ranges with
  | [] => fail
  | [(first, last)] => if first = last then .text [Char.ofNat first] else .oneOf bytes set
  | _ => .oneOf bytes set

/-! ## Repetitions -/

/-- At least `low` and at most `high` times the same.  Once is enough of what matches the empty text
at most. -/
def repeated (low : Nat) (high : Option Nat) (greedy : Bool) (form : Form) : Form :=
  let (low, high) :=
    if form.isEmptyAtMost then (min low 1, some (min (high.getD 1) 1)) else (low, high)
  if low = 0 ∧ high = some 0 then .empty
  else if low = 1 ∧ high = some 1 then form
  else .repetition low high greedy form

/-! ## Sequences -/

/-- The parts of a form, if it is a sequence. -/
def parts : Form → List Form
  | .empty => []
  | .sequence parts => parts
  | form => [form]

/-- Neighbouring texts put together. -/
def joinTexts : List Form → List Form
  | [] => []
  | form :: rest =>
    match form, joinTexts rest with
    | .text cs, .text ds :: rest => .text (cs ++ ds) :: rest
    | form, rest => form :: rest

/-- One form after the other. -/
def inSequence (forms : List Form) : Form :=
  match joinTexts (forms.flatMap parts) with
  | [] => .empty
  | [form] => form
  | forms => .sequence forms

/-! ## Choices -/

/-- The branches of a form, if it is a choice. -/
def branches : Form → List Form
  | .choice branches => branches
  | form => [form]

/-- The character, if the form is a text of one. -/
def asChar? : Form → Option Nat
  | .text [c] => some c.toNat
  | _ => none

/-- The characters, if the form is a set. -/
def asSet? : Form → Option CodeSet
  | .oneOf _ set => some set
  | _ => none

/-- The parts, if the form is a sequence of several. -/
def asSequence? : Form → Option (List Form)
  | .sequence parts => some parts
  | _ => none

/-- One of several forms, given in a flat list: single characters and sets are put together. -/
def oneOfFlat (forms : List Form) : Form :=
  match forms with
  | [] => fail
  | [form] => form
  | forms =>
    match forms.mapM asChar? with
    | some cs => ofSet false (.unions (cs.map fun c => .range c c))
    | none =>
      match forms.mapM asSet? with
      | some sets => ofSet false (.unions sets)
      | none => .choice forms

/-- One of several forms.  What all of them start with goes in front of the choice between what is
left of each. -/
def inChoice (forms : List Form) : Form :=
  let forms := forms.flatMap branches
  match oneOfFlat forms with
  | .choice flat =>
    match flat.mapM asSequence? with
    | some (first :: rest) =>
      match rest.foldl (fun n parts => min n (commonLength first parts)) first.length with
      | 0 => .choice flat
      | common =>
        let left := (first :: rest).map fun parts => inSequence (parts.drop common)
        inSequence (first.take common ++ [oneOfFlat (left.flatMap branches)])
    | _ => .choice flat
  | form => form

end Form

end Rulebook.Pattern
