import Rulebook.Pattern.Check
import Rulebook.Rule.Basic
import Rulebook.Validation.Error

/-!
# Rulebook.Validation.Rule

Checking a rule tree.

`validateRule` looks at the tree as a whole, then at its shape, then at the relations of its parts,
then at each condition in tree order, and last for conditions that occur more than once; the first
thing found is the error.  The tree is not changed, so a caller that wants names trimmed and
operations in upper case normalises it before.
-/

namespace Rulebook.Validation

variable [PatternEngine]

/-! ## Shape -/

/-- Every part is a condition; `index` is the position of the first one. -/
def checkParts : Nat → List Rule → Except ValidationError Unit
  | _, [] => .ok ()
  | index, part :: rest =>
    if part.isCompound then .error (.nestedCompoundParts index)
    else if part.condition.isNone then .error (.emptyCompoundPart index)
    else checkParts (index + 1) rest

/-- A condition or parts, and no parts of parts. -/
def checkStructure (r : Rule) : Except ValidationError Unit :=
  if r.condition.isSome && r.isCompound then .error .conditionWithCompoundParts
  else checkParts 0 r.parts

/-- Every part after the first has a relation; `index` is the position of the first one given. -/
def checkLaterRelations : Nat → List Rule → Except ValidationError Unit
  | _, [] => .ok ()
  | index, part :: rest =>
    if part.relation.isNone then .error (.missingRelation index)
    else checkLaterRelations (index + 1) rest

/-- The first part has no relation and every later one has. -/
def checkRelations (r : Rule) : Except ValidationError Unit :=
  match r.parts with
  | [] => .ok ()
  | first :: rest =>
    if first.relation.isSome then .error .unexpectedRelation
    else checkLaterRelations 1 rest

/-! ## Conditions -/

/-- A condition has a name, an operation and, unless it asks for mere presence, something to
compare with. -/
def checkBlanks (c : Condition) : Except ValidationError Unit :=
  let name := Text.trim c.freeArg.name
  if Text.isBlank c.freeArg.name then .error .blankFreeArg
  else if Text.isBlank c.operation then .error (.blankOperation name)
  else if c.uses Operation.present then .ok ()
  else
    match c.fixedArg with
    | none => .error (.missingFixedArg name c.operation)
    | some value => if value.isBlank then .error (.blankFixedArg name) else .ok ()

/-- The operation is one of those allowed. -/
def checkOperation (operation : String) (allowed : List String) : Except ValidationError Unit :=
  if Operation.isAllowed operation allowed then .ok ()
  else .error (.operationNotAllowed operation)

/-- The items that occur among `before` exactly once, so that this is their second time. -/
def secondOccurrences [BEq α] (before : List α) : List α → List α
  | [] => []
  | a :: rest =>
    if before.count a == 1 then a :: secondOccurrences (a :: before) rest
    else secondOccurrences (a :: before) rest

/-- The items that occur more than once, in the order of their second occurrences. -/
def repeatedItems (items : List String) : List String :=
  secondOccurrences [] items

/-- The number is a percentage. -/
def isPercent (value : FixedValue) : Bool :=
  match value.asNumber? with
  | some x => Percent.isPercentage x
  | none => false

/-- The engine takes the pattern; what is not a string is no pattern and not looked at. -/
def isPattern (value : FixedValue) : Bool :=
  match value.asString? with
  | some pattern => PatternEngine.accepts pattern
  | none => true

/-- What a condition compares with is fit for its operation: a percentage for `PERCENT`, a regular
expression for `LIKE`, and a list without repeated items for all of them. -/
def checkValue (c : Condition) : Except ValidationError Unit :=
  match c.fixedArg with
  | none => .ok ()
  | some value =>
    let name := Text.trim c.freeArg.name
    if c.uses Operation.percent && !isPercent value then .error (.invalidPercent name)
    else if c.uses Operation.like && !isPattern value then
      .error (.invalidPattern (value.asString?.getD ""))
    else
      match repeatedItems (value.asCollection?.getD []) with
      | [] => .ok ()
      | items => .error (.duplicateListItems name items)

/-- One condition with all its checks. -/
def checkCondition (allowed : List String) (c : Condition) : Except ValidationError Unit := do
  checkBlanks c
  checkOperation c.operation allowed
  checkValue c

/-! ## Duplicates -/

/-- The conditions equal to one of `before` or to one before them in the list. -/
def duplicatesAfter (before : List Condition) : List Condition → List Condition
  | [] => []
  | c :: rest =>
    if before.any fun d => d.same c then c :: duplicatesAfter (c :: before) rest
    else duplicatesAfter (c :: before) rest

/-- The conditions of a tree that are equal to an earlier one. -/
def duplicateConditions (r : Rule) : List Condition :=
  duplicatesAfter [] r.conditions

/-- No duplicates were found: the list is refused if there is anything in it. -/
def checkNoDuplicates (duplicates : List Condition) : Except ValidationError Unit :=
  if duplicates.isEmpty then .ok () else .error (.duplicateConditions duplicates)

/-! ## The whole tree -/

/-- The first thing wrong with a tree, if anything is. -/
def validateRule (r : Rule) (allowed : List String) : Except ValidationError Unit := do
  if r.isEmpty then .error .emptyRule
  checkStructure r
  checkRelations r
  r.conditions.forM (checkCondition allowed)
  checkNoDuplicates (duplicateConditions r)

/-! ## Ranges of a tree -/

/-- The texts of ranges in a tree: the strings of its `RANGE` conditions. -/
def rangeTexts (r : Rule) : List String :=
  (r.conditions.filter fun c => c.uses Operation.range).filterMap fun c =>
    c.fixedArg.bind FixedValue.asString?

/-- The ranges of a tree, or the first text that is none. -/
def percentRanges (r : Rule) : Except ValidationError (List Percent.Range) :=
  (rangeTexts r).mapM fun s =>
    match Percent.readRange s with
    | .ok range => .ok range
    | .error e => .error (.unreadableRange e)

/-- The ranges have bounds in order and share no point. -/
def validateRanges (ranges : List Percent.Range) : Except ValidationError Unit :=
  match Percent.validateRanges ranges with
  | .ok _ => .ok ()
  | .error e => .error (.range e)

end Rulebook.Validation
