import Rulebook.Percent.Reader
import Rulebook.Rule.Condition

/-!
# Rulebook.Validation.Error

Why a rule, or a record that holds one, is refused.

An error is its cause; `message` is the one place where it is put into words.
-/

namespace Rulebook

/-- The cause of a refusal. -/
inductive ValidationError where
  | emptyRule
  | conditionWithCompoundParts
  | nestedCompoundParts (index : Nat)
  | emptyCompoundPart (index : Nat)
  | unexpectedRelation
  | missingRelation (index : Nat)
  | blankFreeArg
  | blankOperation (freeArg : String)
  | operationNotAllowed (operation : String)
  | missingFixedArg (freeArg operation : String)
  | blankFixedArg (freeArg : String)
  | invalidPercent (freeArg : String)
  /-- The engine does not take the pattern; what it says against it is left out. -/
  | invalidPattern (pattern : String)
  | duplicateListItems (freeArg : String) (items : List String)
  | duplicateConditions (conditions : List Condition)
  | unreadableRange (error : Percent.ReadError)
  | range (error : Percent.RangeError)
  | blankName (label : String)
  | blankPropertyKey
  | missingFeatures
  | tooManyFeatures (max : Nat)
  | featureApplicationMismatch (feature featureType ruleType : String)
  | blankApplicationType
  | unknownApplicationType (value : String)
  | applicationTypeMismatch (entity request : String)
  | invalidPriority (priority : Int)
  | blankListId

/-- The refusal of a range in words. -/
def Percent.RangeError.message : Percent.RangeError → String
  | .startInvalid start => "start range " ++ start.toText ++ " is not valid"
  | .endInvalid stop => "end range " ++ stop.toText ++ " is not valid"
  | .startNotBelowEnd start stop =>
    "start range " ++ start.toText ++ " should be less than end range " ++ stop.toText
  | .overlap first second =>
    "ranges overlap each other: " ++ first.toText ++ ", " ++ second.toText

namespace ValidationError

/-- The cause in words. -/
def message : ValidationError → String
  | .emptyRule => "Rule is empty"
  | .conditionWithCompoundParts => "rule has both a condition and compound parts"
  | .nestedCompoundParts index =>
    "compound part " ++ toString index ++ " has nested compound parts"
  | .emptyCompoundPart index => "compound part " ++ toString index ++ " has no condition"
  | .unexpectedRelation => "first compound part must not have a relation"
  | .missingRelation index => "compound part " ++ toString index ++ " is missing a relation"
  | .blankFreeArg => "free argument name is blank"
  | .blankOperation freeArg => "operation is blank for '" ++ freeArg ++ "'"
  | .operationNotAllowed operation => "operation '" ++ operation ++ "' is not allowed"
  | .missingFixedArg freeArg operation =>
    "fixed argument is missing for '" ++ freeArg ++ " " ++ operation ++ "'"
  | .blankFixedArg freeArg => "fixed argument is blank for '" ++ freeArg ++ "'"
  | .invalidPercent freeArg =>
    "percent value for '" ++ freeArg ++ "' must be a number between 0 and 100"
  | .invalidPattern pattern => "'" ++ pattern ++ "' is not a valid regular expression"
  | .duplicateListItems freeArg items =>
    "duplicate items in '" ++ freeArg ++ "' list: " ++ String.intercalate ", " items
  | .duplicateConditions conditions =>
    "duplicate conditions: " ++ String.intercalate ", " (conditions.map Condition.toText)
  | .unreadableRange error => error.message
  | .range error => error.message
  | .blankName label => label ++ " name is blank"
  | .blankPropertyKey => "property key is blank"
  | .missingFeatures => "Features should be specified"
  | .tooManyFeatures max => "number of features should be up to " ++ toString max ++ " items"
  | .featureApplicationMismatch feature featureType ruleType =>
    "feature '" ++ feature ++ "' belongs to application type '" ++ featureType ++ "', not '" ++
      ruleType ++ "'"
  | .blankApplicationType => "ApplicationType is empty"
  | .unknownApplicationType value => "ApplicationType '" ++ value ++ "' is not valid"
  | .applicationTypeMismatch entity request =>
    "ApplicationType mismatch: entity has '" ++ entity ++ "', request has '" ++ request ++ "'"
  | .invalidPriority priority => "Invalid priority value " ++ toString priority
  | .blankListId => "list id is blank"

end ValidationError

end Rulebook
