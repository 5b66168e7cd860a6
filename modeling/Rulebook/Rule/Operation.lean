import Rulebook.Text.Ascii

/-!
# Rulebook.Rule.Operation

The operations a condition can name.

Every rule kind has a list of the operations it allows, and the lists are nested: what every kind
allows, firmware rules and templates in addition, feature rules in addition to those.  Names are
compared without regard to ASCII case.
-/

namespace Rulebook.Operation

def is : String := "IS"
def like : String := "LIKE"
def present : String := "EXISTS"
def percent : String := "PERCENT"
def inList : String := "IN_LIST"
def gte : String := "GTE"
def lte : String := "LTE"
def oneOf : String := "IN"
def matching : String := "MATCH"
def range : String := "RANGE"

/-- The operations that every kind of rule allows. -/
def base : List String :=
  [is, like, present, percent, inList, gte, lte]

/-- The operations of firmware rules and templates. -/
def firmware : List String :=
  base ++ [oneOf, matching]

/-- The operations of feature rules. -/
def feature : List String :=
  firmware ++ [range]

/-- The same operation, in whatever case it is written. -/
def same (a b : String) : Bool :=
  Text.sameIgnoringCase a b

/-- The operation is in the list. -/
def isAllowed (operation : String) (allowed : List String) : Bool :=
  allowed.any fun a => same a operation

end Rulebook.Operation
