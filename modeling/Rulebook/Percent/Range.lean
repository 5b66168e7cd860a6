import Rulebook.Number.Text

/-!
# Rulebook.Percent.Range

Slices of traffic, in percent.

A range `start-end` holds the points from its start up to, but not including, its end, so ranges
that touch share no point.  Bounds are numbers of any kind; `Range.validate` is what restricts them
to `0 ≤ start < end ≤ 100`.  Two ranges overlap when one starts inside the other.
-/

namespace Rulebook.Percent

/-- The half-open range of points from `start` to `stop`. -/
structure Range where
  start : Number
  stop : Number
  deriving DecidableEq

/-- Why a list of ranges is refused. -/
inductive RangeError where
  | startInvalid (start : Number)
  | endInvalid (stop : Number)
  | startNotBelowEnd (start stop : Number)
  | overlap (first second : Range)

namespace Range

/-- The written form, `start-end`. -/
def toText (r : Range) : String :=
  r.start.toText ++ "-" ++ r.stop.toText

/-- The other range starts inside this one. -/
def containsStartOf (r other : Range) : Bool :=
  r.start.le other.start && other.start.lt r.stop

/-- One of the ranges starts inside the other. -/
def overlaps (r other : Range) : Bool :=
  r.containsStartOf other || other.containsStartOf r

end Range

/-- Zero percent. -/
def zero : Number := .zero

/-- A hundred percent. -/
def hundred : Number := .ofInt 100

/-- A percentage: from `0` to `100`, both included. -/
def isPercentage (x : Number) : Bool :=
  zero.le x && x.le hundred

/-! ## Checks -/

/-- The bounds of one range: `0 ≤ start < 100`, `0 ≤ end ≤ 100` and `start < end`. -/
def checkBounds (r : Range) : Except RangeError Unit :=
  if !(zero.le r.start && r.start.lt hundred) then .error (.startInvalid r.start)
  else if !isPercentage r.stop then .error (.endInvalid r.stop)
  else if r.stop.le r.start then .error (.startNotBelowEnd r.start r.stop)
  else .ok ()

/-- The first range, other than the one at position `i`, that starts inside `r`. -/
def startingInside? (r : Range) (i : Nat) (ranges : List Range) : Option Range :=
  (ranges.zipIdx.find? fun (s, j) => i != j && r.containsStartOf s).map Prod.fst

/-- The first range, with the first one that starts inside it, in list order. -/
def firstOverlap? (ranges : List Range) : Option (Range × Range) :=
  ranges.zipIdx.findSome? fun (r, i) => (startingInside? r i ranges).map fun s => (r, s)

/-- The bounds of every range, then overlap of any two. -/
def validateRanges (ranges : List Range) : Except RangeError Unit := do
  ranges.forM checkBounds
  match firstOverlap? ranges with
  | some (first, second) => .error (.overlap first second)
  | none => .ok ()

end Rulebook.Percent
