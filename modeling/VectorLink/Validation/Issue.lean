import VectorLink.Calendar.Reading

/-!
# What validation finds wrong

Validation does not stop at the first fault: it lists every one, each with the place where it is. A
place is a path of field names and positions from the outermost record inwards.
-/

namespace VectorLink

/-- One step of the path to a value. -/
inductive Place where
  | field (name : String)
  | position (i : Nat)
  deriving DecidableEq, Repr

/-- A bound that a number has to keep. -/
inductive Bound where
  | above (n : Int)
  | atLeast (n : Int)
  | atMost (n : Int)
  deriving DecidableEq, Repr

/-- **What is wrong with a value.** -/
inductive Complaint where
  | missing
  | notText
  | notUnicode
  | emptyText
  | notInteger
  | notIntegerText
  | integerTooLong
  | notWhole
  | notFinite
  | notNumber
  | notNumberText
  | notTruthValue
  | unclearTruthValue
  | notList
  | notRecord (name : String)
  | outOfBound (b : Bound)
  | notLogLevel
  | notDate
  | yearZero
  | dateFault (f : Reading.Fault)
  | notMidnight
  /-- A rule of the record itself is broken; the text says which. -/
  | broken (reason : String)
  deriving DecidableEq, Repr

/-- The wording of a bound. -/
def Bound.message : Bound → String
  | .above n => "greater than " ++ toString n
  | .atLeast n => "greater than or equal to " ++ toString n
  | .atMost n => "less than or equal to " ++ toString n

/-- The wording of each complaint. -/
def Complaint.message : Complaint → String
  | .missing => "Field required"
  | .notText => "Input should be a valid string"
  | .notUnicode => "Input should be a valid string, unable to parse raw data as a unicode string"
  | .emptyText => "String should have at least 1 character"
  | .notInteger => "Input should be a valid integer"
  | .notIntegerText => "Input should be a valid integer, unable to parse string as an integer"
  | .integerTooLong => "Unable to parse input string as an integer, exceeded maximum size"
  | .notWhole => "Input should be a valid integer, got a number with a fractional part"
  | .notFinite => "Input should be a finite number"
  | .notNumber => "Input should be a valid number"
  | .notNumberText => "Input should be a valid number, unable to parse string as a number"
  | .notTruthValue => "Input should be a valid boolean"
  | .unclearTruthValue => "Input should be a valid boolean, unable to interpret input"
  | .notList => "Input should be a valid list"
  | .notRecord name => "Input should be a valid dictionary or instance of " ++ name
  | .outOfBound b => "Input should be " ++ b.message
  | .notLogLevel => "Input should be 'DEBUG', 'INFO', 'WARNING', 'ERROR' or 'CRITICAL'"
  | .notDate => "Input should be a valid date"
  | .yearZero => "Input should be a valid date in the format YYYY-MM-DD, year 0 is out of range"
  | .dateFault f => "Input should be a valid date or datetime, " ++ f.message
  | .notMidnight =>
    "Datetimes provided to dates should have zero time - e.g. be exact dates"
  | .broken reason => "Value error, " ++ reason

/-- **A complaint with its place.** -/
structure Issue where
  path : List Place
  complaint : Complaint
  deriving DecidableEq, Repr

/-- The text of a step of a path. -/
def Place.text : Place → String
  | .field name => name
  | .position i => toString i

/-- The text of an issue: its path with points between the steps, and the complaint. -/
def Issue.text (i : Issue) : String :=
  ".".intercalate (i.path.map Place.text) ++ ": " ++ i.complaint.message

/-- An issue one step further in. -/
def Issue.within (p : Place) (i : Issue) : Issue := { i with path := p :: i.path }

/-- The text of all issues. -/
def issuesText (is : List Issue) : String := "; ".intercalate (is.map Issue.text)

end VectorLink
