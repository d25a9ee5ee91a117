import VectorLink.Calendar.Moment

/-!
# Dates and moments from their parts

Numbers that are to be the parts of a date or a moment are checked one after another, from the year
down, and the first one out of range is reported.
-/

namespace VectorLink

/-- **The part of a date or a moment that is out of range.** -/
inductive PartFault where
  | year (n : Nat)
  | month
  | day
  | hour
  | minute
  | second
  | offset (o : Offset)
  deriving DecidableEq, Repr

/-- The wording of each fault. -/
def PartFault.message : PartFault → String
  | .year n => "year " ++ toString n ++ " is out of range"
  | .month => "month must be in 1..12"
  | .day => "day is out of range for month"
  | .hour => "hour must be in 0..23"
  | .minute => "minute must be in 0..59"
  | .second => "second must be in 0..59"
  | .offset o =>
    "offset must be a timedelta strictly between -timedelta(hours=24) and timedelta(hours=24), not "
      ++ o.spanText ++ "."

/-- **The date of some parts.** -/
def Date.ofParts (year month day : Nat) : Except PartFault Date :=
  match Date.ofParts? year month day with
  | some d => .ok d
  | none =>
    if year = 0 || 9999 < year then .error (.year year)
    else if month = 0 || 12 < month then .error .month
    else .error .day

/-- The time of day of some parts. -/
def TimeOfDay.ofParts (hour minute second microsecond : Nat) : Except PartFault TimeOfDay :=
  if 24 ≤ hour then .error .hour
  else if 60 ≤ minute then .error .minute
  else if 60 ≤ second then .error .second
  else .ok ⟨hour, minute, second, microsecond⟩

/-- The offset of some seconds, which are less than those of a day. -/
def Offset.ofSeconds (seconds : Int) : Except PartFault Offset :=
  if seconds.natAbs < 86400 then .ok ⟨seconds⟩ else .error (.offset ⟨seconds⟩)

end VectorLink
