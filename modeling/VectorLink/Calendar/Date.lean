/-!
# Calendar dates

Dates of the proleptic Gregorian calendar, from the year 1 to the year 9999. That a date is one is
part of its type, so that whatever takes a date need not ask again. Besides the parts of a date this
module holds its two written forms and its place in the count of days.
-/

namespace VectorLink

/-- Whether a year has a leap day. -/
def leapYear (year : Nat) : Bool := year % 4 = 0 && (year % 100 ≠ 0 || year % 400 = 0)

/-- The length of a month, zero if there is no such month. -/
def monthLength (year month : Nat) : Nat :=
  match month with
  | 1 | 3 | 5 | 7 | 8 | 10 | 12 => 31
  | 4 | 6 | 9 | 11 => 30
  | 2 => if leapYear year then 29 else 28
  | _ => 0

/-- The parts of a date of the calendar. -/
def ValidDate (year month day : Nat) : Prop :=
  1 ≤ year ∧ year ≤ 9999 ∧ 1 ≤ month ∧ month ≤ 12 ∧ 1 ≤ day ∧ day ≤ monthLength year month

instance (year month day : Nat) : Decidable (ValidDate year month day) := by
  unfold ValidDate; infer_instance

/-- **A date of the calendar.** -/
structure Date where
  year : Nat
  month : Nat
  day : Nat
  isValid : ValidDate year month day
  deriving DecidableEq

/-- A number below one hundred with two digits. -/
def twoDigits (n : Nat) : String := (if n < 10 then "0" else "") ++ toString n

namespace Date

/-- The date of some parts, if they are a date. -/
def ofParts? (year month day : Nat) : Option Date :=
  if h : ValidDate year month day then some ⟨year, month, day, h⟩ else none

/-- The text of a date with the year padded to four digits. -/
def iso (d : Date) : String :=
  let y := toString d.year
  String.ofList (List.replicate (4 - y.length) '0') ++ y ++ "-" ++ twoDigits d.month ++ "-"
    ++ twoDigits d.day

/-- **The text of a date as a request carries it**: the year has no padding. -/
def wireText (d : Date) : String :=
  toString d.year ++ "-" ++ twoDigits d.month ++ "-" ++ twoDigits d.day

end Date

/-- The year, month and day that lie a number of days after the first of January 1970. The count
runs in eras of 400 years that start on the first of March. -/
def civilOfDays (days : Int) : Int × Nat × Nat :=
  let shifted := days + 719468
  let era := shifted.fdiv 146097
  let dayOfEra := (shifted.fmod 146097).toNat
  let yearOfEra :=
    (dayOfEra - dayOfEra / 1460 + dayOfEra / 36524 - dayOfEra / 146096) / 365
  let dayOfYear := dayOfEra - (365 * yearOfEra + yearOfEra / 4 - yearOfEra / 100)
  let shiftedMonth := (5 * dayOfYear + 2) / 153
  let day := dayOfYear - (153 * shiftedMonth + 2) / 5 + 1
  let month := if shiftedMonth < 10 then shiftedMonth + 3 else shiftedMonth - 9
  let year := yearOfEra + 400 * era
  (if month ≤ 2 then year + 1 else year, month, day)

end VectorLink
