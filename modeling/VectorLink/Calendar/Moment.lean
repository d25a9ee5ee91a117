import VectorLink.Calendar.Date

/-!
# Moments

A moment is a date with a time of day and perhaps an offset from universal time. A caller may hand
one in where a date is wanted, and a configuration file may hold one.
-/

namespace VectorLink

/-- A time of day to the microsecond. -/
structure TimeOfDay where
  hour : Nat
  minute : Nat
  second : Nat
  microsecond : Nat
  deriving DecidableEq, Repr

/-- A span of time in whole days and the seconds of a day, as a difference of offsets is shown. -/
structure Offset where
  seconds : Int
  deriving DecidableEq, Repr

/-- **A date with a time of day** and an optional offset from universal time. -/
structure Moment where
  date : Date
  time : TimeOfDay
  offset? : Option Offset
  deriving DecidableEq

/-- A number of at most six digits, padded to six. -/
def sixDigits (n : Nat) : String :=
  let s := toString n
  String.ofList (List.replicate (6 - s.length) '0') ++ s

namespace TimeOfDay

/-- Midnight. -/
def midnight : TimeOfDay := ⟨0, 0, 0, 0⟩

/-- The text of a time of day; microseconds are left out when there are none. -/
def iso (t : TimeOfDay) : String :=
  twoDigits t.hour ++ ":" ++ twoDigits t.minute ++ ":" ++ twoDigits t.second
    ++ (if t.microsecond = 0 then "" else "." ++ sixDigits t.microsecond)

end TimeOfDay

namespace Offset

/-- The text of an offset: sign, hours and minutes, and seconds if there are any. -/
def iso (o : Offset) : String :=
  let n := o.seconds.natAbs
  (if o.seconds < 0 then "-" else "+") ++ twoDigits (n / 3600) ++ ":"
    ++ twoDigits (n / 60 % 60) ++ (if n % 60 = 0 then "" else ":" ++ twoDigits (n % 60))

/-- The parts of an offset as a span: whole days, rounded down, and the seconds left over. -/
def spanText (o : Offset) : String :=
  let days := o.seconds.fdiv 86400
  let rest := o.seconds.fmod 86400
  let parts := (if days = 0 then [] else ["days=" ++ toString days])
    ++ (if rest = 0 then [] else ["seconds=" ++ toString rest])
  "datetime.timedelta(" ++ (if parts.isEmpty then "0" else ", ".intercalate parts) ++ ")"

end Offset

namespace Moment

/-- The text of a moment with a given mark between date and time. -/
def isoWith (mark : String) (m : Moment) : String :=
  m.date.iso ++ mark ++ m.time.iso ++ (m.offset?.map Offset.iso).getD ""

/-- **The text of a moment**, with a `T` between date and time. -/
def iso (m : Moment) : String := m.isoWith "T"

end Moment

end VectorLink
