import VectorLink.Calendar.Moment
import VectorLink.Number.Binary64

/-!
# Reading dates and moments

A date may be given as a text in the international form, as a text that holds a moment, or as a
number of seconds since the start of 1970. This module reads each of them, or says what is wrong
with it.

## Seconds or milliseconds

A count of more than `2 * 10 ^ 10` in size is taken for milliseconds (`Reading.watershed`): as
seconds it would lie six centuries away.

## The year zero

The written form has a year zero and the calendar has none. Reading keeps such a year until a date
is asked for, because whether the text is well formed and whether it is a date are reported apart.
-/

namespace VectorLink.Reading

/-- What is wrong with the text of a date or a moment. -/
inductive Fault where
  | tooShort
  | extraCharacters
  | momentSeparator
  | dateSeparator
  | yearCharacter
  | monthCharacter
  | dayCharacter
  | monthRange
  | dayRange
  | timeSeparator
  | hourCharacter
  | minuteCharacter
  | secondCharacter
  | hourRange
  | minuteRange
  | secondRange
  | fractionMissing
  | offsetSign
  | offsetHourCharacter
  | offsetMinuteCharacter
  | offsetMinuteRange
  | offsetRange
  | tooEarly
  | tooLate
  | notANumber
  deriving DecidableEq, Repr

/-- The wording of each fault. -/
def Fault.message : Fault → String
  | .tooShort => "input is too short"
  | .extraCharacters => "unexpected extra characters at the end of the input"
  | .momentSeparator => "invalid datetime separator, expected `T`, `t`, `_` or space"
  | .dateSeparator => "invalid date separator, expected `-`"
  | .yearCharacter => "invalid character in year"
  | .monthCharacter => "invalid character in month"
  | .dayCharacter => "invalid character in day"
  | .monthRange => "month value is outside expected range of 1-12"
  | .dayRange => "day value is outside expected range"
  | .timeSeparator => "invalid time separator, expected `:`"
  | .hourCharacter => "invalid character in hour"
  | .minuteCharacter => "invalid character in minute"
  | .secondCharacter => "invalid character in second"
  | .hourRange => "hour value is outside expected range of 0-23"
  | .minuteRange => "minute value is outside expected range of 0-59"
  | .secondRange => "second value is outside expected range of 0-59"
  | .fractionMissing => "second fraction is missing digits after `.`"
  | .offsetSign => "invalid timezone sign"
  | .offsetHourCharacter => "invalid timezone hour"
  | .offsetMinuteCharacter => "invalid timezone minute"
  | .offsetMinuteRange => "timezone minute value is outside expected range of 0-59"
  | .offsetRange => "timezone offset must be less than 24 hours"
  | .tooEarly => "dates before 0000 are not supported as unix timestamps"
  | .tooLate => "dates after 9999 are not supported as unix timestamps"
  | .notANumber => "NaN values not permitted"

/-- The year, month and day that a text or a count names; the year may be zero. -/
structure Day where
  year : Nat
  month : Nat
  day : Nat
  deriving DecidableEq, Repr

/-- A day with a time of day, and an offset from universal time if one is written. The offset does
not matter for the day. -/
structure DayTime where
  day : Day
  time : TimeOfDay
  offset? : Option Offset
  deriving DecidableEq, Repr

/-- The digit at the front of some octets, or a fault. -/
def digit (fault : Fault) : List UInt8 → Except Fault (Nat × List UInt8)
  | [] => .error .tooShort
  | b :: rest =>
    if 0x30 ≤ b && b ≤ 0x39 then .ok (b.toNat - 0x30, rest) else .error fault

/-- The number written by as many digits. -/
def digits (fault : Fault) : Nat → Nat → List UInt8 → Except Fault (Nat × List UInt8)
  | 0, n, bs => .ok (n, bs)
  | count + 1, n, bs => do
    let (d, bs) ← digit fault bs
    digits fault count (n * 10 + d) bs

/-- An octet that has to be there. -/
def expect (octet : UInt8) (fault : Fault) : List UInt8 → Except Fault (List UInt8)
  | [] => .error .tooShort
  | b :: rest => if b = octet then .ok rest else .error fault

/-- A day at the front of some octets. -/
def dayAtFront (bs : List UInt8) : Except Fault (Day × List UInt8) :=
  if bs.length < 10 then .error .tooShort
  else do
    let (year, bs) ← digits .yearCharacter 4 0 bs
    let bs ← expect 0x2D .dateSeparator bs
    let (month, bs) ← digits .monthCharacter 2 0 bs
    let bs ← expect 0x2D .dateSeparator bs
    let (day, bs) ← digits .dayCharacter 2 0 bs
    if month < 1 || 12 < month then .error .monthRange
    else if day < 1 || monthLength year month < day then .error .dayRange
    else .ok (⟨year, month, day⟩, bs)

/-- The digits of a fraction of a second, as microseconds: six digits count, the others are cut
off. -/
def fraction (bs : List UInt8) : Except Fault (Nat × List UInt8) :=
  let isDigit := fun (b : UInt8) => 0x30 ≤ b && b ≤ 0x39
  let ds := bs.takeWhile isDigit
  if ds.isEmpty then .error .fractionMissing
  else
    let six := (ds.map fun b => b.toNat - 0x30).take 6
    let padded := six ++ List.replicate (6 - six.length) 0
    .ok (padded.foldl (fun n d => n * 10 + d) 0, bs.dropWhile isDigit)

/-- Seconds and microseconds, which may be left out. -/
def secondsAtFront : List UInt8 → Except Fault (Nat × Nat × List UInt8)
  | 0x3A :: bs => do
    let (second, bs) ← digits .secondCharacter 2 0 bs
    if 59 < second then .error .secondRange
    else
      match bs with
      | b :: rest =>
        if b = 0x2E || b = 0x2C then do
          let (micro, rest) ← fraction rest
          return (second, micro, rest)
        else return (second, 0, bs)
      | [] => return (second, 0, [])
  | bs => .ok (0, 0, bs)

/-- The minutes of an offset, with or without a colon before them. -/
def offsetMinutes : List UInt8 → Except Fault (Nat × List UInt8)
  | 0x3A :: bs => digits .offsetMinuteCharacter 2 0 bs
  | b :: bs =>
    if 0x30 ≤ b && b ≤ 0x39 then digits .offsetMinuteCharacter 2 0 (b :: bs)
    else .error .offsetMinuteCharacter
  | [] => .error .offsetMinuteCharacter

/-- The sign of an offset, negative or not, and the octets after it. The minus sign proper counts
besides the hyphen. -/
def offsetSign : List UInt8 → Except Fault (Bool × List UInt8)
  | 0x2B :: bs => .ok (false, bs)
  | 0x2D :: bs => .ok (true, bs)
  | 0xE2 :: 0x88 :: 0x92 :: bs => .ok (true, bs)
  | _ => .error .offsetSign

/-- An offset from universal time, or none, and the end of the text. -/
def endOfMoment : List UInt8 → Except Fault (Option Offset)
  | [] => .ok none
  | b :: bs =>
    if b = 0x5A || b = 0x7A then
      if bs.isEmpty then .ok (some ⟨0⟩) else .error .extraCharacters
    else do
      let (negative, bs) ← offsetSign (b :: bs)
      let (hours, bs) ← digits .offsetHourCharacter 2 0 bs
      let (minutes, bs) ← offsetMinutes bs
      let seconds : Int := (hours * 3600 + minutes * 60 : Nat)
      if 60 ≤ minutes then .error .offsetMinuteRange
      else if 24 ≤ hours then .error .offsetRange
      else if bs.isEmpty then .ok (some ⟨if negative then -seconds else seconds⟩)
      else .error .extraCharacters

/-- A time of day, an optional offset, and nothing else. -/
def timeAtEnd (bs : List UInt8) : Except Fault (TimeOfDay × Option Offset) :=
  if bs.length < 5 then .error .tooShort
  else do
    let (hour, bs) ← digits .hourCharacter 2 0 bs
    let bs ← expect 0x3A .timeSeparator bs
    let (minute, bs) ← digits .minuteCharacter 2 0 bs
    if 23 < hour then .error .hourRange
    else if 59 < minute then .error .minuteRange
    else do
      let (second, micro, bs) ← secondsAtFront bs
      let offset? ← endOfMoment bs
      return (⟨hour, minute, second, micro⟩, offset?)

/-- The marks that may stand between day and time. -/
def isMomentMark (b : UInt8) : Bool := b = 0x54 || b = 0x74 || b = 0x5F || b = 0x20

/-- A day and a time of day in the international form. -/
def dayTimeText (bs : List UInt8) : Except Fault DayTime := do
  let (day, bs) ← dayAtFront bs
  match bs with
  | b :: rest =>
    if isMomentMark b then do
      let (time, offset?) ← timeAtEnd rest
      return ⟨day, time, offset?⟩
    else .error .momentSeparator
  | [] => .error .momentSeparator

/-- The largest count that is taken for seconds. -/
def watershed : Nat := 20000000000

/-- The day and time of day of a count of seconds since 1970, and some microseconds more. -/
def ofSeconds (seconds : Int) (micros : Nat) : Except Fault DayTime :=
  let seconds := seconds + ((micros / 1000000 : Nat) : Int)
  if seconds < -62167219200 then .error .tooEarly
  else if 253402300799 < seconds then .error .tooLate
  else
    let (year, month, day) := civilOfDays (seconds.fdiv 86400)
    let s := (seconds.fmod 86400).toNat
    .ok ⟨⟨year.toNat, month, day⟩, ⟨s / 3600, s / 60 % 60, s % 60, micros % 1000000⟩, none⟩

/-- The day and time of day of a count since 1970, in seconds or milliseconds by its size. -/
def ofCount (count : Int) (micros : Nat) : Except Fault DayTime :=
  if count.natAbs ≤ watershed then ofSeconds count micros
  else ofSeconds (count.fdiv 1000) (micros + (count.fmod 1000).toNat * 1000)

/-- The greatest integer of 64 bits. -/
def greatestWord : Int := 9223372036854775807

/-- An integer cut off at the ends of the 64-bit range. -/
def clampWord (n : Int) : Int := max (-greatestWord - 1) (min greatestWord n)

/-- The day and time of day of a count that may have a fraction, which is kept to the nearest
microsecond. -/
def ofBinary64 (x : Binary64) : Except Fault DayTime :=
  match x.magnitude with
  | .notANumber _ => .error .notANumber
  | .infinite => .error (if x.isNegative then .tooEarly else .tooLate)
  | .finite m e =>
    let (num, den) := Format.scale m 1 e
    let micros := (num % den * 1000000 * 2 + den) / (den * 2)
    ofCount (clampWord ((x.floor?).getD 0)) micros

/-- The integer that octets write, if it fits in 64 bits. -/
def wholeText? (bs : List UInt8) : Option Int :=
  let (negative, ds) :=
    match bs with
    | 0x2D :: ds => (true, ds)
    | 0x2B :: ds => (false, ds)
    | ds => (false, ds)
  if ds.isEmpty || !ds.all (fun b => 0x30 ≤ b && b ≤ 0x39) then none
  else
    let n : Int := (ds.foldl (fun n b => n * 10 + (b.toNat - 0x30)) 0 : Nat)
    if n ≤ greatestWord then some (if negative then -n else n) else none

/-- The number with a point that octets write: its sign, its whole part, and the digits after the
point. -/
def pointText? (bs : List UInt8) : Option (Bool × List UInt8 × List UInt8) :=
  let (negative, ds) :=
    match bs with
    | 0x2D :: ds => (true, ds)
    | 0x2B :: ds => (false, ds)
    | ds => (false, ds)
  let isDigit := fun (b : UInt8) => 0x30 ≤ b && b ≤ 0x39
  let whole := ds.takeWhile isDigit
  match ds.dropWhile isDigit with
  | 0x2E :: places =>
    if whole.isEmpty || !places.all isDigit then none else some (negative, whole, places)
  | _ => none

/-- The day and time of day of a written number with a point. -/
def ofPointText (negative : Bool) (whole places : List UInt8) : Except Fault DayTime :=
  let number := fun (bs : List UInt8) => bs.foldl (fun n b => n * 10 + (b.toNat - 0x30)) 0
  let den := 10 ^ places.length
  let num := number (whole ++ places)
  let (den, num) := if num / den ≤ watershed then (den, num) else (den * 1000, num)
  let floor : Int :=
    if negative then -((num + den - 1) / den : Nat) else (num / den : Nat)
  let rest := if negative then (den - num % den) % den else num % den
  ofSeconds floor ((rest * 1000000 * 2 + den) / (den * 2))

/-- The day and time of day of a text: the international form, or else a count. -/
def dayTimeOfText (bs : List UInt8) : Except Fault DayTime :=
  match dayTimeText bs with
  | .ok t => .ok t
  | .error fault =>
    match wholeText? bs with
    | some n => ofCount n 0
    | none =>
      match pointText? bs with
      | some (negative, whole, places) => ofPointText negative whole places
      | none => .error fault

/-- What a value handed in as a date turned out to be. -/
inductive Outcome where
  | day (d : Day)
  /-- A moment, but not one at midnight. -/
  | inexact
  | fault (f : Fault)
  deriving DecidableEq, Repr

/-- A moment stands for its day if it is midnight. -/
def Outcome.ofDayTime : Except Fault DayTime → Outcome
  | .ok t => if t.time = .midnight then .day t.day else .inexact
  | .error f => .fault f

/-- **The day that a text names**: a date alone, or a moment or count at midnight. -/
def dayOfText (bs : List UInt8) : Outcome :=
  match dayAtFront bs with
  | .ok (day, []) => .day day
  | _ => .ofDayTime (dayTimeOfText bs)

/-- The date of a text that is a date alone. -/
def dateOfText? (s : String) : Option Date :=
  match dayAtFront s.toUTF8.data.toList with
  | .ok (d, []) => Date.ofParts? d.year d.month d.day
  | _ => none

/-- The moment of a text in the international form. -/
def momentOfText? (s : String) : Option Moment :=
  match dayTimeText s.toUTF8.data.toList with
  | .ok t => (Date.ofParts? t.day.year t.day.month t.day.day).map fun d => ⟨d, t.time, t.offset?⟩
  | .error _ => none

end VectorLink.Reading
