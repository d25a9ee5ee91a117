import VectorLink.Domain.Raised
import VectorLink.Value.Basic

/-!
# What a clock can measure

A client pauses between two looks at a channel, and when it disconnects it waits for running calls.
Either may be asked to last longer than the clock of the system can count. Then it does not last at
all: it raises before anything is waited for.

How far a clock counts is none of the client's business. So the clock is a parameter (`Clock`), and
what is stated of a client holds under every clock. That of the system counts nanoseconds in a
signed word of 64 bits (`Clock.system`), which is enough for 292 years.
-/

namespace VectorLink

/-- **What a clock does not measure**, and what it raises instead. -/
structure Clock where
  /-- What a pause of some seconds raises. -/
  pauseRaises? : Binary64 → Option Raised
  /-- What a wait for running calls raises that may last so long. -/
  waitRaises? : Value → Option Raised

/-- What is raised for an integer that is past the doubles. -/
def pastDoubles : Raised := ⟨"OverflowError", "int too large to convert to float"⟩

namespace Clock

/-- The seconds of a pause, if the clock measures them. -/
def measure (clock : Clock) (seconds : Binary64) : Except Raised Binary64 :=
  match clock.pauseRaises? seconds with
  | some r => .error r
  | none => .ok seconds

/-- **The seconds of a pause of some milliseconds**, unless they are too many for a double or for
the clock. -/
def pause (clock : Clock) (interval : Int) : Except Raised Binary64 :=
  match Binary64.ofIntDividedBy? interval 1000 with
  | some seconds => clock.measure seconds
  | none => .error pastDoubles

/-! ## The clock of the system -/

/-- Whether the nanoseconds of some seconds are a signed word of 64 bits. -/
def isCounted (seconds : Binary64) : Bool :=
  ((seconds.times (.ofFraction false 1000000000 1)).truncate?).any fun n =>
    -(2 ^ 63) ≤ n && n < 2 ^ 63

/-- What is raised for seconds that are not counted. -/
def notCounted : Raised := ⟨"OverflowError", "timestamp too large to convert to C _PyTime_t"⟩

/-- What the system raises instead of sleeping. -/
def sleepRaises? (seconds : Binary64) : Option Raised :=
  if seconds.isNaN then some ⟨"ValueError", "Invalid value NaN (not a number)"⟩
  else if !isCounted seconds then some notCounted
  else if seconds.isNegative && !seconds.isZero then
    some ⟨"ValueError", "sleep length must be non-negative"⟩
  else none

/-- What the system raises instead of waiting. A time that is over at once need not be counted, and
without a time there is nothing to count. -/
def lockRaises? : Value → Option Raised
  | .float x => if x.isPositive && !isCounted x then some notCounted else none
  | .int n =>
    match Binary64.ofInt? n with
    | none => some pastDoubles
    | some x => if x.isPositive && !isCounted x then some notCounted else none
  | .none | .bool _ | .array _ => none
  | v => some ⟨"TypeError", "unsupported operand type(s) for +: 'float' and '" ++ v.kindName ++ "'"⟩

/-- **The clock of the system.** -/
def system : Clock := ⟨sleepRaises?, lockRaises?⟩

end Clock

end VectorLink
