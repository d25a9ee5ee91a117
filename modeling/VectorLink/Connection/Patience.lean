import VectorLink.Value.Basic

/-!
# Patience

While a channel is not ready the client looks at it, pauses, and looks again, until the time for
connecting is used up. Each pause uses up one interval, also if less was left, so the number of
pauses is the quotient of time and interval, rounded up.

A time handed in directly need not be a whole number. A real is used up by real subtraction; a value
that is no number cannot be used up at all, which shows only once the client has to decide whether
to pause.
-/

namespace VectorLink

/-- **How long a client is patient**: a number of pauses, or a value that cannot be compared. -/
inductive Patience where
  | pauses (n : Nat)
  | incomparable (kindName : String)
  deriving DecidableEq, Repr

namespace Patience

/-- The number of pauses of an interval until a whole time is used up. -/
def wholePauses (time interval : Int) : Nat :=
  if interval ≤ 0 then 0 else ((time + interval - 1) / interval).toNat

/-- The number of pauses that a real time is counted to. A client goes on for ever if its time is
infinite, or so great that taking an interval off does not make it less. Such a wait ends here after
so many pauses, and with it that of every real time of more. -/
def endless : Nat := 100000

/-- The number of pauses until a real time is used up, or the limit if they are more. -/
def realPauses (interval : Nat) : Nat → Binary64 → Nat
  | 0, _ => 0
  | limit + 1, time =>
    if time.isPositive || time.isNaN then realPauses interval limit (time.minusNat interval) + 1
    else 0

/-- **The patience of a time.** -/
def ofTime (time : Value) (interval : Int) : Patience :=
  match time with
  | .int n => .pauses (wholePauses n interval)
  | .bool b => .pauses (wholePauses (if b then 1 else 0) interval)
  | .float x => .pauses (realPauses interval.toNat endless x)
  | v => .incomparable v.kindName

end Patience

end VectorLink
