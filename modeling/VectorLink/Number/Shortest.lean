import VectorLink.Number.Binary64

/-!
# The fewest digits that read back

A double is written with as few decimal digits as single it out. The doubles are spread out, so a
whole interval of numbers rounds to each of them; the ends belong to it exactly if the significand
is even. On the grid of one digit, then two, and so on, the two neighbours of the double are tried:
the first grid with a neighbour in the interval wins, and of two neighbours the nearer.

## Where positional notation ends

Numbers of at least `10 ^ 16` and numbers below `10 ^ -4` are written with an exponent of at least
two digits. All others are written out, with a fraction digit even if it is zero.
-/

namespace VectorLink.Shortest

/-- The digits of a positive number and the place of its point: the number is `0.digits` times
`10 ^ point`. -/
structure Digits where
  digits : List Char
  point : Int
  deriving DecidableEq, Repr

/-- The greatest `k` with `10 ^ k ≤ num / den`, for positive arguments. -/
def floorLog10 (num den : Nat) : Int :=
  let k : Int := ((Nat.toDigits 10 num).length : Int) - (Nat.toDigits 10 den).length
  let reached :=
    if 0 ≤ k then den * 10 ^ k.toNat ≤ num else den ≤ num * 10 ^ (-k).toNat
  if reached then k else k - 1

/-- An interval of fractions over one denominator around a value, and whether its ends belong
to it. -/
structure Interval where
  low : Nat
  value : Nat
  high : Nat
  den : Nat
  closed : Bool

/-- The numbers that round to the double `m * 2 ^ e` with `m` positive. The gap below the first
significand of a binade is half as wide as the others. -/
def interval (m : Nat) (e : Int) : Interval :=
  let f := Format.binary64
  let below := if m = f.fractionLimit && f.leastExponent < e then 1 else 2
  let (unit, den) := Format.scale 1 1 (e - 2)
  ⟨(4 * m - below) * unit, 4 * m * unit, (4 * m + 2) * unit, den, m % 2 = 0⟩

/-- A decimal grid point over the denominator of an interval, with both brought to whole numbers:
the point, then the factor that every bound has to be multiplied by. -/
def gridPoint (i : Interval) (c : Nat) (grid : Int) : Nat × Nat :=
  if 0 ≤ grid then (c * 10 ^ grid.toNat * i.den, 1) else (c * i.den, 10 ^ (-grid).toNat)

/-- Whether the grid point `c * 10 ^ grid` rounds to the double. -/
def Interval.holds (i : Interval) (c : Nat) (grid : Int) : Bool :=
  let (p, k) := gridPoint i c grid
  if i.closed then i.low * k ≤ p && p ≤ i.high * k else i.low * k < p && p < i.high * k

/-- The neighbour of the value on a grid that is in the interval, and of two the nearer; a tie goes
to the even one. -/
def onGrid? (i : Interval) (grid : Int) : Option Nat :=
  let (v, w) := if 0 ≤ grid then (i.value, i.den * 10 ^ grid.toNat)
    else (i.value * 10 ^ (-grid).toNat, i.den)
  let c := v / w
  match i.holds c grid && c != 0, i.holds (c + 1) grid with
  | false, false => none
  | true, false => some c
  | false, true => some (c + 1)
  | true, true =>
    let below := v - c * w
    let above := (c + 1) * w - v
    some (if below < above then c else if above < below then c + 1 else c + c % 2)

/-- The digits of the first grid that has a neighbour in the interval, trying as many grids as are
left. -/
def search (i : Interval) (top : Int) : Nat → Nat → Digits
  | 0, n => ⟨Nat.toDigits 10 (i.value / i.den), n⟩
  | fuel + 1, n =>
    let grid := top + 1 - n
    match onGrid? i grid with
    | some c =>
      let ds := Nat.toDigits 10 c
      ⟨(ds.reverse.dropWhile (· = '0')).reverse, ds.length + grid⟩
    | none => search i top fuel (n + 1)

/-- **The fewest digits that read back as the double `m * 2 ^ e`.** Seventeen always do. -/
def digits (m : Nat) (e : Int) : Digits :=
  let i := interval m e
  search i (floorLog10 i.value i.den) 17 1

/-- An exponent: its sign, and at least two digits. -/
def exponentText (e : Int) : List Char :=
  let ds := Nat.toDigits 10 e.natAbs
  (if e < 0 then '-' else '+') :: (List.replicate (2 - ds.length) '0' ++ ds)

/-- Digits in positional notation, or with an exponent where that is due. -/
def Digits.layout (d : Digits) : List Char :=
  let n : Int := d.digits.length
  if d.point < -3 || 16 < d.point then
    let places := d.digits.drop 1
    d.digits.take 1 ++ (if places.isEmpty then [] else '.' :: places)
      ++ 'e' :: exponentText (d.point - 1)
  else if d.point ≤ 0 then
    ['0', '.'] ++ List.replicate (-d.point).toNat '0' ++ d.digits
  else if n ≤ d.point then
    d.digits ++ List.replicate (d.point - n).toNat '0' ++ ['.', '0']
  else d.digits.take d.point.toNat ++ '.' :: d.digits.drop d.point.toNat

end VectorLink.Shortest

namespace VectorLink.Binary64

/-- **The text of a double**: the fewest digits that read back. -/
def text (x : Binary64) : String :=
  let body :=
    match x.magnitude with
    | .notANumber _ => "nan".toList
    | .infinite => "inf".toList
    | .finite 0 _ => "0.0".toList
    | .finite m e => (Shortest.digits m e).layout
  String.ofList (if x.isNegative && !x.isNaN then '-' :: body else body)

end VectorLink.Binary64
