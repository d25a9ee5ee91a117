import VectorLink.Document.Yaml.Tag
import VectorLink.Text.Casing
import VectorLink.Value.Basic

/-!
# Values of scalars

The text of a scalar becomes a value by the tag of the scalar. A scalar that is tagged by its look
has the form of its tag, though not always a value: a month may be the thirteenth. A scalar that
names its tag may have any form.
-/

namespace VectorLink.Yaml

namespace Scalar

/-- The words that are truth values, in small letters. -/
def truthValues : List (String × Bool) :=
  [("yes", true), ("no", false), ("true", true), ("false", false), ("on", true), ("off", false)]

/-- The truth value of a word in any case. -/
def truth (s : String) : Except Fault Value :=
  let word := Casing.lower s
  match truthValues.find? fun t => t.1 == word with
  | some (_, b) => .ok (.bool b)
  | none => .error (.truthWord word)

/-- Whether characters begin with a minus sign, and what follows a sign of either kind. -/
def splitSign : List Char → Bool × List Char
  | '-' :: cs => (true, cs)
  | '+' :: cs => (false, cs)
  | cs => (false, cs)

/-- The parts between colons. -/
def partsOf (cs : List Char) : List String := (cs.splitOn ':').map String.ofList

/-- The whole number that characters write in a base. -/
def wholeIn (base : Nat) (cs : List Char) : Except Fault Int :=
  (Numeral.wholeIn base (String.ofList cs)).mapError .numeral

/-- The whole number without a sign that characters write. A zero at the front means base eight, and
colons mean base sixty. -/
def unsignedWhole (cs : List Char) : Except Fault Int :=
  match cs with
  | [] => .error .emptyNumeral
  | ['0'] => .ok 0
  | '0' :: 'b' :: rest => wholeIn 2 rest
  | '0' :: 'x' :: rest => wholeIn 16 rest
  | '0' :: _ => wholeIn 8 cs
  | cs =>
    if cs.contains ':' then do
      let parts ← (partsOf cs).mapM fun s => wholeIn 10 s.toList
      return parts.foldl (fun n part => n * 60 + part) 0
    else wholeIn 10 cs

/-- **The whole number of a scalar.** Underscores do not matter. -/
def whole (s : String) : Except Fault Value :=
  match s.toList.filter (· ≠ '_') with
  | [] => .error .emptyNumeral
  | cs => do
    let (negative, unsigned) := splitSign cs
    let n ← unsignedWhole unsigned
    return .int (if negative then -n else n)

/-- The sum of parts in base sixty, least part first. -/
def sumSixties : Binary64 → Nat → List Binary64 → Except Fault Binary64
  | sum, _, [] => .ok sum
  | sum, weight, part :: parts =>
    match Binary64.ofInt? weight with
    | some w => sumSixties (sum.plus (part.times w)) (weight * 60) parts
    | none => .error .numberTooLarge

/-- The real without a sign that characters in small letters write. -/
def unsignedReal (cs : List Char) : Except Fault Binary64 := do
  if String.ofList cs = ".inf" then return .infinity false
  else if cs.contains ':' then
    let parts ← (partsOf cs).mapM fun s => (Numeral.real s).mapError .numeral
    sumSixties .zero 1 parts.reverse
  else (Numeral.real (String.ofList cs)).mapError .numeral

/-- **The real of a scalar.** Neither underscores nor the case of letters matter. -/
def real (s : String) : Except Fault Value :=
  match (Casing.lower s).toList.filter (· ≠ '_') with
  | [] => .error .emptyNumeral
  | cs => do
    let (negative, unsigned) := splitSign cs
    if String.ofList unsigned = ".nan" then return .float .nan
    let x ← unsignedReal unsigned
    return .float (if negative then x.opposite else x)

/-! ## Octets -/

/-- The value of a digit of base 64. -/
def digit64? (c : Char) : Option Nat :=
  if c.isUpper then some (c.toNat - 'A'.toNat)
  else if c.isLower then some (c.toNat - 'a'.toNat + 26)
  else if c.isDigit then some (c.toNat - '0'.toNat + 52)
  else if c = '+' then some 62
  else if c = '/' then some 63
  else none

/-- The octets that digits of base 64 write, with the digits of the open group so far, latest first,
and the padding marks just seen. Other characters are passed over; padding that fills a group ends
the text. A group that is not filled has no meaning. -/
def octetsFrom : List Nat → Nat → List Char → Option (List UInt8)
  | group, _, [] => if group.isEmpty then some [] else none
  | group, padding, c :: cs =>
    if c = '=' then
      if 2 ≤ group.length && 4 ≤ group.length + padding + 1 then some []
      else octetsFrom group (padding + 1) cs
    else
      match digit64? c with
      | none => octetsFrom group padding cs
      | some d =>
        match group with
        | [] => octetsFrom [d] 0 cs
        | [a] => (octetsFrom [d, a] 0 cs).map (UInt8.ofNat (a * 4 + d / 16) :: ·)
        | [b, a] => (octetsFrom [d, b, a] 0 cs).map (UInt8.ofNat (b % 16 * 16 + d / 4) :: ·)
        | b :: _ => (octetsFrom [] 0 cs).map (UInt8.ofNat (b % 4 * 64 + d) :: ·)

/-- **The octets of a scalar** in base 64. -/
def octets (s : String) : Except Fault Value :=
  if s.toList.all fun c => c.toNat < 0x80 then
    match octetsFrom [] 0 s.toList with
    | some bs => .ok (.octets bs)
    | none => .error .malformed
  else .error .malformed

/-! ## Dates and moments -/

/-- The number of decimal digits. -/
def numberOf (cs : List Char) : Nat := Digit.number 10 (cs.filterMap Digit.ascii?)

/-- The microseconds of a fraction; digits past the sixth are cut off. -/
def microseconds (cs : List Char) : Nat :=
  let shown := cs.take 6
  numberOf (shown ++ List.replicate (6 - shown.length) '0')

/-- The offset of a stamp. -/
def offsetOf (s : Stamp) : Except PartFault (Option Offset) :=
  match s.offset? with
  | some (negative, hours, minutes) =>
    let seconds : Int := numberOf hours * 3600 + numberOf minutes * 60
    (Offset.ofSeconds (if negative then -seconds else seconds)).map some
  | none => .ok (if s.universal then some ⟨0⟩ else none)

/-- The date or the moment of a stamp. -/
def stampValue (s : Stamp) : Except PartFault Value := do
  let date := Date.ofParts (numberOf s.year) (numberOf s.month) (numberOf s.day)
  match s.time? with
  | none => return .date (← date)
  | some (hour, minute, second, fraction) =>
    let offset? ← offsetOf s
    let date ← date
    let time ← TimeOfDay.ofParts (numberOf hour) (numberOf minute) (numberOf second)
      (microseconds fraction)
    return .moment ⟨date, time, offset?⟩

/-- **The date or the moment of a scalar.** -/
def timestamp (s : String) : Except Fault Value :=
  match Stamp.ofChars? s.toList with
  | some stamp => (stampValue stamp).mapError .part
  | none => .error .notTimestamp

/-- **The value of a scalar** with a tag of scalars. Other tags have no meaning for one. -/
def value (tag : Tag) (s : String) : Except Fault Value :=
  match tag with
  | .null => .ok .none
  | .truth => truth s
  | .whole => whole s
  | .real => real s
  | .octets => octets s
  | .timestamp => timestamp s
  | .text => .ok (.text s)
  | _ => .error .malformed

end Scalar

end VectorLink.Yaml
