import VectorLink.Number.Decimal
import VectorLink.Text.Blank
import VectorLink.Text.Quoted

/-!
# Numerals from outside

Environment variables and ports are texts that should write a number. Blanks around the number do
not matter. What is not a number is quoted with its blanks, and what is no whole number only as far
as it is shown, so that two faults are the same if they read the same.

A whole number of very many digits is neither read nor written.
-/

namespace VectorLink

/-- **Why a text is no number.** -/
inductive NumeralFault where
  /-- Not a whole number in a base; what was read, quoted, as far as it is shown. -/
  | notWhole (base : Nat) (shown : String)
  /-- A whole number of more digits than are read. -/
  | tooManyDigits (count : Nat)
  /-- Not a number at all; what was read, quoted. -/
  | notReal (quoted : String)
  deriving DecidableEq, Repr

/-- The wording of a fault. -/
def NumeralFault.message : NumeralFault → String
  | .notWhole base q => "invalid literal for int() with base " ++ toString base ++ ": " ++ q
  | .tooManyDigits n =>
    "Exceeds the limit (4300 digits) for integer string conversion: value has " ++ toString n
      ++ " digits; use sys.set_int_max_str_digits() to increase the limit"
  | .notReal q => "could not convert string to float: " ++ q

namespace Numeral

/-- The greatest number of digits of a whole number in base ten. -/
def digitLimit : Nat := 4300

/-- Whether a whole number has few enough digits to be written. -/
def isShort (n : Int) : Bool := (Nat.toDigits 10 n.natAbs).length ≤ digitLimit

/-- What is said of a whole number that has too many digits to be written. -/
def tooLongText : String :=
  "Exceeds the limit (4300 digits) for integer string conversion; "
    ++ "use sys.set_int_max_str_digits() to increase the limit"

/-- The value of a digit of a base; letters of either case follow the decimal digits. -/
def digitIn? (base : Nat) (c : Char) : Option Nat :=
  ((Digit.value? c).or (Digit.hex? c)).filter (· < base)

/-- The letters that mark a base after a zero. -/
def baseMarks : Nat → List Char
  | 2 => ['b', 'B']
  | 8 => ['o', 'O']
  | 16 => ['x', 'X']
  | _ => []

/-- The characters of a numeral without the mark of its base. -/
def dropBaseMark (base : Nat) : List Char → List Char
  | '0' :: c :: cs => if (baseMarks base).contains c then cs else '0' :: c :: cs
  | cs => cs

/-- The number of characters of a quoted text that are shown. -/
def shownLimit : Nat := 200

/-- What was read is no whole number. -/
def notWhole (base : Nat) (quoted : String) : NumeralFault :=
  .notWhole base (String.ofList (quoted.toList.take shownLimit))

/-- **The whole number that characters write in a base.** In base ten the digits are counted before
what follows them is looked at, unless that is an underscore. -/
def wholeOf (base : Nat) (quoted : String) (cs : List Char) : Except NumeralFault Int :=
  let (negative, unsigned) := Decimal.sign (Blank.trimBy Blank.isSpace cs)
  match Decimal.takeDigits (digitIn? base) (dropBaseMark base unsigned) with
  | ([], _) | (_, '_' :: _) => .error (notWhole base quoted)
  | (ds, rest) =>
    if base = 10 && digitLimit < ds.length then .error (.tooManyDigits ds.length)
    else if rest.isEmpty then
      let n : Int := Digit.number base ds
      .ok (if negative then -n else n)
    else .error (notWhole base quoted)

/-- The whole number that a text writes in a base. -/
def wholeIn (base : Nat) (s : String) : Except NumeralFault Int :=
  wholeOf base (Quoted.text s) s.toList

/-- **The whole number that a text writes.** -/
def whole (s : String) : Except NumeralFault Int := wholeIn 10 s

/-- The whole number that octets write, as ASCII. -/
def wholeOfOctets (bs : List UInt8) : Except NumeralFault Int :=
  wholeOf 10 (Quoted.octets bs)
    (bs.map fun b => if b < 0x80 then Char.ofNat b.toNat else '\uFFFD')

/-- **The number that a text writes**, as a double. -/
def real (s : String) : Except NumeralFault Binary64 :=
  match Decimal.readBinary64? Digit.value? (Blank.trimBy Blank.isSpace s.toList) with
  | some x => .ok x
  | none => .error (.notReal (Quoted.text s))

end Numeral

end VectorLink
