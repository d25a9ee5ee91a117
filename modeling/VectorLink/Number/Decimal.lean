import VectorLink.Number.Binary64
import VectorLink.Text.Digit

/-!
# Decimal numerals

A decimal numeral is a whole number of digits times a power of ten. This module rounds one to the
nearest double, and reads the two spellings of numbers that environment variables and ports use:
whole numbers and numbers with a point or an exponent. In both, single underscores may stand between
digits and the digits may be of any script.
-/

namespace VectorLink

/-- A decimal numeral: `digits * 10 ^ exponent`, with a sign of its own so that `-0.0` is one. -/
structure Decimal where
  negative : Bool
  digits : Nat
  exponent : Int
  deriving DecidableEq, Repr

namespace Decimal

/-- **The double nearest to a numeral.** Numerals with an exponent past every double are settled
without forming the power of ten. -/
def toBinary64 (d : Decimal) : Binary64 :=
  if d.digits = 0 then .signed d.negative 0
  else
    let size : Int := (Nat.toDigits 10 d.digits).length
    if size + d.exponent > 400 then .infinity d.negative
    else if size + d.exponent < -400 then .signed d.negative 0
    else if 0 ≤ d.exponent then
      .ofFraction d.negative (d.digits * 10 ^ d.exponent.toNat) 1
    else .ofFraction d.negative d.digits (10 ^ (-d.exponent).toNat)

/-- A sign at the front of characters, if there is one, and the rest. -/
def sign : List Char → Bool × List Char
  | '-' :: cs => (true, cs)
  | '+' :: cs => (false, cs)
  | cs => (false, cs)

/-- The digits at the front, by a reading of single characters; a single underscore may stand
between two digits. Gives the digits latest first. -/
def digitRun (digit? : Char → Option Nat) : List Nat → List Char → List Nat × List Char
  | ds, [] => (ds, [])
  | ds, '_' :: c :: cs =>
    if ds.isEmpty then (ds, '_' :: c :: cs)
    else
      match digit? c with
      | some d => digitRun digit? (d :: ds) cs
      | none => (ds, '_' :: c :: cs)
  | ds, c :: cs =>
    match digit? c with
    | some d => digitRun digit? (d :: ds) cs
    | none => (ds, c :: cs)

/-- The digits at the front, leading digit first, and the rest. -/
def takeDigits (digit? : Char → Option Nat) (cs : List Char) : List Nat × List Char :=
  let (ds, rest) := digitRun digit? [] cs
  (ds.reverse, rest)

/-- An exponent mark with its whole number, at the end of a numeral. -/
def exponentPart (digit? : Char → Option Nat) : List Char → Option Int
  | [] => some 0
  | c :: cs =>
    if c = 'e' || c = 'E' then
      let (negative, cs) := sign cs
      match takeDigits digit? cs with
      | ([], _) => none
      | (ds, []) =>
        let n : Int := Digit.number 10 ds
        some (if negative then -n else n)
      | _ => none
    else none

/-- A numeral without its sign: digits, a point, digits and an exponent, with a digit on at least
one side of the point. -/
def unsigned? (digit? : Char → Option Nat) (negative : Bool) (cs : List Char) :
    Option Decimal :=
  let (whole, rest) := takeDigits digit? cs
  let (places, rest) :=
    match rest with
    | '.' :: rest => takeDigits digit? rest
    | rest => ([], rest)
  if whole.isEmpty && places.isEmpty then none
  else
    (exponentPart digit? rest).map fun e =>
      ⟨negative, Digit.number 10 (whole ++ places), e - places.length⟩

/-- A word in place of a numeral: an infinity or a not-a-number, in any case. -/
def special? (negative : Bool) (cs : List Char) : Option Binary64 :=
  match String.ofList (cs.map Char.toLower) with
  | "inf" | "infinity" => some (.infinity negative)
  | "nan" => some (.signed negative Binary64.nan.bits.toNat)
  | _ => none

/-- **The double that a text writes**, with nothing around it. -/
def readBinary64? (digit? : Char → Option Nat) (cs : List Char) : Option Binary64 :=
  let (negative, rest) := sign cs
  match special? negative rest with
  | some x => some x
  | none => (unsigned? digit? negative rest).map toBinary64

/-- A whole number as text writes it: its sign, and its digits with the leading one first. -/
structure Whole where
  negative : Bool
  digits : List Nat

/-- The integer of a whole number. -/
def Whole.toInt (w : Whole) : Int :=
  let n : Int := Digit.number 10 w.digits
  if w.negative then -n else n

/-- **The whole number that a text writes**, with nothing around it. -/
def readWhole? (digit? : Char → Option Nat) (cs : List Char) : Option Whole :=
  let (negative, rest) := sign cs
  match takeDigits digit? rest with
  | ([], _) => none
  | (ds, []) => some ⟨negative, ds⟩
  | _ => none

end Decimal

end VectorLink
