import VectorLink.Number.Decimal
import VectorLink.Text.Blank
import VectorLink.Text.Casing
import VectorLink.Text.Utf8
import VectorLink.Validation.Checked

/-!
# Coercion of single values

A field of a record has a type, and a value of another kind is taken for it where no information is
lost: a text that writes a number is that number, a real that is whole is an integer, octets that
are UTF-8 are a text. Each reader below either does so or says why not.

## Written numbers

The text of an integer may have blanks around it, a sign, leading zeros, single underscores, and a
fraction of zeros; after those are gone it must be the plain text of an integer. The text of a real
is any decimal numeral. These rules differ in small ways from those of `VectorLink.Number.Decimal`,
which reads environment variables and ports.
-/

namespace VectorLink

open Checked

namespace IntegerText

/-- The greatest number of digits that an integer may be written with. -/
def digitLimit : Nat := 4300

/-- Characters after leading zeros are gone. Underscores among the zeros go with them, and a zero
directly before a point stays. -/
def dropZeros : List Char → Option (List Char)
  | '0' :: cs => afterZero '0' cs
  | c :: cs => if (Digit.ascii? c).isSome || c = '-' then some (c :: cs) else none
  | [] => none
where
  /-- The rest after a zero or underscore. -/
  afterZero (last : Char) : List Char → Option (List Char)
    | [] => some [last]
    | '0' :: cs => afterZero '0' cs
    | '_' :: cs => afterZero '_' cs
    | '.' :: cs => some (last :: '.' :: cs)
    | c :: cs => if (Digit.ascii? c).isSome then some (c :: cs) else none

/-- Characters without a fraction of zeros. -/
def dropFraction (cs : List Char) : List Char :=
  match cs.dropWhile (· != '.') with
  | '.' :: zeros =>
    if !zeros.isEmpty && zeros.all (· = '0') then cs.takeWhile (· != '.') else cs
  | _ => cs

/-- Whether all underscores stand singly and none at an end. -/
def underscoresInside : List Char → Bool
  | [] => true
  | '_' :: _ => false
  | _ :: cs => rest cs
where
  /-- The same after a character that is no underscore. -/
  rest : List Char → Bool
    | [] => true
    | ['_'] => false
    | '_' :: '_' :: _ => false
    | _ :: cs => rest cs

/-- Characters without their underscores, if those stand singly and inside. -/
def dropUnderscores (cs : List Char) : List Char :=
  if underscoresInside cs then cs.filter (· != '_') else cs

/-- Characters without a plus sign; a minus sign may not follow it. -/
def dropPlus : List Char → Option (List Char)
  | '+' :: '-' :: _ => none
  | '+' :: cs => some cs
  | cs => some cs

/-- The digits of the plain text of a natural number: no leading zero unless it is the only
digit. -/
def plainDigits? (cs : List Char) : Option (List Nat) :=
  match cs.mapM Digit.ascii? with
  | some [] => none
  | some (0 :: _ :: _) => none
  | ds => ds

/-- The sign and the digits of the plain text of an integer. -/
def plain? : List Char → Option (Bool × List Nat)
  | '-' :: cs => (plainDigits? cs).map (true, ·)
  | cs => (plainDigits? cs).map (false, ·)

/-- **The integer that a text writes.** -/
def read (s : String) : Except Complaint Int :=
  let cleaned := do
    let cs ← dropPlus (Blank.trimBy Blank.isSpace s.toList)
    let cs ← dropZeros cs
    plain? (dropUnderscores (dropFraction cs))
  match cleaned with
  | none => .error .notIntegerText
  | some (negative, ds) =>
    if digitLimit < ds.length then .error .integerTooLong
    else .ok (if negative then -(Digit.number 10 ds : Int) else Digit.number 10 ds)

end IntegerText

namespace RealText

/-- **The double that a text writes.** Blanks around it are dropped; single underscores inside it
are too, but not both. -/
def read? (s : String) : Option Binary64 :=
  let cs := s.toList
  if cs.contains '_' then
    if IntegerText.underscoresInside cs then
      Decimal.readBinary64? Digit.ascii? (cs.filter (· != '_'))
    else none
  else Decimal.readBinary64? Digit.ascii? (Blank.trimBy Blank.isSpace cs)

end RealText

/-- The text of octets, if they are UTF-8. -/
def textOf? (bs : List UInt8) : Option String := (Utf8.decode bs).toOption

/-- Whether an integer has a word of 64 bits. -/
def isWord (n : Int) : Bool := -(2 ^ 63) ≤ n && n < 2 ^ 63

/-- The integer of an integer text. -/
def integerOfText (s : String) : Checked Int :=
  match IntegerText.read s with
  | .ok n => accept n
  | .error c => reject c

/-- The integer of a real: the real has to be finite, whole, and of less than 64 bits. -/
def integerOfReal (x : Binary64) : Checked Int :=
  match x.fraction? with
  | none => reject .notFinite
  | some _ =>
    match x.toInt? with
    | none => reject .notWhole
    | some n => if -(2 ^ 63) < n && n < 2 ^ 63 then accept n else reject .integerTooLong

/-- The only element of an array without axes, as a double. -/
def scalarOf? (t : Tensor) : Option Binary64 :=
  match t.shape, t.elements with
  | [], [.real x] => some x
  | [], [.whole n] => Binary64.ofInt? n
  | _, _ => none

namespace Reader

/-- **An integer.** -/
def integer : Reader Int
  | .int n => accept n
  | .bool b => accept (if b then 1 else 0)
  | .text s => integerOfText s
  | .octets bs =>
    match textOf? bs with
    | some s => integerOfText s
    | none => reject .notIntegerText
  | .float x => integerOfReal x
  | .array t =>
    match scalarOf? t with
    | some x => integerOfReal x
    | none => reject .notInteger
  | _ => reject .notInteger

/-- A real text, as a checked double. -/
def realOfText (s : String) : Checked Binary64 :=
  match RealText.read? s with
  | some x => accept x
  | none => reject .notNumberText

/-- **A real.** An integer past the finite doubles is none. -/
def real : Reader Binary64
  | .float x => accept x
  | .int n =>
    match Binary64.ofInt? n with
    | some x => accept x
    | none => reject .notNumber
  | .bool b => accept (.ofFraction false (if b then 1 else 0) 1)
  | .text s => realOfText s
  | .octets bs =>
    match textOf? bs with
    | some s => realOfText s
    | none => reject .notNumberText
  | .array t =>
    match scalarOf? t with
    | some x => accept x
    | none => reject .notNumber
  | _ => reject .notNumber

/-- **A text.** -/
def text : Reader String
  | .text s => accept s
  | .octets bs =>
    match textOf? bs with
    | some s => accept s
    | none => reject .notUnicode
  | _ => reject .notText

/-- **A text that is not empty.** -/
def nonemptyText : Reader String := fun v =>
  (text v).ensure (fun s => !s.isEmpty) fun _ => .emptyText

/-- The words for the two truth values. -/
def truthWord? (s : String) : Option Bool :=
  match Casing.lower s with
  | "0" | "off" | "f" | "false" | "n" | "no" => some false
  | "1" | "on" | "t" | "true" | "y" | "yes" => some true
  | _ => none

/-- The truth value of a word. -/
def truthOfText (s : String) : Checked Bool :=
  match truthWord? s with
  | some b => accept b
  | none => reject .unclearTruthValue

/-- The truth value of an integer: zero or one. -/
def truthOfInteger (n : Int) : Checked Bool :=
  if n = 0 then accept false
  else if n = 1 then accept true
  else reject .unclearTruthValue

/-- The truth value of a real, which has to be whole and of less than 64 bits. -/
def truthOfReal (x : Binary64) : Checked Bool :=
  match x.toInt? with
  | some n => if isWord n then truthOfInteger n else reject .notTruthValue
  | none => reject .notTruthValue

/-- **A truth value.** -/
def truth : Reader Bool
  | .bool b => accept b
  | .int n => if isWord n then truthOfInteger n else reject .notTruthValue
  | .float x => truthOfReal x
  | .text s => truthOfText s
  | .octets bs =>
    match textOf? bs with
    | some s => truthOfText s
    | none => reject .unclearTruthValue
  | .array t =>
    match scalarOf? t with
    | some x => truthOfReal x
    | none => reject .notTruthValue
  | _ => reject .notTruthValue

/-- An integer that keeps bounds; the first bound that it breaks is reported. -/
def bounded (bounds : List Bound) : Reader Int := fun v =>
  match integer v with
  | .ok n =>
    match bounds.find? (fun
      | .above k => !(k < n)
      | .atLeast k => !(k ≤ n)
      | .atMost k => !(n ≤ k)) with
    | some b => reject (.outOfBound b)
    | none => accept n
  | .error is => .error is

/-- **An integer above zero.** -/
def positive : Reader Int := bounded [.above 0]

/-- **A list** of items of one kind, given as a list, as a tuple, or as an array with an axis, whose
parts are the items. -/
def list {α : Type} (read : Reader α) : Reader (List α)
  | .list items => itemsFrom read 0 items
  | .tuple items => itemsFrom read 0 items
  | .array t =>
    match t.parts? with
    | some parts => itemsFrom read 0 (parts.map .array)
    | none => reject .notList
  | _ => reject .notList

/-- **A member of an enumeration of numbers**, found by its number. A value that is no integer, or
an integer that is no member, gives the fallback; an integer past 64 bits is refused. -/
def numbered {α : Type} (ofNumber : Int → α) (fallback : α) : Reader α := fun v =>
  match integer v with
  | .ok n => if isWord n then accept (ofNumber n) else reject .integerTooLong
  | .error _ => accept fallback

/-- The entries of a mapping as arguments; keys that are no texts name no field. -/
def argumentsOf (entries : List (Value × Value)) : Arguments :=
  entries.filterMap fun
    | (.text k, v) => some (k, v)
    | _ => none

/-- **A record inside a record**, given as a mapping. -/
def record {α : Type} (name : String) (check : Arguments → Checked α) : Reader α
  | .mapping entries => check (argumentsOf entries)
  | _ => reject (.notRecord name)

/-- A value that may be absent. -/
def orNone {α : Type} (read : Reader α) : Reader (Option α)
  | .none => accept none
  | v =>
    match read v with
    | .ok a => accept (some a)
    | .error is => .error is

/-- The checked date of what a value turned out to be. -/
def dateOfOutcome : Reading.Outcome → Checked Date
  | .day d =>
    match Date.ofParts? d.year d.month d.day with
    | some date => accept date
    | none => reject .yearZero
  | .inexact => reject .notMidnight
  | .fault f => reject (.dateFault f)

/-- **A date.** The time of day of a moment is dropped; a text or a count has to be exact. -/
def date : Reader Date
  | .date d => accept d
  | .moment m => accept m.date
  | .text s => dateOfOutcome (Reading.dayOfText s.toUTF8.data.toList)
  | .octets bs => dateOfOutcome (Reading.dayOfText bs)
  | .int n => dateOfOutcome (.ofDayTime (Reading.ofCount (Reading.clampWord n) 0))
  | .float x => dateOfOutcome (.ofDayTime (Reading.ofBinary64 x))
  | .array t =>
    match scalarOf? t with
    | some x => dateOfOutcome (.ofDayTime (Reading.ofBinary64 x))
    | none => reject .notDate
  | _ => reject .notDate

end Reader

end VectorLink
