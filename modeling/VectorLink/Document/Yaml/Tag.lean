import VectorLink.Document.Yaml.Cursor

/-!
# Tags

The tag of a node says what kind of value it is. A node may name its tag. If it does not,
collections are lists and mappings, quoted scalars are texts, and a plain scalar has the tag that
its look suggests (`Tag.ofLook`): `12` is a number, `yes` is a truth value, and `2020-01-01` is a
date.

The looks of the tags exclude each other, except that the order between them is fixed all the same:
truth values, reals, whole numbers, merges, nothing, dates.
-/

namespace VectorLink.Yaml

/-- **The kind of value of a node.** -/
inductive Tag where
  | null
  | truth
  | whole
  | real
  | octets
  | timestamp
  | pairs
  | set
  | text
  | list
  | mapping
  /-- The key whose value is merged into the mapping around it. -/
  | merge
  /-- The key that stands for the mapping around it where a scalar is wanted. -/
  | proxy
  /-- A tag that has no meaning here. -/
  | other
  deriving DecidableEq, Repr, Inhabited

namespace Tag

/-- The beginning of the names of tags that have a meaning. -/
def beginning : String := "tag:yaml.org,2002:"

/-- The tags by their names behind the common beginning. -/
def named : List (String × Tag) :=
  [("null", .null), ("bool", .truth), ("int", .whole), ("float", .real), ("binary", .octets),
   ("timestamp", .timestamp), ("omap", .pairs), ("pairs", .pairs), ("set", .set), ("str", .text),
   ("seq", .list), ("map", .mapping), ("merge", .merge), ("value", .proxy)]

/-- **The tag of a name.** -/
def ofName (name : String) : Tag :=
  ((named.find? fun t => beginning ++ t.1 == name).map (·.2)).getD .other

/-! ## Looks -/

/-- The words that look like truth values. -/
def truthWords : List String :=
  ["yes", "Yes", "YES", "no", "No", "NO", "true", "True", "TRUE", "false", "False", "FALSE",
   "on", "On", "ON", "off", "Off", "OFF"]

/-- The words that look like nothing. -/
def nullWords : List String := ["~", "null", "Null", "NULL", ""]

/-- The words for infinities, behind a sign. -/
def infinityWords : List String := [".inf", ".Inf", ".INF"]

/-- The words for what is no number. -/
def notNumberWords : List String := [".nan", ".NaN", ".NAN"]

/-- A decimal digit or an underscore. -/
def isDigitish (c : Char) : Bool := c.isDigit || c = '_'

/-- Characters without a sign at the front. -/
def dropSign : List Char → List Char
  | '+' :: cs => cs
  | '-' :: cs => cs
  | cs => cs

/-- What follows a decimal digit and the digits and underscores behind it. -/
def afterDigits? : List Char → Option (List Char)
  | c :: cs => if c.isDigit then some (cs.dropWhile isDigitish) else none
  | [] => none

/-- Whether characters are an exponent with a sign, or nothing. -/
def isExponent : List Char → Bool
  | [] => true
  | e :: s :: cs =>
    (e = 'e' || e = 'E') && (s = '+' || s = '-') && !cs.isEmpty && cs.all Char.isDigit
  | _ => false

/-- What follows one or more groups of a colon and a number below sixty. -/
def afterSixties : Nat → List Char → List Char
  | 0, cs => cs
  | fuel + 1, ':' :: a :: b :: cs =>
    if '0' ≤ a && a ≤ '5' && b.isDigit then afterSixties fuel cs
    else if a.isDigit then afterSixties fuel (b :: cs)
    else ':' :: a :: b :: cs
  | _ + 1, [':', a] => if a.isDigit then [] else [':', a]
  | _ + 1, cs => cs

/-- What follows the groups of a number in base sixty, if it has at least one. -/
def afterSixties? (cs : List Char) : Option (List Char) :=
  let rest := afterSixties cs.length cs
  if rest.length < cs.length then some rest else none

/-- Whether characters are digits with a point and an exponent, or a number in base sixty with a
point. -/
def isPointed (cs : List Char) : Bool :=
  match afterDigits? (dropSign cs) with
  | some ('.' :: rest) => isExponent (rest.dropWhile isDigitish)
  | some rest =>
    match afterSixties? rest with
    | some ('.' :: rest) => rest.all isDigitish
    | _ => false
  | none => false

/-- Whether characters begin with a point and look like a real. -/
def isFraction : List Char → Bool
  | '.' :: cs =>
    match afterDigits? cs with
    | some rest => isExponent rest
    | none => false
  | _ => false

/-- Whether characters look like a real. -/
def looksReal (cs : List Char) : Bool :=
  isPointed cs || isFraction cs || infinityWords.contains (String.ofList (dropSign cs))
    || notNumberWords.contains (String.ofList cs)

/-- Whether characters are at least one of a class. -/
def areSome (p : Char → Bool) (cs : List Char) : Bool := !cs.isEmpty && cs.all p

/-- Whether characters look like a whole number, in base two, eight, ten, sixteen or sixty. -/
def looksWhole (cs : List Char) : Bool :=
  match dropSign cs with
  | ['0'] => true
  | '0' :: 'b' :: rest => areSome (fun c => c = '0' || c = '1' || c = '_') rest
  | '0' :: 'x' :: rest => areSome (fun c => (Digit.hex? c).isSome || c = '_') rest
  | '0' :: rest => areSome (fun c => ('0' ≤ c && c ≤ '7') || c = '_') rest
  | cs =>
    match afterDigits? cs with
    | some [] => true
    | some rest => afterSixties? rest = some []
    | none => false

end Tag

/-! ## Dates and moments -/

/-- **The parts of a date or a moment as written.** -/
structure Stamp where
  year : List Char
  month : List Char
  day : List Char
  /-- The hour, the minute, the second, and the fraction. -/
  time? : Option (List Char × List Char × List Char × List Char)
  /-- Whether the offset is negative, its hours, and its minutes. -/
  offset? : Option (Bool × List Char × List Char)
  /-- Whether the offset is written as a letter. -/
  universal : Bool
  deriving DecidableEq, Repr

namespace Stamp

/-- Between some and so many digits at the front. -/
def digits? (least most : Nat) (cs : List Char) : Option (List Char × List Char) :=
  let found := (cs.take most).takeWhile Char.isDigit
  if least ≤ found.length then some (found, cs.drop found.length) else none

/-- A character at the front. -/
def mark? (c : Char) : List Char → Option (List Char)
  | x :: cs => if x = c then some cs else none
  | [] => none

/-- Blanks of one line. -/
def isBlankInLine (c : Char) : Bool := c = ' ' || c = '\t'

/-- What follows the mark between date and time. -/
def afterSeparator? : List Char → Option (List Char)
  | c :: cs =>
    if c = 'T' || c = 't' then some cs
    else if isBlankInLine c then some (cs.dropWhile isBlankInLine)
    else none
  | [] => none

/-- The offset at the end: none, a letter, or a sign with hours and perhaps minutes. -/
def withOffset? (s : Stamp) (cs : List Char) : Option Stamp :=
  match cs with
  | [] => some s
  | cs =>
    match cs.dropWhile isBlankInLine with
    | ['Z'] => some { s with universal := true }
    | sign :: rest =>
      if sign = '+' || sign = '-' then do
        let (hours, rest) ← digits? 1 2 rest
        match rest with
        | [] => return { s with offset? := some (sign = '-', hours, []) }
        | rest =>
          let (minutes, rest) ← digits? 2 2 (← mark? ':' rest)
          if rest.isEmpty then return { s with offset? := some (sign = '-', hours, minutes) }
          else none
      else none
    | [] => none

/-- **The parts of a date or a moment.** -/
def ofChars? (cs : List Char) : Option Stamp := do
  let (year, rest) ← digits? 4 4 cs
  let (month, rest) ← digits? 1 2 (← mark? '-' rest)
  let (day, rest) ← digits? 1 2 (← mark? '-' rest)
  match rest with
  | [] => return ⟨year, month, day, none, none, false⟩
  | rest =>
    let (hour, rest) ← digits? 1 2 (← afterSeparator? rest)
    let (minute, rest) ← digits? 2 2 (← mark? ':' rest)
    let (second, rest) ← digits? 2 2 (← mark? ':' rest)
    let (fraction, rest) := match rest with
      | '.' :: rest => rest.span Char.isDigit
      | rest => ([], rest)
    withOffset? ⟨year, month, day, some (hour, minute, second, fraction), none, false⟩ rest

end Stamp

namespace Tag

/-- Whether characters look like a date or a moment. A date alone has to be written in full. -/
def looksTimestamp (cs : List Char) : Bool :=
  match Stamp.ofChars? cs with
  | some s => s.time?.isSome || (s.month.length = 2 && s.day.length = 2)
  | none => false

/-- **The tag that the look of a plain scalar suggests.** -/
def ofLook (s : String) : Tag :=
  let cs := s.toList
  if truthWords.contains s then .truth
  else if looksReal cs then .real
  else if looksWhole cs then .whole
  else if s = "<<" then .merge
  else if nullWords.contains s then .null
  else if looksTimestamp cs then .timestamp
  else if s = "=" then .proxy
  else if s = "!" || s = "&" || s = "*" then .other
  else .text

end Tag

end VectorLink.Yaml
