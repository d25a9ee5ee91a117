import VectorLink.Number.Numeral
import VectorLink.Value.Basic

/-!
# JSON documents

Reading a JSON document gives its value or the first fault in it, with the place where it stands.
Two things go beyond the standard: the words for infinities and for what is no number are values,
and whole numbers are not rounded.

A reader takes the characters that are left and gives those that are left after it. A fault carries
the characters from its place on, so that its place in the document is the difference of two lengths
(`Json.Fault.offsetIn`).
-/

namespace VectorLink.Json

/-- What is wrong at a place. -/
inductive Cause where
  | byteOrderMark
  | value
  | propertyName
  | colon
  | comma
  | extraData
  | unterminatedText
  | controlCharacter
  | escape
  | codeEscape
  deriving DecidableEq, Repr

/-- The wording of each cause. -/
def Cause.message : Cause → String
  | .byteOrderMark => "Unexpected UTF-8 BOM (decode using utf-8-sig)"
  | .value => "Expecting value"
  | .propertyName => "Expecting property name enclosed in double quotes"
  | .colon => "Expecting ':' delimiter"
  | .comma => "Expecting ',' delimiter"
  | .extraData => "Extra data"
  | .unterminatedText => "Unterminated string starting at"
  | .controlCharacter => "Invalid control character at"
  | .escape => "Invalid \\escape"
  | .codeEscape => "Invalid \\uXXXX escape"

/-- **What is wrong with a document.** -/
inductive Fault where
  /-- It is not well formed; the characters from the place of the fault on. -/
  | malformed (cause : Cause) (rest : List Char)
  /-- A whole number has too many digits. -/
  | numeral (f : NumeralFault)
  deriving DecidableEq, Repr

/-- The number of characters in front of a place. -/
def offsetIn (document rest : List Char) : Nat := document.length - rest.length

/-- The line of a place and its column, both counted from one, and the characters in front of it. -/
def placeText (document : List Char) (offset : Nat) : String :=
  let before := document.take offset
  let line := before.count '\n' + 1
  let column := (before.reverse.takeWhile (· != '\n')).length + 1
  "line " ++ toString line ++ " column " ++ toString column ++ " (char " ++ toString offset ++ ")"

/-- The wording of a fault of a document. -/
def Fault.message (document : List Char) : Fault → String
  | .malformed cause rest => cause.message ++ ": " ++ placeText document (offsetIn document rest)
  | .numeral f => f.message

/-- A reader of something at the front of the characters that are left. -/
abbrev Reader (α : Type) := List Char → Except Fault (α × List Char)

/-- Characters between tokens. -/
def isSpace (c : Char) : Bool := c = ' ' || c = '\t' || c = '\n' || c = '\r'

/-- The characters after the spaces at the front. -/
def skipSpaces (cs : List Char) : List Char := cs.dropWhile isSpace

/-! ## Texts -/

/-- The number of four hexadecimal digits at the front, if they are there and are not the last
characters. -/
def codeUnit? (cs : List Char) : Option (Nat × List Char) :=
  match cs with
  | a :: b :: c :: d :: e :: rest =>
    match [a, b, c, d].mapM Digit.hex? with
    | some ds => some (Digit.number 16 ds, e :: rest)
    | none => none
  | _ => none

/-- Whether a code unit is the first half of a pair. -/
def isHighHalf (n : Nat) : Bool := 0xD800 ≤ n && n < 0xDC00

/-- Whether a code unit is the second half of a pair. -/
def isLowHalf (n : Nat) : Bool := 0xDC00 ≤ n && n < 0xE000

/-- The character of a pair of halves. -/
def joinHalves (high low : Nat) : Char :=
  Char.ofNat (0x10000 + (high - 0xD800) * 0x400 + (low - 0xDC00))

/-- What stands for half a pair that is alone. -/
def loneHalf : Char := '\uFFFD'

/-- The character of a code unit that is no half of a pair. -/
def characterOf (n : Nat) : Char :=
  if isHighHalf n || isLowHalf n then loneHalf else Char.ofNat n

/-- The character of a code escape, after its `u`. Two escapes may be the halves of one
character. -/
def readCodeEscape (mark : List Char) : Reader Char := fun cs =>
  match codeUnit? cs with
  | none => .error (.malformed .codeEscape mark)
  | some (high, rest) =>
    match isHighHalf high, rest with
    | true, '\\' :: 'u' :: more =>
      if more.length < 5 then .ok (loneHalf, rest)
      else
        match codeUnit? more with
        | none => .error (.malformed .codeEscape (rest.drop 1))
        | some (low, after) =>
          if isLowHalf low then .ok (joinHalves high low, after) else .ok (loneHalf, rest)
    | _, _ => .ok (characterOf high, rest)

/-- The character of a simple escape. -/
def simpleEscape? : Char → Option Char
  | '"' => some '"'
  | '\\' => some '\\'
  | '/' => some '/'
  | 'b' => some '\x08'
  | 'f' => some '\x0c'
  | 'n' => some '\n'
  | 'r' => some '\r'
  | 't' => some '\t'
  | _ => none

/-- The characters of a text up to its closing quote, latest first. The opening quote is where a
text without an end is reported. -/
def readCharacters (opening : List Char) : Nat → List Char → Reader (List Char)
  | 0, _, _ => .error (.malformed .unterminatedText opening)
  | _ + 1, _, [] => .error (.malformed .unterminatedText opening)
  | _ + 1, done, '"' :: rest => .ok (done, rest)
  | _ + 1, _, ['\\'] => .error (.malformed .unterminatedText opening)
  | fuel + 1, done, '\\' :: 'u' :: rest => do
    let (c, rest) ← readCodeEscape ('u' :: rest) rest
    readCharacters opening fuel (c :: done) rest
  | fuel + 1, done, '\\' :: c :: rest =>
    match simpleEscape? c with
    | some e => readCharacters opening fuel (e :: done) rest
    | none => .error (.malformed .escape ('\\' :: c :: rest))
  | fuel + 1, done, c :: rest =>
    if c.toNat < 0x20 then .error (.malformed .controlCharacter (c :: rest))
    else readCharacters opening fuel (c :: done) rest

/-- **The text that begins after a quote.** -/
def readText : Reader String := fun cs =>
  (readCharacters ('"' :: cs) (cs.length + 1) [] cs).map fun (done, rest) =>
    (String.ofList done.reverse, rest)

/-! ## Numbers -/

/-- The digits at the front. -/
def spanDigits (cs : List Char) : List Char × List Char := cs.span Char.isDigit

/-- The fraction at the front: a point with at least one digit after it. -/
def spanFraction (cs : List Char) : List Char × List Char :=
  match cs with
  | '.' :: rest =>
    match spanDigits rest with
    | ([], _) => ([], cs)
    | (ds, rest) => ('.' :: ds, rest)
  | cs => ([], cs)

/-- A sign at the front, as a list of at most one character. -/
def spanSign : List Char → List Char × List Char
  | '+' :: rest => (['+'], rest)
  | '-' :: rest => (['-'], rest)
  | cs => ([], cs)

/-- The exponent at the front: its mark, a sign if there is one, and at least one digit. -/
def spanExponent (cs : List Char) : List Char × List Char :=
  match cs with
  | c :: rest =>
    if c = 'e' || c = 'E' then
      let (sign, after) := spanSign rest
      match spanDigits after with
      | ([], _) => ([], cs)
      | (ds, left) => (c :: sign ++ ds, left)
    else ([], cs)
  | [] => ([], [])

/-- The whole part of a number: a single zero, or digits that do not begin with one. -/
def spanWhole (cs : List Char) : List Char × List Char :=
  match cs with
  | '0' :: rest => (['0'], rest)
  | cs => spanDigits cs

/-- **The number at the front**: whole if it has neither fraction nor exponent. -/
def readNumber : Reader Value := fun cs =>
  let (sign, unsigned) := match cs with
    | '-' :: rest => (['-'], rest)
    | cs => ([], cs)
  match spanWhole unsigned with
  | ([], _) => .error (.malformed .value cs)
  | (whole, rest) =>
    let (fraction, rest) := spanFraction rest
    let (exponent, rest) := spanExponent rest
    if fraction.isEmpty && exponent.isEmpty then
      match Numeral.whole (String.ofList (sign ++ whole)) with
      | .ok n => .ok (.int n, rest)
      | .error f => .error (.numeral f)
    else
      match Numeral.real (String.ofList (sign ++ whole ++ fraction ++ exponent)) with
      | .ok x => .ok (.float x, rest)
      | .error f => .error (.numeral f)

/-! ## Values -/

/-- The values that are written as words. -/
def words : List (String × Value) :=
  [("null", .none), ("true", .bool true), ("false", .bool false), ("NaN", .float .nan),
   ("Infinity", .float (.infinity false)), ("-Infinity", .float (.infinity true))]

/-- The value of a word at the front. -/
def readWord? (cs : List Char) : Option (Value × List Char) :=
  words.findSome? fun (word, v) =>
    if word.toList.isPrefixOf cs then some (v, cs.drop word.length) else none

mutual

/-- The value at the front. -/
def readValue : Nat → Reader Value
  | 0, cs => .error (.malformed .value cs)
  | fuel + 1, cs =>
    match cs with
    | '"' :: rest => (readText rest).map fun (s, rest) => (.text s, rest)
    | '[' :: rest =>
      match skipSpaces rest with
      | ']' :: rest => .ok (.list [], rest)
      | rest => (readItems fuel rest).map fun (vs, rest) => (.list vs, rest)
    | '\x7b' :: rest =>
      match skipSpaces rest with
      | '\x7d' :: rest => .ok (.mapping [], rest)
      | rest => (readEntries fuel [] rest).map fun (es, rest) => (.mapping es, rest)
    | cs =>
      match readWord? cs with
      | some found => .ok found
      | none => readNumber cs

/-- The items of a list up to its end. -/
def readItems : Nat → Reader (List Value)
  | 0, cs => .error (.malformed .value cs)
  | fuel + 1, cs => do
    let (v, rest) ← readValue fuel cs
    match skipSpaces rest with
    | ']' :: rest => return ([v], rest)
    | ',' :: rest =>
      let (vs, rest) ← readItems fuel (skipSpaces rest)
      return (v :: vs, rest)
    | rest => .error (.malformed .comma rest)

/-- The entries of a mapping up to its end, after those read so far. -/
def readEntries : Nat → List (Value × Value) → Reader (List (Value × Value))
  | 0, _, cs => .error (.malformed .propertyName cs)
  | fuel + 1, done, cs =>
    match cs with
    | '"' :: rest => do
      let (name, rest) ← readText rest
      match skipSpaces rest with
      | ':' :: rest =>
        let (v, rest) ← readValue fuel (skipSpaces rest)
        let done := putEntry done (.text name) v
        match skipSpaces rest with
        | '\x7d' :: rest => return (done, rest)
        | ',' :: rest => readEntries fuel done (skipSpaces rest)
        | rest => .error (.malformed .comma rest)
      | rest => .error (.malformed .colon rest)
    | cs => .error (.malformed .propertyName cs)

end

/-- **The value of a document.** A character opens at most a value and an item, so twice as many
steps as there are characters are enough. -/
def read (document : List Char) : Except Fault Value :=
  match document with
  | '\uFEFF' :: _ => .error (.malformed .byteOrderMark document)
  | _ => do
    let (v, rest) ← readValue (2 * document.length + 2) (skipSpaces document)
    match skipSpaces rest with
    | [] => return v
    | rest => .error (.malformed .extraData rest)

end VectorLink.Json
