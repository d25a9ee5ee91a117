import VectorLink.Document.Yaml.Cursor
import VectorLink.Text.Utf8

/-!
# Tokens of YAML documents

A document is read in two steps: its characters as tokens, and its tokens as nodes. This module has
the tokens and, for each kind of token that is more than a mark, how its characters are read. Where
a token may stand is not looked at here (`Lexer`).
-/

namespace VectorLink.Yaml

/-- **A token of a document.** -/
inductive Token where
  | documentStart
  | documentEnd
  | streamEnd
  /-- The version that a document is written in; only the first number matters. -/
  | version (major : Nat)
  /-- A handle of tags stands for the beginning of their names. -/
  | tagHandle (handle beginning : String)
  /-- A directive without a meaning. -/
  | otherDirective
  | blockSequenceStart
  | blockMappingStart
  | blockEnd
  | flowSequenceStart
  | flowSequenceEnd
  | flowMappingStart
  | flowMappingEnd
  | flowEntry
  | blockEntry
  | key
  | value
  | alias (name : String)
  | anchor (name : String)
  /-- A tag: its handle, if it has one, and what follows it. -/
  | tag (handle? : Option String) (suffix : String)
  /-- A scalar; one without quotes and without a block header is plain. -/
  | scalar (plain : Bool) (text : String)
  deriving DecidableEq, Repr

namespace Scan

/-! ## Names, tags and directives -/

/-- A name of at least one character. -/
def name : Scan String := do
  let found ← run isNameCharacter
  if found.isEmpty then fail
  return String.ofList found

/-- The characters that may follow the name of an anchor or an alias, besides blanks. -/
def afterAnchor : List Char := ['?', ':', ',', ']', '\x7d', '%', '@', '\x60']

/-- The name of an anchor or an alias, after its mark. -/
def anchorName : Scan String := do
  skip 1
  let found ← name
  let next ← peek
  if isGap next || (next.map afterAnchor.contains).getD false then return found else fail

/-- The characters of which the name of a tag is made, besides letters, digits and escapes. -/
def tagMarks : List Char := "-;/?:@&=+$,_.!~*'()[]".toList

/-- Whether a character may stand in the name of a tag. -/
def isTagCharacter (c : Char) : Bool := c.isAlphanum || tagMarks.contains c

/-- The octets of consecutive escapes in the name of a tag. -/
def tagEscapes : Nat → Scan (List UInt8)
  | 0 => return []
  | fuel + 1 => do
    match (← get).rest with
    | '%' :: a :: b :: _ =>
      match Digit.hex? a, Digit.hex? b with
      | some m, some n =>
        skip 3
        return UInt8.ofNat (m * 16 + n) :: (← tagEscapes fuel)
      | _, _ => fail
    | '%' :: _ => fail
    | _ => return []

/-- The characters of the name of a tag, escapes resolved. -/
def tagPieces : Nat → Scan (List Char)
  | 0 => return []
  | fuel + 1 => do
    let piece ← run isTagCharacter
    if (← peek) = some '%' then
      match Utf8.decode (← tagEscapes (← Scan.fuel)) with
      | .ok s => return piece ++ s.toList ++ (← tagPieces fuel)
      | .error _ => fail
    else return piece

/-- The name of a tag. -/
def tagName : Scan String := do
  let before := (← get).index
  let found ← tagPieces (← Scan.fuel)
  if (← get).index = before then fail
  return String.ofList found

/-- A handle of tags: a single mark, or a name between two marks, which may be empty. -/
def tagHandle : Scan String := do
  if (← peek) ≠ some '!' then fail
  if (← peekAt 1) = some ' ' then
    skip 1
    return "!"
  skip 1
  let found ← run isNameCharacter
  if (← peek) ≠ some '!' then fail
  skip 1
  return "!" ++ String.ofList found ++ "!"

/-- **A tag.** A mark alone is a tag without a handle, and so is a name between angles. -/
def tag : Scan Token := do
  let next ← peekAt 1
  let found ←
    if next = some '<' then do
      skip 2
      let suffix ← tagName
      if (← peek) ≠ some '>' then fail
      skip 1
      pure (Token.tag none suffix)
    else if isGap next then do
      skip 1
      pure (Token.tag none "!")
    else do
      let word := ((← get).rest.drop 1).takeWhile fun c => !endsWord (some c)
      let handle ← if word.contains '!' then tagHandle else do
        skip 1
        pure "!"
      pure (Token.tag (some handle) (← tagName))
  if endsWord (← peek) then return found else fail

/-- The number of a version. -/
def versionNumber : Scan Nat := do
  let digits ← run Char.isDigit
  if digits.isEmpty then fail
  return Digit.number 10 (digits.filterMap Digit.ascii?)

/-- **A directive**, with the rest of its line. -/
def directive : Scan Token := do
  skip 1
  let found ← name
  if !endsWord (← peek) then fail
  let token ←
    if found = "YAML" then do
      spaces
      let major ← versionNumber
      if (← peek) ≠ some '.' then fail
      skip 1
      let _ ← versionNumber
      if !endsWord (← peek) then fail
      pure (Token.version major)
    else if found = "TAG" then do
      spaces
      let handle ← tagHandle
      if (← peek) ≠ some ' ' then fail
      spaces
      let beginning ← tagName
      if !endsWord (← peek) then fail
      pure (Token.tagHandle handle beginning)
    else do
      let _ ← run fun c => !isBreak c
      pure Token.otherDirective
  restOfLine
  return token

/-! ## Block scalars -/

/-- What is done with the breaks at the end of a block scalar. -/
inductive Chomping where
  | strip
  | clip
  | keep
  deriving DecidableEq, Repr

/-- The chomping of its mark. -/
def chompingOf? : Option Char → Option Chomping
  | some '+' => some .keep
  | some '-' => some .strip
  | _ => none

/-- A chomping mark, if there is one. -/
def chompingMark : Scan (Option Chomping) := do
  match chompingOf? (← peek) with
  | some c =>
    skip 1
    return some c
  | none => return none

/-- An indentation digit, if there is one. Zero is refused. -/
def indentationDigit : Scan (Option Nat) := do
  match (← peek).bind Digit.ascii? with
  | some 0 => fail
  | some n =>
    skip 1
    return some n
  | none => return none

/-- The header of a block scalar: its chomping and its indentation, in either order. -/
def blockHeader : Scan (Chomping × Option Nat) := do
  skip 1
  let early ← chompingMark
  let indentation ← indentationDigit
  let late ← if early.isNone && indentation.isSome then chompingMark else pure none
  if !endsWord (← peek) then fail
  restOfLine
  return ((early.or late).getD .clip, indentation)

/-- The breaks before the first line of a block scalar that is not empty, and the deepest column
that spaces reach there. -/
def leadingLines : Nat → Nat → Scan (List Char × Nat)
  | 0, deepest => return ([], deepest)
  | fuel + 1, deepest => do
    spaces
    let deepest := max deepest (← column)
    match ← lineBreak with
    | some b =>
      let (bs, deepest) ← leadingLines fuel deepest
      return (b :: bs, deepest)
    | none => return ([], deepest)

/-- Moves over spaces up to a column. -/
def spacesUpTo (limit : Nat) : Scan Unit := do
  let here ← column
  let ahead := ((← get).rest.takeWhile (· = ' ')).length
  skip (min ahead (limit - here))

/-- The breaks of empty lines in a block scalar of some indentation. -/
def emptyLines (indentation : Nat) : Nat → Scan (List Char)
  | 0 => return []
  | fuel + 1 => do
    spacesUpTo indentation
    match ← lineBreak with
    | some b => return b :: (← emptyLines indentation fuel)
    | none => return []

/-- Whether what follows is blank within a line. -/
def isBlankNext (next : Option Char) : Bool := next = some ' ' || next = some '\t'

/-- The lines of a block scalar from its first one on. Gives the text of the lines, the break of the
last line, and the breaks after that. -/
def blockLines (folded : Bool) (indentation : Nat) :
    Nat → List Char → Scan (List Char × Option Char × List Char)
  | 0, breaks => return ([], none, breaks)
  | fuel + 1, breaks => do
    let startsBlank := isBlankNext (← peek)
    let line ← run fun c => !isBreak c
    let lineEnd ← lineBreak
    let after ← emptyLines indentation (← Scan.fuel)
    let next ← peek
    if (← column) = indentation && next.isSome then
      let joint :=
        if folded && lineEnd = some '\n' && !startsBlank && !isBlankNext next then
          if after.isEmpty then [' '] else []
        else lineEnd.toList
      let (lines, last, tail) ← blockLines folded indentation fuel after
      return (breaks ++ line ++ joint ++ lines, last, tail)
    else return (breaks ++ line, lineEnd, after)

/-- **A block scalar** inside a block of some indentation. -/
def blockScalar (folded : Bool) (parent : Int) : Scan Token := do
  let (chomping, increment?) ← blockHeader
  let least := (parent + 1).toNat.max 1
  let (breaks, indentation) ← match increment? with
    | some increment => do
      let indentation := least + increment - 1
      let breaks ← emptyLines indentation (← Scan.fuel)
      pure (breaks, indentation)
    | none => do
      let (breaks, deepest) ← leadingLines (← Scan.fuel) 0
      pure (breaks, max least deepest)
  let (text, last, tail) ←
    if (← column) = indentation && (← peek).isSome then
      blockLines folded indentation (← Scan.fuel) breaks
    else pure ([], none, breaks)
  let ending := match chomping with
    | .strip => []
    | .clip => last.toList
    | .keep => last.toList ++ tail
  return .scalar false (String.ofList (text ++ ending))

/-! ## Quoted scalars -/

/-- The character of an escape of one letter. -/
def simpleEscape? : Char → Option Char
  | '0' => some '\x00'
  | 'a' => some '\x07'
  | 'b' => some '\x08'
  | 't' => some '\t'
  | '\t' => some '\t'
  | 'n' => some '\n'
  | 'v' => some '\x0b'
  | 'f' => some '\x0c'
  | 'r' => some '\r'
  | 'e' => some '\x1b'
  | ' ' => some ' '
  | '"' => some '"'
  | '\\' => some '\\'
  | '/' => some '/'
  | 'N' => some '\x85'
  | '_' => some '\xa0'
  | 'L' => some '\u2028'
  | 'P' => some '\u2029'
  | _ => none

/-- The number of digits of an escape by number. -/
def escapeWidth? : Char → Option Nat
  | 'x' => some 2
  | 'u' => some 4
  | 'U' => some 8
  | _ => none

/-- The character of a code point. Half a pair has no character of its own. -/
def characterOf (n : Nat) : Except Fault Char :=
  if 0x110000 ≤ n then .error (.codePoint n)
  else if 0xD800 ≤ n && n < 0xE000 then .ok '\uFFFD'
  else .ok (Char.ofNat n)

/-- The breaks of empty lines in a quoted scalar, where blanks do not matter. A line that begins
with the mark of a document must not come. -/
def quotedBreaks : Nat → Scan (List Char)
  | 0 => return []
  | fuel + 1 => do
    if ← atDocumentMark then fail
    let _ ← run fun c => c = ' ' || c = '\t'
    match ← lineBreak with
    | some b => return b :: (← quotedBreaks fuel)
    | none => return []

/-- The characters of an escape, after its backslash. -/
def escape : Scan (List Char) := do
  match ← peek with
  | none => fail
  | some c =>
    match simpleEscape? c, escapeWidth? c with
    | some e, _ =>
      skip 1
      return [e]
    | none, some width =>
      skip 1
      let digits := (← get).rest.take width
      match digits.mapM Digit.hex? with
      | some ds =>
        if ds.length < width then fail
        let found ← characterOf (Digit.number 16 ds)
        skip width
        return [found]
      | none => fail
    | none, none =>
      if isBreak c then
        let _ ← lineBreak
        quotedBreaks (← Scan.fuel)
      else fail

/-- Characters that may stand for something else in a quoted scalar. -/
def isQuotedMark (c : Char) : Bool :=
  c = '\'' || c = '"' || c = '\\' || c = ' ' || c = '\t' || isBreak c

/-- The characters of a quoted scalar up to its end or to a blank. -/
def quotedWord (double : Bool) : Nat → Scan (List Char)
  | 0 => return []
  | fuel + 1 => do
    let piece ← run fun c => !isQuotedMark c
    match (← get).rest with
    | '\'' :: '\'' :: _ =>
      if double then
        skip 1
        return piece ++ '\'' :: (← quotedWord double fuel)
      else
        skip 2
        return piece ++ '\'' :: (← quotedWord double fuel)
    | '\'' :: _ =>
      if double then
        skip 1
        return piece ++ '\'' :: (← quotedWord double fuel)
      else return piece
    | '"' :: _ =>
      if double then return piece
      else
        skip 1
        return piece ++ '"' :: (← quotedWord double fuel)
    | '\\' :: _ =>
      skip 1
      if double then
        let e ← escape
        return piece ++ e ++ (← quotedWord double fuel)
      else return piece ++ '\\' :: (← quotedWord double fuel)
    | _ => return piece

/-- What a stretch of blanks inside a quoted scalar stands for: itself, or folded breaks. -/
def quotedBlanks : Scan (List Char) := do
  let blanks ← run fun c => c = ' ' || c = '\t'
  match ← peek with
  | none => fail
  | some _ =>
    match ← lineBreak with
    | none => return blanks
    | some b =>
      let more ← quotedBreaks (← Scan.fuel)
      return (if b ≠ '\n' then [b] else if more.isEmpty then [' '] else []) ++ more

/-- The rest of a quoted scalar, with its closing quote. -/
def quotedRest (double : Bool) : Nat → Scan (List Char)
  | 0 => fail
  | fuel + 1 => do
    let word ← quotedWord double (← Scan.fuel)
    if (← peek) = some (if double then '"' else '\'') then
      skip 1
      return word
    let blanks ← quotedBlanks
    return word ++ blanks ++ (← quotedRest double fuel)

/-- **A quoted scalar.** -/
def quotedScalar (double : Bool) : Scan Token := do
  skip 1
  return .scalar false (String.ofList (← quotedRest double (← Scan.fuel)))

/-! ## Plain scalars -/

/-- The marks of collections in braces and brackets. -/
def flowMarks : List Char := [',', '[', ']', '\x7b', '\x7d']

/-- Whether a colon before what follows ends a plain scalar. -/
def colonEnds (flow : Bool) (next : Option Char) : Bool :=
  isGap next || (flow && (next.map flowMarks.contains).getD false)

/-- The number of characters up to where a plain scalar pauses or ends. -/
def plainLength (flow : Bool) : List Char → Nat
  | [] => 0
  | c :: rest =>
    if isGap (some c) || (c = ':' && colonEnds flow rest.head?)
        || (flow && (c = '?' || flowMarks.contains c)) then 0
    else plainLength flow rest + 1

/-- What a stretch of blanks inside a plain scalar stands for, nothing if the scalar ends there, and
whether a line ended in it. -/
def plainBlanks : Scan (Option (List Char) × Bool) := do
  let blanks ← run (· = ' ')
  match ← lineBreak with
  | none => return (if blanks.isEmpty then none else some blanks, false)
  | some b =>
    if ← atDocumentMark then return (none, true)
    match ← blankLines (← Scan.fuel) with
    | none => return (none, true)
    | some more =>
      return (some ((if b ≠ '\n' then [b] else if more.isEmpty then [' '] else []) ++ more), true)

/-- The rest of a plain scalar after some blanks, and whether a line ended behind it. -/
def plainRest (flow : Bool) (least : Int) :
    Nat → List Char → Bool → Scan (List Char × Bool)
  | 0, _, broke => return ([], broke)
  | fuel + 1, blanks, broke => do
    let length := plainLength flow (← get).rest
    if (← peek) = some '#' || length = 0 then return ([], broke)
    let word := (← get).rest.take length
    skip length
    match ← plainBlanks with
    | (none, broke) => return (blanks ++ word, broke)
    | (some more, broke) =>
      if !flow && (← column) < least then return (blanks ++ word, broke)
      let (rest, broke) ← plainRest flow least fuel more broke
      return (blanks ++ word ++ rest, broke)

/-- **A plain scalar** inside a block of some indentation, and whether a line ended behind it. -/
def plainScalar (flow : Bool) (parent : Int) : Scan (Token × Bool) := do
  let (text, broke) ← plainRest flow (parent + 1) (← Scan.fuel) [] false
  return (.scalar true (String.ofList text), broke)

end Scan

end VectorLink.Yaml
