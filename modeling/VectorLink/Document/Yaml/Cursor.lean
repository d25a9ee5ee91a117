import VectorLink.Document.Yaml.Fault

/-!
# Cursors in a YAML document

A cursor is a place in a document: the characters from there on, how many are in front of it, and
its line and column. Reading moves a cursor forward over characters, one function for each kind of
stretch. Columns matter because indentation does; a byte order mark takes none.

Four characters end a line. The line feed and the next-line mark are the same when read; the two
separators of lines and paragraphs stay themselves.
-/

namespace VectorLink.Yaml

/-- **A place in a document.** -/
structure Cursor where
  rest : List Char
  /-- The number of characters in front. -/
  index : Nat
  line : Nat
  column : Nat

/-- The beginning of a document. -/
def Cursor.start (document : List Char) : Cursor := ⟨document, 0, 0, 0⟩

/-- Whether a character ends a line. -/
def isBreak (c : Char) : Bool := c = '\n' || c = '\x85' || c = '\u2028' || c = '\u2029'

/-- Whether a line ends at what follows: at a break, or because nothing follows. -/
def endsLine (next : Option Char) : Bool := (next.map isBreak).getD true

/-- Whether a word ends at what follows, where tabs are not blank. -/
def endsWord (next : Option Char) : Bool := next = some ' ' || endsLine next

/-- Whether what follows is blank: a space, a tab, a break, or nothing. -/
def isGap (next : Option Char) : Bool := next = some '\t' || endsWord next

/-- The mark of byte order. -/
def byteOrderMark : Char := '\uFEFF'

namespace Cursor

/-- The cursor after one character. -/
def step (c : Cursor) : Cursor :=
  match c.rest with
  | [] => c
  | x :: rest =>
    if isBreak x then ⟨rest, c.index + 1, c.line + 1, 0⟩
    else ⟨rest, c.index + 1, c.line, if x = byteOrderMark then c.column else c.column + 1⟩

/-- The cursor after some characters. -/
def skip (c : Cursor) : Nat → Cursor
  | 0 => c
  | n + 1 => c.step.skip n

end Cursor

/-- **Reading at a cursor that moves.** -/
abbrev Scan := StateT Cursor (Except Fault)

namespace Scan

/-- The character some places ahead. -/
def peekAt (n : Nat) : Scan (Option Char) := do return (← get).rest[n]?

/-- The next character. -/
def peek : Scan (Option Char) := peekAt 0

/-- The column of the cursor. -/
def column : Scan Nat := do return (← get).column

/-- Moves over some characters. -/
def skip (n : Nat) : Scan Unit := modify fun c => c.skip n

/-- The document is not well formed here. -/
def fail {α : Type} : Scan α := throw .malformed

/-- The characters of a class at the cursor; moves over them. -/
def run (p : Char → Bool) : Scan (List Char) := do
  let found := (← get).rest.takeWhile p
  skip found.length
  return found

/-- Moves over spaces. -/
def spaces : Scan Unit := do
  let _ ← run (· = ' ')

/-- Moves over a comment, if one begins here, up to the end of its line. -/
def comment : Scan Unit := do
  if (← peek) = some '#' then
    let _ ← run fun c => !isBreak c

/-- Moves over a break, if there is one, and gives it as it reads. -/
def lineBreak : Scan (Option Char) := do
  match ← peek with
  | some c =>
    if c = '\u2028' || c = '\u2029' then
      skip 1
      return some c
    else if isBreak c then
      skip 1
      return some '\n'
    else return none
  | none => return none

/-- Moves over what may stand behind the last word of a line: spaces, a comment, and the break. -/
def restOfLine : Scan Unit := do
  spaces
  comment
  if endsLine (← peek) then
    let _ ← lineBreak
  else fail

/-- Whether a line of three equal marks, or a line that begins with them, is here. -/
def isDocumentMark (mark : Char) : Scan Bool := do
  match (← get).rest with
  | a :: b :: c :: rest => return a = mark && b = mark && c = mark && isGap rest.head?
  | _ => return false

/-- Whether the mark of the start or of the end of a document is here, in whatever column. -/
def atDocumentMark : Scan Bool := do
  return (← isDocumentMark '-') || (← isDocumentMark '.')

/-- Moves over breaks and spaces for as long as there are any, giving the breaks. A line that begins
with the mark of a document ends this before its time, and then there is no result. -/
def blankLines : Nat → Scan (Option (List Char))
  | 0 => return some []
  | fuel + 1 => do
    spaces
    match ← lineBreak with
    | none => return some []
    | some b =>
      if ← atDocumentMark then return none
      match ← blankLines fuel with
      | some bs => return some (b :: bs)
      | none => return none

/-- A number of steps that suffices for whatever moves over one character a step. -/
def fuel : Scan Nat := do return (← get).rest.length + 1

end Scan

/-- Whether a character may stand in the name of an anchor, a directive, or a handle of tags. -/
def isNameCharacter (c : Char) : Bool := c.isAlphanum || c = '-' || c = '_'

end VectorLink.Yaml
