import VectorLink.Document.Yaml.Token

/-!
# From characters to tokens

Most marks stand for themselves, but two things are not written down in a document. Blocks begin and
end by indentation alone, and a key is known to be one only when its colon comes. So the lexer keeps
the columns of the open blocks, and for each depth of brackets it remembers where a key may have
begun (`Candidate`); when a colon comes, the marks that were missing are put in at that place.

A key that is not announced by a mark has to stand on one line and must not be longer than 1024
characters. Where a block requires a key, a candidate that is given up is a fault.
-/

namespace VectorLink.Yaml

/-- **A place where a key may have begun.** -/
structure Candidate where
  /-- The number of tokens in front. -/
  place : Nat
  /-- Whether nothing but a key may stand here. -/
  required : Bool
  index : Nat
  line : Nat
  column : Nat

/-- **The state of reading tokens.** -/
structure Lexer where
  cursor : Cursor
  tokens : Array Token
  /-- The number of open brackets and braces. -/
  depth : Nat
  /-- The column of the innermost block, -1 outside of all. -/
  indent : Int
  /-- The columns of the blocks around it. -/
  outer : List Int
  /-- Whether a key without a mark may begin here. -/
  keyAllowed : Bool
  /-- The candidates, by the depth of brackets at which they stand. -/
  candidates : List (Nat × Candidate)

/-- Reading tokens. -/
abbrev Lex := StateT Lexer (Except Fault)

namespace Lex

/-- Reads characters. -/
def scan {α : Type} (x : Scan α) : Lex α := fun s =>
  match x s.cursor with
  | .ok (a, cursor) => .ok (a, { s with cursor := cursor })
  | .error f => .error f

/-- The document is not well formed here. -/
def fail {α : Type} : Lex α := throw .malformed

/-- Adds a token. -/
def emit (t : Token) : Lex Unit := modify fun s => { s with tokens := s.tokens.push t }

/-- Puts a token in at a place. -/
def insertAt (place : Nat) (t : Token) : Lex Unit :=
  modify fun s => { s with tokens := s.tokens.insertIdxIfInBounds place t }

/-- Allows or forbids a key without a mark. -/
def allowKey (allowed : Bool) : Lex Unit := modify fun s => { s with keyAllowed := allowed }

/-- Whether the cursor is outside of all brackets. -/
def inBlock : Lex Bool := do return (← get).depth = 0

/-- The candidate at the depth of the cursor. -/
def candidate? : Lex (Option Candidate) := do
  let s ← get
  return (s.candidates.find? fun c => c.1 = s.depth).map (·.2)

/-- Forgets the candidate at the depth of the cursor. -/
def forget : Lex Unit :=
  modify fun s => { s with candidates := s.candidates.filter fun c => c.1 ≠ s.depth }

/-- Gives up the candidate at the depth of the cursor. -/
def giveUp : Lex Unit := do
  match ← candidate? with
  | some c => if c.required then fail else forget
  | none => pure ()

/-- The greatest length of a key without a mark. -/
def keyLimit : Nat := 1024

/-- Whether a candidate cannot become a key any more. -/
def isStale (here : Cursor) (c : Candidate) : Bool :=
  c.line ≠ here.line || here.index - c.index > keyLimit

/-- Gives up all candidates that cannot become keys any more. -/
def dropStale : Lex Unit := do
  let s ← get
  if s.candidates.any fun c => isStale s.cursor c.2 && c.2.required then fail
  set { s with candidates := s.candidates.filter fun c => !isStale s.cursor c.2 }

/-- Remembers that a key may begin here. -/
def remember : Lex Unit := do
  let s ← get
  if s.keyAllowed then
    giveUp
    let required := s.depth = 0 && s.indent = s.cursor.column
    modify fun s =>
      { s with candidates :=
          (s.depth, ⟨s.tokens.size, required, s.cursor.index, s.cursor.line, s.cursor.column⟩)
            :: s.candidates }

/-- Closes blocks until the innermost is not right of a column. -/
def closeBlocks (column : Int) : Nat → Lex Unit
  | 0 => pure ()
  | fuel + 1 => do
    let s ← get
    if column < s.indent then
      set { s with indent := s.outer.headD (-1), outer := s.outer.drop 1 }
      emit .blockEnd
      closeBlocks column fuel

/-- Closes blocks by indentation, which does not count inside brackets. -/
def unwind (column : Int) : Lex Unit := do
  if ← inBlock then closeBlocks column ((← get).outer.length + 1)

/-- Opens a block at a column unless it is open. Tells whether it was opened. -/
def openBlock (column : Nat) : Lex Bool := do
  let s ← get
  if s.indent < column then
    set { s with indent := column, outer := s.indent :: s.outer }
    return true
  else return false

/-! ## One token -/

/-- Moves over spaces, comments and breaks. After a break outside of brackets a key may begin. -/
def skipBlank : Nat → Lex Unit
  | 0 => pure ()
  | fuel + 1 => do
    scan Scan.spaces
    scan Scan.comment
    match ← scan Scan.lineBreak with
    | some _ =>
      if ← inBlock then allowKey true
      skipBlank fuel
    | none => pure ()

/-- The end of all tokens. -/
def streamEnd : Lex Unit := do
  unwind (-1)
  giveUp
  allowKey false
  emit .streamEnd

/-- A token that stands outside of all blocks. -/
def outside (token : Scan Token) : Lex Unit := do
  unwind (-1)
  giveUp
  allowKey false
  emit (← scan token)

/-- A mark of some characters. -/
def mark (length : Nat) (t : Token) : Lex Unit := do
  scan (Scan.skip length)
  emit t

/-- A bracket or a brace opens. -/
def openFlow (t : Token) : Lex Unit := do
  remember
  modify fun s => { s with depth := s.depth + 1, keyAllowed := true }
  mark 1 t

/-- A bracket or a brace closes. -/
def closeFlow (t : Token) : Lex Unit := do
  if ← inBlock then fail
  giveUp
  modify fun s => { s with depth := s.depth - 1, keyAllowed := false }
  mark 1 t

/-- A comma. -/
def flowEntry : Lex Unit := do
  allowKey true
  giveUp
  mark 1 .flowEntry

/-- A mark that may open a block: where a key without a mark could not begin, neither can it. -/
def blockMark (opening : Token) : Lex Unit := do
  if !(← get).keyAllowed then fail
  if ← openBlock (← get).cursor.column then emit opening

/-- The mark of an item of a block. -/
def blockEntry : Lex Unit := do
  if ← inBlock then blockMark .blockSequenceStart
  allowKey true
  giveUp
  mark 1 .blockEntry

/-- The mark of a key. -/
def key : Lex Unit := do
  let block ← inBlock
  if block then blockMark .blockMappingStart
  allowKey block
  giveUp
  mark 1 .key

/-- The mark of a value. What was remembered as a candidate now is a key. -/
def value : Lex Unit := do
  let block ← inBlock
  match ← candidate? with
  | some c =>
    forget
    insertAt c.place .key
    if block then
      if ← openBlock c.column then insertAt c.place .blockMappingStart
    allowKey false
  | none =>
    if block then blockMark .blockMappingStart
    allowKey block
    giveUp
  mark 1 .value

/-- A token that may begin a key. -/
def keyPart (token : Scan Token) : Lex Unit := do
  remember
  allowKey false
  emit (← scan token)

/-- A block scalar. -/
def blockScalar (folded : Bool) : Lex Unit := do
  allowKey true
  giveUp
  emit (← scan (Scan.blockScalar folded (← get).indent))

/-- A plain scalar. After a break behind it a key may begin. -/
def plainScalar : Lex Unit := do
  remember
  let (token, broke) ← scan (Scan.plainScalar (!(← inBlock)) (← get).indent)
  allowKey broke
  emit token

/-- The characters that no plain scalar begins with. -/
def notPlain : List Char :=
  "-?:,[]#&*!|>'\"%@\x60\x7b\x7d".toList

/-- Whether a plain scalar begins with a character before another one. -/
def beginsPlain (block : Bool) (c : Char) (next : Option Char) : Bool :=
  (!isGap (some c) && !notPlain.contains c)
    || (!isGap next && (c = '-' || (block && (c = '?' || c = ':'))))

/-- **The next token.** Tells whether there are more. -/
def fetch : Lex Bool := do
  skipBlank (← scan Scan.fuel)
  dropStale
  unwind (← get).cursor.column
  let block ← inBlock
  let atStart := (← get).cursor.column = 0
  let next ← scan (Scan.peekAt 1)
  match ← scan Scan.peek with
  | none =>
    streamEnd
    return false
  | some c =>
    if c = '%' && atStart then outside Scan.directive
    else if atStart && (← scan (Scan.isDocumentMark '-')) then
      outside (do Scan.skip 3; return .documentStart)
    else if atStart && (← scan (Scan.isDocumentMark '.')) then
      outside (do Scan.skip 3; return .documentEnd)
    else if c = '[' then openFlow .flowSequenceStart
    else if c = '\x7b' then openFlow .flowMappingStart
    else if c = ']' then closeFlow .flowSequenceEnd
    else if c = '\x7d' then closeFlow .flowMappingEnd
    else if c = ',' then flowEntry
    else if c = '-' && isGap next then blockEntry
    else if c = '?' && (!block || isGap next) then key
    else if c = ':' && (!block || isGap next) then value
    else if c = '*' then keyPart (do return .alias (← Scan.anchorName))
    else if c = '&' then keyPart (do return .anchor (← Scan.anchorName))
    else if c = '!' then keyPart Scan.tag
    else if c = '|' && block then blockScalar false
    else if c = '>' && block then blockScalar true
    else if c = '\'' then keyPart (Scan.quotedScalar false)
    else if c = '"' then keyPart (Scan.quotedScalar true)
    else if beginsPlain block c next then plainScalar
    else fail
    return true

end Lex

/-- The tokens that were read, and what stopped the reading. -/
structure TokenStream where
  tokens : List Token
  stop : Fault

namespace TokenStream

/-- The tokens from a state of reading on. -/
def readFrom : Nat → Lexer → TokenStream
  | 0, s => ⟨s.tokens.toList, .malformed⟩
  | fuel + 1, s =>
    match Lex.fetch s with
    | .ok (true, s) => readFrom fuel s
    | .ok (false, s) => ⟨s.tokens.toList, .malformed⟩
    | .error f => ⟨s.tokens.toList, f⟩

/-- A document without a byte order mark at its beginning. -/
def startOf (document : List Char) : Cursor :=
  let start := Cursor.start document
  if document.head? = some byteOrderMark then start.step else start

/-- **The tokens of a document.** -/
def ofDocument (document : List Char) : TokenStream :=
  readFrom (document.length + 2) ⟨startOf document, #[], 0, -1, [], true, []⟩

end TokenStream

end VectorLink.Yaml
