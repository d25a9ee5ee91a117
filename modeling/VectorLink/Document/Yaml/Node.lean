import VectorLink.Document.Yaml.Lexer
import VectorLink.Document.Yaml.Tag

/-!
# Nodes of YAML documents

A document is a tree of nodes, each with its tag. Anchors and aliases are gone: an alias is the node
that it names. So a node that names itself from inside is not one, and is refused.

Tokens become nodes by descent: each kind of collection has a reader of its entries, which stops at
the token that ends it (`Parse`).
-/

namespace VectorLink.Yaml

/-- **A node of a document.** -/
inductive Node where
  | scalar (tag : Tag) (text : String)
  | sequence (tag : Tag) (items : List Node)
  | mapping (tag : Tag) (entries : List (Node × Node))
  deriving Inhabited

namespace Node

/-- The tag of a node. -/
def tag : Node → Tag
  | .scalar t _ => t
  | .sequence t _ => t
  | .mapping t _ => t

/-- A node with another tag. -/
def withTag (t : Tag) : Node → Node
  | .scalar _ s => .scalar t s
  | .sequence _ items => .sequence t items
  | .mapping _ entries => .mapping t entries

/-- A scalar that is not written down. -/
def nothing : Node := .scalar .null ""

end Node

/-- **The state of reading nodes.** -/
structure Parser where
  tokens : List Token
  /-- What is reported if the tokens run out. -/
  stop : Fault
  /-- What handles of tags stand for. -/
  handles : List (String × String)
  /-- The nodes that have a name, or nothing while they are being read. -/
  anchors : List (String × Option Node)

/-- Reading nodes. -/
abbrev Parse := StateT Parser (Except Fault)

namespace Parse

/-- The document is not well formed here. -/
def fail {α : Type} : Parse α := throw .malformed

/-- The next token. -/
def peek : Parse Token := do
  let s ← get
  match s.tokens with
  | t :: _ => return t
  | [] => throw s.stop

/-- Moves over a token. -/
def skip : Parse Unit := modify fun s => { s with tokens := s.tokens.drop 1 }

/-- Moves over the next token if it is a certain one. Tells whether it was. -/
def skipIf (t : Token) : Parse Bool := do
  if (← peek) = t then
    skip
    return true
  else return false

/-- A node gets a name, while it is being read. Names are not given twice. -/
def openAnchor (name : String) : Parse Unit := do
  let s ← get
  if s.anchors.any fun a => a.1 == name then fail
  set { s with anchors := (name, none) :: s.anchors }

/-- A node that has a name is complete. -/
def closeAnchor (name : String) (n : Node) : Parse Unit :=
  modify fun s =>
    { s with anchors := s.anchors.map fun a => if a.1 == name then (name, some n) else a }

/-- The node of a name. -/
def anchored (name : String) : Parse Node := do
  match ((← get).anchors.find? fun a => a.1 == name).bind (·.2) with
  | some n => return n
  | none => fail

/-- The name of a tag, its handle resolved. -/
def tagName (handle? : Option String) (suffix : String) : Parse String := do
  match handle? with
  | none => return suffix
  | some handle =>
    match (← get).handles.find? fun h => h.1 == handle with
    | some (_, beginning) => return beginning ++ suffix
    | none => fail

/-- An anchor, if there is one. -/
def anchor? : Parse (Option String) := do
  match ← peek with
  | .anchor name =>
    skip
    return some name
  | _ => return none

/-- The name of a tag, if there is one. -/
def tag? : Parse (Option String) := do
  match ← peek with
  | .tag handle? suffix =>
    skip
    return some (← tagName handle? suffix)
  | _ => return none

/-- An anchor and the name of a tag in either order, each if there is one. -/
def properties : Parse (Option String × Option String) := do
  match ← anchor? with
  | some a => return (some a, ← tag?)
  | none =>
    match ← tag? with
    | some t => return (← anchor?, some t)
    | none => return (none, none)

/-- The tag that leaves the choice to the look of a node. -/
def openTag : String := "!"

/-- The tag of a collection. -/
def collectionTag (named? : Option String) (usual : Tag) : Tag :=
  match named? with
  | some name => if name = openTag then usual else .ofName name
  | none => usual

/-- The tag of a scalar. Its look counts if it is plain and untagged, or if its tag says so. -/
def scalarTag (named? : Option String) (plain : Bool) (text : String) : Tag :=
  match named? with
  | some name => if name = openTag then .ofLook text else .ofName name
  | none => if plain then .ofLook text else .text

/-- Whether an item of a block is left out before a token. -/
def endsItem (t : Token) : Bool := t = .blockEntry || t = .blockEnd

/-- Whether an item of a list without a block of its own is left out before a token. -/
def endsIndentlessItem (t : Token) : Bool := endsItem t || t = .key || t = .value

/-- Whether a key or a value of a block is left out before a token. -/
def endsBlockPart (t : Token) : Bool := t = .key || t = .value || t = .blockEnd

/-- Where a node stands. -/
inductive Setting where
  /-- Inside brackets or braces. -/
  | flow
  /-- An item of a block, or a whole document. -/
  | block
  /-- A key or a value of a block, which may be a list at the same column. -/
  | entry
  deriving DecidableEq, Repr

mutual

/-- **The node at the front.** -/
def node : Nat → Setting → Parse Node
  | 0, _ => fail
  | fuel + 1, setting => do
    match ← peek with
    | .alias name =>
      skip
      anchored name
    | _ =>
      let (name?, tagName?) ← properties
      match name? with
      | some name =>
        openAnchor name
        let n ← content fuel setting true tagName?
        closeAnchor name n
        return n
      | none => content fuel setting tagName?.isSome tagName?

/-- The content of a node behind its properties. With properties it may be left out. -/
def content : Nat → Setting → Bool → Option String → Parse Node
  | 0, _, _, _ => fail
  | fuel + 1, setting, optional, tagName? => do
    let listTag := collectionTag tagName? .list
    let mappingTag := collectionTag tagName? .mapping
    let left := do
      if optional then return .scalar (scalarTag tagName? true "") "" else fail
    match ← peek with
    | .scalar plain text =>
      skip
      return .scalar (scalarTag tagName? plain text) text
    | .flowSequenceStart =>
      skip
      return .sequence listTag (← flowItems fuel true)
    | .flowMappingStart =>
      skip
      return .mapping mappingTag (← flowEntries fuel true)
    | .blockEntry =>
      if setting = .entry then return .sequence listTag (← indentlessItems fuel) else left
    | .blockSequenceStart =>
      if setting = .flow then left
      else
        skip
        return .sequence listTag (← blockItems fuel)
    | .blockMappingStart =>
      if setting = .flow then left
      else
        skip
        return .mapping mappingTag (← blockEntries fuel)
    | _ => left

/-- The items of a block. -/
def blockItems : Nat → Parse (List Node)
  | 0 => fail
  | fuel + 1 => do
    if ← skipIf .blockEntry then
      let item ← if endsItem (← peek) then pure .nothing else node fuel .block
      return item :: (← blockItems fuel)
    else if ← skipIf .blockEnd then return []
    else fail

/-- The items of a list without a block of its own. -/
def indentlessItems : Nat → Parse (List Node)
  | 0 => fail
  | fuel + 1 => do
    if ← skipIf .blockEntry then
      let item ← if endsIndentlessItem (← peek) then pure .nothing else node fuel .block
      return item :: (← indentlessItems fuel)
    else return []

/-- The entries of a block. Each begins with a key, which may be left out behind its mark. -/
def blockEntries : Nat → Parse (List (Node × Node))
  | 0 => fail
  | fuel + 1 => do
    if ← skipIf .key then
      let key ← if endsBlockPart (← peek) then pure .nothing else node fuel .entry
      let value ←
        if ← skipIf .value then
          if endsBlockPart (← peek) then pure .nothing else node fuel .entry
        else pure .nothing
      return (key, value) :: (← blockEntries fuel)
    else if ← skipIf .blockEnd then return []
    else fail

/-- A node inside brackets or braces, which may be left out before a value, a comma, or the end. -/
def flowPart : Nat → Token → Bool → Parse Node
  | 0, _, _ => fail
  | fuel + 1, closing, beforeValue => do
    let next ← peek
    if next = .flowEntry || next = closing || (beforeValue && next = .value) then
      return .nothing
    else node fuel .flow

/-- The value of an entry inside brackets or braces. -/
def flowValue : Nat → Token → Parse Node
  | 0, _ => fail
  | fuel + 1, closing => do
    if ← skipIf .value then flowPart fuel closing false else return .nothing

/-- The items between brackets. An item with a key is a mapping of one entry. -/
def flowItems : Nat → Bool → Parse (List Node)
  | 0, _ => fail
  | fuel + 1, first => do
    if ← skipIf .flowSequenceEnd then return []
    if !first then
      if !(← skipIf .flowEntry) then fail
    if ← skipIf .key then
      let key ← flowPart fuel .flowSequenceEnd true
      let value ← flowValue fuel .flowSequenceEnd
      return .mapping .mapping [(key, value)] :: (← flowItems fuel false)
    else if ← skipIf .flowSequenceEnd then return []
    else
      let item ← node fuel .flow
      return item :: (← flowItems fuel false)

/-- The entries between braces. An entry without a key mark has no value. -/
def flowEntries : Nat → Bool → Parse (List (Node × Node))
  | 0, _ => fail
  | fuel + 1, first => do
    if ← skipIf .flowMappingEnd then return []
    if !first then
      if !(← skipIf .flowEntry) then fail
    if ← skipIf .key then
      let key ← flowPart fuel .flowMappingEnd true
      let value ← flowValue fuel .flowMappingEnd
      return (key, value) :: (← flowEntries fuel false)
    else if ← skipIf .flowMappingEnd then return []
    else
      let key ← node fuel .flow
      return (key, .nothing) :: (← flowEntries fuel false)

end

/-! ## Documents -/

/-- The handles of tags that need no directive. -/
def standardHandles : List (String × String) := [("!", "!"), ("!!", Tag.beginning)]

/-- Whether a token begins a document or its directives. -/
def isDirective : Token → Bool
  | .version _ | .tagHandle _ _ | .otherDirective => true
  | _ => false

/-- The directives of a document: at most one version, which has to be the first, and handles of
tags, none of them twice. Whether the version was given, and the handles so far, come with it. -/
def directives : Nat → Bool → List (String × String) → Parse (List (String × String))
  | 0, _, _ => fail
  | fuel + 1, versioned, handles => do
    match ← peek with
    | .version major =>
      if versioned || major ≠ 1 then fail
      skip
      directives fuel true handles
    | .tagHandle handle beginning =>
      if handles.any fun h => h.1 == handle then fail
      skip
      directives fuel versioned ((handle, beginning) :: handles)
    | .otherDirective =>
      skip
      directives fuel versioned handles
    | _ => return handles

/-- Whether a document is empty before a token. -/
def endsDocument (t : Token) : Bool :=
  isDirective t || t = .documentStart || t = .documentEnd || t = .streamEnd

/-- Moves over marks of the end of a document. -/
def documentEnds : Nat → Parse Unit
  | 0 => pure ()
  | fuel + 1 => do
    if ← skipIf .documentEnd then documentEnds fuel

/-- **The node of the only document**, if there is one. -/
def document (fuel : Nat) : Parse (Option Node) := do
  let first ← peek
  if first = .streamEnd then return none
  let root ←
    if isDirective first || first = .documentStart then do
      let handles ← directives fuel false []
      if !(← skipIf .documentStart) then fail
      modify fun s => { s with handles := handles ++ standardHandles }
      if endsDocument (← peek) then pure .nothing else node fuel .block
    else node fuel .block
  documentEnds fuel
  if (← peek) = .streamEnd then return some root else fail

end Parse

namespace Node

/-- **The node of a document**, if it has any. -/
def ofTokens? (s : TokenStream) : Except Fault (Option Node) :=
  (Parse.document (8 * s.tokens.length + 8) ⟨s.tokens, s.stop, Parse.standardHandles, []⟩).map
    (·.1)

end Node

end VectorLink.Yaml
