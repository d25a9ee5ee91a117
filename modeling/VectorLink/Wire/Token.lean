import VectorLink.Wire.Varint

/-!
# Tokens of the wire format

Before a schema gives them a meaning, the octets of a message are a sequence of numbered items: a
number, four octets, eight octets, or a run of octets with its length before it. This module splits
octets into such tokens and says how one is written.

## Groups

An older part of the format brackets fields between an opening and a closing mark of the same
number. No message of this service has such a field, but a reader has to pass over one; it is well
formed only if every mark has its partner (`Token.outsideGroups`).
-/

namespace VectorLink.Wire

/-- The content of a token. -/
inductive Content where
  | number (n : Nat)
  | eight (n : Nat)
  | run (bs : Octets)
  | four (n : Nat)
  deriving DecidableEq, Repr

/-- **A numbered item of a message**, or one of the two marks of a group. -/
inductive Token where
  | item (number : Nat) (content : Content)
  | openGroup (number : Nat)
  | closeGroup (number : Nat)
  deriving DecidableEq, Repr

/-- The tag that announces a content of a field. -/
def tag (number code : Nat) : Octets := varint (number * 8 + code)

/-- The code of a content in a tag. -/
def Content.code : Content → Nat
  | .number _ => 0
  | .eight _ => 1
  | .run _ => 2
  | .four _ => 5

/-- A run of octets with its length before it. -/
def delimited (bs : Octets) : Octets := varint bs.length ++ bs

/-- The octets of a content, without a tag. -/
def Content.write : Content → Octets
  | .number n => varint n
  | .eight n => littleEndian 8 n
  | .run bs => delimited bs
  | .four n => littleEndian 4 n

/-- **The octets of an item.** -/
def writeItem (number : Nat) (c : Content) : Octets := tag number c.code ++ c.write

/-- A run of octets at the front, by the length before it. -/
def readRun (bs : Octets) : Option (Octets × Octets) := do
  let (size, rest) ← readVarint bs
  if rest.length < size then none else some (rest.take size, rest.drop size)

/-- The content that a tag announced, and the rest. -/
def readContent (number code : Nat) (bs : Octets) : Option (Token × Octets) :=
  match code with
  | 0 => (readVarint bs).map fun r => (.item number (.number r.1), r.2)
  | 1 => (readLittleEndian 8 bs).map fun r => (.item number (.eight r.1), r.2)
  | 2 => (readRun bs).map fun r => (.item number (.run r.1), r.2)
  | 3 => some (.openGroup number, bs)
  | 4 => some (.closeGroup number, bs)
  | 5 => (readLittleEndian 4 bs).map fun r => (.item number (.four r.1), r.2)
  | _ => none

/-- One token at the front, and the rest. There is no field with the number zero. -/
def readToken (bs : Octets) : Option (Token × Octets) := do
  let (t, rest) ← readTag bs
  if t / 8 = 0 then none else readContent (t / 8) (t % 8) rest

/-- The tokens of octets, reading at most as many as are allowed. -/
def readTokensWithin : Nat → Octets → Option (List Token)
  | _, [] => some []
  | 0, _ :: _ => none
  | allowed + 1, bs => do
    let (t, rest) ← readToken bs
    return t :: (← readTokensWithin allowed rest)

/-- **The tokens of octets.** Every token takes at least one octet. -/
def readTokens (bs : Octets) : Option (List Token) := readTokensWithin bs.length bs

/-- An item outside all groups. -/
structure Item where
  number : Nat
  content : Content
  deriving DecidableEq, Repr

/-- **The items outside all groups**, if every group is closed by its own mark and no more groups
than allowed are open at once. -/
def outsideGroups (allowed : Nat) : List Nat → List Token → Option (List Item)
  | [], [] => some []
  | _ :: _, [] => none
  | stack, .openGroup n :: ts =>
    if stack.length < allowed then outsideGroups allowed (n :: stack) ts else none
  | [], .closeGroup _ :: _ => none
  | m :: stack, .closeGroup n :: ts =>
    if m = n then outsideGroups allowed stack ts else none
  | [], .item n c :: ts => (outsideGroups allowed [] ts).map (⟨n, c⟩ :: ·)
  | m :: stack, .item _ _ :: ts => outsideGroups allowed (m :: stack) ts

/-- The greatest depth of messages and groups inside each other. -/
def greatestDepth : Nat := 100

/-- **The items of octets** that stand inside as many messages. -/
def readItems (depth : Nat) (bs : Octets) : Option (List Item) := do
  outsideGroups (greatestDepth - depth) [] (← readTokens bs)

end VectorLink.Wire
