import VectorLink.Document.Yaml.Node
import VectorLink.Document.Yaml.Scalar

/-!
# Values of YAML documents

A node becomes a value by its tag. A mapping may take entries from others under the merge key: they
come in front of its own, so its own entries win.

## Which fault is reported

A document may hold several values that make no sense. The collections of a document are filled from
the outside in, one level after another, so the fault that is reported is the first one of the
outermost level that has any (`Late.earlier`).
-/

namespace VectorLink.Yaml

/-! ## Merging -/

namespace Node

mutual

/-- The entries that a mapping takes from others, and its own. -/
def mergedEntries : List (Node × Node) →
    Except Fault (List (Node × Node) × List (Node × Node))
  | [] => .ok ([], [])
  | (key, value) :: rest =>
    if key.tag = .merge then do
      let taken ← entriesToMerge value
      let (more, own) ← mergedEntries rest
      return (taken ++ more, own)
    else do
      let (taken, own) ← mergedEntries rest
      return (taken, (if key.tag = .proxy then key.withTag .text else key, value) :: own)

/-- The entries that a node gives to the mapping that it is merged into: those of a mapping, or
those of a list of mappings, where earlier ones win. -/
def entriesToMerge : Node → Except Fault (List (Node × Node))
  | .mapping _ entries => do
    let (taken, own) ← mergedEntries entries
    return taken ++ own
  | .sequence _ items => do return (← eachToMerge items).reverse.flatten
  | .scalar _ _ => .error .malformed

/-- The entries that each of some mappings gives. -/
def eachToMerge : List Node → Except Fault (List (List (Node × Node)))
  | [] => .ok []
  | .mapping _ entries :: rest => do
    let (taken, own) ← mergedEntries entries
    return (taken ++ own) :: (← eachToMerge rest)
  | _ => .error .malformed

end

/-- **The entries of a mapping with what is merged into it.** -/
def entriesOf (entries : List (Node × Node)) : Except Fault (List (Node × Node)) := do
  let (taken, own) ← mergedEntries entries
  return taken ++ own

/-- The text of a node where a scalar is wanted. A mapping may say which of its values stands for
it. -/
def scalarText? : Node → Option String
  | .scalar _ s => some s
  | .mapping _ entries => proxyText? entries
  | .sequence _ _ => none
where
  /-- The text of the first value that stands for its mapping. -/
  proxyText? : List (Node × Node) → Option String
    | [] => none
    | (key, value) :: rest =>
      if key.tag = .proxy then value.scalarText? else proxyText? rest

/-- The number of collections around the innermost part of a node. -/
def depth : Node → Nat
  | .scalar _ _ => 0
  | .sequence _ items => depthOfItems items + 1
  | .mapping _ entries => depthOfEntries entries + 1
where
  /-- The greatest depth of some nodes. -/
  depthOfItems : List Node → Nat
    | [] => 0
    | n :: ns => max n.depth (depthOfItems ns)
  /-- The greatest depth of some entries. -/
  depthOfEntries : List (Node × Node) → Nat
    | [] => 0
    | (k, v) :: rest => max (max k.depth v.depth) (depthOfEntries rest)

end Node

/-! ## Faults and their levels -/

/-- **A fault with the level of the collection in which it is.** -/
structure Late where
  level : Nat
  fault : Fault

/-- What a part of a document gives: something, or a fault. -/
abbrev Part (α : Type) := Except Late α

/-- The fault that is reported first. -/
def Late.earlier (a b : Late) : Late := if b.level < a.level then b else a

namespace Part

/-- A fault at a level. -/
def ofFault {α : Type} (level : Nat) (x : Except Fault α) : Part α := x.mapError fun f => ⟨level, f⟩

/-- The document makes no sense at a level. -/
def fail {α : Type} (level : Nat) : Part α := .error ⟨level, .malformed⟩

/-- Two parts, the first one in front. -/
def both {α β : Type} (x : Part α) (y : Part β) : Part (α × β) :=
  match x, y with
  | .ok a, .ok b => .ok (a, b)
  | .ok _, .error f => .error f
  | .error f, .ok _ => .error f
  | .error f, .error g => .error (f.earlier g)

/-- Parts in order. -/
def all {α : Type} : List (Part α) → Part (List α)
  | [] => .ok []
  | x :: xs => (both x (all xs)).map fun (a, as) => a :: as

end Part

namespace Node

/-- Whether the value of a node can be no key. -/
def isCollection (n : Node) : Bool := [Tag.list, .mapping, .pairs, .set].contains n.tag

/-- The key of an entry; collections are none. -/
def keyPart (level : Nat) (read : Node → Part Value) (key : Node) : Part Value :=
  if key.isCollection then Part.fail level else read key

/-- The entries of a mapping. -/
def mappingPart (level : Nat) (read : Node → Part Value) (n : Node) :
    Part (List (Value × Value)) :=
  match n with
  | .mapping _ entries =>
    match Part.ofFault level (entriesOf entries) with
    | .error f => .error f
    | .ok entries =>
      (Part.all (entries.map fun (k, v) => Part.both (keyPart level read k) (read v))).map
        fun pairs => pairs.foldl (fun done (k, v) => putEntry done k v) []
  | _ => Part.fail level

/-- The only entry of an item of a list of pairs. -/
def pairPart (level : Nat) (read : Node → Part Value) : Node → Part Value
  | .mapping _ [(k, v)] => (Part.both (read k) (read v)).map fun (k, v) => .tuple [k, v]
  | _ => Part.fail level

/-- **The value of a node** in a collection of some level. -/
def part : Nat → Nat → Node → Part Value
  | 0, level, _ => Part.fail level
  | fuel + 1, level, n =>
    let read := part fuel (level + 1)
    match n.tag with
    | .list =>
      match n with
      | .sequence _ items => (Part.all (items.map read)).map .list
      | _ => Part.fail (level + 1)
    | .mapping => (mappingPart (level + 1) read n).map .mapping
    | .set => (mappingPart (level + 1) read n).map fun es => .list (es.map (·.1))
    | .pairs =>
      match n with
      | .sequence _ items => (Part.all (items.map (pairPart (level + 1) read))).map .list
      | _ => Part.fail (level + 1)
    | t =>
      match n.scalarText? with
      | some s => Part.ofFault level (Scalar.value t s)
      | none => Part.fail level

/-- The value of a node by itself. -/
def value (n : Node) : Except Fault Value := (part (n.depth + 1) 0 n).mapError Late.fault

end Node

/-- Whether a character may stand in a document. -/
def isAllowed (c : Char) : Bool :=
  let n := c.toNat
  n = 0x09 || n = 0x0A || n = 0x0D || (0x20 ≤ n && n ≤ 0x7E) || n = 0x85
    || (0xA0 ≤ n && n ≤ 0xFFFD) || 0x10000 ≤ n

/-- **The value of a document**; an empty one has the absent value. -/
def read (document : List Char) : Except Fault Value := do
  if !document.all isAllowed then throw .malformed
  match ← Node.ofTokens? (.ofDocument document) with
  | some n => n.value
  | none => return .none

end VectorLink.Yaml
