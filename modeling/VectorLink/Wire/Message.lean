import VectorLink.Number.Binary64
import VectorLink.Wire.Schema
import VectorLink.Wire.Token

/-!
# Messages and their octets

A message is the list of the contents of its fields, in the order of its schema. The content of a
field is the list of its values: exactly one for a singular field that is not a message, at most one
for a singular field that is a message, and any number for a repeated field. So absence is told from
emptiness for messages, and for them only.

## Writing

A singular value is left out when it is the default of its shape, since a reader puts the default in
its place. Repeated numbers are packed into one run, and an empty list writes nothing.

## Reading

The items of a field are those with its number, in order, wherever they stand among the others
(`Wire.contentsAt`). An item whose kind does not fit the shape is passed over like one with an
unknown number. Of several singular values the last counts; several items of a singular message are
one message cut into pieces, so their items are read together.
-/

namespace VectorLink.Wire

/-- **A value of a field.** -/
inductive Datum where
  | text (s : String)
  | bool (b : Bool)
  | int (n : Int)
  | single (x : Binary32)
  | double (x : Binary64)
  | message (contents : List (List Datum))
  deriving Inhabited

/-- The contents of the fields of a message. -/
abbrev Message := List (List Datum)

/-- Integers of 32 bits. -/
def isInt32 (n : Int) : Bool := -(2 ^ 31) ≤ n && n < 2 ^ 31

/-- Integers of 64 bits. -/
def isInt64 (n : Int) : Bool := -(2 ^ 63) ≤ n && n < 2 ^ 63

/-! ## Values that fit a schema -/

mutual

/-- Whether a value fits a shape. -/
def Shape.fits : Shape → Datum → Bool
  | .text, .text _ => true
  | .bool, .bool _ => true
  | .int32, .int n => isInt32 n
  | .code, .int n => isInt32 n
  | .int64, .int n => isInt64 n
  | .single, .single _ => true
  | .double, .double _ => true
  | .message _ fields, .message contents => contentsFit fields contents
  | _, _ => false

/-- **Whether the contents of a message fit its fields.** -/
def contentsFit : List Field → Message → Bool
  | [], [] => true
  | ⟨_, repeated, shape⟩ :: fields, values :: contents =>
    (match repeated, shape with
      | true, _ => true
      | false, .message _ _ => values.length ≤ 1
      | false, _ => values.length = 1)
      && values.all (fun v => shape.fits v) && contentsFit fields contents
  | _, _ => false

end

/-! ## Writing -/

/-- Whether a value is the default of its shape. A message never is: it is there or it is not. Only
the positive zero is a default. -/
def Datum.isDefault : Datum → Bool
  | .text s => s.isEmpty
  | .bool b => !b
  | .int n => n = 0
  | .single x => x.bits = 0
  | .double x => x.bits = 0
  | .message _ => false

/-- The octets of a text. -/
def textOctets (s : String) : Octets := s.toUTF8.data.toList

/-- The items of the contents of a field, each without its number. -/
def itemsOf (repeated packed : Bool) (values : List Datum) (content : Datum → Content) :
    List Content :=
  if repeated then
    if packed then
      if values.isEmpty then [] else [.run (values.flatMap fun v => (content v).write)]
    else values.map content
  else (values.filter fun v => !v.isDefault).map content

mutual

/-- A value as the content of an item. -/
def Shape.content : Shape → Datum → Content
  | .text, .text s => .run (textOctets s)
  | .bool, .bool b => .number (if b then 1 else 0)
  | .int32, .int n => .number (wordOfInt n)
  | .code, .int n => .number (wordOfInt n)
  | .int64, .int n => .number (wordOfInt n)
  | .single, .single x => .four x.bits.toNat
  | .double, .double x => .eight x.bits.toNat
  | .message _ fields, .message contents => .run (writeFields 1 fields contents)
  | _, _ => .run []

/-- The octets of the fields from a number on. -/
def writeFields : Nat → List Field → Message → Octets
  | number, ⟨_, repeated, shape⟩ :: fields, values :: contents =>
    (itemsOf repeated shape.isPacked values (fun v => shape.content v)).flatMap
        (writeItem number)
      ++ writeFields (number + 1) fields contents
  | _, _, _ => []

end

/-- **The octets of a message.** -/
def Schema.encode (s : Schema) (m : Message) : Octets := writeFields 1 s.fields m

/-! ## Reading -/

/-- The text of octets, if they are one. -/
def textOfOctets? (bs : Octets) : Option String := String.fromUTF8? ⟨bs.toArray⟩

/-- The contents of the items with a number, in order. -/
def contentsAt (number : Nat) (items : List Item) : List Content :=
  items.filterMap fun i => if i.number = number then some i.content else none

/-- The runs among some contents. -/
def runs (cs : List Content) : List Octets :=
  cs.filterMap fun
    | .run bs => some bs
    | _ => none

/-- The numbers packed in a run, reading at most as many as are allowed. -/
def readPackedWithin (read : Octets → Option (Nat × Octets)) :
    Nat → Octets → Option (List Nat)
  | _, [] => some []
  | 0, _ :: _ => none
  | allowed + 1, bs => do
    let (n, rest) ← read bs
    return n :: (← readPackedWithin read allowed rest)

/-- The numbers packed in a run. -/
def readPacked (read : Octets → Option (Nat × Octets)) (bs : Octets) : Option (List Nat) :=
  readPackedWithin read bs.length bs

/-- How the values of a number-like shape stand on the wire: as numbers, or in four or eight
octets. -/
inductive Width where
  | number
  | four
  | eight
  deriving DecidableEq, Repr

/-- The word of a content of a width, if the content has that width. -/
def Width.word? : Width → Content → Option Nat
  | .number, .number n => some n
  | .four, .four n => some n
  | .eight, .eight n => some n
  | _, _ => none

/-- A reader of one word of a width. -/
def Width.read : Width → Octets → Option (Nat × Octets)
  | .number => readVarint
  | .four => readLittleEndian 4
  | .eight => readLittleEndian 8

/-- The words of all contents of a repeated field, packed or one by one. -/
def Width.words (w : Width) : List Content → Option (List Nat)
  | [] => some []
  | .run bs :: cs => do return (← readPacked w.read bs) ++ (← w.words cs)
  | c :: cs =>
    match w.word? c with
    | some n => (w.words cs).map (n :: ·)
    | none => w.words cs

/-- The value of a singular field that is not a message: the last one, or the default. -/
def lastOr (default : Datum) (values : List Datum) : List Datum :=
  [values.getLast?.getD default]

/-- The values of a field of a number-like shape. -/
def readWords (w : Width) (repeated : Bool) (default : Datum) (value : Nat → Datum)
    (cs : List Content) : Option (List Datum) :=
  if repeated then (w.words cs).map (·.map value)
  else some (lastOr default ((cs.filterMap w.word?).map value))

mutual

/-- The values of a field of a shape, from the contents of its items. -/
def Shape.read (depth : Nat) (repeated : Bool) : Shape → List Content → Option (List Datum)
  | .text, cs => do
    let values ← (runs cs).mapM fun bs => (textOfOctets? bs).map Datum.text
    return if repeated then values else lastOr (.text "") values
  | .bool, cs => readWords .number repeated (.bool false) (fun n => .bool (n != 0)) cs
  | .int32, cs => readWords .number repeated (.int 0) (fun n => .int (intOfWord32 n)) cs
  | .code, cs => readWords .number repeated (.int 0) (fun n => .int (intOfWord32 n)) cs
  | .int64, cs => readWords .number repeated (.int 0) (fun n => .int (intOfWord64 n)) cs
  | .single, cs =>
    readWords .four repeated (.single ⟨0⟩) (fun n => .single ⟨UInt32.ofNat n⟩) cs
  | .double, cs =>
    readWords .eight repeated (.double ⟨0⟩) (fun n => .double ⟨UInt64.ofNat n⟩) cs
  | .message _ fields, cs => do
    let pieces ← (runs cs).mapM fun bs => readItems (depth + 1) bs
    if repeated then
      pieces.mapM fun items => (readFields (depth + 1) 1 fields items).map Datum.message
    else if pieces.isEmpty then return []
    else return [.message (← readFields (depth + 1) 1 fields pieces.flatten)]

/-- The contents of the fields from a number on. -/
def readFields (depth number : Nat) : List Field → List Item → Option Message
  | [], _ => some []
  | ⟨_, repeated, shape⟩ :: fields, items => do
    let values ← shape.read depth repeated (contentsAt number items)
    return values :: (← readFields depth (number + 1) fields items)

end

/-- **The message of octets**, or nothing if they are not well formed. -/
def Schema.decode? (s : Schema) (bs : Octets) : Option Message := do
  readFields 0 1 s.fields (← readItems 0 bs)

/-- The message of a schema with nothing set. -/
def Schema.empty (s : Schema) : Message := (readFields 0 1 s.fields []).getD []

end VectorLink.Wire
