import VectorLink.Wire.Service
import VectorLink.Wire.Token

/-!
# The service's description of itself

The schemas and methods of the service can be sent as one message, so that a party that has never
heard of the service can read its messages. This module lays the description out: names, numbers and
shapes, and the octets of the whole.

In a description whatever is set is written, also a zero, so it has writers of its own.
-/

namespace VectorLink.Wire.Description

/-- The name under which the description is filed. -/
def fileName : String := "milvus_client/milvus.proto"

/-- The dialect of the description. -/
def dialect : String := "proto3"

/-- The number that stands for the kind of a shape. -/
def kindNumber : Shape → Nat
  | .double => 1
  | .single => 2
  | .int64 => 3
  | .int32 => 5
  | .bool => 8
  | .text => 9
  | .message _ _ => 11
  | .code => 14

/-- The name of the schema or enumeration of a shape, marked as a full name; empty for the shapes
that have none. -/
def typeName : Shape → String
  | .message name _ => "." ++ fullName name
  | .code => "." ++ fullName outcomeEnumeration
  | _ => ""

/-- The number that stands for singular or repeated. -/
def labelNumber (repeated : Bool) : Nat := if repeated then 3 else 1

/-- One line of a schema's description. -/
structure Line where
  name : String
  number : Nat
  kind : Nat
  label : Nat
  typeName : String
  deriving DecidableEq, Repr

/-- **The fields of a schema as its description lists them.** -/
def lines (s : Schema) : List Line :=
  s.fields.zipIdx.map fun (f, i) =>
    ⟨f.name, i + 1, kindNumber f.shape, labelNumber f.repeated, typeName f.shape⟩

/-- A text as an item. -/
def text (number : Nat) (s : String) : Octets := writeItem number (.run s.toUTF8.data.toList)

/-- A number as an item. -/
def count (number n : Nat) : Octets := writeItem number (.number n)

/-- A part of the description as an item. -/
def part (number : Nat) (bs : Octets) : Octets := writeItem number (.run bs)

/-- The octets of one line. -/
def lineOctets (l : Line) : Octets :=
  text 1 l.name ++ count 3 l.number ++ count 4 l.label ++ count 5 l.kind
    ++ (if l.typeName.isEmpty then [] else text 6 l.typeName)

/-- The octets of a schema. -/
def schemaOctets (s : Schema) : Octets :=
  text 1 s.name ++ (lines s).flatMap fun l => part 2 (lineOctets l)

/-- The octets of the enumeration of outcomes. -/
def outcomeOctets : Octets :=
  text 1 outcomeEnumeration
    ++ outcomeCodes.flatMap fun (name, n) => part 2 (text 1 name ++ count 2 n)

/-- The octets of a method. -/
def methodOctets (m : Method) : Octets :=
  text 1 m.name ++ text 2 ("." ++ fullName m.request.name)
    ++ text 3 ("." ++ fullName m.reply.name)

/-- **The octets of the whole description.** -/
def octets : Octets :=
  text 1 fileName ++ text 2 packageName
    ++ Schema.all.flatMap (fun s => part 4 (schemaOctets s))
    ++ part 5 outcomeOctets
    ++ part 6 (text 1 serviceName ++ Method.all.flatMap fun m => part 2 (methodOctets m))
    ++ text 12 dialect

end VectorLink.Wire.Description
