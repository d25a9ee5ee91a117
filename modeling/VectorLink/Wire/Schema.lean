/-!
# Schemas

A schema says which fields a message has. Fields are numbered by their place, from one. A field
holds values of one shape; it is singular or repeated, and the shape may be a message of another
schema. A schema is a finite tree: no message of the service holds a message of its own kind.
-/

namespace VectorLink.Wire

/-- A field of a schema: its name, whether it is repeated, and the shape of its values. -/
structure FieldOf (σ : Type) where
  name : String
  repeated : Bool
  shape : σ

/-- **The shape of the values of a field.** -/
inductive Shape where
  | text
  | bool
  | int32
  | int64
  /-- A number of the service's enumeration of outcomes; any number of 32 bits may come. -/
  | code
  | single
  | double
  | message (name : String) (fields : List (FieldOf Shape))

/-- A field of a schema. -/
abbrev Field := FieldOf Shape

/-- **A kind of message**: its name and its fields. -/
structure Schema where
  name : String
  fields : List Field

/-- The shape of the messages of a schema. -/
def Schema.shape (s : Schema) : Shape := .message s.name s.fields

namespace FieldOf

/-- A singular field. -/
def one (name : String) (shape : Shape) : Field := ⟨name, false, shape⟩

/-- A repeated field. -/
def many (name : String) (shape : Shape) : Field := ⟨name, true, shape⟩

end FieldOf

/-- Whether repeated values of a shape are written in one run: those whose length needs no mark. -/
def Shape.isPacked : Shape → Bool
  | .text | .message _ _ => false
  | _ => true

end VectorLink.Wire
