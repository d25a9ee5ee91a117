import VectorLink.Wire.Message
import VectorLink.Wire.Service

/-!
# Reading replies

A decoded message is read field by field, by place. The readers below give the default of a field
for contents that do not fit it; a decoded message fits its schema, so that never happens to one.

Nearly every reply says how the call went: either it is the outcome itself, or it holds one in its
first field. A reply without an outcome where one may stand counts as a success (`Verdict.silent`).
-/

namespace VectorLink.Wire

namespace Message

/-- The values of the field at a place, counted from zero. -/
def slot (m : Message) (i : Nat) : List Datum := m.getD i []

end Message

namespace Datum

/-- The text of a singular field. -/
def textOf : List Datum → String
  | .text s :: _ => s
  | _ => ""

/-- The integer of a singular field. -/
def intOf : List Datum → Int
  | .int n :: _ => n
  | _ => 0

/-- The truth value of a singular field. -/
def boolOf : List Datum → Bool
  | .bool b :: _ => b
  | _ => false

/-- The real of a singular field. -/
def realOf : List Datum → Binary64
  | .double x :: _ => x
  | _ => ⟨0⟩

/-- The texts of a repeated field. -/
def textsOf (values : List Datum) : List String :=
  values.filterMap fun
    | .text s => some s
    | _ => none

/-- The integers of a repeated field. -/
def intsOf (values : List Datum) : List Int :=
  values.filterMap fun
    | .int n => some n
    | _ => none

/-- The messages of a repeated field, or the one of a singular field if it is there. -/
def messagesOf (values : List Datum) : List Message :=
  values.filterMap fun
    | .message m => some m
    | _ => none

end Datum

/-- **How a call went, as the server says**: a number, and a reason in words. -/
structure Verdict where
  code : Int
  reason : String
  deriving DecidableEq, Repr

namespace Verdict

/-- The verdict of a reply that says nothing. -/
def silent : Verdict := ⟨0, ""⟩

/-- The verdict that an outcome message is. -/
def ofStatus (m : Message) : Verdict := ⟨Datum.intOf (m.slot 0), Datum.textOf (m.slot 1)⟩

/-- The verdict in the first field of a message, which may be absent. -/
def ofFirstField (m : Message) : Verdict :=
  match Datum.messagesOf (m.slot 0) with
  | status :: _ => ofStatus status
  | [] => silent

end Verdict

/-- The name of the field that says how a call went. -/
def statusField : String := "status"

/-- Whether the messages of a schema hold an outcome in their first field. -/
def Schema.holdsStatus (s : Schema) : Bool :=
  match s.fields with
  | field :: _ => field.name == statusField
  | [] => false

/-- **The verdict of a message**, if its schema has a place for one. -/
def Schema.verdict? (s : Schema) (m : Message) : Option Verdict :=
  if s.name == Schema.status.name then some (.ofStatus m)
  else if s.holdsStatus then some (.ofFirstField m)
  else none

end VectorLink.Wire
