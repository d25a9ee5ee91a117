import VectorLink.Text.Utf8
import VectorLink.Value.Basic
import VectorLink.Wire.Message
import VectorLink.Wire.Service

/-!
# Messages from named values

A message may be put together from values under the names of its fields. Each value is brought to
the shape of its field or refused: a number outside the range of its field is, and so is a field
that the schema does not have. Of several faults the one of the first entry is reported
(`Wire.messageOfResults`).
-/

namespace VectorLink.Wire

/-- **Why values give no message.** -/
inductive AssignError where
  | unknownField (schema field : String)
  /-- An outcome has no such name. -/
  | unknownOutcome (name : String)
  | outOfRange (n : Int)
  /-- An integer in place of a truth value has no word of 64 bits. -/
  | truthTooLarge
  /-- A value of a kind that the field cannot take. -/
  | notIntegerKind (kindName : String)
  | notRealKind (kindName : String)
  | notTextKind
  /-- Octets in place of a text are no UTF-8. -/
  | notText (f : Utf8.Fault)
  | realTooLarge
  /-- A repeated field is given a value that has no items. -/
  | noItems
  | notListKind (kindName : String)
  deriving DecidableEq, Repr

/-- The wording of each error. -/
def AssignError.message : AssignError → String
  | .unknownField schema field =>
    "Protocol message " ++ schema ++ " has no \"" ++ field ++ "\" field."
  | .unknownOutcome name => "unknown enum label \"" ++ name ++ "\""
  | .outOfRange n => "Value out of range: " ++ toString n
  | .truthTooLarge => "Python int too large to convert to C long"
  | .notIntegerKind k => "'" ++ k ++ "' object cannot be interpreted as an integer"
  | .notRealKind k => "must be real number, not " ++ k
  | .notTextKind => "bad argument type for built-in operation"
  | .notText f => f.message
  | .realTooLarge => "int too large to convert to float"
  | .noItems => "Value must be iterable"
  | .notListKind k => "'" ++ k ++ "' object is not iterable"

/-- An integer of a field with a range. -/
def assignInteger (inRange : Int → Bool) : Value → Except AssignError Datum
  | .int n => if inRange n then .ok (.int n) else .error (.outOfRange n)
  | .bool b => .ok (.int (if b then 1 else 0))
  | v => .error (.notIntegerKind v.kindName)

/-- An outcome, by its name or by a number of 32 bits. -/
def assignOutcome : Value → Except AssignError Datum
  | .text name =>
    match outcomeCodes.find? fun o => o.1 == name with
    | some o => .ok (.int o.2)
    | none => .error (.unknownOutcome name)
  | v => assignInteger isInt32 v

/-- A truth value; an integer counts as true unless it is zero. -/
def assignTruth : Value → Except AssignError Datum
  | .bool b => .ok (.bool b)
  | .int n => if isInt64 n then .ok (.bool (n != 0)) else .error .truthTooLarge
  | v => .error (.notIntegerKind v.kindName)

/-- A real of a field. -/
def assignReal : Value → Except AssignError Binary64
  | .float x => .ok x
  | .int n =>
    match Binary64.ofInt? n with
    | some x => .ok x
    | none => .error .realTooLarge
  | .bool b => .ok (.ofFraction false (if b then 1 else 0) 1)
  | v => .error (.notRealKind v.kindName)

/-- A text of a field, which may be given as its octets. -/
def assignText : Value → Except AssignError Datum
  | .text s => .ok (.text s)
  | .octets bs => ((Utf8.decode bs).map Datum.text).mapError .notText
  | _ => .error .notTextKind

/-- The items of a value that has items. -/
def itemsOfValue : Value → Except AssignError (List Value)
  | .list vs => .ok vs
  | .tuple vs => .ok vs
  | .text s => .ok (s.toList.map fun c => .text (String.ofList [c]))
  | .mapping entries => .ok (entries.map (·.1))
  | .octets bs => .ok (bs.map fun b => .int b.toNat)
  | _ => .error .noItems

/-- The value under a name among the entries of a mapping. -/
def entry? (name : String) (entries : List (Value × Value)) : Option Value :=
  (entries.find? fun
    | (.text k, _) => k == name
    | _ => false).map (·.2)

/-- What became of the fields of a schema, by name and in order. -/
abbrev FieldResults := List (String × Except AssignError (List Datum))

/-- The fault of an entry: its key is no field, or its value does not suit the field. -/
def entryFault? (schema : String) (results : FieldResults) (entry : Value × Value) :
    Option AssignError :=
  match entry.1 with
  | .text k =>
    match results.find? fun r => r.1 == k with
    | none => some (.unknownField schema k)
    | some (_, .error e) => some e
    | some (_, .ok _) => none
  | k => some (.unknownField schema k.kindName)

/-- **The message of the fields of a schema**, or the fault of the first entry that has one. -/
def messageOfResults (schema : String) (entries : List (Value × Value)) (results : FieldResults) :
    Except AssignError Message :=
  match entries.findSome? (entryFault? schema results) with
  | some e => .error e
  | none => results.mapM (·.2)

mutual

/-- A value as a value of a shape. -/
def Shape.assign : Shape → Value → Except AssignError Datum
  | .text, v => assignText v
  | .bool, v => assignTruth v
  | .int32, v => assignInteger isInt32 v
  | .code, v => assignOutcome v
  | .int64, v => assignInteger isInt64 v
  | .single, v => (assignReal v).map fun x => .single x.toBinary32
  | .double, v => (assignReal v).map .double
  | .message name fields, .mapping entries =>
    (messageOfResults name entries (assignFields fields entries)).map .message
  | .message _ _, v => .error (.notListKind v.kindName)

/-- What becomes of fields by entries. A field without an entry, or with an absent value, is not
set. -/
def assignFields : List Field → List (Value × Value) → FieldResults
  | [], _ => []
  | ⟨name, repeated, shape⟩ :: fields, entries =>
    let values : Except AssignError (List Datum) :=
      match entry? name entries with
      | none | some .none => .ok ((Shape.read 0 repeated shape []).getD [])
      | some v =>
        if repeated then
          (itemsOfValue v).bind fun items => items.mapM fun item => shape.assign item
        else (shape.assign v).map fun d => [d]
    (name, values) :: assignFields fields entries

end

/-- **The message of a schema that some entries give.** -/
def Schema.assign (s : Schema) (entries : List (Value × Value)) : Except AssignError Message :=
  messageOfResults s.name entries (assignFields s.fields entries)

end VectorLink.Wire
