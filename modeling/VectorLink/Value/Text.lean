import VectorLink.Number.Shortest
import VectorLink.Text.Quoted
import VectorLink.Value.Basic

/-!
# The texts of a value

A value inside a message has one of two texts. The *quoted* text tells values of different kinds
apart and is used for whatever is not a plain text, also inside collections. The *plain* text is the
same, except that a text stands for itself and dates are written in the international form.
-/

namespace VectorLink.Value

/-- The quoted text of a date. -/
def quotedDate (d : Date) : String :=
  "datetime.date(" ++ toString d.year ++ ", " ++ toString d.month ++ ", " ++ toString d.day ++ ")"

/-- The quoted text of an offset from universal time. -/
def quotedOffset (o : Offset) : String :=
  if o.seconds = 0 then "datetime.timezone.utc"
  else "datetime.timezone(" ++ o.spanText ++ ")"

/-- The quoted text of a moment: seconds and microseconds are left out from the end while they are
zero. -/
def quotedMoment (m : Moment) : String :=
  let t := m.time
  let parts := [m.date.year, m.date.month, m.date.day, t.hour, t.minute]
    ++ (if t.microsecond ≠ 0 then [t.second, t.microsecond]
        else if t.second ≠ 0 then [t.second] else [])
  let shown := parts.map toString
    ++ (m.offset?.map fun o => ["tzinfo=" ++ quotedOffset o]).getD []
  "datetime.datetime(" ++ ", ".intercalate shown ++ ")"

/-- The items of a tuple between parentheses; a single item is followed by a comma. -/
def tupleText (items : List String) : String :=
  match items with
  | [item] => "(" ++ item ++ ",)"
  | items => "(" ++ ", ".intercalate items ++ ")"

/-- **The quoted text of a value.** -/
def quoted : Value → String
  | .none => "None"
  | .bool b => if b then "True" else "False"
  | .int n => toString n
  | .float x => x.text
  | .text s => Quoted.text s
  | .octets bs => Quoted.octets bs
  | .list items => "[" ++ ", ".intercalate (quotedItems items) ++ "]"
  | .tuple items => tupleText (quotedItems items)
  | .date d => quotedDate d
  | .moment m => quotedMoment m
  | .mapping entries => "\x7b" ++ ", ".intercalate (quotedEntries entries) ++ "\x7d"
  | .array t => quotedArray t.elements
where
  /-- The quoted texts of items. -/
  quotedItems : List Value → List String
    | [] => []
    | v :: vs => v.quoted :: quotedItems vs
  /-- The quoted texts of entries. -/
  quotedEntries : List (Value × Value) → List String
    | [] => []
    | (k, v) :: rest => (k.quoted ++ ": " ++ v.quoted) :: quotedEntries rest
  /-- The quoted text of an array, as a flat list of its elements. -/
  quotedArray (elements : List Element) : String :=
    "array([" ++ ", ".intercalate (elements.map fun
      | .whole n => toString n
      | .real x => x.text) ++ "])"

/-- What is said of a value that is no member of an enumeration. -/
def notMemberText (enumeration : String) (v : Value) : String :=
  v.quoted ++ " is not a valid " ++ enumeration

/-- **The plain text of a value.** -/
def plain : Value → String
  | .text s => s
  | .date d => d.iso
  | .moment m => m.isoWith " "
  | v => v.quoted

end VectorLink.Value
