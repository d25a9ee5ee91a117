import VectorLink.Value.Text

/-!
# Records as they are shown

Typed records are shown by their fields, and members of enumerations by their name beside their
value. From this one view come both the text of a record and, by forgetting the names, the values
from which the record could be built again (`Shown.value`).
-/

namespace VectorLink

/-- **How a typed value is shown.** -/
inductive Shown where
  | plain (v : Value)
  | member (enumeration name : String) (v : Value)
  | record (name : String) (fields : List (String × Shown))
  | list (items : List Shown)
  deriving Inhabited

namespace Shown

/-- **The value behind what is shown**: a member stands for its value, and a record for the mapping
of its fields. -/
def value : Shown → Value
  | .plain v => v
  | .member _ _ v => v
  | .record _ fields => .mapping (entries fields)
  | .list items => .list (values items)
where
  /-- The values of items. -/
  values : List Shown → List Value
    | [] => []
    | s :: rest => s.value :: values rest
  /-- The values of fields. -/
  entries : List (String × Shown) → List (Value × Value)
    | [] => []
    | (name, s) :: rest => (.text name, s.value) :: entries rest

/-- The text of what is shown, as part of another text. -/
def quoted : Shown → String
  | .plain v => v.quoted
  | .member enumeration name v =>
    "<" ++ enumeration ++ "." ++ name ++ ": " ++ v.quoted ++ ">"
  | .record name fields => name ++ "(" ++ ", ".intercalate (fieldTexts fields) ++ ")"
  | .list items => "[" ++ ", ".intercalate (itemTexts items) ++ "]"
where
  /-- The texts of items. -/
  itemTexts : List Shown → List String
    | [] => []
    | s :: rest => s.quoted :: itemTexts rest
  /-- The texts of fields, each with its name. -/
  fieldTexts : List (String × Shown) → List String
    | [] => []
    | (name, s) :: rest => (name ++ "=" ++ s.quoted) :: fieldTexts rest

/-- **The text of a record that stands alone**: its fields without its name. -/
def text : Shown → String
  | .record _ fields => " ".intercalate (quoted.fieldTexts fields)
  | s => s.quoted

/-- The fields of a record as the arguments that build it. -/
def arguments : Shown → Arguments
  | .record _ fields => fields.map fun (name, s) => (name, s.value)
  | _ => []

end Shown

end VectorLink
