import VectorLink.Calendar.Moment
import VectorLink.Value.Tensor

/-!
# Values

What a caller hands in, and what a configuration file holds, is not typed yet: it is a value. The
validation of `VectorLink.Validation` turns values into the typed parameters of the client;
everything after that is typed.

## When two values are the same key

Keys of a mapping are compared as numbers where they are numbers: the truth values are zero and one,
and a real that is whole is that whole number (`Value.sameKey`). All that are no numbers are one
key.
-/

namespace VectorLink

/-- **A value of any kind.** A mapping keeps its entries in the order in which its keys first
came. -/
inductive Value where
  | none
  | bool (b : Bool)
  | int (n : Int)
  | float (x : Binary64)
  | text (s : String)
  | octets (bs : List UInt8)
  | list (items : List Value)
  | tuple (items : List Value)
  | date (d : Date)
  | moment (m : Moment)
  | mapping (entries : List (Value × Value))
  | array (t : Tensor)
  deriving Inhabited

/-- Keyword arguments, or the entries of a mapping whose keys are all texts. -/
abbrev Arguments := List (String × Value)

namespace Value

/-- Whether a value is the absent one. -/
def isNone : Value → Bool
  | .none => true
  | _ => false

/-- The name of the kind of a value, as messages call it. -/
def kindName : Value → String
  | .none => "NoneType"
  | .bool _ => "bool"
  | .int _ => "int"
  | .float _ => "float"
  | .text _ => "str"
  | .octets _ => "bytes"
  | .list _ => "list"
  | .tuple _ => "tuple"
  | .date _ => "datetime.date"
  | .moment _ => "datetime.datetime"
  | .mapping _ => "dict"
  | .array _ => "numpy.ndarray"

/-- Whether a value counts as true: zeros, empty collections and the absent value do not. -/
def isTruthy : Value → Bool
  | .none => false
  | .bool b => b
  | .int n => n != 0
  | .float x => !x.isZero
  | .text s => !s.isEmpty
  | .octets bs => !bs.isEmpty
  | .list items => !items.isEmpty
  | .tuple items => !items.isEmpty
  | .mapping entries => !entries.isEmpty
  | .date _ | .moment _ | .array _ => true

/-- The integer that a value equals, if it is a number that equals one. -/
def asInteger? : Value → Option Int
  | .bool b => some (if b then 1 else 0)
  | .int n => some n
  | .float x => x.toInt?
  | _ => .none

/-- Whether a value may be a key of a mapping. -/
def isHashable : Value → Bool
  | .list _ | .mapping _ | .array _ => false
  | .tuple items => hashableItems items
  | _ => true
where
  /-- Whether all items of a tuple may be part of a key. -/
  hashableItems : List Value → Bool
    | [] => true
    | v :: vs => v.isHashable && hashableItems vs

/-- Whether two values are the same key. -/
def sameKey : Value → Value → Bool
  | .text s, .text t => s == t
  | .octets s, .octets t => s == t
  | .none, .none => true
  | .date d, .date e => d == e
  | .moment m, .moment n => m == n
  | .float x, .float y => x.equals y || (x.isNaN && y.isNaN)
  | .tuple xs, .tuple ys => sameItems xs ys
  | v, w =>
    match v.asInteger?, w.asInteger? with
    | some m, some n => m == n
    | _, _ => false
where
  /-- Whether two tuples have the same items. -/
  sameItems : List Value → List Value → Bool
    | [], [] => true
    | v :: vs, w :: ws => sameKey v w && sameItems vs ws
    | _, _ => false

end Value

/-- **The entries with a key set to a value**: in place if the key is there, at the end
otherwise. -/
def putEntry (entries : List (Value × Value)) (key value : Value) : List (Value × Value) :=
  match entries with
  | [] => [(key, value)]
  | (k, v) :: rest =>
    if k.sameKey key then (k, value) :: rest else (k, v) :: putEntry rest key value

namespace Arguments

/-- The value of a keyword. -/
def get? (args : Arguments) (name : String) : Option Value :=
  (args.find? fun a => a.1 == name).map (·.2)

/-- **The arguments with a keyword set to a value**: in place if it is there, at the end
otherwise. -/
def put (args : Arguments) (name : String) (value : Value) : Arguments :=
  match args with
  | [] => [(name, value)]
  | (n, v) :: rest => if n == name then (n, value) :: rest else (n, v) :: put rest name value

/-- The first arguments overridden by the second. -/
def override (args more : Arguments) : Arguments :=
  more.foldl (fun acc a => acc.put a.1 a.2) args

/-- The arguments that are not the absent value. -/
def present (args : Arguments) : Arguments := args.filter fun a => !a.2.isNone

end Arguments

end VectorLink
