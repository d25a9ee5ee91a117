import VectorLink.Domain.Raised

/-!
# Faults of calls

A call that fails in transport leaves a code and a text. Both are taken from what the transport
raised, as far as that can tell: an error without accessors for them has no code, and its own text
stands for the details.
-/

namespace VectorLink

/-- The code of a failed call. -/
inductive CallCode where
  | ok
  | cancelled
  | unknown
  | invalidArgument
  | deadlineExceeded
  | notFound
  | alreadyExists
  | permissionDenied
  | resourceExhausted
  | failedPrecondition
  | aborted
  | outOfRange
  | unimplemented
  | internal
  | unavailable
  | dataLoss
  | unauthenticated
  deriving DecidableEq, Repr

namespace CallCode

/-- All codes. -/
def all : List CallCode :=
  [.ok, .cancelled, .unknown, .invalidArgument, .deadlineExceeded, .notFound, .alreadyExists,
   .permissionDenied, .resourceExhausted, .failedPrecondition, .aborted, .outOfRange,
   .unimplemented, .internal, .unavailable, .dataLoss, .unauthenticated]

/-- The name of a code. -/
def name : CallCode → String
  | .ok => "OK"
  | .cancelled => "CANCELLED"
  | .unknown => "UNKNOWN"
  | .invalidArgument => "INVALID_ARGUMENT"
  | .deadlineExceeded => "DEADLINE_EXCEEDED"
  | .notFound => "NOT_FOUND"
  | .alreadyExists => "ALREADY_EXISTS"
  | .permissionDenied => "PERMISSION_DENIED"
  | .resourceExhausted => "RESOURCE_EXHAUSTED"
  | .failedPrecondition => "FAILED_PRECONDITION"
  | .aborted => "ABORTED"
  | .outOfRange => "OUT_OF_RANGE"
  | .unimplemented => "UNIMPLEMENTED"
  | .internal => "INTERNAL"
  | .unavailable => "UNAVAILABLE"
  | .dataLoss => "DATA_LOSS"
  | .unauthenticated => "UNAUTHENTICATED"

/-- The code of a name. -/
def ofName? (name : String) : Option CallCode := all.find? fun c => c.name == name

end CallCode

/-- What a transport error lets a handler see. -/
inductive ErrorStyle where
  /-- Accessors for the code and the details. -/
  | full
  /-- Neither. -/
  | plain
  /-- Fields of those names that are no accessors. -/
  | fields
  deriving DecidableEq, Repr

/-- **An error that the transport raises for a call.** -/
structure CallError where
  style : ErrorStyle
  code? : Option CallCode
  details? : Option String
  text? : Option String
  deriving DecidableEq, Repr

namespace CallError

/-- The text of an error: its own, or else its details. -/
def text (e : CallError) : String := e.text?.getD (e.details?.getD "")

/-- The error for reply octets that are no message. -/
def unreadableReply : CallError :=
  ⟨.full, some .internal, some "Exception deserializing response!", none⟩

end CallError

/-- **A failed call**: the code, if there is one, and the details. -/
structure Fault where
  code? : Option CallCode
  details : String
  deriving DecidableEq, Repr

namespace Fault

/-- **The fault of an error.** Empty details give way to the text of the error. -/
def ofCallError (e : CallError) : Fault :=
  match e.style with
  | .full =>
    match e.details? with
    | some d => ⟨e.code?, if d.isEmpty then e.text else d⟩
    | none => ⟨e.code?, e.text⟩
  | _ => ⟨none, e.text⟩

/-- **The text of a fault**: the name of its code, and the details if there are any. -/
def describe (f : Fault) : String :=
  let name := (f.code?.map CallCode.name).getD "UNKNOWN"
  if f.details.isEmpty then name else name ++ ": " ++ f.details

end Fault

end VectorLink
