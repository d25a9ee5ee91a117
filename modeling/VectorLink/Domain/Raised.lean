import VectorLink.Text.Quoted

/-!
# Exceptions from outside

What a channel raises is known by its kind and its text. Three questions are asked about the kind:
may a caller handle it at all, is it a complaint about a bad value, and is its text a key that has
to be quoted.
-/

namespace VectorLink

/-- **An exception from outside the client**: its kind and its text. -/
structure Raised where
  kind : String
  text : String
  deriving DecidableEq, Repr

namespace Raised

/-- The kind of an interrupt by the user. -/
def interruptKind : String := "KeyboardInterrupt"

/-- An interrupt by the user. -/
def interrupt (text : String) : Raised := ⟨interruptKind, text⟩

/-- The kinds that no handler of ordinary failures sees. -/
def finalKinds : List String :=
  [interruptKind, "SystemExit", "GeneratorExit", "BaseException", "CancelledError"]

/-- Whether an exception is an ordinary failure. -/
def isOrdinary (r : Raised) : Bool := !finalKinds.contains r.kind

/-- The kinds of complaints about a bad value. -/
def badValueKinds : List String :=
  ["ValueError", "UnicodeError", "UnicodeDecodeError", "UnicodeEncodeError",
   "UnicodeTranslateError", "JSONDecodeError"]

/-- Whether an exception is a complaint about a bad value. -/
def isBadValue (r : Raised) : Bool := badValueKinds.contains r.kind

/-- **What an exception says**: its text, quoted if it is a missing key. -/
def message (r : Raised) : String :=
  if r.kind == "KeyError" then Quoted.text r.text else r.text

end Raised

end VectorLink
