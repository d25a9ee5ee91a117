import VectorLink.Config.Load
import VectorLink.Domain.ClientError
import VectorLink.Wire.Assignment

/-!
# Failures

What can stop an activity of the client: an exception from outside, one of the client's own errors,
or input that makes no sense. Failures are causes; their wording is a function of the cause.
-/

namespace VectorLink

/-- **Why a connection was not made.** -/
inductive ConnectFailure where
  | alreadyConnected (target : String)
  | portOutOfRange (port : Int)
  | timeout (target : String) (timeoutMs : Value)
  /-- Setting the connection up raised something. -/
  | setup (cause : Raised)

/-- The error that reports a connect failure. -/
def ConnectFailure.error : ConnectFailure → ClientError
  | .alreadyConnected target => .alreadyConnected (.text target) .none
  | .portOutOfRange port => .portOutOfRange (.int port) .none
  | .timeout target timeoutMs => .connectTimeout (.text target) timeoutMs .none
  | .setup cause =>
    .connectFailed (.text ("Exception occurred: " ++ cause.message)) (some cause) .none

/-- **What stops an activity.** -/
inductive Failure where
  /-- An exception from outside, or of a conversion. -/
  | raised (r : Raised)
  | connect (c : ConnectFailure)
  /-- Parameters are invalid. -/
  | invalid (issues : List Issue)
  /-- A configuration cannot be loaded. -/
  | load (e : LoadError)
  /-- A request cannot be put together. -/
  | request (e : Wire.AssignError)
  /-- The octets of a request are no message. -/
  | unreadableRequest
  /-- A connection is being made or ended already. -/
  | busy
  /-- A handle or a dispatcher is not there; the text says what was wanted of it. -/
  | absent (wanted : String)

/-- What is said when something is wanted of what is not there. -/
def absentText (wanted : String) : String :=
  Quoted.text Value.none.kindName ++ " object has no attribute " ++ Quoted.text wanted

end VectorLink
