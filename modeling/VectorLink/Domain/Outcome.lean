import VectorLink.Domain.Fault
import VectorLink.Wire.Reply

/-!
# Outcomes of calls

A call is not issued at all, fails in transport, or brings a reply. What the reply says is not
looked at here: a refusal by the server is a reply like any other.
-/

namespace VectorLink

/-- **What came of a call.** -/
inductive CallOutcome where
  /-- The channel was shut down before the call started. -/
  | notIssued
  /-- The call itself failed. -/
  | fault (f : Fault)
  | reply (message : Wire.Message)

namespace CallOutcome

/-- Whether there is no fault. -/
def ok : CallOutcome → Bool
  | .fault _ => false
  | _ => true

end CallOutcome

end VectorLink
