import VectorLink.Client.Interpretation
import VectorLink.Connection.Manager

/-!
# Calls

A call enters its handle, reaches the channel, and leaves the handle again whatever happened
(`Run.dispatch`). It is bound to the link that the manager's dispatcher was made for, so a call that
still holds an old link never reaches a new one. An operation looks whether its manager is
connected, puts its request together, and then makes one call (`Run.operate`).
-/

namespace VectorLink

/-- **What answers a call**: octets, an error of the transport, or any other exception. -/
inductive Response where
  | octets (bs : Wire.Octets)
  | callError (e : CallError)
  | raises (r : Raised)

/-- What a closed channel says to a call. -/
def closedChannelText : String := "Cannot invoke RPC on closed channel!"

/-- **The outcome that an answer gives.** A complaint about a bad value is a fault of the call; any
other exception is passed on. -/
def Response.outcome (method : Wire.Method) : Response → Except Failure CallOutcome
  | .octets bs =>
    match method.reply.decode? bs with
    | some m => .ok (.reply m)
    | none => .ok (.fault (.ofCallError .unreadableReply))
  | .callError e => .ok (.fault (.ofCallError e))
  | .raises r => if r.isBadValue then .ok (.fault ⟨none, r.message⟩) else .error (.raised r)

namespace Run

/-- **A request on the channel of a link.** It reaches the channel unless that is closed, and this
tells whether it did. -/
def send (link : Nat) (path : String) (request : Wire.Octets) : Run Bool := do
  if (((← get).links[link]?).map Link.isClosed).getD true then return false
  record (.called link path request)
  return true

/-- **A call on the channel of a link**; the activity takes place while it is in progress. -/
def invoke (link : Nat) (method : Wire.Method) (request : Wire.Octets) (during : Run Unit)
    (response : Response) : Run CallOutcome := do
  if !(← send link method.path request) then return .fault ⟨none, closedChannelText⟩
  during
  resume (response.outcome method)

/-- A call that was not admitted is not issued. -/
def decline (link : Nat) (methodName : String) : Run CallOutcome := do
  log .transport .debug
    (methodName ++ " not issued, channel " ++ (← targetOf link) ++ " is shut down")
  return .notIssued

/-- **A call through the handle of a link.** Nothing is sent if the handle is shut down. -/
def dispatch (link : Nat) (methodName : String) (request : Wire.Octets) (during : Run Unit)
    (response : Response) : Run CallOutcome :=
  track link fun admitted => do
    if !admitted then return ← decline link methodName
    match Wire.Method.ofName? methodName with
    | some method => invoke link method request during response
    | none => raise ⟨"KeyError", methodName⟩

/-- What an operation does with the outcome of its call: it notes it and reads it. -/
def conclude (op : Operation) (outcome : CallOutcome) : Run Result := do
  let (level, text) := op.remark outcome
  log .client level text
  return op.interpret outcome

/-- **An operation of a client.** -/
def operate (m : Nat) (op : Operation) (during : Run Unit) (response : Response) :
    Run Result := do
  if !(← get).isConnected m then
    log .client .warning notConnectedText
    return .failed op.form .notConnected ""
  match op.request with
  | .error e => throw (.request e)
  | .ok message =>
    let outcome ← match ((← get).manager m).dispatcher? with
      | some link =>
        dispatch link op.method.name (op.method.request.encode message) during response
      | none => pure .notIssued
    conclude op outcome

end Run

end VectorLink
