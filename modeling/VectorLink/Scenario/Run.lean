import VectorLink.Scenario.Step

/-!
# Running a scenario

Steps run one after another. A step that fails does not stop the steps after it: its failure is its
answer, and what it did before stays done. Only an interrupt reaches further, namely to the step
around it (`Step.run`).

Each step is written down in the history between its beginning and its end, together with the scenes
of both moments, so everything that a scenario shows is in the history.
-/

namespace VectorLink

namespace Run

/-- The link in use, or a failure that says what was wanted of its handle. -/
def currentLink (wanted : String) : Run Nat := do
  match ((← get).manager (← get).active).current? with
  | some link => return link
  | none => throw (.absent wanted)

/-- A report of the channel of a link to those who listen, or to all who ever did. -/
def report (link : Nat) (state : String) (forced : Bool) : Run Unit := do
  let listeners := (((← get).links[link]?).map Link.listeners).getD 0
  if forced || listeners ≠ 0 then deliver link state

/-- A call enters the handle in use and is held open under a name. -/
def beginCall (name : String) : Run Bool := do
  let link ← currentLink "track_call"
  let admitted ← enter link
  modify fun s => { s with openCalls := (name, ⟨link, admitted⟩) :: s.openCalls }
  return admitted

/-- A call held open leaves its handle. -/
def endCall (name : String) : Run Unit := do
  match (← get).openCalls.find? fun c => c.1 == name with
  | none => raise ⟨"KeyError", name⟩
  | some (_, call) =>
    modify fun s => { s with openCalls := s.openCalls.eraseP fun c => c.1 == name }
    if call.admitted then leave call.link

/-- The dispatcher of the manager in use is kept under a name. Tells whether there is one. -/
def keepDispatcher (name : String) : Run Bool := do
  let dispatcher? := ((← get).manager (← get).active).dispatcher?
  modify fun s => { s with keptDispatchers := (name, dispatcher?) :: s.keptDispatchers }
  return dispatcher?.isSome

/-- The dispatcher kept under a name. -/
def keptDispatcher (name : String) : Run (Option Nat) := do
  match (← get).keptDispatchers.find? fun d => d.1 == name with
  | some (_, dispatcher?) => return dispatcher?
  | none => raise ⟨"KeyError", name⟩

/-- A kept dispatcher becomes that of the manager in use. -/
def restoreDispatcher (name : String) : Run Unit := do
  let dispatcher? ← keptDispatcher name
  changeManager (← get).active fun mgr => { mgr with dispatcher? := dispatcher? }

/-- The octets of a request, read and written again by the method that it was written for. -/
def normalRequest (methodName : String) (request : Wire.Octets) : Run Wire.Octets :=
  match Wire.Method.ofName? methodName with
  | none => raise ⟨"KeyError", methodName⟩
  | some method =>
    match method.request.decode? request with
    | some message => return method.request.encode message
    | none => throw .unreadableRequest

/-- A call made by hand. -/
def dispatchByHand (methodName requestMethodName : String) (request : Wire.Octets)
    (kept? : Option String) (response : Response) (during : Run Unit) : Run Answer := do
  let dispatcher? ← match kept? with
    | some name => keptDispatcher name
    | none => pure ((← get).manager (← get).active).dispatcher?
  let request ← normalRequest requestMethodName request
  match dispatcher? with
  | none => throw (.absent "call")
  | some link =>
    let outcome ← dispatch link methodName request during response
    return .outcome ((Wire.Method.ofName? methodName).getD .cmd) outcome

/-- The manager in use disconnects at the end of a block if it is connected. -/
def leaveBlock (m : Nat) (waiting : List (Run Unit)) : Run Unit := do
  if (← get).isConnected m then
    let _ ← disconnect m waiting

end Run

/-- The answer of a step that has none. -/
def Answer.nothing : Answer := .value .none

namespace Step

/-- **A step, written down.** Its failure is its answer, except that an interrupt is no step of its
own and goes on to the step around it. -/
def writtenDown (step : Step) (activity : Run Answer) : Run Unit := do
  if step.isInterrupt then
    let _ ← activity
  else
    Run.record (.began (← get).toScene)
    let answer ← Run.attempt activity
    Run.record (.ended answer (← get).toScene)

mutual

/-- **What a step does**, with the manager that is in use when it begins. -/
def perform : Step → Run Answer
  | .connect said behaviour pauses => do
    return .result (← Run.connectClient (← get).active said behaviour (runPauses pauses))
  | .connectTo args behaviour pauses => do
    match Endpoint.check args with
    | .ok e => return .result (← Run.connectTo (← get).active e behaviour (runPauses pauses))
    | .error issues => throw (.invalid issues)
  | .connectManager host port timeout behaviour pauses => do
    return .result
      (← Run.connect (← get).active host port timeout behaviour (runPauses pauses))
  | .connectAnew given? keywords behaviour pauses => do
    Run.connectAnew given? keywords behaviour (runPauses pauses)
    return .nothing
  | .disconnect waiting => do
    return .result (← Run.disconnect (← get).active (runEach waiting))
  | .block body waiting => do
    let m := (← get).active
    Run.andFinally (runAll body) (Run.leaveBlock m (runEach waiting))
    return .value (.bool true)
  | .operate op response during => do
    match op with
    | .ok op => return .result (← Run.operate (← get).active op (runAll during) response)
    | .error issues => throw (.invalid issues)
  | .notify link report forced => do
    Run.report link report forced
    return .nothing
  | .beginCall name => do return .value (.bool (← Run.beginCall name))
  | .endCall name => do
    Run.endCall name
    return .value (.bool false)
  | .keepDispatcher name => do return .value (.bool (← Run.keepDispatcher name))
  | .restoreDispatcher name => do
    Run.restoreDispatcher name
    return .nothing
  | .dispatch methodName requestMethodName request kept? response during =>
    Run.dispatchByHand methodName requestMethodName request kept? response (runAll during)
  | .shutDown => do
    Run.shutDown (← Run.currentLink "shutdown")
    return .nothing
  | .awaitTermination timeout waiting => do
    let link ← Run.currentLink "await_termination"
    return .value (.bool (← Run.awaitTermination link timeout (runEach waiting)))
  | .options link => do return .options (((← get).links[link]?).map Link.options)
  | .logLevel => do
    return .value (.int (((← get).threshold?.map LogLevel.weight).getD 0))
  | .observe => return .nothing
  | .interrupt text => Run.raise (.interrupt text)

/-- Steps one after another. -/
def runAll : List Step → Run Unit
  | [] => pure ()
  | step :: steps => do
    step.writtenDown (perform step)
    runAll steps

/-- Steps as activities of their own. -/
def runEach : List Step → List (Run Unit)
  | [] => []
  | step :: steps => step.writtenDown (perform step) :: runEach steps

/-- The steps of a pause, by its number. -/
def runPauses : List (Nat × List Step) → Nat → Run Unit
  | [], _ => pure ()
  | (k, steps) :: pauses, number =>
    if k = number then runAll steps else runPauses pauses number

end

/-- **One step**, written down. -/
def run (step : Step) : Run Unit := step.writtenDown (perform step)

end Step

end VectorLink
