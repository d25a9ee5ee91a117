import VectorLink.Connection.Lifecycle
import VectorLink.Connection.Patience
import VectorLink.Number.Numeral
import VectorLink.Value.Text

/-!
# Connecting and disconnecting

A manager owns one link at a time. It makes a new one only when the old one is shut down or
terminated; an old link that still carries calls is left to them. A connection that fails before its
link exists leaves the manager as it was. One that times out keeps its link, which may become ready
later; calls are bound to a link only at the end of a connection that succeeded.

Connecting and disconnecting exclude each other and themselves (`Run.exclusively`). Calls do not
take part in that, so they may come and go while either is in progress.
-/

namespace VectorLink

/-- The greatest port. -/
def greatestPort : Int := 65535

/-- **The port that a value is**, or what reading it raises. -/
def readPort (v : Value) : Except Raised Int :=
  let bad (f : NumeralFault) : Raised := ⟨"ValueError", f.message⟩
  match v with
  | .int n => .ok n
  | .bool b => .ok (if b then 1 else 0)
  | .text s => (Numeral.whole s).mapError bad
  | .octets bs => (Numeral.wholeOfOctets bs).mapError bad
  | .float x =>
    match x.truncate? with
    | some n => .ok n
    | none =>
      if x.isNaN then .error ⟨"ValueError", "cannot convert float NaN to integer"⟩
      else .error ⟨"OverflowError", "cannot convert float infinity to integer"⟩
  | v =>
    .error ⟨"TypeError", "int() argument must be a string, a bytes-like object or a real number, "
      ++ "not '" ++ v.kindName ++ "'"⟩

/-- Whether what reading a port raises is reported as a connect failure. -/
def isPortComplaint (r : Raised) : Bool := r.kind == "ValueError" || r.kind == "TypeError"

namespace Run

/-- A manager is marked as busy, or as busy no more. -/
def occupy (m : Nat) (busy : Bool) : Run Unit :=
  changeManager m fun mgr => { mgr with isBusy := busy }

/-- **An activity that excludes others of its kind on a manager.** -/
def exclusively {α : Type} (m : Nat) (x : Run α) : Run α := do
  if ((← get).manager m).isBusy then throw .busy
  occupy m true
  andFinally x (occupy m false)

/-- Whether the handle of a link is ready. -/
def isReady (link : Nat) : Run Bool := do
  return (((← get).handle? link).map fun h => h.state == .ready).getD false

/-- Gives up on a link. -/
def giveUp {α : Type} (link : Nat) (timeout : Value) : Run α := do
  match (← get).handle? link with
  | some h =>
    log .connection .error ("Connect timeout! " ++ h.target ++ " is " ++ h.state.word)
    refuse (.timeout h.target timeout)
  | none => refuse (.timeout "" timeout)

/-- The seconds of a pause that can be measured. -/
def pauseSeconds (length : Except Raised Binary64) : Run Binary64 :=
  match length with
  | .ok seconds => return seconds
  | .error r => raise r

/-- **Looks at a link until it is ready**, pausing between two looks as often as is left. The pauses
are numbered from the one given on, and each has its activity. They are equally long; if that cannot
be measured, the first of them raises. -/
def pollReady (link : Nat) (timeout : Value) (length : Except Raised Binary64)
    (pause : Nat → Run Unit) : Nat → Nat → Run Unit
  | 0, _ => do
    if ← isReady link then return
    giveUp link timeout
  | left + 1, number => do
    if ← isReady link then return
    record (.paused (← pauseSeconds length))
    pause number
    pollReady link timeout length pause left (number + 1)

/-- The text of a whole number inside a message. A number of too many digits has none. -/
def written (n : Int) : Run String :=
  if Numeral.isShort n then return toString n else raise ⟨"ValueError", Numeral.tooLongText⟩

/-- The text of a time inside a message. -/
def writtenTime (timeout : Value) : Run String :=
  match timeout with
  | .int n => written n
  | v => return v.plain

/-- Says that a link is waited for. -/
def announce (link : Nat) (timeout : Value) : Run Unit := do
  let shown ← writtenTime timeout
  log .connection .info ("Trying to connect to " ++ (← targetOf link) ++ "... timeout in "
    ++ shown ++ " ms")

/-- A time that makes no sense is noticed where it is compared. -/
def raiseIncomparable {α : Type} (kindName : String) : Run α :=
  raise ⟨"TypeError", "'<=' not supported between instances of '" ++ kindName ++ "' and 'int'"⟩

/-- Waits with some patience until a link is ready. -/
def waitPatiently (link : Nat) (timeout : Value) (length : Except Raised Binary64)
    (pause : Nat → Run Unit) : Patience → Run Unit
  | .pauses n => pollReady link timeout length pause n 1
  | .incomparable kindName => do
    if ← isReady link then return
    raiseIncomparable kindName

/-- **Waits until a link is ready**, or gives up when the time is used up. -/
def waitUntilReady (link : Nat) (timeout : Value) (interval : Int) (pause : Nat → Run Unit) :
    Run Unit := do
  announce link timeout
  let length := (← get).environment.clock.pause interval
  waitPatiently link timeout length pause (.ofTime timeout interval)

/-- The port that a value is. A complaint about the value is a connect failure. -/
def portOf (port : Value) : Run Int := do
  match readPort port with
  | .ok n => return n
  | .error r =>
    if isPortComplaint r then
      log .connection .error ("Connect failed! Invalid port " ++ port.quoted)
      refuse (.setup r)
    else raise r

/-- A new link for a target. An ordinary exception is a connect failure. -/
def setUp (target : String) (options : ChannelOptions) (behaviour : ChannelBehaviour) :
    Run Nat := do
  match ← attempt (makeLink target options behaviour) with
  | .ok link => return link
  | .error (.raised r) =>
    if r.isOrdinary then
      log .connection .error ("Connect failed! " ++ target ++ ": " ++ r.message)
      refuse (.setup r)
    else raise r
  | .error f => throw f

/-- **The target of a connection**, unless the manager has a live handle or the port makes no
sense. -/
def chooseTarget (m : Nat) (host port : Value) : Run String := do
  match (← get).current? m with
  | some h =>
    if h.isLive then
      log .connection .warning ("Channel to " ++ h.target ++ " is not shutdown or terminated")
      refuse (.alreadyConnected h.target)
  | none => pure ()
  let number ← portOf port
  if number < 0 || greatestPort < number then
    log .connection .error ("Connect failed! Port " ++ (← written number) ++ " out of range")
    refuse (.portOutOfRange number)
  return host.plain ++ ":" ++ toString number

/-- A link becomes the one that a manager uses. -/
def install (m link : Nat) : Run Unit := do
  record (.installed m link)
  changeManager m fun mgr => { mgr with current? := some link }

/-- A manager has its calls bound to no link. -/
def unbindCalls (m : Nat) : Run Unit := changeManager m fun mgr => { mgr with dispatcher? := none }

/-- Binds the calls of a manager to a link. -/
def bindCalls (m link : Nat) : Run Unit := do
  match (← get).links[link]?.bind fun l => l.behaviour.bindingRaises? with
  | some r => raise r
  | none =>
    record (.bound m link)
    changeManager m fun mgr => { mgr with dispatcher? := some link }

/-- **What a manager does to connect**, once it excludes others: makes a link, uses it, waits until
it is ready, and only then binds its calls to it. -/
def establish (m : Nat) (host port timeout : Value) (behaviour : ChannelBehaviour)
    (pause : Nat → Run Unit) : Run String := do
  let target ← chooseTarget m host port
  let config := ((← get).manager m).config
  let link ← setUp target config.channelOptions behaviour
  install m link
  unbindCalls m
  waitUntilReady link timeout config.pollInterval pause
  bindCalls m link
  return target

/-- What a manager says after it connected. -/
def welcome (target : String) : Run Result := do
  log .connection .info ("Connected successfully to " ++ target)
  return .succeeded .nothing

/-- **Connects a manager**: makes a link to host and port and waits until it is ready. The
activities of the pauses take place while it waits. -/
def connect (m : Nat) (host port timeout : Value) (behaviour : ChannelBehaviour)
    (pause : Nat → Run Unit) : Run Result := do
  welcome (← exclusively m (establish m host port timeout behaviour pause))

/-- The words for not being connected. -/
def notConnectedText : String := "You are not connected to Milvus server"

/-- What a manager says after it waited for running calls. -/
def farewell (link : Nat) (ended : Bool) : Run (Option Result) := do
  if ended then
    log .connection .info ("Channel to " ++ (← targetOf link) ++ " terminated")
    return some (.succeeded .nothing)
  return none

/-- **What a manager does to disconnect**, once it excludes others: it shuts its link down and waits
for running calls. Tells nothing if they outlast the wait. -/
def dismantle (m : Nat) (during : List (Run Unit)) : Run (Option Result) := do
  if !(← get).isConnected m then
    log .connection .warning notConnectedText
    return some (.failed .nothing .notConnected "")
  let link := (((← get).manager m).current?).getD 0
  let config := ((← get).manager m).config
  shutDown link
  unbindCalls m
  farewell link (← awaitTermination link (.float config.drainTimeout) during)

/-- The result of a wait that running calls outlasted. -/
def outlasted (m : Nat) : Run Result := do
  let waited := ((← get).manager m).config.drainTimeout.text ++ "s"
  let running := (((← get).current? m).map Handle.inFlight).getD 0
  let target := (((← get).current? m).map Handle.target).getD ""
  log .connection .error ("Channel to " ++ target ++ " still has "
    ++ toString running ++ " calls after " ++ waited ++ "; it closes when they finish")
  return .failed .nothing .shutdownTimeout ("Channel not terminated after " ++ waited)

/-- The result of a disconnect, which is that of the wait unless calls outlasted it. -/
def partFrom (m : Nat) : Option Result → Run Result
  | some r => return r
  | none => outlasted m

/-- **Disconnects a manager**: shuts its link down and waits for running calls. The activities take
place one by one while it waits. -/
def disconnect (m : Nat) (during : List (Run Unit)) : Run Result := do
  partFrom m (← exclusively m (dismantle m during))

end Run

end VectorLink
