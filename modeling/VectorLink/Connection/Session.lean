import VectorLink.Connection.Failure
import VectorLink.Connection.Link
import VectorLink.Domain.Outcome
import VectorLink.Domain.Result

/-!
# Sessions

A scene is everything that exists at one moment while clients run: the links in order of their
making and the managers that own them. Managers refer to links by their number, and links are never
removed, so a number stays valid. A session is a scene together with what happened so far.

## The history

Everything that happens is written down, latest first (`Event`). An activity is bracketed by the
events `began` and `ended`, so the history of nested activities is one list and their reports can be
read off it. Events about a handle are written at the moment at which they take effect.

Both brackets hold the scene of their moment. A bracket and the history before it therefore make up
the whole session as it was then, so what held at every moment of a run, however deeply nested, can
be read off its end (`Session.moments`).
-/

namespace VectorLink

/-- The part of the client that writes a log record. -/
inductive LogSource where
  | client
  | connection
  | transport
  deriving DecidableEq, Repr

/-- The name of a log source. -/
def LogSource.name : LogSource → String
  | .client => "client"
  | .connection => "connection"
  | .transport => "transport"

/-- The place of a handle in a snapshot. -/
structure HandleView where
  inFlight : Nat
  isShutdown : Bool
  isTerminated : Bool
  deriving DecidableEq, Repr

/-- The place of a channel in a snapshot. -/
structure ChannelView where
  target : String
  isClosed : Bool
  closes : Nat
  listeners : Nat
  deriving DecidableEq, Repr

/-- **What can be seen of a session** from outside at one moment. -/
structure Snapshot where
  state : Connectivity
  connected : Bool
  target? : Option String
  hasDispatcher : Bool
  handle? : Option HandleView
  channels : List ChannelView
  deriving DecidableEq, Repr

/-- **The owner of one channel at a time.** -/
structure Manager where
  config : Config
  /-- The number of the link in use. -/
  current? : Option Nat
  /-- The number of the link that calls are bound to. -/
  dispatcher? : Option Nat
  /-- Whether a connection is being made or ended. -/
  isBusy : Bool
  deriving DecidableEq, Repr

/-- A manager that has never connected. -/
def Manager.fresh (config : Config) : Manager := ⟨config, none, none, false⟩

/-- A call held open by hand: the link that it entered, and whether it was admitted. -/
structure OpenCall where
  link : Nat
  admitted : Bool
  deriving DecidableEq, Repr

/-- **Everything that exists at one moment** while clients run. -/
structure Scene where
  environment : Environment
  links : List Link
  managers : List Manager
  /-- The number of the manager in use. -/
  active : Nat
  /-- The least level that is logged, if one was set. -/
  threshold? : Option LogLevel
  /-- Calls held open under a name. -/
  openCalls : List (String × OpenCall)
  /-- Dispatchers kept under a name. -/
  keptDispatchers : List (String × Option Nat)

namespace Scene

/-- A scene in which nothing exists. -/
def empty (environment : Environment) : Scene := ⟨environment, [], [], 0, none, [], []⟩

/-- The handle of a link. -/
def handle? (s : Scene) (link : Nat) : Option Handle := s.links[link]?.bind Link.handle?

/-- The manager of a number. -/
def manager (s : Scene) (m : Nat) : Manager := s.managers.getD m (.fresh .standard)

/-- The handle in use by a manager. -/
def current? (s : Scene) (m : Nat) : Option Handle := (s.manager m).current?.bind s.handle?

/-- **The connectivity that a manager reports.** -/
def connectivity (s : Scene) (m : Nat) : Connectivity :=
  match s.current? m with
  | some h => h.state
  | none => .notCreated

/-- **Whether a manager is connected**: its handle is ready. -/
def isConnected (s : Scene) (m : Nat) : Bool :=
  match s.current? m with
  | some h => h.state = .ready
  | none => false

/-- The least level that is logged; warnings and worse unless another was set. -/
def threshold (s : Scene) : LogLevel := s.threshold?.getD .warning

/-- What can be seen of a link. -/
def channelView (l : Link) : ChannelView := ⟨l.target, l.isClosed, l.closes, l.listeners⟩

/-- **What can be seen of a scene**, through the manager in use. -/
def snapshot (s : Scene) : Snapshot :=
  let m := s.active
  { state := s.connectivity m
    connected := s.isConnected m
    target? := (s.current? m).map Handle.target
    hasDispatcher := (s.manager m).dispatcher?.isSome
    handle? := (s.current? m).map fun h => ⟨h.inFlight, h.isShutdown, h.isTerminated⟩
    channels := s.links.map channelView }

end Scene

/-- The value of an activity that did not fail. -/
inductive Answer where
  | value (v : Value)
  | result (r : Result)
  | options (options? : Option ChannelOptions)
  /-- What came of a call of a method. -/
  | outcome (method : Wire.Method) (o : CallOutcome)

/-- **Something that happened.** -/
inductive Event where
  /-- An activity began. -/
  | began (seen : Scene)
  /-- The latest open activity ended. -/
  | ended (answer : Except Failure Answer) (seen : Scene)
  /-- The client slept for some seconds. -/
  | paused (seconds : Binary64)
  /-- The client waited for running calls, at most so long. -/
  | waited (timeout : Value)
  /-- A request reached the channel of a link. -/
  | called (link : Nat) (path : String) (request : Wire.Octets)
  | logged (source : LogSource) (level : LogLevel) (message : String)
  /-- The channel of a link reported to its handle. -/
  | delivered (link : Nat) (report : String)
  /-- A call was admitted by the handle of a link. -/
  | entered (link : Nat)
  /-- An admitted call left the handle of a link. -/
  | left (link : Nat)
  /-- The handle of a link was shut down. -/
  | shutDown (link : Nat)
  /-- The channel of a link was told to close, and did or raised. -/
  | closed (link : Nat) (done : Bool)
  /-- A link became the one that a manager uses. -/
  | installed (manager link : Nat)
  /-- A connection of a manager came to its end: calls were bound to the link. -/
  | bound (manager link : Nat)

/-- **What exists while clients run, and what happened so far.** -/
structure Session extends Scene where
  /-- What happened, latest first. -/
  history : List Event

namespace Session

/-- A session in which nothing exists. -/
def empty (environment : Environment) : Session := ⟨.empty environment, []⟩

/-- One more thing has happened. -/
def push (s : Session) (e : Event) : Session := { s with history := e :: s.history }

/-- A link changes. -/
def changeLink (s : Session) (link : Nat) (f : Link → Link) : Session :=
  { s with links := s.links.modify link f }

/-- A further link takes the next number. -/
def addLink (s : Session) (l : Link) : Session := { s with links := s.links ++ [l] }

/-- A manager changes. -/
def changeManager (s : Session) (m : Nat) (f : Manager → Manager) : Session :=
  { s with managers := s.managers.modify m f }

/-- The sessions at the brackets of a history, latest first. -/
def momentsOf : List Event → List Session
  | [] => []
  | .began seen :: before => ⟨seen, before⟩ :: momentsOf before
  | .ended _ seen :: before => ⟨seen, before⟩ :: momentsOf before
  | _ :: before => momentsOf before

/-- **The moments of a session**: itself, and what it was at every bracket of its history. -/
def moments (s : Session) : List Session := s :: momentsOf s.history

end Session

/-! ## Activities -/

/-- **An activity in a session.** What was done before a failure stays done. -/
abbrev Run := ExceptT Failure (StateM Session)

namespace Run

/-- The outcome of an activity as a value, so that something can be done in either case. -/
def attempt {α : Type} (x : Run α) : Run (Except Failure α) := fun s =>
  match x s with
  | (r, s') => (.ok r, s')

/-- The value of an outcome, or its failure. -/
def resume {α : Type} (r : Except Failure α) : Run α := fun s => (r, s)

/-- **An activity followed by another in either case.** A failure of the second takes the place of
the outcome of the first. -/
def andFinally {α : Type} (x : Run α) (after : Run Unit) : Run α := do
  let r ← attempt x
  after
  resume r

/-- Writes down what happened. -/
def record (e : Event) : Run Unit := modify fun s => s.push e

/-- Writes a log record if its level is logged. -/
def log (source : LogSource) (level : LogLevel) (message : String) : Run Unit := do
  if (← get).threshold.weight ≤ level.weight then record (.logged source level message)

/-- Changes a link. -/
def changeLink (link : Nat) (f : Link → Link) : Run Unit :=
  modify fun s => s.changeLink link f

/-- Changes a manager. -/
def changeManager (m : Nat) (f : Manager → Manager) : Run Unit :=
  modify fun s => s.changeManager m f

/-- Stops with an exception. -/
def raise {α : Type} (r : Raised) : Run α := throw (.raised r)

/-- Stops with a connect failure. -/
def refuse {α : Type} (c : ConnectFailure) : Run α := throw (.connect c)

end Run

end VectorLink
