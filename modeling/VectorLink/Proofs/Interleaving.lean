import VectorLink.Client.Call

/-!
# Interleaved activities

Calls take no part in the exclusion of connects and disconnects, so between any two steps of an
operation everything else may happen: other operations, a disconnect, a connect to somewhere else.
The runs of a session do not show all of it, because there an activity that takes place inside
another comes to its end before the other goes on. Here activities are split into the steps that
nothing can come between, and the steps of any number of activities follow each other in any order.

An activity and how far it is make up a task (`Task`), and the steps of a task are made of the same
parts that the activity is made of when it runs at once. If nobody interferes they come to the same
(`CallPhase.run_alone`, `ConnectPhase.run_alone`, `DisconnectPhase.run_alone`). The world has a log
(`World.log`) in which everything that happens is signed by the task that did it.
-/

namespace VectorLink

open Run

/-! ## The steps of an operation -/

/-- **How far an operation is.** -/
inductive CallPhase where
  /-- It was asked for, and next looks whether the manager is connected. -/
  | asked
  /-- The manager was connected, and next it looks what calls are bound to. -/
  | ready (message : Wire.Message)
  /-- It holds on to a link, and next asks to enter its handle. -/
  | bound (link : Nat) (message : Wire.Message)
  /-- It was admitted, and next sends its request. -/
  | entered (link : Nat) (message : Wire.Message)
  /-- The request was sent, and next the answer comes. -/
  | calling (link : Nat)
  /-- There is an outcome, and next it leaves the handle. -/
  | leaving (link : Nat) (outcome : Except Failure CallOutcome)
  | finished (answer : Except Failure Result)

/-- **The next step of an operation.** -/
def CallPhase.next (m : Nat) (op : Operation) (response : Response) : CallPhase → Run CallPhase
  | .asked => do
    if !(← get).isConnected m then
      log .client .warning notConnectedText
      return .finished (.ok (.failed op.form .notConnected ""))
    match op.request with
    | .error e => throw (.request e)
    | .ok message => return .ready message
  | .ready message => do
    match ((← get).manager m).dispatcher? with
    | some link => return .bound link message
    | none => return .finished (.ok (← conclude op .notIssued))
  | .bound link message => do
    if ← enter link then return .entered link message
    return .finished (.ok (← conclude op (← decline link op.method.name)))
  | .entered link message => do
    if ← send link op.method.path (op.method.request.encode message) then return .calling link
    return .leaving link (.ok (.fault ⟨none, closedChannelText⟩))
  | .calling link => return .leaving link (response.outcome op.method)
  | .leaving link outcome => do
    leave link
    return .finished (.ok (← conclude op (← resume outcome)))
  | .finished answer => return .finished answer

/-- What a step of a task makes of it: the next phase, or the one that a failure leads to. -/
def settle {α : Type} (x : Run α) (failed : Failure → α) (s : Session) : α × Session :=
  match x s with
  | (.ok a, s') => (a, s')
  | (.error f, s') => (failed f, s')

/-- One step of an operation. A failure ends it. -/
def CallPhase.step (m : Nat) (op : Operation) (response : Response) (p : CallPhase) :
    Session → CallPhase × Session :=
  settle (p.next m op response) fun f => .finished (.error f)

/-! ## The steps of a connect -/

/-- What a connect is asked for. -/
structure Venture where
  manager : Nat
  host : Value
  port : Value
  timeout : Value
  behaviour : ChannelBehaviour

/-- **How far a connect is.** -/
inductive ConnectPhase where
  /-- It waits until no other connect or disconnect is in progress. -/
  | waiting
  /-- From here on it excludes others. -/
  | choosing
  | making (target : String)
  | installing (target : String) (interval : Int) (link : Nat)
  | unbinding (target : String) (interval : Int) (link : Nat)
  | announcing (target : String) (interval : Int) (link : Nat)
  /-- It looks whether the link is ready, and may pause so often and so long. -/
  | looking (target : String) (length : Except Raised Binary64) (link : Nat) (patience : Patience)
  | binding (target : String) (link : Nat)
  /-- It came to its end or failed, and next excludes others no more. -/
  | releasing (answer : Except Failure String)
  | finished (answer : Except Failure Result)

/-- One pause while a link is not ready, or none if no patience is left. -/
def pauseOnce (link : Nat) (timeout : Value) (length : Except Raised Binary64) :
    Patience → Run Patience
  | .pauses 0 => giveUp link timeout
  | .pauses (left + 1) => do
    record (.paused (← pauseSeconds length))
    return .pauses left
  | .incomparable kindName => raiseIncomparable kindName

/-- **The next step of a connect.** -/
def ConnectPhase.next (v : Venture) : ConnectPhase → Run ConnectPhase
  | .waiting => do
    if ((← get).manager v.manager).isBusy then return .waiting
    occupy v.manager true
    return .choosing
  | .choosing => return .making (← chooseTarget v.manager v.host v.port)
  | .making target => do
    let config := ((← get).manager v.manager).config
    return .installing target config.pollInterval (← setUp target config.channelOptions v.behaviour)
  | .installing target interval link => do
    install v.manager link
    return .unbinding target interval link
  | .unbinding target interval link => do
    unbindCalls v.manager
    return .announcing target interval link
  | .announcing target interval link => do
    announce link v.timeout
    let length := (← get).environment.clock.pause interval
    return .looking target length link (.ofTime v.timeout interval)
  | .looking target length link patience => do
    if ← isReady link then return .binding target link
    return .looking target length link (← pauseOnce link v.timeout length patience)
  | .binding target link => do
    bindCalls v.manager link
    return .releasing (.ok target)
  | .releasing (.ok target) => do
    occupy v.manager false
    return .finished (.ok (← welcome target))
  | .releasing (.error f) => do
    occupy v.manager false
    return .finished (.error f)
  | .finished answer => return .finished answer

/-- One step of a connect. After a failure others are to be excluded no more. -/
def ConnectPhase.step (v : Venture) (p : ConnectPhase) : Session → ConnectPhase × Session :=
  settle (p.next v) fun f => .releasing (.error f)

/-! ## The steps of a disconnect -/

/-- **How far a disconnect is.** -/
inductive DisconnectPhase where
  /-- It waits until no other connect or disconnect is in progress. -/
  | waiting
  /-- From here on it excludes others, and next looks whether the manager is connected. -/
  | checking
  | shutting (timeout : Value) (link : Nat)
  | unbinding (timeout : Value) (link : Nat)
  | announcing (timeout : Value) (link : Nat)
  /-- It waits until no call is in progress. -/
  | draining (link : Nat)
  | closing (link : Nat)
  /-- It came to its end or failed, and next excludes others no more. -/
  | releasing (answer : Except Failure (Option Result))
  | finished (answer : Except Failure Result)

/-- **The next step of a disconnect.** -/
def DisconnectPhase.next (m : Nat) : DisconnectPhase → Run DisconnectPhase
  | .waiting => do
    if ((← get).manager m).isBusy then return .waiting
    occupy m true
    return .checking
  | .checking => do
    if !(← get).isConnected m then
      log .connection .warning notConnectedText
      return .releasing (.ok (some (.failed .nothing .notConnected "")))
    let link := (((← get).manager m).current?).getD 0
    let config := ((← get).manager m).config
    return .shutting (.float config.drainTimeout) link
  | .shutting timeout link => do
    shutDown link
    return .unbinding timeout link
  | .unbinding timeout link => do
    unbindCalls m
    return .announcing timeout link
  | .announcing timeout link => do
    record (.waited timeout)
    measureWait link timeout
    return .draining link
  | .draining link => do
    if ← isIdle link then return .closing link
    return .draining link
  | .closing link => do
    close link
    return .releasing (.ok (← farewell link true))
  | .releasing (.ok r?) => do
    occupy m false
    return .finished (.ok (← partFrom m r?))
  | .releasing (.error f) => do
    occupy m false
    return .finished (.error f)
  | .finished answer => return .finished answer

/-- One step of a disconnect. After a failure others are to be excluded no more. -/
def DisconnectPhase.step (m : Nat) (p : DisconnectPhase) : Session → DisconnectPhase × Session :=
  settle (p.next m) fun f => .releasing (.error f)

/-- The time to wait for running calls is used up. The wait looks once more. -/
def DisconnectPhase.expire (p : DisconnectPhase) (s : Session) : DisconnectPhase × Session :=
  match p with
  | .draining link =>
    settle (do if ← isIdle link then return .closing link else return .releasing (.ok none))
      (fun f => .releasing (.error f)) s
  | p => (p, s)

/-! ## Tasks -/

/-- **An activity that was begun, and how far it is.** -/
inductive Task where
  | operation (m : Nat) (op : Operation) (response : Response) (phase : CallPhase)
  | connect (venture : Venture) (phase : ConnectPhase)
  | disconnect (m : Nat) (phase : DisconnectPhase)
  /-- The channel of a link reports to its handle. -/
  | report (link : Nat) (text : String) (isDelivered : Bool)

namespace Task

/-- **One step of a task.** -/
def step : Task → Session → Task × Session
  | operation m op response p, s =>
    let (p', s') := p.step m op response s
    (operation m op response p', s')
  | connect v p, s =>
    let (p', s') := p.step v s
    (connect v p', s')
  | disconnect m p, s =>
    let (p', s') := p.step m s
    (disconnect m p', s')
  | report link text false, s => (report link text true, (deliver link text s).2)
  | report link text true, s => (report link text true, s)

/-- A wait is over since its time is used up. -/
def expire : Task → Session → Task × Session
  | disconnect m p, s =>
    let (p', s') := p.expire s
    (disconnect m p', s')
  | task, s => (task, s)

/-- A task is interrupted where it waits: for an answer, between two looks, or for running calls. -/
def interrupt (r : Raised) : Task → Session → Task × Session
  | operation m op response (.calling link), s =>
    (operation m op response (.leaving link (.error (.raised r))), s)
  | connect v (.looking _ _ _ _), s => (connect v (.releasing (.error (.raised r))), s)
  | disconnect m (.draining _), s => (disconnect m (.releasing (.error (.raised r))), s)
  | task, s => (task, s)

end Task

/-! ## Worlds -/

/-- What happened, signed by the number of the task that did it, latest first. -/
abbrev Log := List (Nat × Event)

/-- **Everything that exists while tasks go on side by side**, and what happened so far. -/
structure World where
  scene : Scene
  tasks : List Task
  log : Log

/-- **What may happen next in a world**: a task is begun, or one goes on. -/
inductive Action where
  | operate (m : Nat) (op : Operation) (response : Response)
  | connect (venture : Venture)
  | disconnect (m : Nat)
  | report (link : Nat) (text : String)
  | advance (t : Nat)
  | expire (t : Nat)
  | interrupt (t : Nat) (r : Raised)

namespace World

/-- A world in which nothing has happened. -/
def start (scene : Scene) : World := ⟨scene, [], []⟩

/-- A task is begun, and takes the next number. -/
def launch (w : World) (task : Task) : World := { w with tasks := w.tasks ++ [task] }

/-- A task goes on, and signs what it does. -/
def perform (w : World) (t : Nat) (f : Task → Session → Task × Session) : World :=
  match w.tasks[t]? with
  | none => w
  | some task =>
    let (task', s) := f task ⟨w.scene, []⟩
    ⟨s.toScene, w.tasks.set t task', s.history.map (Prod.mk t) ++ w.log⟩

/-- **What an action makes of a world.** -/
def step (w : World) : Action → World
  | .operate m op response => w.launch (.operation m op response .asked)
  | .connect v => w.launch (.connect v .waiting)
  | .disconnect m => w.launch (.disconnect m .waiting)
  | .report link text => w.launch (.report link text false)
  | .advance t => w.perform t Task.step
  | .expire t => w.perform t Task.expire
  | .interrupt t r => w.perform t (Task.interrupt r)

/-- **What a sequence of actions makes of a world.** -/
def run (w : World) (actions : List Action) : World := actions.foldl step w

end World

end VectorLink
