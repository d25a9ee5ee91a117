import VectorLink.Connection.Session

/-!
# The life of a link

A link is made and listened to, carries calls, is shut down, and closes its channel. A channel is
closed in two places: when the client waits for running calls and none is left, and when the last
call leaves a handle that is shut down (`Run.leave`). Either way it is closed once, since a handle
that has closed its channel does so no more (`Run.close`).
-/

namespace VectorLink

namespace Run

/-- The target of a link, for messages. -/
def targetOf (link : Nat) : Run String := do
  return (((← get).links[link]?).map Link.target).getD ""

/-- **A report of the channel of a link**, delivered to its handle. A handle that is shut down takes
no note of it. -/
def deliver (link : Nat) (report : String) : Run Unit := do
  match (← get).handle? link with
  | none => pure ()
  | some h =>
    record (.delivered link report)
    changeLink link (Link.onHandle fun h => h.notify (.ofReport report))
    if !h.isShutdown then
      log .transport .debug ("Channel " ++ h.target ++ " is " ++ report)

/-- **A new link**: the channel is made and listened to. What either raises is passed on; a channel
that cannot be listened to stays behind without a handle. -/
def makeLink (target : String) (options : ChannelOptions) (behaviour : ChannelBehaviour) :
    Run Nat := do
  match behaviour.makingRaises? with
  | some r => raise r
  | none => pure ()
  let link := (← get).links.length
  modify fun s => s.addLink (.fresh target options behaviour)
  match behaviour.listeningRaises? with
  | some r => raise r
  | none => pure ()
  changeLink link Link.listen
  match behaviour.initial? with
  | some report => deliver link report
  | none => pure ()
  return link

/-- **A call asks to enter**; it is counted if it is admitted. -/
def enter (link : Nat) : Run Bool := do
  match (← get).handle? link with
  | none => return false
  | some h =>
    if h.admits then
      record (.entered link)
      changeLink link (Link.onHandle Handle.enter)
    return h.admits

/-- **The channel of a link is closed**, unless that was done. What closing raises is passed on, and
the channel then counts as not closed. -/
def close (link : Nat) : Run Unit := do
  match (← get).links[link]? with
  | none => pure ()
  | some l =>
    match l.handle? with
    | none => pure ()
    | some h =>
      if !h.isTerminated then
        match l.behaviour.closingRaises? with
        | some r =>
          record (.closed link false)
          changeLink link Link.closeInVain
          raise r
        | none =>
          record (.closed link true)
          changeLink link Link.close
          log .transport .debug ("Channel " ++ h.target ++ " closed")

/-- **An admitted call leaves.** The last one to leave a handle that is shut down closes the
channel. -/
def leave (link : Nat) : Run Unit := do
  record (.left link)
  changeLink link (Link.onHandle Handle.leave)
  match (← get).handle? link with
  | some h => if h.isDrained then close link
  | none => pure ()

/-- **A call tracked from entering to leaving**, whatever happens in between. The activity is told
whether the call was admitted. -/
def track {α : Type} (link : Nat) (body : Bool → Run α) : Run α := do
  let admitted ← enter link
  andFinally (body admitted) (if admitted then leave link else pure ())

/-- **The handle of a link is shut down**: it admits no calls and listens no more. -/
def shutDown (link : Nat) : Run Unit := do
  match (← get).handle? link with
  | none => pure ()
  | some h =>
    if !h.isShutdown then
      record (.shutDown link)
      changeLink link Link.shutDown

/-- Whether no call is in progress on a link. -/
def isIdle (link : Nat) : Run Bool := do
  return (((← get).handle? link).map fun h => h.inFlight == 0).getD true

/-- What happens while the client waits for running calls: activities take place one by one until
none is left or no call is in progress. Tells whether none is in progress at the end. -/
def waitIdle (link : Nat) : List (Run Unit) → Run Bool
  | [] => isIdle link
  | activity :: rest => do
    if ← isIdle link then return true
    activity
    waitIdle link rest

/-- A wait for running calls is measured, which raises if the clock does not go so far. Without a
running call there is nothing to measure. -/
def measureWait (link : Nat) (timeout : Value) : Run Unit := do
  if !(← isIdle link) then
    match (← get).environment.clock.waitRaises? timeout with
    | some r => raise r
    | none => pure ()

/-- **Waits for running calls and then closes the channel.** Tells whether it was closed; if calls
outlast the wait, the last of them closes it. -/
def awaitTermination (link : Nat) (timeout : Value) (during : List (Run Unit)) : Run Bool := do
  record (.waited timeout)
  measureWait link timeout
  let idle ← waitIdle link during
  if idle then close link
  return idle

end Run

end VectorLink
