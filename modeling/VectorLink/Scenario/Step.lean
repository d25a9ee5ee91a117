import VectorLink.Client.Call
import VectorLink.Client.Connect

/-!
# Steps

A scenario is a list of steps that a session goes through. A step may hold further steps that take
place while it is in progress: at the pauses of a connect, during a call, inside the wait of a
disconnect, or in the body of a block that disconnects at its end. So whatever can happen at the
same time as a step is written down as steps inside it.
-/

namespace VectorLink

/-- **One step of a scenario.** -/
inductive Step where
  /-- The client connects, where something may be said about the endpoint. -/
  | connect (said : Arguments) (behaviour : ChannelBehaviour) (pauses : List (Nat × List Step))
  /-- The client connects to the endpoint that some arguments give. -/
  | connectTo (args : Arguments) (behaviour : ChannelBehaviour)
      (pauses : List (Nat × List Step))
  /-- The manager connects to a host and a port within a time, none of which need make sense. -/
  | connectManager (host port timeout : Value) (behaviour : ChannelBehaviour)
      (pauses : List (Nat × List Step))
  /-- A new client is made, connected, and used from then on. -/
  | connectAnew (given? : Option Arguments) (keywords : Arguments)
      (behaviour : ChannelBehaviour) (pauses : List (Nat × List Step))
  /-- The client disconnects; the steps take place one by one while it waits. -/
  | disconnect (waiting : List Step)
  /-- A body of steps after which a connected client is disconnected. -/
  | block (body waiting : List Step)
  /-- The client performs an operation, if its parameters are valid. -/
  | operate (op : Checked Operation) (response : Response) (during : List Step)
  /-- The channel of a link reports to its listeners; a forced report reaches past ones too. -/
  | notify (link : Nat) (report : String) (forced : Bool)
  /-- A call enters the handle in use and is held open under a name. -/
  | beginCall (name : String)
  /-- A call held open leaves. -/
  | endCall (name : String)
  /-- The dispatcher is kept under a name. -/
  | keepDispatcher (name : String)
  /-- A kept dispatcher becomes the manager's again. -/
  | restoreDispatcher (name : String)
  /-- A call is made by hand on a kept dispatcher, or on the manager's. The request is read as one
  of the method that it was written for. -/
  | dispatch (methodName requestMethodName : String) (request : Wire.Octets)
      (kept? : Option String) (response : Response) (during : List Step)
  /-- The handle in use is shut down. -/
  | shutDown
  /-- Running calls of the handle in use are waited for. -/
  | awaitTermination (timeout : Value) (waiting : List Step)
  /-- The options that a channel was made with are looked up. -/
  | options (link : Nat)
  /-- The level of the log is looked up. -/
  | logLevel
  /-- Nothing is done. -/
  | observe
  /-- The user interrupts whatever is in progress. -/
  | interrupt (text : String)
  deriving Inhabited

namespace Step

/-- Whether a step is an interrupt. It is no activity of its own but ends the one around it. -/
def isInterrupt : Step → Bool
  | .interrupt _ => true
  | _ => false

end Step

end VectorLink
