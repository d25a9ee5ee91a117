import VectorLink.Connection.Handle
import VectorLink.Domain.Raised

/-!
# Links

A link is one channel and the handle to it, if there is one. How the channel behaves is given with
it: what it reports at once, and what it raises when it is made, listened to, bound to methods, or
closed. So a link holds all that can happen on the far side except the answers to calls.
-/

namespace VectorLink

/-- **How a channel behaves.** -/
structure ChannelBehaviour where
  /-- What the channel reports as soon as it is listened to. -/
  initial? : Option String
  /-- What making the channel raises. -/
  makingRaises? : Option Raised
  /-- What listening to the channel raises. -/
  listeningRaises? : Option Raised
  /-- What binding the channel to methods raises. -/
  bindingRaises? : Option Raised
  /-- What closing the channel raises. -/
  closingRaises? : Option Raised
  deriving DecidableEq, Repr

/-- A channel that is ready at once and never raises. -/
def ChannelBehaviour.smooth : ChannelBehaviour := ⟨some "READY", none, none, none, none⟩

/-- The options that a channel is made with. -/
abbrev ChannelOptions := List (String × Int)

/-- **A channel with the handle to it.** -/
structure Link where
  target : String
  options : ChannelOptions
  behaviour : ChannelBehaviour
  isClosed : Bool
  /-- How often the channel was told to close, in vain or not. -/
  closes : Nat
  /-- How many listeners the channel has. -/
  listeners : Nat
  handle? : Option Handle
  deriving DecidableEq, Repr

namespace Link

/-- A channel that nobody listens to. -/
def fresh (target : String) (options : ChannelOptions) (behaviour : ChannelBehaviour) : Link :=
  ⟨target, options, behaviour, false, 0, 0, none⟩

/-- A handle listens to the channel. -/
def listen (l : Link) : Link :=
  { l with listeners := l.listeners + 1, handle? := some (.fresh l.target) }

/-- A change of the handle. -/
def onHandle (f : Handle → Handle) (l : Link) : Link := { l with handle? := l.handle?.map f }

/-- The handle is shut down and no longer listens. -/
def shutDown (l : Link) : Link :=
  { l.onHandle Handle.shutDown with listeners := l.listeners - 1 }

/-- The channel is told to close, in vain. -/
def closeInVain (l : Link) : Link := { l with closes := l.closes + 1 }

/-- The channel closes, and its handle is done. -/
def close (l : Link) : Link :=
  { l.onHandle Handle.terminate with closes := l.closes + 1, isClosed := true }

end Link

end VectorLink
