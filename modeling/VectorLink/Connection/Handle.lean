import VectorLink.Value.Shown

/-!
# Handles

A handle stands between the client and one channel. It knows the connectivity that the channel
reported last, counts the calls in progress, and remembers whether it was shut down and whether it
closed its channel. Shutting down and closing are apart, because a channel is not closed under a
running call: once a handle is shut down no call is admitted, and the last one to leave closes the
channel.

The functions here are the handle's own part of each event, without the channel and without any
effect.
-/

namespace VectorLink

/-- **The connectivity of a channel**, and of having none. -/
inductive Connectivity where
  | notCreated
  | idle
  | connecting
  | ready
  | transientFailure
  | shutdown
  | terminated
  deriving DecidableEq, Repr

namespace Connectivity

/-- All connectivities. -/
def all : List Connectivity :=
  [.notCreated, .idle, .connecting, .ready, .transientFailure, .shutdown, .terminated]

/-- The name of a connectivity. -/
def name : Connectivity → String
  | .notCreated => "NOT_CREATED"
  | .idle => "IDLE"
  | .connecting => "CONNECTING"
  | .ready => "READY"
  | .transientFailure => "TRANSIENT_FAILURE"
  | .shutdown => "SHUTDOWN"
  | .terminated => "TERMINATED"

/-- The word for a connectivity. -/
def word : Connectivity → String
  | .notCreated => "not_created"
  | .idle => "idle"
  | .connecting => "connecting"
  | .ready => "ready"
  | .transientFailure => "transient_failure"
  | .shutdown => "shutdown"
  | .terminated => "terminated"

/-- The connectivity of a word. -/
def ofWord? (w : String) : Option Connectivity := all.find? fun c => c.word == w

/-- The connectivities that a channel may report. -/
def reportable : List Connectivity := [.idle, .connecting, .ready, .transientFailure, .shutdown]

/-- **The connectivity that a channel reports by a name**; an unknown name counts as idle. -/
def ofReport (name : String) : Connectivity :=
  (reportable.find? fun c => c.name == name).getD .idle

/-- How a connectivity is shown. -/
def shown (c : Connectivity) : Shown := .member "ConnectivityState" c.name (.text c.word)

end Connectivity

/-- **What the client knows of one channel.** -/
structure Handle where
  target : String
  /-- The connectivity that the channel reported last. -/
  reported : Connectivity
  /-- The number of calls that were admitted and have not left. -/
  inFlight : Nat
  isShutdown : Bool
  isTerminated : Bool
  deriving DecidableEq, Repr

namespace Handle

/-- A handle to a channel that has reported nothing yet. -/
def fresh (target : String) : Handle := ⟨target, .idle, 0, false, false⟩

/-- **The state of a handle**: how it ended, or else what its channel reported last. -/
def state (h : Handle) : Connectivity :=
  if h.isTerminated then .terminated else if h.isShutdown then .shutdown else h.reported

/-- Whether a handle keeps another from being made: it does until it is shut down or terminated. -/
def isLive (h : Handle) : Bool := !(h.isShutdown || h.isTerminated)

/-- A report of the channel; it no longer matters once the handle is shut down. -/
def notify (h : Handle) (c : Connectivity) : Handle :=
  if h.isShutdown then h else { h with reported := c }

/-- Whether a call may enter. -/
def admits (h : Handle) : Bool := !h.isShutdown

/-- A call enters. -/
def enter (h : Handle) : Handle := { h with inFlight := h.inFlight + 1 }

/-- A call leaves. -/
def leave (h : Handle) : Handle := { h with inFlight := h.inFlight - 1 }

/-- Whether the last call has left a handle that is shut down, so that its channel is to be
closed. -/
def isDrained (h : Handle) : Bool := h.isShutdown && h.inFlight = 0

/-- The handle is shut down. -/
def shutDown (h : Handle) : Handle := { h with isShutdown := true }

/-- The handle has closed its channel. -/
def terminate (h : Handle) : Handle := { h with isTerminated := true }

end Handle

end VectorLink
