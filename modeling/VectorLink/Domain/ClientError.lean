import VectorLink.Domain.Raised
import VectorLink.Value.Text

/-!
# Errors of the client

The client raises errors of its own when a connection cannot be made or a configuration file makes
no sense. Each carries a message, a code for programs, and further details; the kinds form a small
tree below `ClientErrorKind.general` (`ClientErrorKind.lineage`).
-/

namespace VectorLink

/-- The kinds of errors of the client. -/
inductive ClientErrorKind where
  | general
  | connect
  | alreadyConnected
  | portOutOfRange
  | connectTimeout
  | connectFailed
  | configuration
  deriving DecidableEq, Repr, Inhabited

namespace ClientErrorKind

/-- All kinds. -/
def all : List ClientErrorKind :=
  [.general, .connect, .alreadyConnected, .portOutOfRange, .connectTimeout, .connectFailed,
   .configuration]

/-- The name of a kind. -/
def name : ClientErrorKind → String
  | .general => "MilvusClientError"
  | .connect => "ConnectError"
  | .alreadyConnected => "AlreadyConnectedError"
  | .portOutOfRange => "PortOutOfRangeError"
  | .connectTimeout => "ConnectTimeoutError"
  | .connectFailed => "ConnectFailedError"
  | .configuration => "ConfigurationError"

/-- The kind of a name. -/
def ofName? (name : String) : Option ClientErrorKind := all.find? fun k => k.name == name

/-- The code that a kind gives its errors. -/
def code : ClientErrorKind → Value
  | .general => .none
  | .connect => .text "CONNECT_FAILED"
  | .alreadyConnected => .text "ALREADY_CONNECTED"
  | .portOutOfRange => .text "PORT_OUT_OF_RANGE"
  | .connectTimeout => .text "CONNECT_TIMEOUT"
  | .connectFailed => .text "CONNECT_FAILED"
  | .configuration => .text "CONFIG_ERROR"

/-- The kinds that a kind belongs to, from itself to the most general. -/
def lineage : ClientErrorKind → List ClientErrorKind
  | .general => [.general]
  | .connect => [.connect, .general]
  | .configuration => [.configuration, .general]
  | k => [k, .connect, .general]

end ClientErrorKind

/-- What an error holds besides message, code and details. -/
inductive ErrorExtra where
  | nothing
  | target (v : Value)
  | port (v : Value)
  | timeout (target timeoutMs : Value)
  | cause (r? : Option Raised)
  deriving Inhabited

/-- **An error of the client.** -/
structure ClientError where
  kind : ClientErrorKind
  message : Value
  code : Value
  details : Value
  extra : ErrorExtra
  deriving Inhabited

namespace ClientError

/-- No details. -/
def noDetails : Value := .mapping []

/-- A channel is there already. The target is named unless it is empty. -/
def alreadyConnected (target details : Value) : ClientError :=
  let base := "Channel is not shutdown or terminated"
  let message := if target.isTruthy then base ++ ": " ++ target.plain else base
  ⟨.alreadyConnected, .text message, ClientErrorKind.alreadyConnected.code, details,
    .target target⟩

/-- The port is none. -/
def portOutOfRange (port details : Value) : ClientError :=
  ⟨.portOutOfRange, .text ("Port " ++ port.plain ++ " out of range"),
    ClientErrorKind.portOutOfRange.code, details, .port port⟩

/-- The channel did not become ready in time. -/
def connectTimeout (target timeoutMs details : Value) : ClientError :=
  ⟨.connectTimeout,
    .text ("Connect timeout: " ++ target.plain ++ " not ready after " ++ timeoutMs.plain ++ " ms"),
    ClientErrorKind.connectTimeout.code, details, .timeout target timeoutMs⟩

/-- The connection could not be set up. -/
def connectFailed (message : Value) (cause? : Option Raised) (details : Value) : ClientError :=
  ⟨.connectFailed, message, ClientErrorKind.connectFailed.code, details, .cause cause?⟩

/-- The configuration makes no sense. -/
def configuration (message details : Value) : ClientError :=
  ⟨.configuration, message, ClientErrorKind.configuration.code, details, .nothing⟩

/-- The details of an error: nothing counts as an empty mapping. -/
def shownDetails (e : ClientError) : Value :=
  if e.details.isTruthy then e.details else noDetails

/-- **The text of an error**: its message, and its code unless that is empty. There is none if the
message is no text. -/
def text? (e : ClientError) : Option String :=
  match e.message with
  | .text m => some (if e.code.isTruthy then m ++ " | Error Code: " ++ e.code.plain else m)
  | _ => none

end ClientError

end VectorLink
