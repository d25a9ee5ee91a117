import VectorLink.Validation.Coercion
import VectorLink.Value.Shown

/-!
# Configuration

What the client may be told before it connects: where the server is, how long and how often to look
for it, how long to wait for running calls when leaving, how large a message may be, and how much to
log.

Every number is validated against its bounds, so what `Config.check` accepts can be used without
further tests: polling advances because the interval is at least one, and the wait at the end is a
positive number and not something that is no number.
-/

namespace VectorLink

/-- How much is logged. -/
inductive LogLevel where
  | debug
  | info
  | warning
  | error
  | critical
  deriving DecidableEq, Repr

namespace LogLevel

/-- All levels, from the most talkative. -/
def all : List LogLevel := [.debug, .info, .warning, .error, .critical]

/-- The name of a level. -/
def name : LogLevel → String
  | .debug => "DEBUG"
  | .info => "INFO"
  | .warning => "WARNING"
  | .error => "ERROR"
  | .critical => "CRITICAL"

/-- The weight of a level: a record is logged if its weight reaches the threshold. -/
def weight : LogLevel → Nat
  | .debug => 10
  | .info => 20
  | .warning => 30
  | .error => 40
  | .critical => 50

/-- The level of a name. -/
def ofName? (name : String) : Option LogLevel := all.find? fun l => l.name == name

/-- How a level is shown. -/
def shown (l : LogLevel) : Shown := .member "LogLevel" l.name (.text l.name)

/-- **A reader of levels.** The name of a level may be given in any case. -/
def read : Reader LogLevel := fun v =>
  let v := match v with
    | .text s => .text (Casing.upper s)
    | v => v
  match Reader.text v with
  | .ok s =>
    match ofName? s with
    | some l => .accept l
    | none => .reject .notLogLevel
  | .error _ => .reject .notLogLevel

end LogLevel

/-- **The configuration of a client.** -/
structure Config where
  host : String
  port : Int
  /-- How long to try to connect, in milliseconds. -/
  connectTimeout : Int
  /-- How long to pause between two looks at the channel, in milliseconds. -/
  pollInterval : Int
  /-- How long to wait for running calls on disconnecting, in seconds. -/
  drainTimeout : Binary64
  /-- The greatest size of a message in octets; -1 for no limit. -/
  maxReceiveLength : Int
  logLevel : LogLevel
  debug : Bool
  deriving DecidableEq, Repr

namespace Config

/-- **A reader of hosts**: a text that is not blank, without the blanks around it. -/
def readHost : Reader String := fun v =>
  match Reader.text v with
  | .ok s =>
    let stripped := Blank.strip s
    if stripped.isEmpty then .reject (.broken "Host cannot be empty") else .accept stripped
  | .error is => .error is

/-- A reader of positive reals. -/
def readPositiveReal : Reader Binary64 := fun v =>
  (Reader.real v).ensure Binary64.isPositive fun _ => .outOfBound (.above 0)

/-- Sixty seconds. -/
def standardDrainTimeout : Binary64 := ⟨0x404E000000000000⟩

/-- **The configuration when nothing is given.** -/
def standard : Config :=
  ⟨"127.0.0.1", 19530, 10000, 100, standardDrainTimeout, -1, .info, false⟩

/-- **The configuration that some arguments give.** -/
def check (args : Arguments) : Checked Config :=
  mk <$> args.optional "host" standard.host readHost
    <*> args.optional "port" standard.port (Reader.bounded [.atLeast 0, .atMost 65535])
    <*> args.optional "connect_timeout_ms" standard.connectTimeout (Reader.bounded [.atLeast 0])
    <*> args.optional "poll_interval_ms" standard.pollInterval (Reader.bounded [.atLeast 1])
    <*> args.optional "drain_timeout" standard.drainTimeout readPositiveReal
    <*> args.optional "max_receive_message_length" standard.maxReceiveLength
      (Reader.bounded [.atLeast (-1)])
    <*> args.optional "log_level" standard.logLevel LogLevel.read
    <*> args.optional "enable_debug_logging" standard.debug Reader.truth

/-- How a configuration is shown. -/
def shown (c : Config) : Shown :=
  .record "ClientConfig"
    [("host", .plain (.text c.host)), ("port", .plain (.int c.port)),
     ("connect_timeout_ms", .plain (.int c.connectTimeout)),
     ("poll_interval_ms", .plain (.int c.pollInterval)),
     ("drain_timeout", .plain (.float c.drainTimeout)),
     ("max_receive_message_length", .plain (.int c.maxReceiveLength)),
     ("log_level", c.logLevel.shown), ("enable_debug_logging", .plain (.bool c.debug))]

/-- The level that is logged: everything if debugging is on. -/
def effectiveLevel (c : Config) : LogLevel := if c.debug then .debug else c.logLevel

/-- The options that a channel is made with. -/
def channelOptions (c : Config) : List (String × Int) :=
  [("grpc.max_receive_message_length", c.maxReceiveLength)]

end Config

end VectorLink
