import VectorLink.Config.Load
import VectorLink.Connection.Manager
import VectorLink.Domain.Endpoint

/-!
# Opening clients

A client is a manager that was made from a configuration and that sets the level of the log. It
connects to the endpoint of its configuration, unless the call says otherwise. The shortcut
`Run.connectAnew` makes a client and connects it in one step; only a connected one takes the place
of the client in use.
-/

namespace VectorLink

/-- **The arguments of an endpoint**: what is said and not absent, over the configuration. -/
def Config.endpointArguments (c : Config) (said : Arguments) : Arguments :=
  Arguments.override
    [("host", .text c.host), ("port", .int c.port), ("timeout", .int c.connectTimeout)] said.present

namespace Session

/-- A further manager, which is not in use yet. -/
def addManager (s : Session) (c : Config) : Session :=
  { s with managers := s.managers ++ [.fresh c] }

/-- The log keeps records from the level of a configuration on. -/
def setThreshold (s : Session) (c : Config) : Session :=
  { s with threshold? := some c.effectiveLevel }

/-! ### Keywords that are no fields -/

/-- The name of the client that is made. -/
def ownKeyword : String := "self"

/-- The keyword of a whole configuration. -/
def configKeyword : String := "config"

/-- The keyword of what makes the channels. -/
def factoryKeyword : String := "channel_factory"

/-- **Hands keywords to what makes a client.** It is told already what makes the channels, and may
have been told a configuration; neither can be told again. -/
def handOver (maker : String) (given? : Option Arguments) (keywords : Arguments) :
    Except LoadError Unit :=
  match keywords.find? fun a =>
    a.1 == factoryKeyword || (given?.isSome && a.1 == configKeyword) with
  | some a => .error (.keywordTaken maker a.1)
  | none =>
    if (keywords.get? ownKeyword).isSome then
      .error (.nameTaken "MilvusClient.__init__" ownKeyword)
    else .ok ()

/-- The configuration of keywords among which may be a whole configuration, which no value is. -/
def configureFrom (env : Environment) (keywords : Arguments) : Except LoadError Config :=
  match (keywords.get? configKeyword).filter fun v => !v.isNone with
  | some v => .error (.unusable ⟨"AttributeError", Quoted.text v.kindName
      ++ " object has no attribute " ++ Quoted.text "get_logging_level"⟩)
  | none => Config.loadKeywords env (keywords.filter fun a => a.1 != configKeyword)

/-- **The configuration of a client**: the one that is given, or else the one that is loaded from
keywords. Both are handed to a maker, which is told what makes the channels as well. -/
def configure (env : Environment) (maker : String) (given? : Option Arguments)
    (keywords : Arguments) : Except LoadError Config :=
  match given? with
  | some args =>
    match Config.check args with
    | .error issues => .error (.invalid issues)
    | .ok c => (handOver maker given? keywords).map fun _ => c
  | none => (handOver maker none keywords).bind fun _ => configureFrom env keywords

/-- **A session with a client.** -/
def withClient (env : Environment) (c : Config) : Session :=
  ((empty env).setThreshold c).addManager c

/-- A session with a manager alone, which leaves the level of the log as it is. -/
def withManager (env : Environment) (c : Config) : Session := (empty env).addManager c

end Session

namespace Run

/-- Connects a manager to an endpoint. -/
def connectTo (m : Nat) (e : Endpoint) (behaviour : ChannelBehaviour) (pause : Nat → Run Unit) :
    Run Result :=
  connect m (.text e.host) e.port.value (.int e.timeout) behaviour pause

/-- **Connects a client**, to the endpoint of its configuration unless something else is said. -/
def connectClient (m : Nat) (said : Arguments) (behaviour : ChannelBehaviour)
    (pause : Nat → Run Unit) : Run Result := do
  match Endpoint.check (((← get).manager m).config.endpointArguments said) with
  | .ok e => connectTo m e behaviour pause
  | .error issues => throw (.invalid issues)

/-- What makes a client and connects it in one step. -/
def shortcutName : String := "milvus_client.client.connect"

/-- The arguments that say where to connect to. -/
def endpointNames : List String := ["host", "port", "timeout"]

/-- **Makes a client, connects it, and uses it from then on.** What is said about the endpoint is no
part of the configuration. -/
def connectAnew (given? : Option Arguments) (keywords : Arguments) (behaviour : ChannelBehaviour)
    (pause : Nat → Run Unit) : Run Unit := do
  let (said, rest) := keywords.partition fun a => endpointNames.contains a.1
  match Session.configure (← get).environment shortcutName given? rest with
  | .error e => throw (.load e)
  | .ok c =>
    let m := (← get).managers.length
    modify fun s => (s.setThreshold c).addManager c
    let _ ← connectClient m said behaviour pause
    modify fun s => { s with active := m }

end Run

end VectorLink
