import VectorLink.Validation.Coercion
import VectorLink.Value.Shown

/-!
# Endpoints

Where to connect to, and how long to try. A port may be given as a number or as a text; which of the
two it was is kept, because a text is read as a number only when the connection is made.
-/

namespace VectorLink

/-- A port: a number, or a text still to be read. -/
inductive Port where
  | number (n : Int)
  | text (s : String)
  deriving DecidableEq, Repr

namespace Port

/-- The value of a port. -/
def value : Port → Value
  | .number n => .int n
  | .text s => .text s

/-- **A reader of ports.** A text stays one, and any other value that can be an integer is one. A
value that is neither is refused for both reasons. -/
def read : Reader Port
  | .text s => .accept (.text s)
  | v =>
    match Reader.integer v with
    | .ok n => .accept (.number n)
    | .error is =>
      match Reader.text v with
      | .ok s => .accept (.text s)
      | .error js =>
        .error (is.map (Issue.within (.field "int")) ++ js.map (Issue.within (.field "str")))

end Port

/-- **Where to connect to**, and for how many milliseconds to try. -/
structure Endpoint where
  host : String
  port : Port
  timeout : Int
  deriving DecidableEq, Repr

namespace Endpoint

/-- The endpoint that some arguments give. -/
def check (args : Arguments) : Checked Endpoint :=
  mk <$> args.optional "host" "127.0.0.1" Reader.text
    <*> args.optional "port" (.number 19530) Port.read
    <*> args.optional "timeout" 10000 (Reader.bounded [.atLeast 0])

/-- How an endpoint is shown. -/
def shown (e : Endpoint) : Shown :=
  .record "ConnectParam"
    [("host", .plain (.text e.host)), ("port", .plain e.port.value),
     ("timeout", .plain (.int e.timeout))]

end Endpoint

end VectorLink
