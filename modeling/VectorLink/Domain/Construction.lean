import VectorLink.Domain.ClientError

/-!
# Building errors from arguments

A program may raise the client's errors itself. Each kind takes some parameters by place or by name
and hands the rest on to the kind above it; what fits nowhere is refused with the name of the kind
that refused it.
-/

namespace VectorLink

/-- A parameter: its name, and its default if it may be left out. -/
structure Parameter where
  name : String
  default? : Option Value

/-- **What is wrong with the arguments of a constructor.** -/
inductive ArgumentFault where
  | tooMany (owner : String) (least most given : Nat)
  | missing (owner : String) (names : List String)
  | twice (owner name : String)
  | unexpected (owner name : String)
  /-- A name is both fixed by a kind and handed on to the kind above. -/
  | fixed (owner name : String)
  /-- The message is no text; the kind of value that it is. -/
  | messageNotText (kindName : String)
  deriving DecidableEq, Repr

/-- Names in quotes, with "and" before the last. -/
def quotedNames : List String → String
  | [] => ""
  | [n] => "'" ++ n ++ "'"
  | [m, n] => "'" ++ m ++ "' and '" ++ n ++ "'"
  | ns => ", ".intercalate ((ns.dropLast).map fun n => "'" ++ n ++ "'")
      ++ ", and '" ++ (ns.getLast?).getD "" ++ "'"

/-- The wording of a fault. The receiver counts as an argument where arguments are counted. -/
def ArgumentFault.message : ArgumentFault → String
  | .tooMany owner least most given =>
    let range := if least = most then toString (most + 1)
      else "from " ++ toString (least + 1) ++ " to " ++ toString (most + 1)
    owner ++ ".__init__() takes " ++ range ++ " positional arguments but "
      ++ toString (given + 1) ++ " were given"
  | .missing owner names =>
    owner ++ ".__init__() missing " ++ toString names.length ++ " required positional argument"
      ++ (if names.length = 1 then "" else "s") ++ ": " ++ quotedNames names
  | .twice owner name =>
    owner ++ ".__init__() got multiple values for argument '" ++ name ++ "'"
  | .unexpected owner name =>
    owner ++ ".__init__() got an unexpected keyword argument '" ++ name ++ "'"
  | .fixed owner name =>
    "milvus_client.exceptions." ++ owner
      ++ ".__init__() got multiple values for keyword argument '" ++ name ++ "'"
  | .messageNotText kindName =>
    "sequence item 0: expected str instance, " ++ kindName ++ " found"

namespace Parameter

/-- **Arguments bound to parameters**: the value of each parameter, and the keywords left over. -/
def bind (owner : String) (ps : List Parameter) (takesMore : Bool) (args : List Value)
    (keywords : Arguments) : Except ArgumentFault (List Value × Arguments) := do
  let placed := (ps.zip args).map fun (p, v) => (p.name, v)
  match keywords.find? fun k => placed.any fun p => p.1 == k.1 with
  | some k => throw (.twice owner k.1)
  | none => pure ()
  let rest := keywords.filter fun k => !ps.any fun p => p.name == k.1
  match rest with
  | k :: _ => if takesMore then pure () else throw (.unexpected owner k.1)
  | [] => pure ()
  if ps.length < args.length then
    throw (.tooMany owner (ps.filter fun p => p.default?.isNone).length ps.length args.length)
  let given : Arguments := placed ++ keywords
  let absent := ps.filter fun p => p.default?.isNone && (given.get? p.name).isNone
  if !absent.isEmpty then throw (.missing owner (absent.map Parameter.name))
  return (ps.map fun p => (given.get? p.name).getD (p.default?.getD .none), rest)

end Parameter

namespace ClientError

/-- The parameters that the general kind takes from the kinds below, besides a fixed message and
code. -/
def bindDetails (owner : String) (fixedCode : Bool) (keywords : Arguments) :
    Except ArgumentFault Value := do
  if fixedCode && (keywords.get? "error_code").isSome then throw (.fixed owner "error_code")
  if (keywords.get? "message").isSome then throw (.twice owner "message")
  match keywords.find? fun k => k.1 != "details" with
  | some k => throw (.unexpected ClientErrorKind.general.name k.1)
  | none => return (keywords.get? "details").getD .none

/-- **The error of a kind that some arguments build.** The cause of a failed connection is given
apart. -/
def build (kind : ClientErrorKind) (args : List Value) (keywords : Arguments)
    (cause? : Option Raised) : Except ArgumentFault ClientError := do
  let owner := kind.name
  let above := ClientErrorKind.connect.name
  match kind with
  | .general =>
    let (vs, _) ← Parameter.bind owner
      [⟨"message", none⟩, ⟨"error_code", some .none⟩, ⟨"details", some .none⟩] false args keywords
    return ⟨kind, vs.getD 0 .none, vs.getD 1 .none, vs.getD 2 .none, .nothing⟩
  | .connect =>
    let (vs, rest) ← Parameter.bind owner
      [⟨"message", none⟩, ⟨"error_code", some kind.code⟩] true args keywords
    let details ← bindDetails ClientErrorKind.general.name false rest
    return ⟨kind, vs.getD 0 .none, vs.getD 1 .none, details, .nothing⟩
  | .alreadyConnected =>
    let (vs, rest) ← Parameter.bind owner [⟨"target", some .none⟩] true args keywords
    return alreadyConnected (vs.getD 0 .none) (← bindDetails above true rest)
  | .portOutOfRange =>
    let (vs, rest) ← Parameter.bind owner [⟨"port", none⟩] true args keywords
    return portOutOfRange (vs.getD 0 .none) (← bindDetails above true rest)
  | .connectTimeout =>
    let (vs, rest) ← Parameter.bind owner [⟨"target", none⟩, ⟨"timeout_ms", none⟩] true args
      keywords
    return connectTimeout (vs.getD 0 .none) (vs.getD 1 .none) (← bindDetails above true rest)
  | .connectFailed =>
    let (vs, rest) ← Parameter.bind owner [⟨"message", some (.text "Connect failed")⟩] true args
      keywords
    return connectFailed (vs.getD 0 .none) cause? (← bindDetails above true rest)
  | .configuration =>
    let (vs, rest) ← Parameter.bind owner [⟨"message", none⟩] true args keywords
    return configuration (vs.getD 0 .none)
      (← bindDetails ClientErrorKind.general.name true rest)

/-- The text of an error, or the fault that its message is no text. -/
def textOrFault (e : ClientError) : Except ArgumentFault String :=
  match e.text? with
  | some s => .ok s
  | none => .error (.messageNotText e.message.kindName)

end ClientError

end VectorLink
