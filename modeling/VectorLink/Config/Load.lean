import VectorLink.Config.Basic
import VectorLink.Config.File
import VectorLink.Domain.Clock

/-!
# Where a configuration comes from

A field of the configuration may be given by a keyword, by an entry of a file, or by an environment
variable, in this order of precedence, and has a default otherwise. The three differ in what counts
as given: a keyword unless it is the absent value, an entry if its key is there, a variable unless
it is empty.

## When a variable is read

Variables are texts, so those of numbers are read before they are merged with the rest
(`Environment.arguments`). A variable that does not write its number therefore stops the loading,
also where another source gives the same field.
-/

namespace VectorLink

/-- How the text of a variable becomes a value. -/
inductive Conversion where
  | text
  | whole
  | real
  /-- A name, in capitals. -/
  | capitals
  /-- On for a few words, off for all others. -/
  | switch
  deriving DecidableEq, Repr

/-- The words that turn a switch on. -/
def switchWords : List String := ["true", "1", "yes"]

namespace Conversion

/-- **The value of a variable's text.** -/
def apply (c : Conversion) (s : String) : Except NumeralFault Value :=
  match c with
  | .text => .ok (.text s)
  | .whole => (Numeral.whole s).map .int
  | .real => (Numeral.real s).map .float
  | .capitals => .ok (.text (Casing.upper s))
  | .switch => .ok (.bool (switchWords.contains (Casing.lower s)))

end Conversion

/-- A variable: its name, the field it gives, and how its text is read. -/
structure Variable where
  name : String
  field : String
  conversion : Conversion
  deriving DecidableEq, Repr

/-- **The variables that give fields**, in the order in which they are read. -/
def Variable.all : List Variable :=
  [⟨"MILVUS_HOST", "host", .text⟩, ⟨"MILVUS_PORT", "port", .whole⟩,
   ⟨"MILVUS_CONNECT_TIMEOUT_MS", "connect_timeout_ms", .whole⟩,
   ⟨"MILVUS_POLL_INTERVAL_MS", "poll_interval_ms", .whole⟩,
   ⟨"MILVUS_DRAIN_TIMEOUT", "drain_timeout", .real⟩,
   ⟨"MILVUS_LOG_LEVEL", "log_level", .capitals⟩,
   ⟨"MILVUS_DEBUG", "enable_debug_logging", .switch⟩]

/-- **Where a client runs**: the variables that are set, and the clock. -/
structure Environment where
  settings : List (String × String)
  clock : Clock

namespace Environment

/-- An environment without variables. -/
def bare : Environment := ⟨[], .system⟩

/-- The text of a variable; an empty one counts as not set. -/
def get? (env : Environment) (name : String) : Option String :=
  ((env.settings.find? fun v => v.1 == name).map (·.2)).filter fun s => !s.isEmpty

/-- The fields that some variables give. The first variable that cannot be read is reported. -/
def argumentsOf (env : Environment) : List Variable → Except NumeralFault Arguments
  | [] => .ok []
  | v :: vs =>
    match env.get? v.name with
    | none => argumentsOf env vs
    | some s => do
      let value ← v.conversion.apply s
      return (v.field, value) :: (← argumentsOf env vs)

/-- **The fields that the environment gives.** -/
def arguments (env : Environment) : Except NumeralFault Arguments :=
  env.argumentsOf Variable.all

end Environment

/-- **Why a configuration could not be loaded.** -/
inductive LoadError where
  /-- A file gives no entries. -/
  | file (f : FileFault)
  /-- A variable writes no number. -/
  | numeral (f : NumeralFault)
  /-- Some fields are invalid. -/
  | invalid (issues : List Issue)
  /-- A key of a file is no text. -/
  | keyNotText
  /-- A field has a name that is taken; the text says by what. -/
  | nameTaken (owner name : String)
  /-- A keyword was given already to what it is handed to. -/
  | keywordTaken (owner name : String)
  /-- The value of a keyword is of no use; what using it raises. -/
  | unusable (r : Raised)
  deriving DecidableEq, Repr

/-- The wording of a load error. -/
def LoadError.message : LoadError → String
  | .file f => f.message
  | .numeral f => f.message
  | .invalid issues => issuesText issues
  | .keyNotText => "keywords must be strings"
  | .nameTaken owner name => owner ++ "() got multiple values for argument '" ++ name ++ "'"
  | .keywordTaken owner name =>
    owner ++ "() got multiple values for keyword argument '" ++ name ++ "'"
  | .unusable r => r.message

namespace Config

/-- The name that no field may have. -/
def reservedName : String := "cls"

/-- **The configuration of an environment and of fields that override it.** -/
def fromEnvironment (env : Environment) (overrides : Arguments) : Except LoadError Config :=
  if (overrides.get? reservedName).isSome then
    .error (.nameTaken "ClientConfig.from_env" reservedName)
  else
    match env.arguments with
    | .error f => .error (.numeral f)
    | .ok fields =>
      match check (fields.override overrides) with
      | .ok c => .ok c
      | .error issues => .error (.invalid issues)

/-- The entries of a file as arguments, if every key is a text. -/
def entriesAsArguments : List (Value × Value) → Option Arguments
  | [] => some []
  | (.text k, v) :: rest => (entriesAsArguments rest).map ((k, v) :: ·)
  | _ :: _ => none

/-- The keyword that names the configuration file. -/
def fileKeyword : String := "config_file"

/-- The entries of a file, none if there is no file. -/
def fileEntries (file? : Option FileSource) : Except LoadError (List (Value × Value)) :=
  match file? with
  | some f => f.entries.mapError .file
  | none => .ok []

/-- **The configuration of entries of a file and of keywords over them**, over the environment. -/
def combine (env : Environment) (entries : List (Value × Value)) (keywords : Arguments) :
    Except LoadError Config :=
  match entriesAsArguments entries with
  | none => .error .keyNotText
  | some fields => fromEnvironment env (fields.override keywords.present)

/-- **The configuration of all sources**: keywords over the entries of a file over the
environment. -/
def load (env : Environment) (file? : Option FileSource) (keywords : Arguments) :
    Except LoadError Config :=
  if (keywords.get? fileKeyword).isSome then .error (.nameTaken "load_config" fileKeyword)
  else (fileEntries file?).bind fun entries => combine env entries keywords

end Config

/-! ## The file that a keyword names -/

/-- Whether an element of an array counts as true. -/
def Element.isTruthy : Element → Bool
  | .whole n => n != 0
  | .real x => !x.isZero

/-- **Whether a value counts as true.** An array does if its only element does, and raises if it has
more or none. -/
def Value.truth : Value → Except Raised Bool
  | .array t =>
    match t.elements with
    | [e] => .ok e.isTruthy
    | [] => .error ⟨"ValueError", "The truth value of an empty array is ambiguous. "
        ++ "Use `array.size > 0` to check that an array is not empty."⟩
    | _ => .error ⟨"ValueError", "The truth value of an array with more than one element is "
        ++ "ambiguous. Use a.any() or a.all()"⟩
  | v => .ok v.isTruthy

namespace Config

/-- What is raised for a value that should be a path and is no text. -/
def notPath : Value → Raised
  | .octets _ => ⟨"TypeError", "argument should be a str object or an os.PathLike object "
      ++ "returning str, not <class 'bytes'>"⟩
  | v => ⟨"TypeError", "expected str, bytes or os.PathLike object, not "
      ++ (v.kindName.splitOn ".").getLast?.getD ""⟩

/-- **The file that a keyword names**, if its value counts as true; nothing is put there
beforehand. -/
def namedFile? : Option Value → Except LoadError (Option FileSource)
  | none => .ok none
  | some v =>
    match v.truth with
    | .error r => .error (.unusable r)
    | .ok false => .ok none
    | .ok true =>
      match v with
      | .text name => .ok (some ⟨name, none, true⟩)
      | v => .error (.unusable (notPath v))

/-- The configuration of keywords among which may be the name of a file. -/
def loadKeywords (env : Environment) (keywords : Arguments) : Except LoadError Config :=
  (namedFile? (keywords.get? fileKeyword)).bind fun file? =>
    load env file? (keywords.filter fun a => a.1 != fileKeyword)

end Config

end VectorLink
