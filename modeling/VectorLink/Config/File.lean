import VectorLink.Document.Json
import VectorLink.Document.Yaml.Read
import VectorLink.Domain.ClientError
import VectorLink.Text.Utf8

/-!
# Configuration files

A configuration file holds one mapping, as a YAML document if its name says so and as a JSON
document otherwise. It is read in full before its form is looked at, so a file that is no text is
reported as such whatever its name.
-/

namespace VectorLink

/-- What stands under a name. -/
inductive FileContent where
  | directory
  | octets (bs : List UInt8)

/-- **A file to read**: its name, and what was put there under that name. -/
structure FileSource where
  name : String
  content? : Option FileContent
  /-- Whether YAML documents can be read. -/
  readsYaml : Bool

/-- **Why a file gives no entries.** -/
inductive FileFault where
  | notFound (name : String)
  | directory (path : String)
  | nameTooLong (path : String)
  | notText (f : Utf8.Fault)
  | json (document : List Char) (f : Json.Fault)
  | yaml (f : Yaml.Fault)
  /-- YAML documents cannot be read. -/
  | yamlUnavailable
  /-- The document is no mapping. -/
  | notMapping (name : String)
  deriving DecidableEq, Repr

/-- The error of the client for a document that is no mapping. -/
def notMappingError (name : String) : ClientError :=
  .configuration (.text ("Configuration file must contain a mapping: " ++ name)) .none

/-- The wording of a fault. -/
def FileFault.message : FileFault → String
  | .notFound name => "Configuration file not found: " ++ name
  | .directory path => "[Errno 21] Is a directory: " ++ Quoted.text path
  | .nameTooLong path => "[Errno 36] File name too long: " ++ Quoted.text path
  | .notText f => f.message
  | .json document f => f.message document
  | .yaml f => f.message
  | .yamlUnavailable => "PyYAML is required to load YAML configuration files"
  | .notMapping name => ((notMappingError name).text?).getD ""

namespace FileSource

/-! ## Names and paths -/

/-- The steps of a path that matter. -/
def steps (name : String) : List String :=
  (name.splitOn "/").filter fun s => !s.isEmpty && s != "."

/-- The slashes at the front of a path: two stay two, and any other number is one. -/
def rootOf (name : String) : String :=
  match (name.toList.takeWhile (· = '/')).length with
  | 0 => ""
  | 2 => "//"
  | _ => "/"

/-- **The path of a name** without steps that lead nowhere. -/
def path (name : String) : String :=
  let p := rootOf name ++ "/".intercalate (steps name)
  if p.isEmpty then "." else p

/-- Whether a name leads to a directory that is always there. -/
def isAncestor (name : String) : Bool := (steps name).all (· == "..")

/-- The greatest number of octets of a step of a path. -/
def stepLimit : Nat := 255

/-- The greatest number of octets of a path. -/
def pathLimit : Nat := 4095

/-- Whether a name is too long to be looked up. A name with a null character is not looked up at
all. -/
def isTooLong (name : String) : Bool :=
  !name.toList.contains '\x00'
    && (pathLimit < (path name).utf8ByteSize
      || (((steps name).dropWhile (· == "..")).take 1).any fun s => stepLimit < s.utf8ByteSize)

/-- The octets of a file. -/
def octets (f : FileSource) : Except FileFault (List UInt8) :=
  match f.content? with
  | some (.octets bs) => .ok bs
  | some .directory => .error (.directory (path f.name))
  | none =>
    if isAncestor f.name then .error (.directory (path f.name))
    else if isTooLong f.name then .error (.nameTooLong (path f.name))
    else .error (.notFound f.name)

/-! ## Documents -/

/-- Characters with every end of a line as a line feed. -/
def foldLineEnds : List Char → List Char
  | '\r' :: '\n' :: cs => '\n' :: foldLineEnds cs
  | '\r' :: cs => '\n' :: foldLineEnds cs
  | c :: cs => c :: foldLineEnds cs
  | [] => []

/-- Whether a name says that a file is a YAML document. -/
def namesYaml (name : String) : Bool := name.endsWith ".yml" || name.endsWith ".yaml"

/-- The document that a file holds. -/
def value (f : FileSource) : Except FileFault Value := do
  let text ← (Utf8.decode (← f.octets)).mapError .notText
  let document := foldLineEnds text.toList
  if namesYaml f.name then
    if f.readsYaml then (Yaml.read document).mapError .yaml else .error .yamlUnavailable
  else (Json.read document).mapError (.json document)

/-- **The entries of a configuration file.** -/
def entries (f : FileSource) : Except FileFault (List (Value × Value)) := do
  match ← f.value with
  | .mapping es => return es
  | _ => .error (.notMapping f.name)

end FileSource

end VectorLink
