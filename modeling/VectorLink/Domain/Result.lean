import VectorLink.Domain.Status
import VectorLink.Domain.Table
import VectorLink.Domain.Vectors

/-!
# Results

An operation ends in a result: a status, a reason in words, and a payload whose form depends on the
operation. Unless the operation succeeded the payload is the empty one of its form, so that a caller
never takes what a failed call left behind for an answer (`Result.failed`).
-/

namespace VectorLink

/-- The form of a payload. -/
inductive PayloadForm where
  | nothing
  | presence
  | table
  | names
  | count
  | index
  | ids
  | hits
  deriving DecidableEq, Repr

/-- **What an operation answers.** -/
inductive Payload where
  | nothing
  | presence (b : Bool)
  | table (schema? : Option TableSchema)
  | names (ns : List String)
  | count (n : Int)
  | index (index? : Option Index)
  | ids (ns : List Int)
  | hits (rows : List (List Hit))
  deriving DecidableEq, Repr

namespace PayloadForm

/-- All forms. -/
def all : List PayloadForm :=
  [.nothing, .presence, .table, .names, .count, .index, .ids, .hits]

/-- The empty payload of a form. -/
def empty : PayloadForm → Payload
  | .nothing => .nothing
  | .presence => .presence false
  | .table => .table none
  | .names => .names []
  | .count => .count 0
  | .index => .index none
  | .ids => .ids []
  | .hits => .hits []

/-- The name of the results with payloads of a form. -/
def resultName : PayloadForm → String
  | .nothing => "Response"
  | .presence => "HasTableResponse"
  | .table => "DescribeTableResponse"
  | .names => "ShowTablesResponse"
  | .count => "GetTableRowCountResponse"
  | .index => "DescribeIndexResponse"
  | .ids => "InsertResponse"
  | .hits => "SearchResponse"

/-- The payload of a form that some arguments give. -/
def check (form : PayloadForm) (args : Arguments) : Checked Payload :=
  match form with
  | .nothing => .accept .nothing
  | .presence => .presence <$> args.optional "has_table" false Reader.truth
  | .table =>
    .table <$> args.optional "table_schema" none
      (Reader.orNone (Reader.record "TableSchema" TableSchema.check))
  | .names => .names <$> args.optional "table_names" [] (Reader.list Reader.text)
  | .count => .count <$> args.optional "table_row_count" 0 Reader.integer
  | .index =>
    .index <$> args.optional "index" none (Reader.orNone (Reader.record "Index" Index.check))
  | .ids => .ids <$> args.optional "vector_ids" [] (Reader.list Reader.integer)
  | .hits =>
    .hits <$> args.optional "query_results_list" []
      (Reader.list (Reader.list (Reader.record "QueryResult" Hit.check)))

end PayloadForm

namespace Payload

/-- The form of a payload. -/
def form : Payload → PayloadForm
  | .nothing => .nothing
  | .presence _ => .presence
  | .table _ => .table
  | .names _ => .names
  | .count _ => .count
  | .index _ => .index
  | .ids _ => .ids
  | .hits _ => .hits

/-- The fields of a payload as they are shown. -/
def shownFields : Payload → List (String × Shown)
  | .nothing => []
  | .presence b => [("has_table", .plain (.bool b))]
  | .table schema? => [("table_schema", (schema?.map TableSchema.shown).getD (.plain .none))]
  | .names ns => [("table_names", shownTexts ns)]
  | .count n => [("table_row_count", .plain (.int n))]
  | .index index? => [("index", (index?.map Index.shown).getD (.plain .none))]
  | .ids ns => [("vector_ids", shownIntegers ns)]
  | .hits rows =>
    [("query_results_list", .list (rows.map fun row => .list (row.map Hit.shown)))]

end Payload

/-- **The result of an operation.** -/
structure Result where
  status : Status
  message : String
  payload : Payload
  deriving DecidableEq, Repr

namespace Result

/-- A result that is not a success: the payload is empty. -/
def failed (form : PayloadForm) (status : Status) (message : String) : Result :=
  ⟨status, message, form.empty⟩

/-- A success. -/
def succeeded (payload : Payload) : Result := ⟨.success, "", payload⟩

/-- Whether a result is a success. -/
def ok (r : Result) : Bool := r.status = .success

/-- The result of a form that some arguments give. -/
def check (form : PayloadForm) (args : Arguments) : Checked Result :=
  mk <$> args.optional "status" .success (Reader.numbered Status.ofNumber .unknown)
    <*> args.optional "message" "" Reader.text
    <*> form.check args

/-- How a result is shown. -/
def shown (r : Result) : Shown :=
  .record r.payload.form.resultName
    (("status", r.status.shown) :: ("message", .plain (.text r.message))
      :: r.payload.shownFields)

/-- **The text of a result**: its status and its reason. -/
def text (r : Result) : String :=
  "Response \x7bcode = " ++ r.status.name ++ ", message = \"" ++ r.message ++ "\"\x7d"

end Result

end VectorLink
