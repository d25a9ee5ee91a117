import VectorLink.Domain.Result
import VectorLink.Wire.Assignment
import VectorLink.Wire.Reply

/-!
# Operations

An operation is what a caller asks of the server. It is sent by one method as one request
(`Operation.request`), and a reply that reports success is read back into its payload
(`Operation.success`). Integers of a request have to fit their fields; the first one that does not
is reported, and then nothing is sent.

Definitions of tables and indexes are validated in replies too, since a caller is promised valid
ones. All other payloads are taken as they come.
-/

namespace VectorLink

/-- A command that the server answers by a text. -/
inductive ServerCommand where
  | status
  | version
  deriving DecidableEq, Repr

/-- The word of a command. -/
def ServerCommand.word : ServerCommand → String
  | .status => "OK"
  | .version => "version"

/-- **What a caller asks of the server.** -/
inductive Operation where
  | createTable (schema : TableSchema)
  | hasTable (table : String)
  | dropTable (table : String)
  | describeTable (table : String)
  | showTables
  | countRows (table : String)
  | preloadTable (table : String)
  | createIndex (request : IndexRequest)
  | describeIndex (table : String)
  | dropIndex (table : String)
  | insert (insertion : Insertion)
  | search (search : Search)
  | searchInFiles (search : FileSearch)
  | deleteByRange (table : String) (range : DateRange)
  | command (c : ServerCommand)
  deriving DecidableEq

namespace Operation

open Wire (AssignError Datum Message Method)

/-- The method that an operation is sent by. -/
def method : Operation → Method
  | .createTable _ => .createTable
  | .hasTable _ => .hasTable
  | .dropTable _ => .dropTable
  | .describeTable _ => .describeTable
  | .showTables => .showTables
  | .countRows _ => .countTable
  | .preloadTable _ => .preloadTable
  | .createIndex _ => .createIndex
  | .describeIndex _ => .describeIndex
  | .dropIndex _ => .dropIndex
  | .insert _ => .insert
  | .search _ => .search
  | .searchInFiles _ => .searchInFiles
  | .deleteByRange _ _ => .deleteByRange
  | .command _ => .cmd

/-- The form of the payload of an operation. -/
def form : Operation → PayloadForm
  | .hasTable _ => .presence
  | .describeTable _ => .table
  | .showTables => .names
  | .countRows _ => .count
  | .describeIndex _ => .index
  | .insert _ => .ids
  | .search _ | .searchInFiles _ => .hits
  | _ => .nothing

/-- The name of an operation in log records. -/
def label : Operation → String
  | .createTable _ => "createTable"
  | .hasTable _ => "hasTable"
  | .dropTable _ => "dropTable"
  | .describeTable _ => "describeTable"
  | .showTables => "showTables"
  | .countRows _ => "countTable"
  | .preloadTable _ => "preloadTable"
  | .createIndex _ => "createIndex"
  | .describeIndex _ => "describeIndex"
  | .dropIndex _ => "dropIndex"
  | .insert _ => "insert"
  | .search _ => "search"
  | .searchInFiles _ => "searchInFiles"
  | .deleteByRange _ _ => "deleteByRange"
  | .command c => "command `" ++ c.word ++ "`"

/-! ## Requests -/

/-- An integer of a field of 64 bits. -/
def wide (n : Int) : Except AssignError Datum := Wire.assignInteger Wire.isInt64 (.int n)

/-- An integer of a field of 32 bits. -/
def narrow (n : Int) : Except AssignError Datum := Wire.assignInteger Wire.isInt32 (.int n)

/-- The request that holds one text. -/
def textRequest (s : String) : Message := [[.text s]]

/-- One vector, each component rounded to single precision. -/
def rowContents (row : List Binary64) : Message := [row.map fun x => .single x.toBinary32]

/-- Vectors in order. -/
def rowsContents (rows : Rows) : List Datum := rows.map fun row => .message (rowContents row)

/-- A range of dates. -/
def rangeContents (r : DateRange) : Message := [[.text r.first.wireText], [.text r.last.wireText]]

/-- A search. -/
def searchContents (s : Search) : Except AssignError Message := do
  let topK ← wide s.topK
  let probes ← wide s.probes
  return [[.text s.tableName], rowsContents s.rows,
    s.ranges.map fun r => .message (rangeContents r), [topK], [probes]]

/-- **The request of an operation**, unless an integer does not fit. -/
def request : Operation → Except AssignError Message
  | .createTable t => do
    let dimension ← wide t.dimension
    let indexFileSize ← wide t.indexFileSize
    return [[], [.text t.tableName], [dimension], [indexFileSize], [.int t.metric.number]]
  | .createIndex r => do
    let lists ← narrow r.index.lists
    return [[], [.text r.tableName], [.message [[.int r.index.kind.number], [lists]]]]
  | .insert i => do
    let ids ← i.ids.mapM wide
    return [[.text i.tableName], rowsContents i.rows, ids]
  | .search s => searchContents s
  | .searchInFiles s => do
    let inner ← searchContents s.search
    return [s.fileIds.map .text, [.message inner]]
  | .deleteByRange table range => .ok [[.message (rangeContents range)], [.text table]]
  | .showTables => .ok (textRequest "")
  | .command c => .ok (textRequest c.word)
  | .hasTable table | .dropTable table | .describeTable table | .countRows table
  | .preloadTable table | .describeIndex table | .dropIndex table => .ok (textRequest table)

/-! ## Payloads -/

/-- The definition of a table in a reply. -/
def replyTable (m : Message) : Checked TableSchema :=
  TableSchema.check
    [("table_name", .text (Datum.textOf (m.slot 1))), ("dimension", .int (Datum.intOf (m.slot 2))),
     ("index_file_size", .int (Datum.intOf (m.slot 3))),
     ("metric_type", .int (Datum.intOf (m.slot 4)))]

/-- The definition of an index in a reply; an absent one has the numbers zero. -/
def replyIndex (m : Message) : Checked Index :=
  let index := (Datum.messagesOf (m.slot 2)).headD []
  Index.check
    [("index_type", .int (Datum.intOf (index.slot 0))),
      ("nlist", .int (Datum.intOf (index.slot 1)))]

/-- One hit in a reply. -/
def replyHit (m : Message) : Hit := ⟨Datum.intOf (m.slot 0), Datum.realOf (m.slot 1)⟩

/-- The hits in a reply, in order. -/
def replyHits (m : Message) : List (List Hit) :=
  (Datum.messagesOf (m.slot 1)).map fun row => (Datum.messagesOf (row.slot 0)).map replyHit

/-- **The result of a reply that reports success.** -/
def success (op : Operation) (m : Message) : Checked Result :=
  match op with
  | .hasTable _ => .accept (.succeeded (.presence (Datum.boolOf (m.slot 1))))
  | .describeTable _ => (fun t => .succeeded (.table (some t))) <$> replyTable m
  | .showTables => .accept (.succeeded (.names (Datum.textsOf (m.slot 1))))
  | .countRows _ => .accept (.succeeded (.count (Datum.intOf (m.slot 1))))
  | .describeIndex _ => (fun i => .succeeded (.index (some i))) <$> replyIndex m
  | .insert _ => .accept (.succeeded (.ids (Datum.intsOf (m.slot 1))))
  | .search _ | .searchInFiles _ => .accept (.succeeded (.hits (replyHits m)))
  | .command _ => .accept ⟨.success, Datum.textOf (m.slot 1), .nothing⟩
  | _ => .accept (.succeeded .nothing)

end Operation

end VectorLink
