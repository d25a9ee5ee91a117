import VectorLink.Wire.Schema

/-!
# The service

The messages and the methods of the vector table service. Requests and replies are messages of the
twenty schemas below; a method is a pair of them under a path.

The enumeration of outcomes is open: a reply may carry a number that is none of `outcomeCodes`, and
reading it back gives that number.
-/

namespace VectorLink.Wire

/-- The package of the service. -/
def packageName : String := "milvus.grpc"

/-- The name of the service in its package. -/
def serviceName : String := "MilvusService"

/-- The name of a message or enumeration with its package. -/
def fullName (name : String) : String := packageName ++ "." ++ name

/-- The name of the enumeration of outcomes. -/
def outcomeEnumeration : String := "ErrorCode"

/-- The outcomes that the service reports, in the order of their numbers. -/
def outcomeNames : List String :=
  ["SUCCESS", "UNEXPECTED_ERROR", "CONNECT_FAILED", "PERMISSION_DENIED", "TABLE_NOT_EXISTS",
   "ILLEGAL_ARGUMENT", "ILLEGAL_RANGE", "ILLEGAL_DIMENSION", "ILLEGAL_INDEX_TYPE",
   "ILLEGAL_TABLE_NAME", "ILLEGAL_TOPK", "ILLEGAL_ROWRECORD", "ILLEGAL_VECTOR_ID",
   "ILLEGAL_SEARCH_RESULT", "FILE_NOT_FOUND", "META_FAILED", "CACHE_FAILED",
   "CANNOT_CREATE_FOLDER", "CANNOT_CREATE_FILE", "CANNOT_DELETE_FOLDER", "CANNOT_DELETE_FILE",
   "BUILD_INDEX_ERROR", "ILLEGAL_NLIST", "ILLEGAL_METRIC_TYPE", "OUT_OF_MEMORY"]

/-- The outcomes with their numbers. -/
def outcomeCodes : List (String × Nat) := outcomeNames.zipIdx

namespace Schema

open FieldOf

/-- The outcome of a call, as the server reports it. -/
def status : Schema := ⟨"Status", [one "error_code" .code, one "reason" .text]⟩

/-- The name of a table. -/
def tableName : Schema := ⟨"TableName", [one "table_name" .text]⟩

/-- The names of all tables. -/
def tableNameList : Schema :=
  ⟨"TableNameList",
   [one "status" status.shape,
    many "table_names" .text]⟩

/-- The definition of a table, in a request and in a reply. -/
def tableSchema : Schema :=
  ⟨"TableSchema",
   [one "status" status.shape,
    one "table_name" .text,
    one "dimension" .int64,
    one "index_file_size" .int64,
    one "metric_type" .int32]⟩

/-- An inclusive range of dates. -/
def range : Schema := ⟨"Range", [one "start_value" .text, one "end_value" .text]⟩

/-- One vector. -/
def rowRecord : Schema := ⟨"RowRecord", [many "vector_data" .single]⟩

/-- Vectors to insert, with ids or without. -/
def insertParam : Schema :=
  ⟨"InsertParam",
   [one "table_name" .text,
    many "row_record_array" rowRecord.shape,
    many "row_id_array" .int64]⟩

/-- The ids of inserted vectors. -/
def vectorIds : Schema :=
  ⟨"VectorIds",
   [one "status" status.shape,
    many "vector_id_array" .int64]⟩

/-- Vectors to search for. -/
def searchParam : Schema :=
  ⟨"SearchParam",
   [one "table_name" .text,
    many "query_record_array" rowRecord.shape,
    many "query_range_array" range.shape,
    one "topk" .int64,
    one "nprobe" .int64]⟩

/-- A search confined to some files. -/
def searchInFilesParam : Schema :=
  ⟨"SearchInFilesParam",
   [many "file_id_array" .text,
    one "search_param" searchParam.shape]⟩

/-- One hit. -/
def queryResult : Schema := ⟨"QueryResult", [one "id" .int64, one "distance" .double]⟩

/-- The hits of one vector. -/
def topKQueryResult : Schema :=
  ⟨"TopKQueryResult",
   [many "query_result_arrays" queryResult.shape]⟩

/-- The hits of all vectors. -/
def topKQueryResultList : Schema :=
  ⟨"TopKQueryResultList",
   [one "status" status.shape,
    many "topk_query_result" topKQueryResult.shape]⟩

/-- A text in reply. -/
def stringReply : Schema := ⟨"StringReply", [one "status" status.shape, one "string_reply" .text]⟩

/-- A truth value in reply. -/
def boolReply : Schema := ⟨"BoolReply", [one "status" status.shape, one "bool_reply" .bool]⟩

/-- A number of rows in reply. -/
def tableRowCount : Schema :=
  ⟨"TableRowCount",
   [one "status" status.shape,
    one "table_row_count" .int64]⟩

/-- A command to the server. -/
def command : Schema := ⟨"Command", [one "cmd" .text]⟩

/-- The definition of an index. -/
def index : Schema := ⟨"Index", [one "index_type" .int32, one "nlist" .int32]⟩

/-- The index of a table, in a request and in a reply. -/
def indexParam : Schema :=
  ⟨"IndexParam",
   [one "status" status.shape,
    one "table_name" .text,
    one "index" index.shape]⟩

/-- A range of dates to delete from a table. -/
def deleteByRangeParam : Schema :=
  ⟨"DeleteByRangeParam",
   [one "range" range.shape,
    one "table_name" .text]⟩

/-- **All schemas of the service**, in the order of its description. -/
def all : List Schema :=
  [status, tableName, tableNameList, tableSchema, range, rowRecord, insertParam, vectorIds,
   searchParam, searchInFilesParam, queryResult, topKQueryResult, topKQueryResultList,
   stringReply, boolReply, tableRowCount, command, index, indexParam, deleteByRangeParam]

/-- The schema of a name. -/
def ofName? (name : String) : Option Schema := all.find? fun s => s.name == name

end Schema

/-- **The methods of the service.** -/
inductive Method where
  | createTable
  | hasTable
  | describeTable
  | countTable
  | showTables
  | dropTable
  | createIndex
  | describeIndex
  | dropIndex
  | insert
  | search
  | searchInFiles
  | cmd
  | deleteByRange
  | preloadTable
  deriving DecidableEq, Repr

namespace Method

/-- All methods, in the order of the service's description. -/
def all : List Method :=
  [.createTable, .hasTable, .describeTable, .countTable, .showTables, .dropTable, .createIndex,
   .describeIndex, .dropIndex, .insert, .search, .searchInFiles, .cmd, .deleteByRange,
   .preloadTable]

/-- The name of a method. -/
def name : Method → String
  | .createTable => "CreateTable"
  | .hasTable => "HasTable"
  | .describeTable => "DescribeTable"
  | .countTable => "CountTable"
  | .showTables => "ShowTables"
  | .dropTable => "DropTable"
  | .createIndex => "CreateIndex"
  | .describeIndex => "DescribeIndex"
  | .dropIndex => "DropIndex"
  | .insert => "Insert"
  | .search => "Search"
  | .searchInFiles => "SearchInFiles"
  | .cmd => "Cmd"
  | .deleteByRange => "DeleteByRange"
  | .preloadTable => "PreloadTable"

/-- The schema of the requests of a method. -/
def request : Method → Schema
  | .createTable => .tableSchema
  | .hasTable => .tableName
  | .describeTable => .tableName
  | .countTable => .tableName
  | .showTables => .command
  | .dropTable => .tableName
  | .createIndex => .indexParam
  | .describeIndex => .tableName
  | .dropIndex => .tableName
  | .insert => .insertParam
  | .search => .searchParam
  | .searchInFiles => .searchInFilesParam
  | .cmd => .command
  | .deleteByRange => .deleteByRangeParam
  | .preloadTable => .tableName

/-- The schema of the replies of a method. -/
def reply : Method → Schema
  | .createTable => .status
  | .hasTable => .boolReply
  | .describeTable => .tableSchema
  | .countTable => .tableRowCount
  | .showTables => .tableNameList
  | .dropTable => .status
  | .createIndex => .status
  | .describeIndex => .indexParam
  | .dropIndex => .status
  | .insert => .vectorIds
  | .search => .topKQueryResultList
  | .searchInFiles => .topKQueryResultList
  | .cmd => .stringReply
  | .deleteByRange => .status
  | .preloadTable => .status

/-- The method of a name. -/
def ofName? (name : String) : Option Method := all.find? fun m => m.name == name

/-- The path of a method name. -/
def pathOfName (name : String) : String := "/" ++ fullName serviceName ++ "/" ++ name

/-- **The path under which a method is called.** -/
def path (m : Method) : String := pathOfName m.name

end Method

end VectorLink.Wire
