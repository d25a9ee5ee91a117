import VectorLink.Value.Shown

/-!
# Statuses

Every operation of the client ends in a status. The numbers from zero on are the outcomes that the
server reports; the negative ones are produced by the client itself. Both live in one table of
numbers, so a number is looked up without regard to where it came from (`Status.ofNumber`).
-/

namespace VectorLink

/-- **The status of an operation.** -/
inductive Status where
  /-- An outcome that is no other status, or a reply that makes no sense. -/
  | unknown
  /-- The call was not issued, because the channel was not ready or shut down. -/
  | notConnected
  /-- The call itself failed. -/
  | callFailed
  /-- Running calls outlasted the wait for them. -/
  | shutdownTimeout
  | success
  | unexpectedError
  | connectFailed
  | permissionDenied
  | tableNotExists
  | illegalArgument
  | illegalRange
  | illegalDimension
  | illegalIndexType
  | illegalTableName
  | illegalTopk
  | illegalRowrecord
  | illegalVectorId
  | illegalSearchResult
  | fileNotFound
  | metaFailed
  | cacheFailed
  | cannotCreateFolder
  | cannotCreateFile
  | cannotDeleteFolder
  | cannotDeleteFile
  | buildIndexError
  | illegalNlist
  | illegalMetricType
  | outOfMemory
  deriving DecidableEq, Repr

namespace Status

/-- The number of a status. -/
def number : Status → Int
  | .unknown => -3
  | .notConnected => -2
  | .callFailed => -1
  | .shutdownTimeout => -4
  | .success => 0
  | .unexpectedError => 1
  | .connectFailed => 2
  | .permissionDenied => 3
  | .tableNotExists => 4
  | .illegalArgument => 5
  | .illegalRange => 6
  | .illegalDimension => 7
  | .illegalIndexType => 8
  | .illegalTableName => 9
  | .illegalTopk => 10
  | .illegalRowrecord => 11
  | .illegalVectorId => 12
  | .illegalSearchResult => 13
  | .fileNotFound => 14
  | .metaFailed => 15
  | .cacheFailed => 16
  | .cannotCreateFolder => 17
  | .cannotCreateFile => 18
  | .cannotDeleteFolder => 19
  | .cannotDeleteFile => 20
  | .buildIndexError => 21
  | .illegalNlist => 22
  | .illegalMetricType => 23
  | .outOfMemory => 24

/-- The name of a status. -/
def name : Status → String
  | .unknown => "UNKNOWN"
  | .notConnected => "CLIENT_NOT_CONNECTED"
  | .callFailed => "RPC_ERROR"
  | .shutdownTimeout => "SHUTDOWN_TIMEOUT"
  | .success => "SUCCESS"
  | .unexpectedError => "UNEXPECTED_ERROR"
  | .connectFailed => "CONNECT_FAILED"
  | .permissionDenied => "PERMISSION_DENIED"
  | .tableNotExists => "TABLE_NOT_EXISTS"
  | .illegalArgument => "ILLEGAL_ARGUMENT"
  | .illegalRange => "ILLEGAL_RANGE"
  | .illegalDimension => "ILLEGAL_DIMENSION"
  | .illegalIndexType => "ILLEGAL_INDEX_TYPE"
  | .illegalTableName => "ILLEGAL_TABLE_NAME"
  | .illegalTopk => "ILLEGAL_TOPK"
  | .illegalRowrecord => "ILLEGAL_ROWRECORD"
  | .illegalVectorId => "ILLEGAL_VECTOR_ID"
  | .illegalSearchResult => "ILLEGAL_SEARCH_RESULT"
  | .fileNotFound => "FILE_NOT_FOUND"
  | .metaFailed => "META_FAILED"
  | .cacheFailed => "CACHE_FAILED"
  | .cannotCreateFolder => "CANNOT_CREATE_FOLDER"
  | .cannotCreateFile => "CANNOT_CREATE_FILE"
  | .cannotDeleteFolder => "CANNOT_DELETE_FOLDER"
  | .cannotDeleteFile => "CANNOT_DELETE_FILE"
  | .buildIndexError => "BUILD_INDEX_ERROR"
  | .illegalNlist => "ILLEGAL_NLIST"
  | .illegalMetricType => "ILLEGAL_METRIC_TYPE"
  | .outOfMemory => "OUT_OF_MEMORY"

/-- All statuses. -/
def all : List Status :=
  [.unknown, .notConnected, .callFailed, .shutdownTimeout, .success, .unexpectedError,
   .connectFailed, .permissionDenied, .tableNotExists, .illegalArgument, .illegalRange,
   .illegalDimension, .illegalIndexType, .illegalTableName, .illegalTopk, .illegalRowrecord,
   .illegalVectorId, .illegalSearchResult, .fileNotFound, .metaFailed, .cacheFailed,
   .cannotCreateFolder, .cannotCreateFile, .cannotDeleteFolder, .cannotDeleteFile,
   .buildIndexError, .illegalNlist, .illegalMetricType, .outOfMemory]

/-- **The status of a number**; a number of no status is an unknown outcome. -/
def ofNumber (n : Int) : Status := (all.find? fun s => s.number == n).getD .unknown

/-- How a status is shown. -/
def shown (s : Status) : Shown := .member "Status" s.name (.int s.number)

end Status

end VectorLink
