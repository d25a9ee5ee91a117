/-!
# What the library says about itself

Its version, and the names of the vocabulary that it offers to its callers, in the order in which it
introduces them: the client, its configuration, the parameters, the results, and the errors.
-/

namespace VectorLink.Release

/-- The version of the library. -/
def version : String := "0.1.0"

/-- The names for connecting and for the configuration. -/
def clientNames : List String :=
  ["MilvusClient", "connect", "ConnectionManager", "ConnectivityState", "ClientConfig", "LogLevel",
   "load_config"]

/-- The names of parameters. -/
def parameterNames : List String :=
  ["ConnectParam", "TableSchema", "MetricType", "Index", "IndexType", "CreateIndexParam",
   "InsertParam", "DateRange", "SearchParam", "SearchInFilesParam"]

/-- The names of results. -/
def resultNames : List String :=
  ["Status", "Response", "HasTableResponse", "DescribeTableResponse", "ShowTablesResponse",
   "GetTableRowCountResponse", "DescribeIndexResponse", "InsertResponse", "SearchResponse",
   "QueryResult"]

/-- The names of errors. -/
def errorNames : List String :=
  ["MilvusClientError", "ConnectError", "AlreadyConnectedError", "PortOutOfRangeError",
   "ConnectTimeoutError", "ConnectFailedError", "ConfigurationError"]

/-- **The whole vocabulary.** -/
def names : List String := clientNames ++ parameterNames ++ resultNames ++ errorNames

end VectorLink.Release
