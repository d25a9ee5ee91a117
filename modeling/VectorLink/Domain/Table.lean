import VectorLink.Validation.Coercion
import VectorLink.Value.Shown

/-!
# Tables and indexes

A table holds vectors of one dimension and compares them by one metric; an index speeds up searching
it. Both are defined by a caller, sent to the server, and read back from its replies, so both are
validated in either direction by the same rules.
-/

namespace VectorLink

/-- The metric by which a table compares vectors. -/
inductive Metric where
  | invalid
  | l2
  | ip
  deriving DecidableEq, Repr

namespace Metric

/-- The number of a metric. -/
def number : Metric → Int
  | .invalid => 0
  | .l2 => 1
  | .ip => 2

/-- The name of a metric. -/
def name : Metric → String
  | .invalid => "INVALID"
  | .l2 => "L2"
  | .ip => "IP"

/-- The metric of a number; a number of no metric is an invalid one. -/
def ofNumber (n : Int) : Metric :=
  if n = 1 then .l2 else if n = 2 then .ip else .invalid

/-- How a metric is shown. -/
def shown (m : Metric) : Shown := .member "MetricType" m.name (.int m.number)

end Metric

/-- The kind of an index. -/
inductive IndexKind where
  | invalid
  | flat
  | invertedFlat
  | invertedCompressed
  | graph
  deriving DecidableEq, Repr

namespace IndexKind

/-- The number of an index kind. -/
def number : IndexKind → Int
  | .invalid => 0
  | .flat => 1
  | .invertedFlat => 2
  | .invertedCompressed => 3
  | .graph => 4

/-- The name of an index kind. -/
def name : IndexKind → String
  | .invalid => "INVALID"
  | .flat => "FLAT"
  | .invertedFlat => "IVFLAT"
  | .invertedCompressed => "IVF_SQ8"
  | .graph => "MIX_NSG"

/-- The index kind of a number; a number of no kind is an invalid one. -/
def ofNumber (n : Int) : IndexKind :=
  if n = 1 then .flat
  else if n = 2 then .invertedFlat
  else if n = 3 then .invertedCompressed
  else if n = 4 then .graph
  else .invalid

/-- How an index kind is shown. -/
def shown (k : IndexKind) : Shown := .member "IndexType" k.name (.int k.number)

end IndexKind

/-- **The definition of a table.** -/
structure TableSchema where
  tableName : String
  dimension : Int
  /-- The size of an index file, in megabytes. -/
  indexFileSize : Int
  metric : Metric
  deriving DecidableEq, Repr

namespace TableSchema

/-- The definition that some arguments give. -/
def check (args : Arguments) : Checked TableSchema :=
  mk <$> args.required "table_name" Reader.nonemptyText
    <*> args.required "dimension" Reader.positive
    <*> args.optional "index_file_size" 1024 Reader.positive
    <*> args.optional "metric_type" .l2 (Reader.numbered Metric.ofNumber .invalid)

/-- How a definition is shown. -/
def shown (t : TableSchema) : Shown :=
  .record "TableSchema"
    [("table_name", .plain (.text t.tableName)), ("dimension", .plain (.int t.dimension)),
     ("index_file_size", .plain (.int t.indexFileSize)), ("metric_type", t.metric.shown)]

end TableSchema

/-- **The definition of an index.** -/
structure Index where
  kind : IndexKind
  /-- The number of lists that vectors are sorted into. -/
  lists : Int
  deriving DecidableEq, Repr

namespace Index

/-- The index that is built unless another is asked for. -/
def standard : Index := ⟨.flat, 16384⟩

/-- The definition that some arguments give. -/
def check (args : Arguments) : Checked Index :=
  mk <$> args.optional "index_type" standard.kind (Reader.numbered IndexKind.ofNumber .invalid)
    <*> args.optional "nlist" standard.lists Reader.positive

/-- How a definition is shown. -/
def shown (i : Index) : Shown :=
  .record "Index" [("index_type", i.kind.shown), ("nlist", .plain (.int i.lists))]

end Index

/-- **An index to build on a table.** -/
structure IndexRequest where
  tableName : String
  index : Index
  deriving DecidableEq, Repr

namespace IndexRequest

/-- The request that some arguments give. -/
def check (args : Arguments) : Checked IndexRequest :=
  mk <$> args.required "table_name" Reader.nonemptyText
    <*> args.optional "index" Index.standard (Reader.record "Index" Index.check)

/-- How a request is shown. -/
def shown (r : IndexRequest) : Shown :=
  .record "CreateIndexParam"
    [("table_name", .plain (.text r.tableName)), ("index", r.index.shown)]

end IndexRequest

end VectorLink
