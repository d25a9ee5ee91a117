import VectorLink.Validation.Coercion
import VectorLink.Value.Shown

/-!
# Vectors, and what is asked about them

Vectors are inserted and searched for in rows of components. A caller may hand in rows as lists or
as numeric arrays; arrays are brought to single precision first, since that is what a request
carries (`Rows.fromArrays`). A search may be confined to ranges of dates or to some files.
-/

namespace VectorLink

/-- The rows of vectors. -/
abbrev Rows := List (List Binary64)

namespace Rows

/-- The single precision value of an element. -/
def component (e : Element) : Value := .float e.toBinary32.toBinary64

end Rows

/-- The elements of an array as values in lists, one level of lists for each axis. -/
def nested (one : Element → Value) : List Nat → List Element → Value
  | [], es => (es.head?.map one).getD .none
  | n :: shape, es =>
    let size := shape.foldl (· * ·) 1
    .list ((List.range n).map fun i => nested one shape ((es.drop (i * size)).take size))

namespace Rows

/-- **Rows without arrays**: an array of two axes gives its rows, and an array in place of a row
gives that row. An array of another number of axes is refused. -/
def fromArrays : Value → Except Complaint Value
  | .array t =>
    if t.rank = 2 then .ok (nested component t.shape t.elements)
    else .error (.broken "Vector array must be 2-dimensional")
  | .list rows => .ok (.list (rows.map row))
  | .tuple rows => .ok (.list (rows.map row))
  | v => .ok v
where
  /-- A row without arrays. -/
  row : Value → Value
    | .array t => nested component t.shape t.elements
    | v => v

/-- **A reader of rows.** -/
def read : Reader Rows := fun v =>
  match fromArrays v with
  | .ok v => Reader.list (Reader.list Reader.real) v
  | .error c => .reject c

/-- How rows are shown. -/
def shown (rows : Rows) : Shown :=
  .plain (.list (rows.map fun row => .list (row.map .float)))

end Rows

/-- Integers as they are shown. -/
def shownIntegers (ns : List Int) : Shown := .plain (.list (ns.map .int))

/-- Texts as they are shown. -/
def shownTexts (ss : List String) : Shown := .plain (.list (ss.map .text))

/-- **A reader of ids.** The elements of an array become words of 64 bits. -/
def readIds : Reader (List Int)
  | .array t => Reader.list Reader.integer (nested (fun e => .int e.toWord) t.shape t.elements)
  | v => Reader.list Reader.integer v

/-- **Vectors to insert into a table**, with an id for each or with none. -/
structure Insertion where
  tableName : String
  rows : Rows
  ids : List Int
  deriving DecidableEq, Repr

namespace Insertion

/-- Whether there are no ids or as many as rows. -/
def isAligned (i : Insertion) : Bool := i.ids.isEmpty || i.ids.length = i.rows.length

/-- The insertion that some arguments give. -/
def check (args : Arguments) : Checked Insertion :=
  (mk <$> args.required "table_name" Reader.nonemptyText
      <*> args.required "vectors" Rows.read
      <*> args.optional "vector_ids" [] readIds).ensure isAligned fun i =>
    .broken ("Got " ++ toString i.ids.length ++ " vector ids for "
      ++ toString i.rows.length ++ " vectors")

/-- How an insertion is shown. -/
def shown (i : Insertion) : Shown :=
  .record "InsertParam"
    [("table_name", .plain (.text i.tableName)), ("vectors", i.rows.shown),
     ("vector_ids", shownIntegers i.ids)]

end Insertion

/-- **An inclusive range of dates.** Nothing keeps the first date from being the later one. -/
structure DateRange where
  first : Date
  last : Date
  deriving DecidableEq

namespace DateRange

/-- The range that some arguments give. -/
def check (args : Arguments) : Checked DateRange :=
  mk <$> args.required "start_date" Reader.date <*> args.required "end_date" Reader.date

/-- How a range is shown. -/
def shown (r : DateRange) : Shown :=
  .record "DateRange" [("start_date", .plain (.date r.first)), ("end_date", .plain (.date r.last))]

end DateRange

/-- **A search for the nearest neighbours of some vectors.** -/
structure Search where
  tableName : String
  rows : Rows
  ranges : List DateRange
  /-- The number of hits wanted for each vector. -/
  topK : Int
  /-- The number of lists of the index to look into. -/
  probes : Int
  deriving DecidableEq

namespace Search

/-- The search that some arguments give. -/
def check (args : Arguments) : Checked Search :=
  mk <$> args.required "table_name" Reader.nonemptyText
    <*> args.required "query_vectors" Rows.read
    <*> args.optional "date_ranges" []
      (Reader.list (Reader.record "DateRange" DateRange.check))
    <*> args.optional "top_k" 1024 Reader.positive
    <*> args.optional "nprobe" 20 Reader.positive

/-- How a search is shown. -/
def shown (s : Search) : Shown :=
  .record "SearchParam"
    [("table_name", .plain (.text s.tableName)), ("query_vectors", s.rows.shown),
     ("date_ranges", .list (s.ranges.map DateRange.shown)), ("top_k", .plain (.int s.topK)),
     ("nprobe", .plain (.int s.probes))]

end Search

/-- **A search confined to some index files.** -/
structure FileSearch where
  fileIds : List String
  search : Search
  deriving DecidableEq

namespace FileSearch

/-- The search that some arguments give. -/
def check (args : Arguments) : Checked FileSearch :=
  mk <$> args.required "file_ids" (Reader.list Reader.text)
    <*> args.required "search_param" (Reader.record "SearchParam" Search.check)

/-- How a search is shown. -/
def shown (s : FileSearch) : Shown :=
  .record "SearchInFilesParam"
    [("file_ids", shownTexts s.fileIds), ("search_param", s.search.shown)]

end FileSearch

/-- **One hit of a search.** -/
structure Hit where
  id : Int
  distance : Binary64
  deriving DecidableEq, Repr

namespace Hit

/-- The hit that some arguments give. -/
def check (args : Arguments) : Checked Hit :=
  mk <$> args.required "vector_id" Reader.integer <*> args.required "distance" Reader.real

/-- How a hit is shown. -/
def shown (h : Hit) : Shown :=
  .record "QueryResult"
    [("vector_id", .plain (.int h.id)), ("distance", .plain (.float h.distance))]

end Hit

/-- A rectangle of cells, row by row. -/
structure Grid (α : Type) where
  rows : Nat
  columns : Nat
  cells : List α
  deriving DecidableEq, Repr

namespace Grid

/-- Rows of unequal length as a rectangle as wide as the longest, with a filler behind the
others. -/
def ofRows {α : Type} (filler : α) (rows : List (List α)) : Grid α :=
  let width := (rows.map List.length).foldl max 0
  ⟨rows.length, width,
    rows.flatMap fun row => row ++ List.replicate (width - row.length) filler⟩

end Grid

/-- The single that marks a missing distance. -/
def missingDistance : Binary32 := ⟨0x7FC00000⟩

/-- Why hits have no rectangles. -/
inductive GridFault where
  /-- An id has no word of 64 bits. -/
  | idTooLarge (id : Int)
  deriving DecidableEq, Repr

/-- What is said about a fault. -/
def GridFault.message : GridFault → String
  | .idTooLarge _ => "Python int too large to convert to C long"

/-- **The ids and distances of hits as two rectangles.** Missing hits have the id -1 and a distance
that is no number. The first id without a word of 64 bits is the fault if there is one. -/
def rectangles (hits : List (List Hit)) : Except GridFault (Grid Int × Grid Binary32) :=
  match (hits.flatten.find? fun h => !isWord h.id) with
  | some h => .error (.idTooLarge h.id)
  | none =>
    .ok (Grid.ofRows (-1) (hits.map (·.map Hit.id)),
      Grid.ofRows missingDistance (hits.map (·.map fun h => h.distance.toBinary32)))

end VectorLink
