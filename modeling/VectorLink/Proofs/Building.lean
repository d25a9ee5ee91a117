import VectorLink.Client.Operation

/-!
# What a request is put together from

A request holds the texts, vectors and dates of an operation as they are. Only an integer may not
fit: its field has 64 bits or 32. So an operation has a message that says what it asks for
(`Operation.message`), and a request is that message unless there is an integer that its field has
no room for. Then the first such integer is reported (`Operation.request_eq`).
-/

namespace VectorLink

open Wire (AssignError Datum Message isInt32 isInt64)

namespace Operation

/-! ## The integers of an operation -/

/-- The integers that go to fields of 64 bits, in the order of the request. -/
def wideIntegers : Operation → List Int
  | .createTable t => [t.dimension, t.indexFileSize]
  | .insert i => i.ids
  | .search s => [s.topK, s.probes]
  | .searchInFiles s => [s.search.topK, s.search.probes]
  | _ => []

/-- The integers that go to fields of 32 bits. -/
def narrowIntegers : Operation → List Int
  | .createIndex r => [r.index.lists]
  | _ => []

/-- **The first integer that its field has no room for.** -/
def misfit? (op : Operation) : Option Int :=
  (op.wideIntegers.find? fun n => !isInt64 n).or (op.narrowIntegers.find? fun n => !isInt32 n)

/-- **The integers of an operation fit their fields.** -/
def IntegersFit (op : Operation) : Prop :=
  (∀ n ∈ op.wideIntegers, isInt64 n = true) ∧ ∀ n ∈ op.narrowIntegers, isInt32 n = true

theorem misfit?_eq_none {op : Operation} : op.misfit? = none ↔ op.IntegersFit := by
  simp [misfit?, IntegersFit, Option.or_eq_none_iff, List.find?_eq_none]

/-! ## What an operation asks for -/

/-- The message of a search. -/
def searchMessage (s : Search) : Message :=
  [[.text s.tableName], rowsContents s.rows, s.ranges.map fun r => .message (rangeContents r),
    [.int s.topK], [.int s.probes]]

/-- **The message that says what an operation asks for.** -/
def message : Operation → Message
  | .createTable t =>
    [[], [.text t.tableName], [.int t.dimension], [.int t.indexFileSize], [.int t.metric.number]]
  | .createIndex r =>
    [[], [.text r.tableName], [.message [[.int r.index.kind.number], [.int r.index.lists]]]]
  | .insert i => [[.text i.tableName], rowsContents i.rows, i.ids.map .int]
  | .search s => searchMessage s
  | .searchInFiles s => [s.fileIds.map .text, [.message (searchMessage s.search)]]
  | .deleteByRange table range => [[.message (rangeContents range)], [.text table]]
  | .showTables => textRequest ""
  | .command c => textRequest c.word
  | .hasTable table | .dropTable table | .describeTable table | .countRows table
  | .preloadTable table | .describeIndex table | .dropIndex table => textRequest table

/-! ## Requests -/

theorem wide_eq (n : Int) :
    wide n = if isInt64 n then .ok (.int n) else .error (.outOfRange n) := rfl

/-- Integers of 64 bits, unless there is one that does not fit. -/
theorem mapM_wide (ns : List Int) :
    ns.mapM wide = match ns.find? fun n => !isInt64 n with
      | some n => .error (.outOfRange n)
      | none => .ok (ns.map .int) := by
  induction ns with
  | nil => rfl
  | cons n ns ih =>
    rw [List.mapM_cons, wide_eq, List.find?_cons]
    cases isInt64 n with
    | false => rfl
    | true =>
      show (do let rest ← ns.mapM wide; pure (Datum.int n :: rest)) = _
      rw [ih]
      cases ns.find? fun n => !isInt64 n <;> rfl

/-- The message of a search, unless an integer does not fit. -/
theorem searchContents_eq (s : Search) :
    searchContents s = match (Operation.search s).misfit? with
      | some n => .error (.outOfRange n)
      | none => .ok (searchMessage s) := by
  simp only [searchContents, wide_eq, misfit?, wideIntegers, narrowIntegers, List.find?_cons,
    List.find?_nil, Option.or_none]
  cases isInt64 s.topK <;> cases isInt64 s.probes <;> rfl

/-- **A request is the message of its operation**, or the first integer that does not fit. -/
theorem request_eq (op : Operation) :
    op.request = match op.misfit? with
      | some n => .error (.outOfRange n)
      | none => .ok op.message := by
  cases op with
  | createTable t =>
    simp only [request, wide_eq, misfit?, wideIntegers, narrowIntegers, List.find?_cons,
      List.find?_nil, Option.or_none]
    cases isInt64 t.dimension <;> cases isInt64 t.indexFileSize <;> rfl
  | createIndex r =>
    simp only [request, narrow, Wire.assignInteger, misfit?, wideIntegers, narrowIntegers,
      List.find?_cons, List.find?_nil, Option.none_or]
    cases isInt32 r.index.lists <;> rfl
  | insert i =>
    simp only [request, mapM_wide, misfit?, wideIntegers, narrowIntegers, List.find?_nil,
      Option.or_none]
    cases i.ids.find? fun n => !isInt64 n <;> rfl
  | search s => exact searchContents_eq s
  | searchInFiles s =>
    have hmisfit : (Operation.searchInFiles s).misfit? = (Operation.search s.search).misfit? := rfl
    rw [request, searchContents_eq, hmisfit]
    cases (Operation.search s.search).misfit? <;> rfl
  | _ => rfl

theorem request_eq_ok {op : Operation} (hfit : op.IntegersFit) : op.request = .ok op.message := by
  rw [request_eq, misfit?_eq_none.mpr hfit]

/-- An operation that is not sent has an integer that does not fit. -/
theorem request_eq_error {op : Operation} (hfit : ¬ op.IntegersFit) :
    ∃ n, op.misfit? = some n ∧ op.request = .error (.outOfRange n) := by
  rw [request_eq]
  cases hmisfit : op.misfit? with
  | none => exact absurd (misfit?_eq_none.mp hmisfit) hfit
  | some n => exact ⟨n, rfl, rfl⟩

end Operation

end VectorLink
