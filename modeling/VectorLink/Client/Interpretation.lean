import VectorLink.Client.Operation
import VectorLink.Config.Basic
import VectorLink.Domain.Outcome

/-!
# What an outcome means

Every outcome of a call gives exactly one result (`Operation.interpret`) and one log record
(`Operation.remark`). Both follow the same four cases: the call was not issued, it failed, the
server refused, or it succeeded, where a success whose payload makes no sense is an unknown outcome.
-/

namespace VectorLink

namespace Operation

open Wire (Message Verdict)

/-- The verdict of a reply to an operation. -/
def verdict (op : Operation) (m : Message) : Verdict :=
  (op.method.reply.verdict? m).getD .silent

/-- **The result of an operation**, from the outcome of its call. -/
def interpret (op : Operation) : CallOutcome → Result
  | .notIssued => .failed op.form .notConnected ""
  | .fault f => .failed op.form .callFailed f.describe
  | .reply m =>
    let verdict := op.verdict m
    if verdict.code = 0 then
      match op.success m with
      | .ok r => r
      | .error is => .failed op.form .unknown ("Malformed reply: " ++ issuesText is)
    else .failed op.form (.ofNumber verdict.code) verdict.reason

/-- A name between the quotes of log records. -/
def ticked (s : String) : String := "`" ++ s ++ "`"

/-- The text of a truth value. -/
def truthText (b : Bool) : String := (Value.bool b).plain

/-- What is logged about a success. -/
def praise (op : Operation) (r : Result) : String :=
  match op, r.payload with
  | .createTable t, _ => "Created table " ++ ticked t.tableName ++ " successfully!"
  | .hasTable table, .presence b => "hasTable " ++ ticked table ++ " = " ++ truthText b
  | .dropTable table, _ => "Dropped table " ++ ticked table ++ " successfully!"
  | .describeTable table, .table (some t) =>
    "Describe table " ++ ticked table ++ " returned: " ++ t.shown.text
  | .showTables, .names ns => "Current tables: " ++ (shownTexts ns).quoted
  | .countRows table, .count n => "Table " ++ ticked table ++ " has " ++ toString n ++ " rows"
  | .preloadTable table, _ => "Preloaded table " ++ ticked table ++ " successfully!"
  | .createIndex i, _ => "Created index for table " ++ ticked i.tableName ++ " successfully!"
  | .describeIndex table, .index (some i) =>
    "Describe index for table " ++ ticked table ++ " returned: " ++ i.shown.text
  | .dropIndex table, _ => "Dropped index for table " ++ ticked table ++ " successfully!"
  | .insert i, .ids ns =>
    "Inserted " ++ toString ns.length ++ " vectors to table " ++ ticked i.tableName
      ++ " successfully!"
  | .search _, .hits rows =>
    "Search completed successfully! Returned results for " ++ toString rows.length ++ " queries"
  | .searchInFiles s, _ =>
    "Search in files " ++ (shownTexts s.fileIds).quoted ++ " completed successfully!"
  | .deleteByRange table range, _ =>
    "Deleted vectors from table " ++ ticked table ++ " in range " ++ range.first.iso ++ ".."
      ++ range.last.iso ++ " successfully!"
  | .command c, _ => "Command " ++ ticked c.word ++ ": " ++ r.message
  | _, _ => ""

/-- **What is logged about the outcome of a call.** -/
def remark (op : Operation) : CallOutcome → LogLevel × String
  | .notIssued => (.warning, op.label ++ ": connection closed before the call was issued")
  | .fault f => (.error, op.label ++ " RPC failed: " ++ f.describe)
  | .reply m =>
    let verdict := op.verdict m
    if verdict.code = 0 then
      match op.success m with
      | .ok r => (.info, op.praise r)
      | .error is => (.error, op.label ++ " returned a malformed reply: " ++ issuesText is)
    else (.error, op.label ++ " failed: " ++ verdict.reason)

end Operation

end VectorLink
