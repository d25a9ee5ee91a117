import VectorLink.Scenario.Run

/-!
# Reports

The history of a session is one list, in which activities are bracketed by their beginnings and
ends. A report is what one activity shows: its answer, what it did itself, and the reports of the
activities inside it (`Report.ofHistory`). Whatever happens inside an inner activity belongs to that
one alone.
-/

namespace VectorLink

/-- A request that reached a channel. -/
structure SentRequest where
  link : Nat
  path : String
  request : Wire.Octets
  deriving DecidableEq, Repr

/-- A log record. -/
structure LogRecord where
  source : LogSource
  level : LogLevel
  message : String
  deriving DecidableEq, Repr

/-- **What one activity shows.** -/
structure Report where
  answer : Except Failure Answer
  /-- The pauses of the client, in seconds. -/
  pauses : List Binary64
  /-- The longest times that running calls were waited for. -/
  waits : List Value
  requests : List SentRequest
  logs : List LogRecord
  inner : List Report
  /-- What could be seen afterwards. -/
  seen : Snapshot

namespace Report

/-- The report of an activity at its beginning. Only its end gives its answer and what is seen. -/
def blank : Report := ⟨.ok .nothing, [], [], [], [], [], (Session.empty .bare).snapshot⟩

/-- A report with one more event of its own, where lists have the latest first. -/
def add (r : Report) : Event → Report
  | .paused seconds => { r with pauses := seconds :: r.pauses }
  | .waited timeout => { r with waits := timeout :: r.waits }
  | .called link path request => { r with requests := ⟨link, path, request⟩ :: r.requests }
  | .logged source level message => { r with logs := ⟨source, level, message⟩ :: r.logs }
  | _ => r

/-- The finished report of an activity. -/
def finish (r : Report) (answer : Except Failure Answer) (seen : Snapshot) : Report :=
  { answer := answer
    pauses := r.pauses.reverse
    waits := r.waits.reverse
    requests := r.requests.reverse
    logs := r.logs.reverse
    inner := r.inner.reverse
    seen := seen }

/-- The reports of the activities that are open after some events, innermost first. The last one
stands for the session as a whole. -/
def follow (opened : List Report) (event : Event) : List Report :=
  match event, opened with
  | .began _, opened => blank :: opened
  | .ended answer seen, r :: outer :: rest =>
    { outer with inner := r.finish answer seen.snapshot :: outer.inner } :: rest
  | event, r :: rest => r.add event :: rest
  | _, [] => []

/-- **The reports that a history tells**, given latest event first. -/
def ofHistory (history : List Event) : List Report :=
  match history.reverse.foldl follow [blank] with
  | r :: _ => r.inner.reverse
  | [] => []

end Report

/-- Equal neighbours as one, with their number. -/
def runLengths {α : Type} [DecidableEq α] : List α → List (α × Nat)
  | [] => []
  | a :: rest =>
    match runLengths rest with
    | (b, n) :: more => if a = b then (b, n + 1) :: more else (a, 1) :: (b, n) :: more
    | [] => [(a, 1)]

namespace Session

/-- **Runs a scenario** in a session and tells what each of its steps showed. -/
def play (s : Session) (steps : List Step) : List Report :=
  Report.ofHistory ((Step.runAll steps) s).2.history

end Session

end VectorLink
