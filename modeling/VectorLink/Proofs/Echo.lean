import VectorLink.Proofs.Fidelity
import VectorLink.Proofs.Interpretation

/-!
# Definitions come back as they were sent

The definition of a table or of an index goes two ways that have nothing to do with each other. On
its way out it was validated by itself, each of its values is put into a field of a request, and
fields that hold zero are left out. On its way back it is a reply: a status is looked for first,
fields that are absent count as zero, and what they say is validated anew, since a caller is
promised valid definitions only.

Still the two ways fit together. A server that keeps the octets of a request and replies with them
when it is asked for the definition is understood, and the caller gets back what was sent, to the
last field (`Session.Reached.echoes`). A request has no status, which counts as success. The metric
or the kind of an index may be the invalid one, which is left out of the request because its number
is zero. And what validation demands of a definition in a reply is no more than what it granted to
the one that was sent.
-/

namespace VectorLink

/-! ## What is validated twice -/

theorem Metric.ofNumber_number (m : Metric) : Metric.ofNumber m.number = m := by cases m <;> rfl

theorem IndexKind.ofNumber_number (k : IndexKind) : IndexKind.ofNumber k.number = k := by
  cases k <;> rfl

/-- **An accepted table has a name.** -/
theorem TableSchema.check_named {args : Arguments} {t : TableSchema} (h : check args = .ok t) :
    t.tableName ≠ "" := by
  obtain ⟨_, _, h₁, -, rfl⟩ := Checked.seq_eq_ok h
  obtain ⟨_, _, h₂, -, rfl⟩ := Checked.seq_eq_ok h₁
  obtain ⟨_, _, h₃, -, rfl⟩ := Checked.seq_eq_ok h₂
  obtain ⟨name, hname, rfl⟩ := Checked.map_eq_ok h₃
  obtain ⟨v, hv⟩ := Arguments.required_eq_ok hname
  have hsome := (Checked.ensure_eq_ok hv).2
  rintro rfl
  cases hsome

namespace Operation

/-- **The message of a table holds that table**, also if its metric has the number zero. -/
theorem tableOf_message (t : TableSchema) : tableOf (createTable t).message = t := by
  show TableSchema.mk t.tableName t.dimension t.indexFileSize (.ofNumber t.metric.number) = t
  rw [Metric.ofNumber_number]

/-- The message of an index holds that index, also if its kind has the number zero. -/
theorem indexOf_message (r : IndexRequest) : indexOf (createIndex r).message = r.index := by
  show Index.mk (.ofNumber r.index.kind.number) r.index.lists = r.index
  rw [IndexKind.ofNumber_number]

end Operation

/-! ## Definitions -/

/-- **What is defined on a server** and may be asked for later. -/
inductive Definition where
  | table (schema : TableSchema)
  | index (request : IndexRequest)
  deriving DecidableEq, Repr

namespace Definition

/-- The operation that makes the server keep a definition. -/
def creation : Definition → Operation
  | .table t => .createTable t
  | .index r => .createIndex r

/-- The operation that asks for a definition by the name of a table. -/
def description (table : String) : Definition → Operation
  | .table _ => .describeTable table
  | .index _ => .describeIndex table

/-- The payload that a caller is to be given. -/
def payload : Definition → Payload
  | .table t => .table (some t)
  | .index r => .index (some r.index)

variable {d : Definition} {table : String}

/-- A request for a definition is laid out like the reply that tells it. -/
theorem request_eq_reply (d : Definition) (table : String) :
    d.creation.method.request = (d.description table).method.reply := by
  cases d <;> rfl

theorem integersFit_description (d : Definition) (table : String) :
    (d.description table).IntegersFit := by
  cases d <;> exact ⟨List.forall_mem_nil _, List.forall_mem_nil _⟩

/-- The message of a definition says nothing about how a call went, which counts as success. -/
theorem codeOf_message (d : Definition) (table : String) :
    (d.description table).codeOf d.creation.message = 0 := by
  cases d <;> rfl

/-- **What was accepted once is accepted again** when it comes back. -/
theorem sensible_message (hop : d.creation.Accepted) (table : String) :
    (d.description table).Sensible d.creation.message := by
  cases d with
  | table t =>
    obtain ⟨_, h⟩ := hop
    show (Operation.tableOf (Operation.createTable t).message).tableName ≠ "" ∧ _
    rw [creation, Operation.tableOf_message]
    exact ⟨TableSchema.check_named h, TableSchema.check_eq_ok h⟩
  | index r =>
    obtain ⟨_, h⟩ := hop
    show 0 < (Operation.indexOf (Operation.createIndex r).message).lists
    rw [Operation.indexOf_message]
    exact IndexRequest.check_eq_ok h

theorem payloadOf_message (d : Definition) (table : String) :
    (d.description table).payloadOf d.creation.message = d.payload := by
  cases d with
  | table t => exact congrArg (Payload.table <| some ·) (Operation.tableOf_message t)
  | index r => exact congrArg (Payload.index <| some ·) (Operation.indexOf_message r)

/-- **A definition is read as it was put together.** -/
theorem interpret_message (hop : d.creation.Accepted) (hfit : d.creation.IntegersFit)
    (table : String) :
    (d.description table).interpret (.reply d.creation.message) = .succeeded d.payload := by
  have hfits : Wire.contentsFit (d.description table).method.reply.fields d.creation.message
      = true := by
    rw [← request_eq_reply]
    exact Operation.fits_message hfit
  rw [Operation.interpret_success hfits (codeOf_message d table),
    if_pos (Operation.complaints_eq_nil.mpr (sensible_message hop table)), payloadOf_message]
  cases d <;> rfl

end Definition

/-! ## The way there and back -/

namespace Session

variable {s : Session} {m : Nat}

/-- A manager that is connected and has its calls bound has an open channel to issue them on. -/
theorem Reached.routed (hs : s.Reached fun step => !step.rebindsByHand)
    (hcon : s.isConnected m = true) (hbound : (s.manager m).dispatcher?.isSome = true) :
    ∃ i, s.route? m = some i ∧ s.isOpen i = true := by
  obtain ⟨i, hcur, hadm, -, hopen⟩ := hs.open_of_connected hcon
  obtain ⟨j, hdisp⟩ := Option.isSome_iff_exists.mp hbound
  -- calls are bound to the link in use if to any
  obtain rfl : i = j := Option.some_inj.mp (hcur.symm.trans ((hs.wired.now m).dispatcher j hdisp))
  exact ⟨i, Scene.route?_eq_some.mpr ⟨hcon, hdisp, hadm⟩, hopen⟩

/-- **An operation of a connected client reads what its channel answers**, whatever that is, since
what comes of an answer fits. -/
theorem Reached.operate_reads (hs : s.Reached fun step => !step.rebindsByHand)
    (hcon : s.isConnected m = true) (hbound : (s.manager m).dispatcher?.isSome = true)
    {op : Operation} (hfit : op.IntegersFit) {response : Response} (hanswers : response.Answers)
    {steps : List Step} (hsteps : s.Undisturbed steps) :
    ∃ outcome, response.outcome op.method = .ok outcome ∧
      (Run.operate m op (Step.runAll steps) response s).1 = .ok (op.interpret outcome) ∧
        op.Reads outcome (op.interpret outcome) := by
  obtain ⟨i, hroute, hopen⟩ := hs.routed hcon hbound
  obtain ⟨result, hresult⟩ := Run.operate_ok hs.valid hcon hfit hanswers hsteps
  obtain ⟨outcome, houtcome, rfl⟩ := (Run.operate_open (Step.runAll steps) response hs.valid
    hroute (Operation.request_eq_ok hfit) hopen (Run.silent_runAll steps)).2 result hresult
  exact ⟨outcome, houtcome, hresult,
    Operation.reads_interpret (Response.fits_of_outcome houtcome)⟩

/-- An operation that is answered by octets comes to what they mean. -/
theorem Reached.operate_octets (hs : s.Reached fun step => !step.rebindsByHand)
    (hcon : s.isConnected m = true) (hbound : (s.manager m).dispatcher?.isSome = true)
    {op : Operation} (hfit : op.IntegersFit) {octets : Wire.Octets} {message : Wire.Message}
    (hread : op.method.reply.decode? octets = some message) {steps : List Step}
    (hsteps : s.Undisturbed steps) :
    (Run.operate m op (Step.runAll steps) (.octets octets) s).1
      = .ok (op.interpret (.reply message)) := by
  have hanswers : (Response.octets octets).Answers := trivial
  obtain ⟨outcome, houtcome, hresult, -⟩ := hs.operate_reads hcon hbound hfit hanswers hsteps
  rw [Response.outcome, hread] at houtcome
  cases houtcome
  exact hresult

/-- **A definition that a server echoes is the one that was sent to it.** Creating a table or an
index with accepted parameters sends one request. Whenever later a server answers with its octets to
the question for that definition, whichever table it is asked about, and in whatever session of the
client, the answer is a success with the definition that was sent, equal in every field. -/
theorem Reached.echoes (hs : s.Reached fun step => !step.rebindsByHand)
    (hcon : s.isConnected m = true) (hbound : (s.manager m).dispatcher?.isSome = true)
    {d : Definition} (hop : d.creation.Accepted) (hfit : d.creation.IntegersFit)
    (response : Response) (steps : List Step) :
    ∃ i octets, s.requestsUntil (Run.operate m d.creation (Step.runAll steps) response s).2
        = [⟨i, d.creation.method.path, octets⟩] ∧
      (octets.length < 2 ^ 64 → ∀ (s' : Session) (m' : Nat),
        s'.Reached (fun step => !step.rebindsByHand) → s'.isConnected m' = true →
          (s'.manager m').dispatcher?.isSome = true →
            ∀ (table : String) (steps' : List Step), s'.Undisturbed steps' →
              (Run.operate m' (d.description table) (Step.runAll steps') (.octets octets) s').1
                = .ok (.succeeded d.payload)) := by
  obtain ⟨i, hroute, hopen⟩ := hs.routed hcon hbound
  obtain ⟨hsent, -⟩ := Run.operate_open (Step.runAll steps) response hs.valid hroute
    (Operation.request_eq_ok hfit) hopen (Run.silent_runAll steps)
  refine ⟨i, _, hsent.requestsUntil_eq, fun hlength s' m' hs' hcon' hbound' table steps' h' => ?_⟩
  have hread : (d.description table).method.reply.decode?
      (d.creation.method.request.encode d.creation.message) = some d.creation.message := by
    rw [← Definition.request_eq_reply]
    exact Wire.Schema.decode?_encode d.creation.method.isNumbered_request
      (Operation.fits_message hfit) hlength
  rw [hs'.operate_octets hcon' hbound' (d.integersFit_description table) hread h',
    d.interpret_message hop hfit]

/-- A table whose metric is none that is known, and whose sizes are as large as they may be. -/
def oddTable : TableSchema := ⟨"odd", 2 ^ 63 - 1, 2 ^ 63 - 1, .invalid⟩

def oddTableArguments : Arguments :=
  [("table_name", .text "odd"), ("dimension", .int (2 ^ 63 - 1)),
    ("index_file_size", .int (2 ^ 63 - 1)), ("metric_type", .int 9)]

/-- The odd table is created and described in the same session. -/
theorem echoes_odd : let s := (withClient .bare .standard).after Run.promptSteps
    ∃ i octets, TableSchema.check oddTableArguments = .ok oddTable ∧
      s.requestsUntil (Run.operate 0 (.createTable oddTable) (Step.runAll []) (.octets []) s).2
        = [⟨i, Wire.Method.createTable.path, octets⟩] ∧
      (Run.operate 0 (.describeTable "other") (Step.runAll []) (.octets octets) s).1
        = .ok (.succeeded (.table (some oddTable))) := by
  intro s
  have hreached : s.Reached fun step => !step.rebindsByHand :=
    ⟨_, Run.promptSteps, ⟨.bare, .standard, .inl rfl⟩, by decide, List.mem_cons_self⟩
  have hcon : s.isConnected 0 = true := by decide +kernel
  have hbound : (s.manager 0).dispatcher?.isSome = true := by decide +kernel
  have hcheck : TableSchema.check oddTableArguments = .ok oddTable := by rfl
  have hop : (Definition.table oddTable).creation.Accepted := ⟨_, hcheck⟩
  have hfit : (Definition.table oddTable).creation.IntegersFit :=
    hop.integersFit.mpr ⟨by decide, by decide⟩
  have hshort : ∀ r ∈ s.requestsUntil (Run.operate 0 (Definition.table oddTable).creation
      (Step.runAll []) (.octets []) s).2, r.octets.length < 2 ^ 64 := by decide +kernel
  obtain ⟨i, octets, hsent, hecho⟩ := hreached.echoes hcon hbound hop hfit (.octets []) []
  rw [hsent, List.forall_mem_singleton] at hshort
  exact ⟨i, octets, hcheck, hsent, hecho hshort s 0 hreached hcon hbound "other" []
    ⟨List.forall_mem_nil _, fun h => absurd rfl h⟩⟩

end Session

end VectorLink
