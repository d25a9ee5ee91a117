import VectorLink.Proofs.Messages
import VectorLink.Proofs.Statuses

/-!
# What an outcome is read as

Operations differ in what they send and in what they bring back, but not in how they read an
outcome. A call that was not issued, a call that failed and a refusal by the server come to the same
kind of result for all of them, without a payload. Only a reply that reports success is read by the
operation itself, and there are just two operations that may find something wrong with it: those
that bring back a definition, since a definition is promised to be valid.

## What is said of a payload

A payload is not only computed from the reply, it is what the reply holds: the reply can be told
from it (`Operation.Carries`). So nothing of a list is dropped or reordered on the way, and no
default stands where a value was sent.
-/

namespace VectorLink

open Wire (Datum Message Shape contentsFit)

/-! ## Checks that come to a list of issues -/

/-- One issue with a field, if something is the case. -/
def Issue.when (p : Prop) [Decidable p] (field : String) (c : Complaint) : List Issue :=
  if p then [⟨[.field field], c⟩] else []

theorem Issue.when_eq_nil {p : Prop} [Decidable p] {field : String} {c : Complaint} :
    Issue.when p field c = [] ↔ ¬ p := by
  by_cases hp : p <;> simp [Issue.when, hp]

namespace Checked

variable {α β : Type}

/-- **A value with what is wrong with it**: it is accepted if nothing is. -/
def blamed (is : List Issue) (a : α) : Checked α := if is.isEmpty then .ok a else .error is

theorem blamed_of_ne_nil {is : List Issue} (his : is ≠ []) (a : α) : blamed is a = .error is := by
  cases is with
  | nil => exact absurd rfl his
  | cons i is => rfl

/-- The issues of two parts are those of both. -/
theorem seq_blamed (is js : List Issue) (f : α → β) (a : α) :
    blamed is f <*> blamed js a = blamed (is ++ js) (f a) := by
  cases is <;> cases js <;> simp [blamed] <;> rfl

theorem map_blamed (is : List Issue) (f : α → β) (a : α) :
    f <$> blamed is a = blamed is (f a) := by
  cases is <;> rfl

end Checked

namespace Arguments

variable {args : Arguments} {name : String}

/-- A text that has to be given is one, and only an empty one is wrong. -/
theorem required_nonemptyText {s : String} (h : args.get? name = some (.text s)) :
    args.required name Reader.nonemptyText = .blamed (Issue.when (s = "") name .emptyText) s := by
  rw [required, h]
  show Checked.within (.field name) (if !s.isEmpty then .ok s else .reject .emptyText) = _
  by_cases hs : s = ""
  · rw [hs]
    rfl
  · have hne : s.isEmpty = false := by simpa using hs
    rw [hne, Issue.when, if_neg hs]
    rfl

theorem within_positive (n : Int) :
    Checked.within (.field name) (Reader.positive (.int n))
      = .blamed (Issue.when (n ≤ 0) name (.outOfBound (.above 0))) n := by
  by_cases hn : n ≤ 0
  · have hread : Reader.positive (.int n) = .reject (.outOfBound (.above 0)) := by
      simp [Reader.positive, Reader.bounded, Reader.integer, Checked.accept, hn]
    rw [hread, Issue.when, if_pos hn]
    rfl
  · have hread : Reader.positive (.int n) = .ok n := by
      simp [Reader.positive, Reader.bounded, Reader.integer, Checked.accept, hn]
      rfl
    rw [hread, Issue.when, if_neg hn]
    rfl

/-- An integer that has to be given is one, and only one that is not above zero is wrong. -/
theorem required_positive {n : Int} (h : args.get? name = some (.int n)) :
    args.required name Reader.positive
      = .blamed (Issue.when (n ≤ 0) name (.outOfBound (.above 0))) n := by
  rw [required, h]
  exact within_positive n

theorem optional_positive {n default : Int} (h : args.get? name = some (.int n)) :
    args.optional name default Reader.positive
      = .blamed (Issue.when (n ≤ 0) name (.outOfBound (.above 0))) n := by
  rw [optional, h]
  exact within_positive n

/-- A number of 64 bits is never wrong for a member of an enumeration. -/
theorem optional_numbered {α : Type} {ofNumber : Int → α} {fallback default : α} {n : Int}
    (h : args.get? name = some (.int n)) (hn : isWord n = true) :
    args.optional name default (Reader.numbered ofNumber fallback) = .blamed [] (ofNumber n) := by
  rw [optional, h]
  show Checked.within (.field name)
    (if isWord n then .accept (ofNumber n) else .reject .integerTooLong) = _
  rw [if_pos hn]
  rfl

end Arguments

/-! ## Definitions in replies -/

/-- **The definition of a table that its values give**, with what is wrong with each of them. -/
theorem TableSchema.check_values (tableName : String) (dimension indexFileSize : Int)
    {metric : Int} (hmetric : isWord metric = true) :
    TableSchema.check [("table_name", .text tableName), ("dimension", .int dimension),
        ("index_file_size", .int indexFileSize), ("metric_type", .int metric)]
      = .blamed (Issue.when (tableName = "") "table_name" .emptyText
          ++ Issue.when (dimension ≤ 0) "dimension" (.outOfBound (.above 0))
          ++ Issue.when (indexFileSize ≤ 0) "index_file_size" (.outOfBound (.above 0)))
        ⟨tableName, dimension, indexFileSize, .ofNumber metric⟩ := by
  rw [TableSchema.check, Arguments.required_nonemptyText rfl, Arguments.required_positive rfl,
    Arguments.optional_positive rfl, Arguments.optional_numbered rfl hmetric, Checked.map_blamed,
    Checked.seq_blamed, Checked.seq_blamed, Checked.seq_blamed, List.append_nil]

/-- **The definition of an index that its values give**, with what is wrong with them. -/
theorem Index.check_values {kind : Int} (hkind : isWord kind = true) (lists : Int) :
    Index.check [("index_type", .int kind), ("nlist", .int lists)]
      = .blamed (Issue.when (lists ≤ 0) "nlist" (.outOfBound (.above 0)))
        ⟨.ofNumber kind, lists⟩ := by
  rw [Index.check, Arguments.optional_numbered rfl hkind, Arguments.optional_positive rfl,
    Checked.map_blamed, Checked.seq_blamed, List.nil_append]

namespace Operation

/-- The definition of a table that a reply holds. -/
def tableOf (m : Message) : TableSchema :=
  ⟨Datum.textOf (m.slot 1), Datum.intOf (m.slot 2), Datum.intOf (m.slot 3),
    .ofNumber (Datum.intOf (m.slot 4))⟩

/-- The message of the index in a reply, without fields if there is none. -/
def indexSlot (m : Message) : Message := (Datum.messagesOf (m.slot 2)).headD []

/-- The definition of an index that a reply holds. -/
def indexOf (m : Message) : Index :=
  ⟨.ofNumber (Datum.intOf ((indexSlot m).slot 0)), Datum.intOf ((indexSlot m).slot 1)⟩

/-- **What is wrong with a reply that reports success.** -/
def complaints (op : Operation) (m : Message) : List Issue :=
  match op with
  | .describeTable _ =>
    Issue.when ((tableOf m).tableName = "") "table_name" .emptyText
      ++ Issue.when ((tableOf m).dimension ≤ 0) "dimension" (.outOfBound (.above 0))
      ++ Issue.when ((tableOf m).indexFileSize ≤ 0) "index_file_size" (.outOfBound (.above 0))
  | .describeIndex _ => Issue.when ((indexOf m).lists ≤ 0) "nlist" (.outOfBound (.above 0))
  | _ => []

end Operation

/-! ## Replies by their parts -/

namespace Operation

/-- **Whether a reply that reports success makes sense**: a definition that it holds is a valid
one. -/
def Sensible (op : Operation) (m : Message) : Prop :=
  match op with
  | .describeTable _ =>
    (tableOf m).tableName ≠ "" ∧ 0 < (tableOf m).dimension ∧ 0 < (tableOf m).indexFileSize
  | .describeIndex _ => 0 < (indexOf m).lists
  | _ => True

theorem complaints_eq_nil {op : Operation} {m : Message} :
    op.complaints m = [] ↔ op.Sensible m := by
  cases op with
  | describeTable table =>
    simp only [complaints, Sensible, List.append_eq_nil_iff, Issue.when_eq_nil, not_le, and_assoc]
  | describeIndex table => simp only [complaints, Sensible, Issue.when_eq_nil, not_le]
  | _ => exact iff_of_true rfl trivial

/-- **The message in a reply that says how the call went**: the reply itself if it says nothing
else, and otherwise the one in its first field, without fields if there is none. -/
def statusOf (op : Operation) (m : Message) : Message :=
  match op with
  | .createTable _ | .dropTable _ | .preloadTable _ | .createIndex _ | .dropIndex _
  | .deleteByRange _ _ => m
  | _ => (Datum.messagesOf (m.slot 0)).headD []

/-- The number in a reply, zero if there is none. -/
def codeOf (op : Operation) (m : Message) : Int := Datum.intOf ((op.statusOf m).slot 0)

/-- The reason in a reply, empty if there is none. -/
def reasonOf (op : Operation) (m : Message) : String := Datum.textOf ((op.statusOf m).slot 1)

theorem verdict_eq (op : Operation) (m : Message) :
    op.verdict m = ⟨op.codeOf m, op.reasonOf m⟩ := by
  have hfirst : Wire.Verdict.ofFirstField m
      = .ofStatus ((Datum.messagesOf (m.slot 0)).headD []) := by
    rw [Wire.Verdict.ofFirstField]
    cases Datum.messagesOf (m.slot 0) <;> rfl
  cases op <;> first | rfl | exact hfirst

/-- The payload that a reply to an operation holds. -/
def payloadOf (op : Operation) (m : Message) : Payload :=
  match op with
  | .hasTable _ => .presence (Datum.boolOf (m.slot 1))
  | .describeTable _ => .table (some (tableOf m))
  | .showTables => .names (Datum.textsOf (m.slot 1))
  | .countRows _ => .count (Datum.intOf (m.slot 1))
  | .describeIndex _ => .index (some (indexOf m))
  | .insert _ => .ids (Datum.intsOf (m.slot 1))
  | .search _ | .searchInFiles _ => .hits (replyHits m)
  | _ => .nothing

/-- The text that a reply to an operation holds besides. -/
def textIn (op : Operation) (m : Message) : String :=
  match op with
  | .command _ => Datum.textOf (m.slot 1)
  | _ => ""

/-- The message of one hit. -/
def hitMessage (h : Hit) : Message := [[.int h.id], [.double h.distance]]

/-- **A reply holds a payload** of an operation: its fields hold what the payload is made of, as
many values and in the same order. -/
def Carries (op : Operation) (m : Message) (payload : Payload) : Prop :=
  match op, payload with
  | .hasTable _, .presence b => m.slot 1 = [.bool b]
  | .describeTable _, .table (some t) =>
    m.slot 1 = [.text t.tableName] ∧ m.slot 2 = [.int t.dimension]
      ∧ m.slot 3 = [.int t.indexFileSize]
      ∧ ∃ metric, m.slot 4 = [.int metric] ∧ t.metric = .ofNumber metric
  | .showTables, .names ns => m.slot 1 = ns.map .text
  | .countRows _, .count n => m.slot 1 = [.int n]
  | .describeIndex _, .index (some i) =>
    ∃ kind, m.slot 2 = [.message [[.int kind], [.int i.lists]]] ∧ i.kind = .ofNumber kind
  | .insert _, .ids ns => m.slot 1 = ns.map .int
  | .search _, .hits rows | .searchInFiles _, .hits rows =>
    m.slot 1 = rows.map fun row => .message [row.map fun h => .message (hitMessage h)]
  | op, .nothing => op.form = .nothing
  | _, _ => False

end Operation

/-! ## Replies that fit their schema -/

namespace Wire

/-- A message of one hit is that of a hit. -/
theorem exists_hit : ∀ v, Schema.queryResult.shape.fits v = true →
    ∃ h : Hit, .message (Operation.hitMessage h) = v := by
  intro v hv
  obtain ⟨m, rfl⟩ := Shape.exists_message v hv
  obtain ⟨_, _, rfl, hid, hv⟩ := contentsFit_cons_iff.mp hv
  obtain ⟨_, _, rfl, hdistance, hv⟩ := contentsFit_cons_iff.mp hv
  obtain rfl := contentsFit_nil_iff.mp hv
  obtain ⟨id, rfl⟩ := hid.exists_one (fun _ h => of_decide_eq_true h) Shape.exists_int64
  obtain ⟨distance, rfl⟩ := hdistance.exists_one (fun _ h => of_decide_eq_true h)
    Shape.exists_double
  exact ⟨⟨id, distance⟩, rfl⟩

/-- A message of the hits of one vector is that of a list of hits. -/
theorem exists_hits : ∀ v, Schema.topKQueryResult.shape.fits v = true →
    ∃ row : List Hit, .message [row.map fun h => .message (Operation.hitMessage h)] = v := by
  intro v hv
  obtain ⟨m, rfl⟩ := Shape.exists_message v hv
  obtain ⟨_, _, rfl, hrow, hv⟩ := contentsFit_cons_iff.mp hv
  obtain rfl := contentsFit_nil_iff.mp hv
  obtain ⟨row, rfl⟩ := hrow.exists_map exists_hit
  exact ⟨row, rfl⟩

end Wire

namespace Operation

open Wire (fits_slot)

variable {m : Message}

/-- **The hits of a reply** are all that its message holds. -/
theorem replyHits_eq {rows : List (List Hit)}
    (h : m.slot 1 = rows.map fun row => .message [row.map fun h => .message (hitMessage h)]) :
    replyHits m = rows := by
  have hrow : ∀ row : List Hit,
      (Datum.messagesOf (Wire.Message.slot [row.map fun h => .message (hitMessage h)] 0)).map
        replyHit = row := by
    intro row
    show (Datum.messagesOf (row.map fun h => .message (hitMessage h))).map replyHit = row
    rw [Wire.messagesOf_map, List.map_map]
    exact List.map_id row
  rw [replyHits, h, Wire.messagesOf_map, List.map_map]
  exact (List.map_congr_left fun row _ => hrow row).trans (List.map_id rows)

/-- An integer of 32 bits has a word of 64. -/
theorem isWord_intOf {values : List Datum} (hfits : Shape.int32.FitsField false values) :
    isWord (Datum.intOf values) = true := by
  obtain ⟨n, rfl⟩ := hfits.exists_one (fun _ h => of_decide_eq_true h) Shape.exists_int32
  have hn : Wire.isInt32 n = true := hfits.each _ (List.mem_singleton_self _)
  simp only [Wire.isInt32, isWord, Bool.and_eq_true, decide_eq_true_eq] at hn ⊢
  show -(2 ^ 63) ≤ n ∧ n < 2 ^ 63
  omega

/-- **An index of a reply** is absent, or it holds the values of its definition. -/
theorem slot_index (hfits : contentsFit Wire.Schema.indexParam.fields m = true) :
    m.slot 2 = [] ∨ ∃ kind lists, isWord kind = true
      ∧ m.slot 2 = [.message [[.int kind], [.int lists]]] := by
  have hslot : Wire.Schema.index.shape.FitsField false (m.slot 2) :=
    (fits_slot hfits (i := 2) rfl :)
  obtain ⟨ms, hms⟩ := hslot.exists_map Shape.exists_message
  rw [hms] at hslot ⊢
  match ms, hslot with
  | [], _ => exact .inl rfl
  | [index], hslot =>
    have hindex : contentsFit Wire.Schema.index.fields index = true :=
      hslot.each _ (List.mem_singleton_self _)
    obtain ⟨_, _, rfl, hkind, hindex⟩ := Wire.contentsFit_cons_iff.mp hindex
    obtain ⟨_, _, rfl, hlists, hindex⟩ := Wire.contentsFit_cons_iff.mp hindex
    obtain rfl := Wire.contentsFit_nil_iff.mp hindex
    have hword := isWord_intOf hkind
    obtain ⟨kind, rfl⟩ := hkind.exists_one (fun _ h => of_decide_eq_true h) Shape.exists_int32
    obtain ⟨lists, rfl⟩ := hlists.exists_one (fun _ h => of_decide_eq_true h) Shape.exists_int32
    exact .inr ⟨kind, lists, hword, rfl⟩
  | _ :: _ :: rest, hslot =>
    have hcount : (rest.map Datum.message).length + 1 + 1 ≤ 1 := of_decide_eq_true hslot.count
    omega

/-- **A payload of a reply is what the reply holds**, if nothing is wrong with it. -/
theorem carries_payloadOf {op : Operation} (hfits : contentsFit op.method.reply.fields m = true)
    (hsound : op.complaints m = []) : op.Carries m (op.payloadOf m) := by
  have hcount : ∀ count, decide (count = 1) = true → count = 1 := fun _ h => of_decide_eq_true h
  cases op with
  | hasTable table =>
    obtain ⟨b, hb⟩ := (fits_slot hfits (i := 1) rfl).exists_one hcount Shape.exists_bool
    show m.slot 1 = [.bool (Datum.boolOf (m.slot 1))]
    rw [hb]
    rfl
  | describeTable table =>
    obtain ⟨name, hname⟩ := (fits_slot hfits (i := 1) rfl).exists_one hcount Shape.exists_text
    obtain ⟨dimension, hdim⟩ := (fits_slot hfits (i := 2) rfl).exists_one hcount Shape.exists_int64
    obtain ⟨size, hsize⟩ := (fits_slot hfits (i := 3) rfl).exists_one hcount Shape.exists_int64
    obtain ⟨metric, hmetric⟩ :=
      (fits_slot hfits (i := 4) rfl).exists_one hcount Shape.exists_int32
    have htable : tableOf m = ⟨name, dimension, size, .ofNumber metric⟩ := by
      rw [tableOf, hname, hdim, hsize, hmetric]
      rfl
    rw [payloadOf, htable]
    exact ⟨hname, hdim, hsize, metric, hmetric, rfl⟩
  | showTables =>
    obtain ⟨names, hnames⟩ := (fits_slot hfits (i := 1) rfl).exists_map Shape.exists_text
    show m.slot 1 = (Datum.textsOf (m.slot 1)).map .text
    rw [hnames, Wire.textsOf_map]
  | countRows table =>
    obtain ⟨n, hn⟩ := (fits_slot hfits (i := 1) rfl).exists_one hcount Shape.exists_int64
    show m.slot 1 = [.int (Datum.intOf (m.slot 1))]
    rw [hn]
    rfl
  | describeIndex table =>
    have hlists : ¬ (indexOf m).lists ≤ 0 := Issue.when_eq_nil.mp hsound
    obtain hindex | ⟨kind, lists, -, hindex⟩ := slot_index hfits
    · -- an index that is absent has no lists
      rw [indexOf, indexSlot, hindex] at hlists
      exact absurd (Int.le_refl 0) hlists
    · have hdef : indexOf m = ⟨.ofNumber kind, lists⟩ := by
        rw [indexOf, indexSlot, hindex]
        rfl
      rw [payloadOf, hdef]
      exact ⟨kind, hindex, rfl⟩
  | insert insertion =>
    obtain ⟨ids, hids⟩ := (fits_slot hfits (i := 1) rfl).exists_map Shape.exists_int64
    show m.slot 1 = (Datum.intsOf (m.slot 1)).map .int
    rw [hids, Wire.intsOf_map]
  | search search =>
    obtain ⟨rows, hrows⟩ := (fits_slot hfits (i := 1) rfl).exists_map Wire.exists_hits
    show m.slot 1 = (replyHits m).map _
    rw [replyHits_eq hrows, hrows]
  | searchInFiles search =>
    obtain ⟨rows, hrows⟩ := (fits_slot hfits (i := 1) rfl).exists_map Wire.exists_hits
    show m.slot 1 = (replyHits m).map _
    rw [replyHits_eq hrows, hrows]
  | _ => rfl

/-- **A reply that reports success is read as its payload**, unless something is wrong with it. -/
theorem success_eq {op : Operation} (hfits : contentsFit op.method.reply.fields m = true) :
    op.success m = .blamed (op.complaints m) ⟨.success, op.textIn m, op.payloadOf m⟩ := by
  cases op with
  | describeTable table =>
    have hmetric : isWord (Datum.intOf (m.slot 4)) = true :=
      isWord_intOf (fits_slot hfits (i := 4) rfl)
    have htable := TableSchema.check_values (Datum.textOf (m.slot 1)) (Datum.intOf (m.slot 2))
      (Datum.intOf (m.slot 3)) hmetric
    show _ <$> replyTable m = _
    rw [replyTable, htable, Checked.map_blamed]
    rfl
  | describeIndex table =>
    have hkind : isWord (Datum.intOf ((indexSlot m).slot 0)) = true := by
      obtain hindex | ⟨kind, lists, hword, hindex⟩ := slot_index hfits
      · rw [indexSlot, hindex]
        rfl
      · rw [indexSlot, hindex]
        exact hword
    have hindex := Index.check_values hkind (Datum.intOf ((indexSlot m).slot 1))
    show _ <$> Index.check [("index_type", .int (Datum.intOf ((indexSlot m).slot 0))),
      ("nlist", .int (Datum.intOf ((indexSlot m).slot 1)))] = _
    rw [hindex, Checked.map_blamed]
    rfl
  | _ => rfl

end Operation

/-! ## Every outcome has one reading -/

/-- The name of the code of a fault. -/
def Fault.codeName (f : Fault) : String := (f.code?.map CallCode.name).getD "UNKNOWN"

/-- A fault in words: the name of its code, and what there is to tell besides. -/
def faultLine (codeName told : String) : String :=
  if told = "" then codeName else codeName ++ ": " ++ told

namespace CallError

/-- The details of an error as far as a handler sees them. -/
def seenDetails (e : CallError) : String := if e.style = .full then e.details?.getD "" else ""

/-- The name of the code of an error as far as a handler sees it. -/
def seenName (e : CallError) : String :=
  if e.style = .full then (e.code?.map CallCode.name).getD "UNKNOWN" else "UNKNOWN"

/-- **What a handler tells about an error**: its details, or its text in place of none. -/
def told (e : CallError) : String := if e.seenDetails = "" then e.text else e.seenDetails

end CallError

theorem Fault.describe_eq (f : Fault) : f.describe = faultLine f.codeName f.details := by
  unfold describe faultLine codeName
  by_cases h : f.details = "" <;> simp [h]

theorem Fault.describe_ofCallError (e : CallError) :
    (Fault.ofCallError e).describe = faultLine e.seenName e.told := by
  rw [describe_eq]
  obtain ⟨style, code?, details?, text?⟩ := e
  cases style with
  | full =>
    cases details? with
    | none =>
      simp [ofCallError, CallError.told, CallError.seenDetails, CallError.seenName, codeName]
    | some d =>
      by_cases hd : d = "" <;>
        simp [ofCallError, CallError.told, CallError.seenDetails, CallError.seenName, codeName, hd]
  | _ => simp [ofCallError, CallError.told, CallError.seenDetails, CallError.seenName, codeName]

/-- **An outcome fits a method**: its reply is a message of the method's replies. -/
def CallOutcome.Fits (method : Wire.Method) : CallOutcome → Prop
  | .reply m => contentsFit method.reply.fields m = true
  | _ => True

/-- **Whatever answers a call, its outcome fits.** -/
theorem Response.fits_of_outcome {method : Wire.Method} {response : Response}
    {outcome : CallOutcome} (h : response.outcome method = .ok outcome) : outcome.Fits method := by
  cases response with
  | octets bs =>
    rw [Response.outcome] at h
    cases hread : method.reply.decode? bs with
    | none =>
      rw [hread] at h
      cases h
      trivial
    | some m =>
      rw [hread] at h
      cases h
      exact Wire.Schema.fits_of_decode? hread
  | callError e =>
    cases h
    trivial
  | raises r =>
    rw [Response.outcome] at h
    split at h
    · cases h
      trivial
    · cases h

namespace Operation

/-- **A result reads an outcome** of an operation. -/
structure Reads (op : Operation) (outcome : CallOutcome) (r : Result) : Prop where
  /-- The result has the form of the operation. -/
  form : r.payload.form = op.form
  /-- Only a success has a payload, whatever the reply holds. -/
  empty : r.status ≠ .success → r.payload = op.form.empty
  notIssued : outcome = .notIssued → r.status = .notConnected ∧ r.message = ""
  fault : ∀ f, outcome = .fault f →
    r.status = .callFailed ∧ r.message = faultLine f.codeName f.details
  /-- The name stands alone only if neither the details nor the text of the error say anything. -/
  callError : ∀ e, outcome = .fault (.ofCallError e) → r.message = faultLine e.seenName e.told
  /-- A refusal has the status of its number, or is unknown, and its reason is handed on. -/
  refused : ∀ m, outcome = .reply m → op.codeOf m ≠ 0 → r.message = op.reasonOf m ∧
    (∀ a : Status, a.number = op.codeOf m → r.status = a) ∧
    ((∀ a : Status, a.number ≠ op.codeOf m) → r.status = .unknown)
  /-- A success is what the reply holds, unless something is wrong with it. -/
  succeeded : ∀ m, outcome = .reply m → op.codeOf m = 0 → op.Sensible m →
    r.status = .success ∧ r.message = op.textIn m ∧ op.Carries m r.payload
  malformed : ∀ m, outcome = .reply m → op.codeOf m = 0 → ¬ op.Sensible m →
    r.status = .unknown ∧ r.message = "Malformed reply: " ++ issuesText (op.complaints m)

theorem form_empty (form : PayloadForm) : form.empty.form = form := by
  cases form <;> rfl

theorem form_payloadOf (op : Operation) (m : Message) : (op.payloadOf m).form = op.form := by
  cases op <;> rfl

variable {op : Operation} {m : Message}

/-- A refusal is read as the status of its number. -/
theorem interpret_refused (hcode : op.codeOf m ≠ 0) :
    op.interpret (.reply m) = .failed op.form (.ofNumber (op.codeOf m)) (op.reasonOf m) := by
  rw [interpret, verdict_eq]
  exact if_neg hcode

/-- A report of success is read as the payload, or as unknown with what is wrong. -/
theorem interpret_success (hfits : contentsFit op.method.reply.fields m = true)
    (hcode : op.codeOf m = 0) :
    op.interpret (.reply m) = if op.complaints m = [] then ⟨.success, op.textIn m, op.payloadOf m⟩
      else .failed op.form .unknown ("Malformed reply: " ++ issuesText (op.complaints m)) := by
  rw [interpret, verdict_eq]
  simp only [hcode, if_true, success_eq hfits]
  by_cases hnil : op.complaints m = []
  · rw [if_pos hnil, hnil]
    rfl
  · rw [if_neg hnil, Checked.blamed_of_ne_nil hnil]

theorem reads_refused (hcode : op.codeOf m ≠ 0) :
    op.Reads (.reply m) (.failed op.form (.ofNumber (op.codeOf m)) (op.reasonOf m)) := by
  refine ⟨form_empty _, fun _ => rfl, nofun, nofun, fun _ h => (nomatch h), ?_, ?_, ?_⟩
  · rintro _ ⟨⟩ -
    refine ⟨rfl, fun a ha => ?_, fun hnone => ?_⟩
    · rw [← ha]
      exact Status.ofNumber_number a
    · by_contra hne
      exact hnone _ (Status.number_of_ofNumber rfl hne).symm
  · rintro _ ⟨⟩ hzero
    exact absurd hzero hcode
  · rintro _ ⟨⟩ hzero
    exact absurd hzero hcode

theorem reads_payload (hfits : contentsFit op.method.reply.fields m = true)
    (hcode : op.codeOf m = 0) (hsound : op.complaints m = []) :
    op.Reads (.reply m) ⟨.success, op.textIn m, op.payloadOf m⟩ := by
  refine ⟨op.form_payloadOf m, fun h => absurd rfl h, nofun, nofun, fun _ h => (nomatch h),
    ?_, ?_, ?_⟩
  · rintro _ ⟨⟩ hne
    exact absurd hcode hne
  · rintro _ ⟨⟩ - -
    exact ⟨rfl, rfl, carries_payloadOf hfits hsound⟩
  · rintro _ ⟨⟩ - hnot
    exact absurd (complaints_eq_nil.mp hsound) hnot

theorem reads_malformed (hcode : op.codeOf m = 0) (hcomplaints : op.complaints m ≠ []) :
    op.Reads (.reply m)
      (.failed op.form .unknown ("Malformed reply: " ++ issuesText (op.complaints m))) := by
  refine ⟨form_empty _, fun _ => rfl, nofun, nofun, fun _ h => (nomatch h), ?_, ?_, ?_⟩
  · rintro _ ⟨⟩ hne
    exact absurd hcode hne
  · rintro _ ⟨⟩ - hsensible
    exact absurd (complaints_eq_nil.mpr hsensible) hcomplaints
  · rintro _ ⟨⟩ - -
    exact ⟨rfl, rfl⟩

/-- **Every outcome has a reading**: the one result that is made of it. -/
theorem reads_interpret {outcome : CallOutcome} (hfits : outcome.Fits op.method) :
    op.Reads outcome (op.interpret outcome) := by
  cases outcome with
  | notIssued =>
    exact ⟨form_empty _, fun _ => rfl, fun _ => ⟨rfl, rfl⟩, nofun, fun _ h => (nomatch h), nofun,
      nofun, nofun⟩
  | fault f =>
    refine ⟨form_empty _, fun _ => rfl, nofun, fun g hg => ?_, fun e he => ?_, nofun, nofun, nofun⟩
    · obtain rfl := CallOutcome.fault.inj hg
      exact ⟨rfl, f.describe_eq⟩
    · obtain rfl := CallOutcome.fault.inj he
      exact Fault.describe_ofCallError e
  | reply m =>
    by_cases hcode : op.codeOf m = 0
    · rw [interpret_success hfits hcode]
      by_cases hsound : op.complaints m = []
      · rw [if_pos hsound]
        exact reads_payload hfits hcode hsound
      · rw [if_neg hsound]
        exact reads_malformed hcode hsound
    · rw [interpret_refused hcode]
      exact reads_refused hcode

end Operation

namespace Run

/-- **An operation reads every outcome of its call**: it ends in exactly one result, which reads
the outcome, and leaves nothing behind but one log record. -/
theorem conclude_reads (op : Operation) {outcome : CallOutcome} (hfits : outcome.Fits op.method)
    (s : Session) : ∃ result level text,
      conclude op outcome s = (.ok result, s.noted .client level text)
        ∧ op.Reads outcome result :=
  ⟨_, _, _, conclude_run op outcome s, Operation.reads_interpret hfits⟩

/-- A reply that reports success and describes a table without dimensions. -/
def flatTable : Message :=
  [[.message [[.int 0], [.text ""]]], [.text "t"], [.int 0], [.int 1024], [.int 1]]

/-- A table without dimensions makes no sense, and nothing of it comes through. -/
theorem conclude_reads_flat : ∃ result level text,
    conclude (.describeTable "t") (.reply flatTable) (Session.withClient .bare .standard)
      = (.ok result, (Session.withClient .bare .standard).noted .client level text)
      ∧ result = ⟨.unknown, "Malformed reply: dimension: Input should be greater than 0",
        .table none⟩ := by
  have hfits : (CallOutcome.reply flatTable).Fits (Operation.describeTable "t").method := by
    show contentsFit _ _ = true
    decide
  obtain ⟨⟨status, message, payload⟩, level, text, hrun, hreads⟩ :=
    conclude_reads (.describeTable "t") hfits (Session.withClient .bare .standard)
  have hflat : ¬ (Operation.describeTable "t").Sensible flatTable := fun h =>
    absurd h.2.1 (Int.lt_irrefl 0)
  obtain ⟨hstatus, hmessage⟩ := hreads.malformed flatTable rfl rfl hflat
  obtain rfl : status = .unknown := hstatus
  obtain rfl : payload = .table none := hreads.empty nofun
  obtain rfl : message = "Malformed reply: dimension: Input should be greater than 0" :=
    hmessage.trans (by decide)
  exact ⟨_, level, text, hrun, rfl⟩

end Run

end VectorLink
