import VectorLink.Proofs.Acceptance
import VectorLink.Proofs.Binding
import VectorLink.Proofs.Messages

/-!
# Requests say what was asked for

What a caller hands to an operation takes several forms on its way: parameters, a message, octets.
The server sees the octets only. So what counts is what it reads from them, and that is said here
from its side: which texts, rows, ranges and numbers the fields of a decoded request hold
(`Operation.Asks`). They are the caller's, none of them dropped, doubled or moved, and each
component of a vector is the single nearest to it.

Together with what is known of the way from octets to messages and of the one request that an
operation sends, this gives `Session.asked_once`.
-/

namespace VectorLink

open Wire (Datum Message Shape contentsFit)

/-! ## Dates on the wire -/

/-- Two digits are read back as their number. -/
theorem ofDigitChars_twoDigits (n : Nat) : Nat.ofDigitChars 10 (twoDigits n).toList 0 = n := by
  unfold twoDigits
  split <;> simp [Nat.ofDigitChars_cons]

theorem dash_notMem_toDigits (n : Nat) : '-' ∉ Nat.toDigits 10 n := by
  intro h
  simpa using Nat.isDigit_of_mem_toDigits (by decide) (by decide) h

theorem dash_notMem_twoDigits (n : Nat) : '-' ∉ (twoDigits n).toList := by
  unfold twoDigits
  split <;> simp [dash_notMem_toDigits]

/-- Texts without a dash are told apart by the first dash after them. -/
theorem dash_inj {xs ys as bs : List Char} (hxs : '-' ∉ xs) (hys : '-' ∉ ys)
    (h : xs ++ '-' :: as = ys ++ '-' :: bs) : xs = ys ∧ as = bs := by
  induction xs generalizing ys with
  | nil =>
    cases ys with
    | nil => exact ⟨rfl, (List.cons.inj h).2⟩
    | cons y ys => exact absurd ((List.cons.inj h).1 ▸ List.mem_cons_self) hys
  | cons x xs ih =>
    cases ys with
    | nil => exact absurd ((List.cons.inj h).1 ▸ List.mem_cons_self) hxs
    | cons y ys =>
      obtain ⟨rfl, htail⟩ := List.cons.inj h
      obtain ⟨rfl, rfl⟩ := ih (List.not_mem_of_not_mem_cons hxs)
        (List.not_mem_of_not_mem_cons hys) htail
      exact ⟨rfl, rfl⟩

theorem Date.wireText_toList (d : Date) : d.wireText.toList = Nat.toDigits 10 d.year
    ++ '-' :: ((twoDigits d.month).toList ++ '-' :: (twoDigits d.day).toList) := by
  simp [wireText, String.toList_append]

/-- **The text of a date tells the date.** -/
theorem Date.wireText_injective {d e : Date} (h : d.wireText = e.wireText) : d = e := by
  have hchars := congrArg String.toList h
  rw [wireText_toList, wireText_toList] at hchars
  obtain ⟨hyear, hchars⟩ := dash_inj (dash_notMem_toDigits _) (dash_notMem_toDigits _) hchars
  obtain ⟨hmonth, hday⟩ := dash_inj (dash_notMem_twoDigits _) (dash_notMem_twoDigits _) hchars
  have hyear : d.year = e.year := by
    rw [← Nat.ofDigitChars_ten_toDigits (n := d.year), hyear, Nat.ofDigitChars_ten_toDigits]
  have hmonth : d.month = e.month := by
    rw [← ofDigitChars_twoDigits d.month, hmonth, ofDigitChars_twoDigits]
  have hday : d.day = e.day := by
    rw [← ofDigitChars_twoDigits d.day, hday, ofDigitChars_twoDigits]
  obtain ⟨year, month, day, hd⟩ := d
  obtain ⟨_, _, _, he⟩ := e
  cases hyear
  cases hmonth
  cases hday
  rfl

/-! ## Messages that fit -/

namespace Wire

variable {shape : Shape}

theorem Shape.fitsField_one {v : Datum} (hv : shape.fits v = true) : shape.FitsField false [v] :=
  ⟨shape.admitsCount_one, List.forall_mem_singleton.mpr hv⟩

theorem Shape.fitsField_map {α : Type} {f : α → Datum} (xs : List α)
    (h : ∀ x ∈ xs, shape.fits (f x) = true) : shape.FitsField true (xs.map f) :=
  ⟨rfl, List.forall_mem_map.mpr h⟩

theorem Shape.fitsField_absent {name : String} {fields : List Field} :
    (Shape.message name fields).FitsField false [] := ⟨rfl, List.forall_mem_nil _⟩

end Wire

namespace Operation

open Wire (contentsFit_cons)

theorem fits_rowContents (row : List Binary64) :
    contentsFit Wire.Schema.rowRecord.fields (rowContents row) = true :=
  (contentsFit_cons ..).mpr ⟨Shape.fitsField_map row fun _ _ => rfl, rfl⟩

theorem fits_rowsContents (rows : Rows) :
    Wire.Schema.rowRecord.shape.FitsField true (rowsContents rows) :=
  Shape.fitsField_map rows fun row _ => fits_rowContents row

theorem fits_searchMessage {s : Search} (htop : Wire.isInt64 s.topK = true)
    (hprobes : Wire.isInt64 s.probes = true) :
    contentsFit Wire.Schema.searchParam.fields (searchMessage s) = true := by
  refine (contentsFit_cons ..).mpr ⟨Shape.fitsField_one rfl, ?_⟩
  refine (contentsFit_cons ..).mpr ⟨fits_rowsContents s.rows, ?_⟩
  refine (contentsFit_cons ..).mpr ⟨Shape.fitsField_map s.ranges fun _ _ => rfl, ?_⟩
  refine (contentsFit_cons ..).mpr ⟨Shape.fitsField_one htop, ?_⟩
  exact (contentsFit_cons ..).mpr ⟨Shape.fitsField_one hprobes, rfl⟩

theorem isInt32_metric (m : Metric) : Wire.isInt32 m.number = true := by
  cases m <;> rfl

theorem isInt32_kind (k : IndexKind) : Wire.isInt32 k.number = true := by
  cases k <;> rfl

/-- **What an operation asks for fits its method**, if its integers fit. -/
theorem fits_message {op : Operation} (hfit : op.IntegersFit) :
    contentsFit op.method.request.fields op.message = true := by
  obtain ⟨hwide, hnarrow⟩ := hfit
  cases op with
  | createTable t =>
    have hdim := hwide t.dimension List.mem_cons_self
    have hsize := hwide t.indexFileSize (List.mem_cons_of_mem _ List.mem_cons_self)
    refine (contentsFit_cons ..).mpr ⟨Shape.fitsField_absent, ?_⟩
    refine (contentsFit_cons ..).mpr ⟨Shape.fitsField_one rfl, ?_⟩
    refine (contentsFit_cons ..).mpr ⟨Shape.fitsField_one hdim, ?_⟩
    refine (contentsFit_cons ..).mpr ⟨Shape.fitsField_one hsize, ?_⟩
    exact (contentsFit_cons ..).mpr ⟨Shape.fitsField_one (isInt32_metric t.metric), rfl⟩
  | createIndex r =>
    have hlists := hnarrow r.index.lists List.mem_cons_self
    have hindex : contentsFit Wire.Schema.index.fields
        [[.int r.index.kind.number], [.int r.index.lists]] = true := by
      refine (contentsFit_cons ..).mpr ⟨Shape.fitsField_one (isInt32_kind r.index.kind), ?_⟩
      exact (contentsFit_cons ..).mpr ⟨Shape.fitsField_one hlists, rfl⟩
    refine (contentsFit_cons ..).mpr ⟨Shape.fitsField_absent, ?_⟩
    refine (contentsFit_cons ..).mpr ⟨Shape.fitsField_one rfl, ?_⟩
    exact (contentsFit_cons ..).mpr ⟨Shape.fitsField_one hindex, rfl⟩
  | insert i =>
    refine (contentsFit_cons ..).mpr ⟨Shape.fitsField_one rfl, ?_⟩
    refine (contentsFit_cons ..).mpr ⟨fits_rowsContents i.rows, ?_⟩
    exact (contentsFit_cons ..).mpr ⟨Shape.fitsField_map i.ids hwide, rfl⟩
  | search s =>
    have htop := hwide s.topK List.mem_cons_self
    have hprobes := hwide s.probes (List.mem_cons_of_mem _ List.mem_cons_self)
    exact fits_searchMessage htop hprobes
  | searchInFiles s =>
    have htop := hwide s.search.topK List.mem_cons_self
    have hprobes := hwide s.search.probes (List.mem_cons_of_mem _ List.mem_cons_self)
    refine (contentsFit_cons ..).mpr ⟨Shape.fitsField_map s.fileIds fun _ _ => rfl, ?_⟩
    exact (contentsFit_cons ..).mpr ⟨Shape.fitsField_one (fits_searchMessage htop hprobes), rfl⟩
  | _ => rfl

end Operation

/-! ## What a server reads -/

namespace Wire.Datum

/-- The single precision numbers of a repeated field. -/
def singlesOf (values : List Datum) : List Binary32 :=
  values.filterMap fun
    | .single x => some x
    | _ => none

/-- The rows of a repeated field of vectors. -/
def rowsOf (values : List Datum) : List (List Binary32) :=
  (messagesOf values).map fun row => singlesOf (row.slot 0)

/-- The first and last texts of the ranges of a field. -/
def rangesOf (values : List Datum) : List (String × String) :=
  (messagesOf values).map fun range => (textOf (range.slot 0), textOf (range.slot 1))

end Wire.Datum

/-- The ends of a range as they are written. -/
def DateRange.wireTexts (r : DateRange) : String × String := (r.first.wireText, r.last.wireText)

theorem DateRange.wireTexts_injective : Function.Injective wireTexts := by
  intro r t h
  obtain ⟨hfirst, hlast⟩ := Prod.mk.inj h
  obtain ⟨first, last⟩ := r
  obtain rfl : first = t.first := Date.wireText_injective hfirst
  obtain rfl : last = t.last := Date.wireText_injective hlast
  rfl

/-- **A field holds ranges**: it holds their texts in order, and no others have these texts. -/
def Wire.Datum.HoldsRanges (values : List Datum) (ranges : List DateRange) : Prop :=
  ∀ others : List DateRange, rangesOf values = others.map DateRange.wireTexts ↔ others = ranges

theorem Wire.Datum.rangesOf_rangeContents (ranges : List DateRange) :
    rangesOf (ranges.map fun r => .message (Operation.rangeContents r))
      = ranges.map DateRange.wireTexts := by
  rw [rangesOf, messagesOf_map, List.map_map]
  rfl

theorem Wire.Datum.holdsRanges_rangeContents (ranges : List DateRange) :
    HoldsRanges (ranges.map fun r => .message (Operation.rangeContents r)) ranges := by
  intro others
  rw [rangesOf_rangeContents, (List.map_injective_iff.mpr DateRange.wireTexts_injective).eq_iff]
  exact eq_comm

/-- Rows as they are sent: each component is rounded to single precision, once. -/
def Rows.rounded (rows : Rows) : List (List Binary32) :=
  rows.map fun row => row.map Binary64.toBinary32

/-- **A message asks for a search.** -/
structure Search.IsAsked (s : Search) (m : Message) : Prop where
  tableName : Datum.textOf (m.slot 0) = s.tableName
  rows : Datum.rowsOf (m.slot 1) = s.rows.rounded
  ranges : Datum.HoldsRanges (m.slot 2) s.ranges
  topK : Datum.intOf (m.slot 3) = s.topK
  probes : Datum.intOf (m.slot 4) = s.probes

namespace Operation

/-- **A message asks for an operation**: a server that reads its fields finds what the caller handed
in. -/
def Asks (op : Operation) (m : Message) : Prop :=
  match op with
  | .createTable t =>
    Datum.textOf (m.slot 1) = t.tableName ∧ Datum.intOf (m.slot 2) = t.dimension
      ∧ Datum.intOf (m.slot 3) = t.indexFileSize ∧ Datum.intOf (m.slot 4) = t.metric.number
  | .createIndex r =>
    Datum.textOf (m.slot 1) = r.tableName ∧ ∃ index, Datum.messagesOf (m.slot 2) = [index]
      ∧ Datum.intOf (index.slot 0) = r.index.kind.number
      ∧ Datum.intOf (index.slot 1) = r.index.lists
  | .insert i =>
    Datum.textOf (m.slot 0) = i.tableName ∧ Datum.rowsOf (m.slot 1) = i.rows.rounded
      ∧ Datum.intsOf (m.slot 2) = i.ids
      ∧ (Datum.intsOf (m.slot 2) = []
        ∨ (Datum.intsOf (m.slot 2)).length = (Datum.rowsOf (m.slot 1)).length)
  | .search s => s.IsAsked m
  | .searchInFiles s =>
    Datum.textsOf (m.slot 0) = s.fileIds
      ∧ ∃ inner, Datum.messagesOf (m.slot 1) = [inner] ∧ s.search.IsAsked inner
        ∧ (Operation.search s.search).request = .ok inner
  | .deleteByRange table range =>
    Datum.HoldsRanges (m.slot 0) [range] ∧ Datum.textOf (m.slot 1) = table
  | .showTables => Datum.textOf (m.slot 0) = ""
  | .command c => Datum.textOf (m.slot 0) = c.word
  | .hasTable table | .dropTable table | .describeTable table | .countRows table
  | .preloadTable table | .describeIndex table | .dropIndex table =>
    Datum.textOf (m.slot 0) = table

theorem singlesOf_rowContents (row : List Binary64) :
    Datum.singlesOf (Wire.Message.slot (rowContents row) 0) = row.map Binary64.toBinary32 := by
  show Datum.singlesOf (row.map fun x => .single x.toBinary32) = _
  rw [Datum.singlesOf, List.filterMap_map]
  exact congrFun List.filterMap_eq_map' row

theorem rowsOf_rowsContents (rows : Rows) : Datum.rowsOf (rowsContents rows) = rows.rounded := by
  rw [Datum.rowsOf, rowsContents, Wire.messagesOf_map, List.map_map]
  exact List.map_congr_left fun row _ => singlesOf_rowContents row

theorem isAsked_searchMessage (s : Search) : s.IsAsked (searchMessage s) where
  tableName := rfl
  rows := rowsOf_rowsContents s.rows
  ranges := Datum.holdsRanges_rangeContents s.ranges
  topK := rfl
  probes := rfl

/-- **The message of an operation asks for it.** -/
theorem asks_message {op : Operation} (hop : op.Accepted) (hfit : op.IntegersFit) :
    op.Asks op.message := by
  cases op with
  | createTable t => exact ⟨rfl, rfl, rfl, rfl⟩
  | createIndex r => exact ⟨rfl, _, rfl, rfl, rfl⟩
  | insert i =>
    obtain ⟨_, h⟩ := hop
    have hrows : Datum.rowsOf ((Operation.insert i).message.slot 1) = i.rows.rounded :=
      rowsOf_rowsContents i.rows
    have hids : Datum.intsOf ((Operation.insert i).message.slot 2) = i.ids := Wire.intsOf_map i.ids
    refine ⟨rfl, hrows, hids, ?_⟩
    rw [hids, hrows, Rows.rounded, List.length_map]
    exact Insertion.check_eq_ok h
  | search s => exact isAsked_searchMessage s
  | searchInFiles s =>
    have hinner : (Operation.search s.search).request = .ok (searchMessage s.search) :=
      @request_eq_ok (.search s.search) hfit
    exact ⟨Wire.textsOf_map s.fileIds, _, rfl, isAsked_searchMessage s.search, hinner⟩
  | deleteByRange table range => exact ⟨Datum.holdsRanges_rangeContents [range], rfl⟩
  | _ => rfl

end Operation

/-- The requests of every method have numbered fields. -/
theorem Wire.Method.isNumbered_request (method : Wire.Method) :
    method.request.shape.isNumbered = true := by
  cases method <;> decide

/-! ## One request -/

namespace Session

variable {s : Session} {m : Nat} {op : Operation}

/-- **An operation sends one request, and it says what was asked for.** At every moment of every
run, a manager that is connected and has its calls bound sends exactly one request for an operation
with accepted parameters whose integers fit: on the path of the operation's own method, whatever the
answer is and whatever takes place in the meantime, so nothing is ever tried again. The server reads
its octets as the message that was put together, and that message asks for the operation. -/
theorem asked_once (hs : s.Reached fun step => !step.rebindsByHand)
    (hcon : s.isConnected m = true) (hbound : (s.manager m).dispatcher?.isSome = true)
    (hop : op.Accepted) (hfit : op.IntegersFit) (response : Response) (steps : List Step) :
    ∃ i message, (s.manager m).current? = some i ∧ op.request = .ok message ∧ op.Asks message ∧
      s.requestsUntil (Run.operate m op (Step.runAll steps) response s).2
        = [⟨i, op.method.path, op.method.request.encode message⟩] ∧
      ((op.method.request.encode message).length < 2 ^ 64 →
        op.method.request.decode? (op.method.request.encode message) = some message) := by
  obtain ⟨i, hcur, hadm, -, hopen⟩ := hs.open_of_connected hcon
  obtain ⟨j, hdisp⟩ := Option.isSome_iff_exists.mp hbound
  -- calls are bound to the link in use if to any
  obtain rfl : i = j := Option.some_inj.mp (hcur.symm.trans ((hs.wired.now m).dispatcher j hdisp))
  have hroute : s.route? m = some i := Scene.route?_eq_some.mpr ⟨hcon, hdisp, hadm⟩
  have hreq := Operation.request_eq_ok hfit
  obtain ⟨hsent, -⟩ := Run.operate_open (Step.runAll steps) response hs.valid hroute hreq hopen
    (Run.silent_runAll steps)
  refine ⟨i, op.message, hcur, hreq, Operation.asks_message hop hfit, hsent.requestsUntil_eq, ?_⟩
  exact Wire.Schema.decode?_encode op.method.isNumbered_request (Operation.fits_message hfit)

/-- Rows of different lengths, one of them empty, and an id for each. -/
def raggedArguments : Arguments :=
  [("table_name", .text "t"),
   ("vectors", .list [.list [.float ⟨0x3FF0000000000000⟩, .float ⟨0x3FB999999999999A⟩], .list [],
     .list [.float ⟨0x8000000000000000⟩]]),
   ("vector_ids", .list [.int 7, .int (-8), .int 9])]

/-- The insertion of these rows. -/
def ragged : Insertion :=
  ⟨"t", [[⟨0x3FF0000000000000⟩, ⟨0x3FB999999999999A⟩], [], [⟨0x8000000000000000⟩]], [7, -8, 9]⟩

/-- Ragged rows arrive as they are, with their ids, in the one request that is sent. -/
theorem asked_once_ragged : let s := (withClient .bare .standard).after Run.promptSteps
    Insertion.check raggedArguments = .ok ragged ∧
      ∀ (response : Response) (steps : List Step), ∃ i message,
        s.requestsUntil (Run.operate 0 (.insert ragged) (Step.runAll steps) response s).2
            = [⟨i, Wire.Method.insert.path, Wire.Schema.insertParam.encode message⟩] ∧
          Wire.Schema.insertParam.decode? (Wire.Schema.insertParam.encode message) = some message ∧
          (Operation.insert ragged).Asks message := by
  intro s
  have hreached : s.Reached fun step => !step.rebindsByHand :=
    ⟨_, Run.promptSteps, ⟨.bare, .standard, .inl rfl⟩, by decide, List.mem_cons_self⟩
  have hcon : s.isConnected 0 = true := by decide +kernel
  have hbound : (s.manager 0).dispatcher?.isSome = true := by decide +kernel
  have hcheck : Insertion.check raggedArguments = .ok ragged := by rfl
  have hop : (Operation.insert ragged).Accepted := ⟨_, hcheck⟩
  have hfit : (Operation.insert ragged).IntegersFit := Operation.misfit?_eq_none.mp (by decide)
  refine ⟨hcheck, fun response steps => ?_⟩
  obtain ⟨i, message, -, hreq, hasks, hsent, hread⟩ :=
    asked_once hreached hcon hbound hop hfit response steps
  obtain rfl : (Operation.insert ragged).message = message :=
    Except.ok.inj ((Operation.request_eq_ok hfit).symm.trans hreq)
  exact ⟨i, _, hsent, hread (by decide +kernel), hasks⟩

end Session

end VectorLink
