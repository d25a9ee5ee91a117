import VectorLink.Domain.Endpoint
import VectorLink.Proofs.Bounds
import VectorLink.Proofs.Echo
import VectorLink.Proofs.IdArrays

/-!
# Records built anew from their fields

What a record keeps is seldom what was handed in. A number may have come as a text, rows as an
array, a day as a moment, a member of an enumeration as a number that is none, a host with blanks
around it. Building the record anew from the values of its fields (`Shown.arguments`) does nothing
of that kind a second time: it is accepted, and it gives the same record.

The reason is the same for each type of field. Whatever a reader makes of a value, it makes again of
the value that stands for the outcome (`Reader.IsStable`). For most types this is so because all
values of the type are read as they are. The conditions of a type, as a text that must not be empty
or a number with bounds, hold of what was accepted once, and a list or a record is stable as its
items or its fields are. Each default is as good as a value that was read, and that the ids of an
insertion are aligned is a condition on the record alone. So whatever is built is built again
(`RecordKind.check_shown`).
-/

namespace VectorLink

variable {α : Type}

namespace Checked

variable {β : Type}

theorem map_ok {f : α → β} {c : Checked α} {a : α} (h : c = .ok a) : f <$> c = .ok (f a) := by
  rw [h]
  rfl

theorem seq_ok {f : Checked (α → β)} {g : α → β} {c : Checked α} {a : α} (hf : f = .ok g)
    (h : c = .ok a) : f <*> c = .ok (g a) := by
  rw [hf, h]
  rfl

end Checked

/-! ## Stable readers -/

/-- **A reader is stable** with the values that stand for its outcomes: whatever is read is read
again of its value. -/
def Reader.IsStable (read : Reader α) (value : α → Value) : Prop :=
  ∀ ⦃v a⦄, read v = .ok a → read (value a) = .ok a

/-- **A check rebuilds its records**: one that is accepted is accepted again from its fields. -/
def Rebuilds {ρ : Type} (check : Arguments → Checked ρ) (shown : ρ → Shown) : Prop :=
  ∀ ⦃args r⦄, check args = .ok r → check (shown r).arguments = .ok r

namespace Reader

variable {read : Reader α} {value : α → Value}

/-- A reader is stable if every outcome is read of its value. -/
theorem isStable_of_forall (h : ∀ a, read (value a) = .ok a) : read.IsStable value :=
  fun _ a _ => h a

theorem isStable_integer : integer.IsStable .int := isStable_of_forall fun _ => rfl

theorem isStable_real : real.IsStable .float := isStable_of_forall fun _ => rfl

theorem isStable_text : text.IsStable .text := isStable_of_forall fun _ => rfl

theorem isStable_truth : truth.IsStable .bool := isStable_of_forall fun _ => rfl

theorem isStable_date : date.IsStable .date := isStable_of_forall fun _ => rfl

/-- A text that is not empty is not empty the second time. -/
theorem isStable_nonemptyText : nonemptyText.IsStable .text :=
  fun _ _ h => if_pos (Checked.ensure_eq_ok h).2

/-- **An integer within bounds** is within them the second time. -/
theorem isStable_bounded (bounds : List Bound) : (bounded bounds).IsStable .int :=
  fun _ _ h => bounded_eq_ok_iff.mpr ⟨rfl, (bounded_eq_ok_iff.mp h).2⟩

theorem isStable_positive : positive.IsStable .int := isStable_bounded _

/-- **A member of an enumeration** is the member of its number, also the one that others fall back
to. -/
theorem isStable_numbered {ofNumber : Int → α} {number : α → Int} (fallback : α)
    (hmember : ∀ a, ofNumber (number a) = a) (hword : ∀ a, isWord (number a) = true) :
    (numbered ofNumber fallback).IsStable fun a => .int (number a) :=
  isStable_of_forall fun a => by
    show (if isWord (number a) then Checked.accept (ofNumber (number a))
      else .reject .integerTooLong) = .ok a
    rw [if_pos (hword a), hmember]
    rfl

/-- A list of values is read item by item. -/
theorem list_values {xs : List α} (h : ∀ x ∈ xs, read (value x) = .ok x) :
    Reader.list read (.list (xs.map value)) = .ok xs := by
  have hlist : Reader.list read (.list (xs.map value)) = .ok (xs.map fun x => x) := list_map h
  rwa [List.map_id'] at hlist

/-- **A list is stable** as its items are. -/
theorem IsStable.list (h : read.IsStable value) :
    (Reader.list read).IsStable fun xs => .list (xs.map value) := fun _ _ hxs =>
  list_values fun x hx => by
    obtain ⟨item, hitem⟩ := exists_of_list hxs x hx
    exact h hitem

theorem orNone_eq_some_iff {v : Value} {a : α} :
    orNone read v = .ok (some a) ↔ v ≠ .none ∧ read v = .ok a := by
  have hpresent (hv : v ≠ .none) : orNone read v = some <$> read v := by
    cases v with
    | none => exact absurd rfl hv
    | _ => dsimp only [orNone]; split <;> next h => rw [h]; rfl
  constructor
  · intro h
    have hv : v ≠ .none := by
      rintro rfl
      cases h
    rw [hpresent hv] at h
    obtain ⟨b, hb, hab⟩ := Checked.map_eq_ok h
    exact ⟨hv, hb.trans (congrArg _ (Option.some.inj hab))⟩
  · rintro ⟨hv, ha⟩
    rw [hpresent hv, ha]
    rfl

/-- A value that may be absent is as stable as one that is there. -/
theorem IsStable.orNone (h : read.IsStable value) (hpresent : ∀ a, value a ≠ .none) :
    (Reader.orNone read).IsStable fun a? => (a?.map value).getD .none := fun v a? ha => by
  cases a? with
  | none => rfl
  | some a => exact orNone_eq_some_iff.mpr ⟨hpresent a, h (orNone_eq_some_iff.mp ha).2⟩

/-- The fields of a record are its arguments. -/
theorem argumentsOf_entries (name : String) (fields : List (String × Shown)) :
    argumentsOf (Shown.value.entries fields) = (Shown.record name fields).arguments := by
  induction fields with
  | nil => rfl
  | cons field rest ih => exact congrArg _ ih

/-- **A record inside a record is stable** if its check rebuilds it. -/
theorem isStable_record {ρ : Type} {check : Arguments → Checked ρ} {shown : ρ → Shown}
    (h : Rebuilds check shown) (name : String)
    (hshown : ∀ r, ∃ name fields, shown r = .record name fields) :
    (record name check).IsStable fun r => (shown r).value := fun v r hr => by
  obtain ⟨args, hargs⟩ := record_eq_ok hr
  obtain ⟨own, fields, hfields⟩ := hshown r
  have hagain := h hargs
  rw [hfields, ← argumentsOf_entries] at hagain
  show record name check (shown r).value = .ok r
  rw [hfields]
  exact hagain

end Reader

/-- **Rows are stable**: they are lists of reals and hold no arrays any more. -/
theorem Rows.isStable_read :
    Rows.read.IsStable fun rows => .list (rows.map fun row => .list (row.map .float)) :=
  Reader.isStable_of_forall fun rows => by
    have hlists : fromArrays (.list (rows.map fun row => .list (row.map .float)))
        = .ok (.list (rows.map fun row => .list (row.map .float))) := by
      rw [fromArrays, List.map_map]
      rfl
    rw [read, hlists]
    exact Reader.list_values fun row _ => Reader.list_values fun _ _ => rfl

/-- **Ids are stable**: they are a list, whether they came in an array or not. -/
theorem isStable_readIds : Reader.IsStable readIds fun ids => .list (ids.map .int) :=
  Reader.isStable_of_forall fun ids => by
    show Reader.list Reader.integer (.list (ids.map .int)) = .ok ids
    exact Reader.list_values fun _ _ => rfl

/-- A port is stable, be it a number or a text. -/
theorem Port.isStable_read : Port.read.IsStable Port.value :=
  Reader.isStable_of_forall fun p => by cases p <;> rfl

theorem Metric.isStable :
    (Reader.numbered Metric.ofNumber .invalid).IsStable fun m => .int m.number :=
  Reader.isStable_numbered _ Metric.ofNumber_number fun m => by cases m <;> decide

theorem IndexKind.isStable :
    (Reader.numbered IndexKind.ofNumber .invalid).IsStable fun k => .int k.number :=
  Reader.isStable_numbered _ IndexKind.ofNumber_number fun k => by cases k <;> decide

theorem Status.isStable :
    (Reader.numbered Status.ofNumber .unknown).IsStable fun s => .int s.number :=
  Reader.isStable_numbered _ Status.ofNumber_number fun s => by cases s <;> decide

/-! ## Fields -/

namespace Arguments

variable {args again : Arguments} {name : String} {read : Reader α} {value : α → Value}
  {a default : α}

/-- A field that has to be given is accepted again from its value. -/
theorem required_again (hread : read.IsStable value) (h : args.required name read = .ok a)
    (hgiven : again.get? name = some (value a)) : again.required name read = .ok a := by
  obtain ⟨v, hv⟩ := required_eq_ok h
  exact required_eq_ok_iff.mpr ⟨_, hgiven, hread hv⟩

/-- **A field with a default** is accepted again from its value, also if the value is the
default. -/
theorem optional_again (hread : read.IsStable value) (hdefault : read (value default) = .ok default)
    (h : args.optional name default read = .ok a) (hgiven : again.get? name = some (value a)) :
    again.optional name default read = .ok a := by
  refine optional_eq_ok_iff.mpr (.inr ⟨_, hgiven, ?_⟩)
  obtain rfl | ⟨v, hv⟩ := optional_eq_ok h
  · exact hdefault
  · exact hread hv

end Arguments

/-! ## Records -/

open Reader Arguments

theorem Endpoint.rebuilds : Rebuilds check shown := fun args e h => by
  obtain ⟨_, _, h₂, htimeout, rfl⟩ := Checked.seq_eq_ok h
  obtain ⟨_, _, h₁, hport, rfl⟩ := Checked.seq_eq_ok h₂
  obtain ⟨_, hhost, rfl⟩ := Checked.map_eq_ok h₁
  exact Checked.seq_ok (Checked.seq_ok
    (Checked.map_ok (optional_again isStable_text rfl hhost rfl))
    (optional_again Port.isStable_read rfl hport rfl))
    (optional_again (isStable_bounded _) rfl htimeout rfl)

theorem TableSchema.rebuilds : Rebuilds check shown := fun args t h => by
  obtain ⟨_, _, h₃, hmetric, rfl⟩ := Checked.seq_eq_ok h
  obtain ⟨_, _, h₂, hsize, rfl⟩ := Checked.seq_eq_ok h₃
  obtain ⟨_, _, h₁, hdimension, rfl⟩ := Checked.seq_eq_ok h₂
  obtain ⟨_, hname, rfl⟩ := Checked.map_eq_ok h₁
  exact Checked.seq_ok (Checked.seq_ok (Checked.seq_ok
    (Checked.map_ok (required_again isStable_nonemptyText hname rfl))
    (required_again isStable_positive hdimension rfl))
    (optional_again isStable_positive rfl hsize rfl))
    (optional_again Metric.isStable rfl hmetric rfl)

theorem Index.rebuilds : Rebuilds check shown := fun args i h => by
  obtain ⟨_, _, h₁, hlists, rfl⟩ := Checked.seq_eq_ok h
  obtain ⟨_, hkind, rfl⟩ := Checked.map_eq_ok h₁
  exact Checked.seq_ok (Checked.map_ok (optional_again IndexKind.isStable rfl hkind rfl))
    (optional_again isStable_positive rfl hlists rfl)

theorem IndexRequest.rebuilds : Rebuilds check shown := fun args r h => by
  obtain ⟨_, _, h₁, hindex, rfl⟩ := Checked.seq_eq_ok h
  obtain ⟨_, hname, rfl⟩ := Checked.map_eq_ok h₁
  have hread := isStable_record Index.rebuilds "Index" fun _ => ⟨_, _, rfl⟩
  exact Checked.seq_ok (Checked.map_ok (required_again isStable_nonemptyText hname rfl))
    (optional_again hread rfl hindex rfl)

theorem Insertion.rebuilds : Rebuilds check shown := fun args i h => by
  obtain ⟨hname, hrows, hids, haligned⟩ := check_eq_ok_iff.mp h
  exact check_eq_ok_iff.mpr ⟨required_again isStable_nonemptyText hname rfl,
    required_again Rows.isStable_read hrows rfl, optional_again isStable_readIds rfl hids rfl,
    haligned⟩

theorem DateRange.rebuilds : Rebuilds check shown := fun args r h => by
  obtain ⟨_, _, h₁, hlast, rfl⟩ := Checked.seq_eq_ok h
  obtain ⟨_, hfirst, rfl⟩ := Checked.map_eq_ok h₁
  exact Checked.seq_ok (Checked.map_ok (required_again isStable_date hfirst rfl))
    (required_again isStable_date hlast rfl)

/-- The value of a list is the list of the values. -/
theorem Shown.value_list (shown : α → Shown) (xs : List α) :
    (Shown.list (xs.map shown)).value = .list (xs.map fun x => (shown x).value) := by
  refine congrArg Value.list ?_
  induction xs with
  | nil => rfl
  | cons x xs ih => exact congrArg _ ih

theorem Search.rebuilds : Rebuilds check shown := fun args s h => by
  obtain ⟨_, _, h₄, hprobes, rfl⟩ := Checked.seq_eq_ok h
  obtain ⟨_, _, h₃, htop, rfl⟩ := Checked.seq_eq_ok h₄
  obtain ⟨_, ranges, h₂, hranges, rfl⟩ := Checked.seq_eq_ok h₃
  obtain ⟨_, _, h₁, hrows, rfl⟩ := Checked.seq_eq_ok h₂
  obtain ⟨_, hname, rfl⟩ := Checked.map_eq_ok h₁
  have hread := (isStable_record DateRange.rebuilds "DateRange" fun _ => ⟨_, _, rfl⟩).list
  have hshown := congrArg some (Shown.value_list DateRange.shown ranges)
  exact Checked.seq_ok (Checked.seq_ok (Checked.seq_ok (Checked.seq_ok
    (Checked.map_ok (required_again isStable_nonemptyText hname rfl))
    (required_again Rows.isStable_read hrows rfl))
    (optional_again hread rfl hranges hshown))
    (optional_again isStable_positive rfl htop rfl))
    (optional_again isStable_positive rfl hprobes rfl)

theorem FileSearch.rebuilds : Rebuilds check shown := fun args s h => by
  obtain ⟨_, _, h₁, hsearch, rfl⟩ := Checked.seq_eq_ok h
  obtain ⟨_, hfiles, rfl⟩ := Checked.map_eq_ok h₁
  have hread := isStable_record Search.rebuilds "SearchParam" fun _ => ⟨_, _, rfl⟩
  exact Checked.seq_ok (Checked.map_ok (required_again isStable_text.list hfiles rfl))
    (required_again hread hsearch rfl)

theorem Hit.rebuilds : Rebuilds check shown := fun args r h => by
  obtain ⟨_, _, h₁, hdistance, rfl⟩ := Checked.seq_eq_ok h
  obtain ⟨_, hid, rfl⟩ := Checked.map_eq_ok h₁
  exact Checked.seq_ok (Checked.map_ok (required_again isStable_integer hid rfl))
    (required_again isStable_real hdistance rfl)

/-- **A payload is accepted again** from the fields of its result. -/
theorem PayloadForm.check_again {form : PayloadForm} {args : Arguments} {payload : Payload}
    (h : form.check args = .ok payload) (status : Status) (message : String) :
    form.check (Result.shown ⟨status, message, payload⟩).arguments = .ok payload := by
  -- Each form has a field of its own behind the status and the message, or none.
  cases form with
  | nothing =>
    obtain rfl : Payload.nothing = payload := Except.ok.inj h
    rfl
  | presence =>
    obtain ⟨b, hb, rfl⟩ := Checked.map_eq_ok h
    exact Checked.map_ok (optional_again isStable_truth rfl hb rfl)
  | table =>
    obtain ⟨schema?, hschema, rfl⟩ := Checked.map_eq_ok h
    have hrecord := isStable_record TableSchema.rebuilds "TableSchema" fun _ => ⟨_, _, rfl⟩
    refine Checked.map_ok (optional_again (hrecord.orNone nofun) rfl hschema ?_)
    cases schema? <;> rfl
  | names =>
    obtain ⟨ns, hns, rfl⟩ := Checked.map_eq_ok h
    exact Checked.map_ok (optional_again isStable_text.list rfl hns rfl)
  | count =>
    obtain ⟨n, hn, rfl⟩ := Checked.map_eq_ok h
    exact Checked.map_ok (optional_again isStable_integer rfl hn rfl)
  | index =>
    obtain ⟨index?, hindex, rfl⟩ := Checked.map_eq_ok h
    have hrecord := isStable_record Index.rebuilds "Index" fun _ => ⟨_, _, rfl⟩
    refine Checked.map_ok (optional_again (hrecord.orNone nofun) rfl hindex ?_)
    cases index? <;> rfl
  | ids =>
    obtain ⟨ns, hns, rfl⟩ := Checked.map_eq_ok h
    exact Checked.map_ok (optional_again isStable_integer.list rfl hns rfl)
  | hits =>
    obtain ⟨rows, hrows, rfl⟩ := Checked.map_eq_ok h
    have hrecord := isStable_record Hit.rebuilds "QueryResult" fun _ => ⟨_, _, rfl⟩
    have hshown : (Shown.list (rows.map fun row => .list (row.map Hit.shown))).value
        = .list (rows.map fun row => .list (row.map fun hit => hit.shown.value)) := by
      rw [Shown.value_list]
      exact congrArg _ (List.map_congr_left fun row _ => Shown.value_list Hit.shown row)
    exact Checked.map_ok (optional_again hrecord.list.list rfl hrows (congrArg some hshown))

theorem Result.rebuilds (form : PayloadForm) : Rebuilds (check form) shown := fun args r h => by
  obtain ⟨_, payload, h₂, hpayload, rfl⟩ := Checked.seq_eq_ok h
  obtain ⟨_, message, h₁, hmessage, rfl⟩ := Checked.seq_eq_ok h₂
  obtain ⟨status, hstatus, rfl⟩ := Checked.map_eq_ok h₁
  exact Checked.seq_ok (Checked.seq_ok
    (Checked.map_ok (optional_again Status.isStable rfl hstatus rfl))
    (optional_again isStable_text rfl hmessage rfl))
    (PayloadForm.check_again hpayload status message)

theorem Config.rebuilds : Rebuilds check shown := fun _ _ h => (inRange_of_check h).check_arguments

/-! ## Every record -/

/-- **The kinds of records** that are built from keywords: parameters, results, and the
configuration. -/
inductive RecordKind where
  | endpoint
  | table
  | index
  | indexRequest
  | insertion
  | dateRange
  | search
  | fileSearch
  | hit
  | result (form : PayloadForm)
  | configuration
  deriving DecidableEq, Repr

namespace RecordKind

/-- The records of a kind. -/
def Record : RecordKind → Type
  | .endpoint => Endpoint
  | .table => TableSchema
  | .index => Index
  | .indexRequest => IndexRequest
  | .insertion => Insertion
  | .dateRange => DateRange
  | .search => Search
  | .fileSearch => FileSearch
  | .hit => Hit
  | .result _ => Result
  | .configuration => Config

/-- The record that some arguments give. -/
def check : (k : RecordKind) → Arguments → Checked k.Record
  | .endpoint => Endpoint.check
  | .table => TableSchema.check
  | .index => Index.check
  | .indexRequest => IndexRequest.check
  | .insertion => Insertion.check
  | .dateRange => DateRange.check
  | .search => Search.check
  | .fileSearch => FileSearch.check
  | .hit => Hit.check
  | .result form => Result.check form
  | .configuration => Config.check

/-- How a record is shown. -/
def shown : (k : RecordKind) → k.Record → Shown
  | .endpoint => Endpoint.shown
  | .table => TableSchema.shown
  | .index => Index.shown
  | .indexRequest => IndexRequest.shown
  | .insertion => Insertion.shown
  | .dateRange => DateRange.shown
  | .search => Search.shown
  | .fileSearch => FileSearch.shown
  | .hit => Hit.shown
  | .result _ => Result.shown
  | .configuration => Config.shown

/-- **Validation is idempotent**: a record of any kind that some arguments give is given again by
the values of its own fields. -/
theorem check_shown (k : RecordKind) {args : Arguments} {r : k.Record} (h : k.check args = .ok r) :
    k.check (k.shown r).arguments = .ok r := by
  cases k with
  | endpoint => exact Endpoint.rebuilds h
  | table => exact TableSchema.rebuilds h
  | index => exact Index.rebuilds h
  | indexRequest => exact IndexRequest.rebuilds h
  | insertion => exact Insertion.rebuilds h
  | dateRange => exact DateRange.rebuilds h
  | search => exact Search.rebuilds h
  | fileSearch => exact FileSearch.rebuilds h
  | hit => exact Hit.rebuilds h
  | result form => exact Result.rebuilds form h
  | configuration => exact Config.rebuilds h

/-- Keywords of a search none of which is of the type of its field. -/
def looseSearch : Arguments :=
  [("table_name", .octets [0x74]),
   ("query_vectors", .array ⟨.real .binary64, [1, 1], [.real ⟨0x3FB999999999999A⟩]⟩),
   ("date_ranges", .tuple [.mapping [(.text "start_date", .moment ⟨⟨2019, 12, 31, by decide⟩,
      ⟨23, 59, 59, 0⟩, none⟩), (.text "end_date", .text "2020-01-01")]]),
   ("top_k", .text " +1_0.0 "), ("nprobe", .float ⟨0x3FF0000000000000⟩)]

/-- Keywords of a configuration that are all brought into form. -/
def looseConfig : Arguments :=
  [("host", .text " h\t"), ("port", .text "1"), ("drain_timeout", .int 1),
   ("log_level", .text "debug"), ("enable_debug_logging", .text "On")]

/-- Both are accepted, and again from what was made of them. -/
theorem check_shown_loose :
    (∃ s, search.check looseSearch = .ok s ∧ search.check (search.shown s).arguments = .ok s) ∧
      ∃ c, configuration.check looseConfig = .ok c ∧
        configuration.check (configuration.shown c).arguments = .ok c := by
  have hsearch : search.check looseSearch = .ok (⟨"t", [[⟨0x3FB99999A0000000⟩]],
      [⟨⟨2019, 12, 31, by decide⟩, ⟨2020, 1, 1, by decide⟩⟩], 10, 1⟩ : Search) := by rfl
  have hconfig : configuration.check looseConfig = .ok (⟨"h", 1, 10000, 100,
      ⟨0x3FF0000000000000⟩, -1, .debug, true⟩ : Config) := by rfl
  exact ⟨⟨_, hsearch, search.check_shown hsearch⟩,
    ⟨_, hconfig, configuration.check_shown hconfig⟩⟩

end RecordKind

end VectorLink
