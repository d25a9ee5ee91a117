import VectorLink.Client.Call
import VectorLink.Proofs.Fidelity
import VectorLink.Proofs.Items
import VectorLink.Proofs.Precision

/-!
# Vectors in lists and in arrays

The vectors of an insertion or of a search are a matrix of reals, and a caller may hand it in as one
array, as a list of rows, or as a list in which some rows are arrays and others are lists
(`RealMatrix.Gives`). The forms are not treated alike. An array is rounded to single precision when
it is taken in, a list is kept as it is, so that the parameters which come of them are different.

A request carries singles, and there the difference ends: all that it says about the vectors is
which single is nearest to each component (`Rows.rounded`), and the forms have this in common. So
every form of a matrix is accepted where one of them is, and what the client then sends and does is
the same for all (`RealMatrix.forms_agree`).
-/

namespace VectorLink

/-- **A matrix of reals**: rows of equal length. -/
structure RealMatrix where
  width : Nat
  rows : Rows
  rectangular : ∀ row ∈ rows, row.length = width

/-! ## Forms -/

/-- **A value gives a row**: a list of its components, or an array along one axis. -/
inductive GivesRow (row : List Binary64) : Value → Prop
  | list : GivesRow row (.list (row.map .float))
  | array (format : Format) : GivesRow row (.array ⟨.real format, [row.length], row.map .real⟩)

/-- **A value gives a matrix**: an array along two axes, or a list of values that give the rows. -/
inductive RealMatrix.Gives (M : RealMatrix) : Value → Prop
  | array (format : Format) : M.Gives
      (.array ⟨.real format, [M.rows.length, M.width], (M.rows.map (·.map .real)).flatten⟩)
  | list {vs : List Value} (h : List.Forall₂ GivesRow M.rows vs) : M.Gives (.list vs)

namespace Rows

/-- The rows that are left of an array: each component is rounded to single precision and is a
double again. -/
def throughSingles (rows : Rows) : Rows := rows.map (·.map fun x => x.toBinary32.toBinary64)

theorem rounded_throughSingles (rows : Rows) : rows.throughSingles.rounded = rows.rounded := by
  simp only [rounded, throughSingles, List.map_map]
  refine List.map_congr_left fun row _ => ?_
  rw [Function.comp_apply, List.map_map]
  exact List.map_congr_left fun x _ => x.toBinary32_toBinary64_toBinary32

theorem length_eq_of_rounded {rows others : Rows} (h : rows.rounded = others.rounded) :
    rows.length = others.length := by
  simpa [rounded] using congrArg List.length h

end Rows

/-- A list of reals is read as it is. -/
theorem Reader.reals (f : Binary64 → Binary64) (row : List Binary64) :
    Reader.list Reader.real (.list (row.map fun x => .float (f x))) = .ok (row.map f) :=
  list_map fun _ _ => rfl

/-- **A row is read** in either form, and its singles are kept. -/
theorem GivesRow.read {row : List Binary64} {v : Value} (h : GivesRow row v) :
    ∃ xs, Reader.list Reader.real (Rows.fromArrays.row v) = .ok xs ∧
      xs.map Binary64.toBinary32 = row.map Binary64.toBinary32 := by
  cases h with
  | list => exact ⟨row.map id, Reader.reals id row, by rw [List.map_id]⟩
  | array format =>
    refine ⟨row.map fun x => x.toBinary32.toBinary64, ?_, ?_⟩
    · have hlist := nested_one_axis Rows.component (row.map .real)
      rw [List.length_map, List.map_map] at hlist
      show Reader.list Reader.real (nested Rows.component [row.length] (row.map .real)) = _
      rw [hlist]
      exact Reader.reals (fun x => x.toBinary32.toBinary64) row
    · rw [List.map_map]
      exact List.map_congr_left fun x _ => x.toBinary32_toBinary64_toBinary32

/-- Rows that are given one by one are read, each in its own form. -/
theorem exists_rows {rows : Rows} {vs : List Value} (h : List.Forall₂ GivesRow rows vs) :
    ∃ found : Rows,
      Reader.list (Reader.list Reader.real) (.list (vs.map Rows.fromArrays.row)) = .ok found ∧
        found.rounded = rows.rounded := by
  simp only [Reader.list_eq_ok_iff, List.forall₂_map_left_iff]
  induction h with
  | nil => exact ⟨[], .nil, rfl⟩
  | cons hrow _ ih =>
    obtain ⟨found, hfound, hrounded⟩ := ih
    obtain ⟨xs, hxs, hsame⟩ := hrow.read
    refine ⟨xs :: found, .cons hxs hfound, ?_⟩
    rw [Rows.rounded, Rows.rounded, List.map_cons, List.map_cons, hsame]
    exact congrArg _ hrounded

/-- **A matrix is read** in every form, and its singles are kept. -/
theorem RealMatrix.Gives.read {M : RealMatrix} {v : Value} (h : M.Gives v) :
    ∃ rows, Rows.read v = .ok rows ∧ rows.rounded = M.rows.rounded := by
  cases h with
  | array format =>
    -- The array becomes a list of lists, whose components are rounded already.
    refine ⟨M.rows.throughSingles, ?_, M.rows.rounded_throughSingles⟩
    have hwidth : ∀ es ∈ M.rows.map (·.map Element.real), es.length = M.width :=
      List.forall_mem_map.mpr fun row hrow => (List.length_map _).trans (M.rectangular row hrow)
    have hlists := nested_two_axes Rows.component hwidth
    rw [List.length_map, List.map_map] at hlists
    have hread : Rows.read (.array ⟨.real format, [M.rows.length, M.width],
        (M.rows.map (·.map .real)).flatten⟩)
        = Reader.list (Reader.list Reader.real) (nested Rows.component [M.rows.length, M.width]
          (M.rows.map (·.map Element.real)).flatten) := rfl
    rw [hread, hlists]
    refine Reader.list_map fun row _ => ?_
    rw [Function.comp_apply, List.map_map]
    exact Reader.reals (fun x => x.toBinary32.toBinary64) row
  | @list vs hrows =>
    have hread : Rows.read (.list vs)
        = Reader.list (Reader.list Reader.real) (.list (vs.map Rows.fromArrays.row)) := rfl
    rw [hread]
    exact exists_rows hrows

/-! ## Parameters that resemble each other -/

namespace Checked

variable {α β γ δ : Type}

/-- **Two checks come to the same**: to values that are related, or to the same issues. -/
inductive Alike (R : α → β → Prop) : Checked α → Checked β → Prop
  | accepted {a : α} {b : β} (h : R a b) : Alike R (.ok a) (.ok b)
  | refused (issues : List Issue) : Alike R (.error issues) (.error issues)

variable {R : α → β → Prop} {S : γ → δ → Prop}

theorem alike_self (c : Checked α) : Alike Eq c c := by
  cases c with
  | ok a => exact .accepted rfl
  | error issues => exact .refused issues

theorem Alike.mono {Q : α → β → Prop} (hRQ : ∀ a b, R a b → Q a b) {c : Checked α} {d : Checked β}
    (h : Alike R c d) : Alike Q c d := by
  cases h with
  | accepted h => exact .accepted (hRQ _ _ h)
  | refused issues => exact .refused issues

theorem Alike.map {f : α → γ} {g : β → δ} (hfg : ∀ a b, R a b → S (f a) (g b)) {c : Checked α}
    {d : Checked β} (h : Alike R c d) : Alike S (f <$> c) (g <$> d) := by
  cases h with
  | accepted h => exact .accepted (hfg _ _ h)
  | refused issues => exact .refused issues

theorem Alike.seq {f : Checked (α → γ)} {g : Checked (β → δ)} {c : Checked α} {d : Checked β}
    (hfg : Alike (fun f g => ∀ a b, R a b → S (f a) (g b)) f g) (h : Alike R c d) :
    Alike S (f <*> c) (g <*> d) := by
  cases hfg with
  | accepted hfg =>
    cases h with
    | accepted h => exact .accepted (hfg _ _ h)
    | refused issues => exact .refused issues
  | refused issues =>
    cases h with
    | accepted h => exact .refused issues
    | refused more => exact .refused (issues ++ more)

theorem Alike.ensure {holds : α → Bool} {complaint : α → Complaint} {holds' : β → Bool}
    {complaint' : β → Complaint} (hholds : ∀ a b, R a b → holds a = holds' b)
    (hcomplaint : ∀ a b, R a b → complaint a = complaint' b) {c : Checked α} {d : Checked β}
    (h : Alike R c d) : Alike R (c.ensure holds complaint) (d.ensure holds' complaint') := by
  cases h with
  | @accepted a b h =>
    rw [Checked.ensure, Checked.ensure, hholds a b h, hcomplaint a b h]
    cases holds' b with
    | true => exact .accepted h
    | false => exact .refused _
  | refused issues => exact .refused issues

end Checked

/-- Insertions that differ at most in what is lost when their vectors are rounded. -/
structure Insertion.Resembles (i j : Insertion) : Prop where
  tableName : i.tableName = j.tableName
  rounded : i.rows.rounded = j.rows.rounded
  ids : i.ids = j.ids

/-- Searches that differ at most in what is lost when their vectors are rounded. -/
structure Search.Resembles (s t : Search) : Prop where
  tableName : s.tableName = t.tableName
  rounded : s.rows.rounded = t.rows.rounded
  ranges : s.ranges = t.ranges
  topK : s.topK = t.topK
  probes : s.probes = t.probes

namespace Operation

/-- The octets of the request of an operation, if its integers fit. -/
def octets? (op : Operation) : Option Wire.Octets :=
  op.request.toOption.map op.method.request.encode

/-- **Two operations are the same call**: they have the same request, and whatever happens meanwhile
and whatever is answered, they run alike in every session. -/
structure SameCall (a b : Operation) : Prop where
  octets : a.octets? = b.octets?
  run : ∀ (m : Nat) (during : Run Unit) (response : Response),
    Run.operate m a during response = Run.operate m b during response

theorem rowsContents_eq (rows : Rows) :
    rowsContents rows = rows.rounded.map fun row => .message [row.map .single] := by
  rw [rowsContents, Rows.rounded, List.map_map]
  refine List.map_congr_left fun row _ => ?_
  rw [Function.comp_apply, List.map_map]
  rfl

/-- Operations with the same request that read outcomes alike are the same call. -/
theorem sameCall_of_request {a b : Operation} (hrequest : a.request = b.request)
    (hmethod : a.method = b.method) (hform : a.form = b.form)
    (hconclude : ∀ outcome, Run.conclude a outcome = Run.conclude b outcome) : SameCall a b where
  octets := by rw [octets?, octets?, hrequest, hmethod]
  run m during response := by
    simp only [Run.operate, hrequest, hmethod, hform, hconclude]

theorem sameCall_insert {i j : Insertion} (h : i.Resembles j) :
    SameCall (.insert i) (.insert j) := by
  obtain ⟨table, rows, ids⟩ := i
  obtain ⟨_, others, _⟩ := j
  obtain ⟨rfl, hrounded, rfl⟩ := h
  refine sameCall_of_request ?_ rfl rfl fun _ => rfl
  rw [request, request, rowsContents_eq, rowsContents_eq, hrounded]

theorem sameCall_search {s t : Search} (h : s.Resembles t) : SameCall (.search s) (.search t) := by
  obtain ⟨table, rows, ranges, top, probes⟩ := s
  obtain ⟨_, others, _, _, _⟩ := t
  obtain ⟨rfl, hrounded, rfl, rfl, rfl⟩ := h
  refine sameCall_of_request ?_ rfl rfl fun _ => rfl
  rw [request, request, searchContents, searchContents, rowsContents_eq, rowsContents_eq, hrounded]

end Operation

/-! ## Every form of a matrix -/

namespace RealMatrix

open Checked (Alike)

variable {M : RealMatrix} {v w : Value}

/-- **An insertion is checked alike** whatever the form of its vectors. -/
theorem alike_insertion (hv : M.Gives v) (hw : M.Gives w) (args : Arguments) :
    Alike Insertion.Resembles (Insertion.check (args.put "vectors" v))
      (Insertion.check (args.put "vectors" w)) := by
  obtain ⟨rows, hrows, hrounded⟩ := hv.read
  obtain ⟨others, hothers, hothersrounded⟩ := hw.read
  have hsame := hrounded.trans hothersrounded.symm
  simp only [Insertion.check, Arguments.required_put_self, hrows, hothers,
    Arguments.required_put (show "vectors" ≠ "table_name" by decide),
    Arguments.optional_put (show "vectors" ≠ "vector_ids" by decide)]
  have hvectors : Alike (fun rows others => rows.rounded = others.rounded)
      (Checked.within (.field "vectors") (.ok rows))
      (Checked.within (.field "vectors") (.ok others)) :=
    .accepted hsame
  have hmade : Alike Insertion.Resembles
      (Insertion.mk <$> args.required "table_name" Reader.nonemptyText
        <*> Checked.within (.field "vectors") (.ok rows)
        <*> args.optional "vector_ids" [] readIds)
      (Insertion.mk <$> args.required "table_name" Reader.nonemptyText
        <*> Checked.within (.field "vectors") (.ok others)
        <*> args.optional "vector_ids" [] readIds) := by
    refine .seq (.seq (.map ?_ (Checked.alike_self _)) hvectors) (Checked.alike_self _)
    rintro name _ rfl rows others hsame ids _ rfl
    exact ⟨rfl, hsame, rfl⟩
  refine hmade.ensure (fun i j hij => ?_) fun i j hij => ?_
  · rw [Insertion.isAligned, Insertion.isAligned, hij.ids, Rows.length_eq_of_rounded hij.rounded]
  · rw [hij.ids, Rows.length_eq_of_rounded hij.rounded]

/-- **A search is checked alike** whatever the form of its vectors. -/
theorem alike_search (hv : M.Gives v) (hw : M.Gives w) (args : Arguments) :
    Alike Search.Resembles (Search.check (args.put "query_vectors" v))
      (Search.check (args.put "query_vectors" w)) := by
  obtain ⟨rows, hrows, hrounded⟩ := hv.read
  obtain ⟨others, hothers, hothersrounded⟩ := hw.read
  have hvectors : Alike (fun rows others => rows.rounded = others.rounded)
      (Checked.within (.field "query_vectors") (.ok rows))
      (Checked.within (.field "query_vectors") (.ok others)) :=
    .accepted (hrounded.trans hothersrounded.symm)
  simp only [Search.check, Arguments.required_put_self, hrows, hothers,
    Arguments.required_put (show "query_vectors" ≠ "table_name" by decide),
    Arguments.optional_put (show "query_vectors" ≠ "date_ranges" by decide),
    Arguments.optional_put (show "query_vectors" ≠ "top_k" by decide),
    Arguments.optional_put (show "query_vectors" ≠ "nprobe" by decide)]
  refine .seq (.seq (.seq (.seq (.map ?_ (Checked.alike_self _)) hvectors) (Checked.alike_self _))
    (Checked.alike_self _)) (Checked.alike_self _)
  rintro name _ rfl rows others hsame ranges _ rfl top _ rfl probes _ rfl
  exact ⟨rfl, hsame, rfl, rfl, rfl⟩

/-- An insertion is accepted if all but its vectors is right. -/
theorem insertion_accepted (hv : M.Gives v) {args : Arguments} {name : String} {ids : List Int}
    (hname : args.required "table_name" Reader.nonemptyText = .ok name)
    (hids : args.optional "vector_ids" [] readIds = .ok ids)
    (haligned : ids = [] ∨ ids.length = M.rows.length) :
    ∃ rows, Insertion.check (args.put "vectors" v) = .ok ⟨name, rows, ids⟩ ∧
      rows.rounded = M.rows.rounded := by
  obtain ⟨rows, hrows, hrounded⟩ := hv.read
  have hisAligned : Insertion.isAligned ⟨name, rows, ids⟩ = true := by
    rw [← Rows.length_eq_of_rounded hrounded] at haligned
    simpa [Insertion.isAligned] using haligned
  refine ⟨rows, ?_, hrounded⟩
  rw [Insertion.check, Arguments.required_put_self, hrows,
    Arguments.required_put (show "vectors" ≠ "table_name" by decide), hname,
    Arguments.optional_put (show "vectors" ≠ "vector_ids" by decide), hids]
  exact if_pos hisAligned

/-- A search is accepted if all but its vectors is right. -/
theorem search_accepted (hv : M.Gives v) {args : Arguments} {name : String}
    {ranges : List DateRange} {top probes : Int}
    (hname : args.required "table_name" Reader.nonemptyText = .ok name)
    (hranges : args.optional "date_ranges" []
      (Reader.list (Reader.record "DateRange" DateRange.check)) = .ok ranges)
    (htop : args.optional "top_k" 1024 Reader.positive = .ok top)
    (hprobes : args.optional "nprobe" 20 Reader.positive = .ok probes) :
    ∃ rows, Search.check (args.put "query_vectors" v) = .ok ⟨name, rows, ranges, top, probes⟩ ∧
      rows.rounded = M.rows.rounded := by
  obtain ⟨rows, hrows, hrounded⟩ := hv.read
  refine ⟨rows, ?_, hrounded⟩
  rw [Search.check, Arguments.required_put_self, hrows,
    Arguments.required_put (show "query_vectors" ≠ "table_name" by decide), hname,
    Arguments.optional_put (show "query_vectors" ≠ "date_ranges" by decide), hranges,
    Arguments.optional_put (show "query_vectors" ≠ "top_k" by decide), htop,
    Arguments.optional_put (show "query_vectors" ≠ "nprobe" by decide), hprobes]
  rfl

/-- **Two values are the same vectors** beside some other arguments. Each of them is accepted if the
other arguments are right; if those are wrong, the same is said about them. What is accepted makes
the same call. -/
structure Agree (M : RealMatrix) (args : Arguments) (v w : Value) : Prop where
  inserted : ∀ u ∈ [v, w], ∀ name ids,
    args.required "table_name" Reader.nonemptyText = .ok name →
    args.optional "vector_ids" [] readIds = .ok ids →
    (ids = [] ∨ ids.length = M.rows.length) →
    ∃ rows, Insertion.check (args.put "vectors" u) = .ok ⟨name, rows, ids⟩ ∧
      rows.rounded = M.rows.rounded
  searched : ∀ u ∈ [v, w], ∀ name ranges top probes,
    args.required "table_name" Reader.nonemptyText = .ok name →
    args.optional "date_ranges" []
      (Reader.list (Reader.record "DateRange" DateRange.check)) = .ok ranges →
    args.optional "top_k" 1024 Reader.positive = .ok top →
    args.optional "nprobe" 20 Reader.positive = .ok probes →
    ∃ rows, Search.check (args.put "query_vectors" u) = .ok ⟨name, rows, ranges, top, probes⟩ ∧
      rows.rounded = M.rows.rounded
  insertions : Alike (fun i j => Operation.SameCall (.insert i) (.insert j))
    (Insertion.check (args.put "vectors" v)) (Insertion.check (args.put "vectors" w))
  searches : Alike (fun s t => Operation.SameCall (.search s) (.search t))
    (Search.check (args.put "query_vectors" v)) (Search.check (args.put "query_vectors" w))

/-- **The forms of a matrix agree**, whatever the other arguments of an insertion or a search are:
they are accepted alike, they have the same request, and the client does the same with them. -/
theorem forms_agree (hv : M.Gives v) (hw : M.Gives w) (args : Arguments) : M.Agree args v w where
  inserted := by
    have hgives : ∀ u ∈ [v, w], M.Gives u := by simpa using ⟨hv, hw⟩
    exact fun u hu name ids => insertion_accepted (hgives u hu)
  searched := by
    have hgives : ∀ u ∈ [v, w], M.Gives u := by simpa using ⟨hv, hw⟩
    exact fun u hu name ranges top probes => search_accepted (hgives u hu)
  insertions := (alike_insertion hv hw args).mono fun _ _ => Operation.sameCall_insert
  searches := (alike_search hv hw args).mono fun _ _ => Operation.sameCall_search

/-- Two rows of two components, among them one tenth, which no single is, and a number past every
single. -/
def uneven : RealMatrix :=
  ⟨2, [[⟨0x3FB999999999999A⟩, ⟨0x48078287F49C4A1D⟩], [⟨0x8000000000000000⟩, ⟨0x0000000000000001⟩]],
    by decide⟩

/-- The rows of the uneven matrix, the first as an array and the second as a list. -/
def unevenRows : Value :=
  .list [.array ⟨.real .binary64, [2], [.real ⟨0x3FB999999999999A⟩, .real ⟨0x48078287F49C4A1D⟩]⟩,
    .list [.float ⟨0x8000000000000000⟩, .float ⟨0x0000000000000001⟩]]

/-- The uneven matrix as lists. -/
def unevenLists : Value :=
  .list [.list [.float ⟨0x3FB999999999999A⟩, .float ⟨0x48078287F49C4A1D⟩],
    .list [.float ⟨0x8000000000000000⟩, .float ⟨0x0000000000000001⟩]]

/-- The uneven matrix gives different parameters in two of its forms, and the same request. -/
theorem forms_agree_uneven : let args : Arguments := [("table_name", .text "t")]
    uneven.Gives unevenRows ∧ uneven.Gives unevenLists ∧
      ∃ i j, Insertion.check (args.put "vectors" unevenRows) = .ok i ∧
        Insertion.check (args.put "vectors" unevenLists) = .ok j ∧ i.rows ≠ j.rows ∧
        (Operation.insert i).octets? = (Operation.insert j).octets? := by
  intro args
  have hrows : uneven.Gives unevenRows := .list (.cons (.array .binary64) (.cons .list .nil))
  have hlists : uneven.Gives unevenLists := .list (.cons .list (.cons .list .nil))
  have hi : Insertion.check (args.put "vectors" unevenRows)
      = .ok ⟨"t", [[⟨0x3FB99999A0000000⟩, ⟨0x7FF0000000000000⟩],
          [⟨0x8000000000000000⟩, ⟨0x0000000000000001⟩]], []⟩ := by rfl
  have hj : Insertion.check (args.put "vectors" unevenLists) = .ok ⟨"t", uneven.rows, []⟩ := by rfl
  have hcalls := (forms_agree hrows hlists args).insertions
  rw [hi, hj] at hcalls
  cases hcalls with
  | accepted hcall => exact ⟨hrows, hlists, _, _, hi, hj, by decide, hcall.octets⟩

end RealMatrix

end VectorLink
