import VectorLink.Proofs.Building
import VectorLink.Proofs.Statuses

/-!
# What validation grants, and what it does not

Parameters are validated when they are made, long before a request is put together. What validation
grants is one-sided: sizes, counts and numbers of lists are above zero, but nothing keeps them from
being too large for the fields of a request, and ids are not bounded at all. So whether an operation
answers is not decided by validation. It answers exactly if its integers are within the bounds that
the fields have (`Run.operate_answers_iff`), and if not it raises, though its parameters are valid.
-/

namespace VectorLink

/-! ## What an accepted value was accepted for -/

namespace Checked

variable {α β : Type}

theorem seq_eq_ok {f : Checked (α → β)} {c : Checked α} {b : β} (h : f <*> c = .ok b) :
    ∃ g a, f = .ok g ∧ c = .ok a ∧ g a = b := by
  cases f with
  | error is => cases c <;> cases h
  | ok g =>
    cases c with
    | error is => cases h
    | ok a => exact ⟨g, a, rfl, rfl, Except.ok.inj h⟩

theorem within_eq_ok {p : Place} {c : Checked α} {a : α} (h : within p c = .ok a) : c = .ok a := by
  cases c with
  | ok b => exact h
  | error is => cases h

theorem ensure_eq_ok {c : Checked α} {holds : α → Bool} {complaint : α → Complaint} {a : α}
    (h : c.ensure holds complaint = .ok a) : c = .ok a ∧ holds a = true := by
  cases c with
  | error is => cases h
  | ok b =>
    cases hb : holds b with
    | true =>
      rw [ensure, hb] at h
      obtain rfl : b = a := Except.ok.inj h
      exact ⟨rfl, hb⟩
    | false =>
      rw [ensure, hb] at h
      cases h

end Checked

namespace Arguments

variable {α : Type} {args : Arguments} {name : String} {read : Reader α} {a : α}

theorem required_eq_ok (h : args.required name read = .ok a) : ∃ v, read v = .ok a := by
  have h := Checked.within_eq_ok h
  cases hv : args.get? name with
  | none =>
    rw [hv] at h
    cases h
  | some v =>
    rw [hv] at h
    exact ⟨v, h⟩

theorem optional_eq_ok {default : α} (h : args.optional name default read = .ok a) :
    a = default ∨ ∃ v, read v = .ok a := by
  rw [optional] at h
  cases hv : args.get? name with
  | none =>
    rw [hv] at h
    exact .inl (Except.ok.inj h).symm
  | some v =>
    rw [hv] at h
    exact .inr ⟨v, Checked.within_eq_ok h⟩

end Arguments

namespace Reader

/-- **An accepted integer above zero is above zero.** -/
theorem positive_eq_ok {v : Value} {n : Int} (h : positive v = .ok n) : 0 < n := by
  cases hv : integer v with
  | error is =>
    rw [positive, bounded, hv] at h
    cases h
  | ok k =>
    cases hk : !decide (0 < k) with
    | true =>
      rw [positive, bounded, hv] at h
      simp only [List.find?_cons, hk] at h
      cases h
    | false =>
      rw [positive, bounded, hv] at h
      simp only [List.find?_cons, List.find?_nil, hk] at h
      obtain rfl : k = n := Except.ok.inj h
      simpa using hk

theorem record_eq_ok {α : Type} {name : String} {check : Arguments → Checked α} {v : Value} {a : α}
    (h : record name check v = .ok a) : ∃ args, check args = .ok a := by
  cases v with
  | mapping entries => exact ⟨_, h⟩
  | _ => cases h

end Reader

/-! ## What the checks grant -/

theorem Arguments.required_positive_eq_ok {args : Arguments} {name : String} {n : Int}
    (h : args.required name Reader.positive = .ok n) : 0 < n := by
  obtain ⟨v, hv⟩ := required_eq_ok h
  exact Reader.positive_eq_ok hv

theorem Arguments.optional_positive_eq_ok {args : Arguments} {name : String} {n default : Int}
    (hdefault : 0 < default) (h : args.optional name default Reader.positive = .ok n) : 0 < n := by
  obtain rfl | ⟨v, hv⟩ := optional_eq_ok h
  · exact hdefault
  · exact Reader.positive_eq_ok hv

/-- **The sizes of an accepted table are above zero.** -/
theorem TableSchema.check_eq_ok {args : Arguments} {t : TableSchema} (h : check args = .ok t) :
    0 < t.dimension ∧ 0 < t.indexFileSize := by
  obtain ⟨_, _, h₁, -, rfl⟩ := Checked.seq_eq_ok h
  obtain ⟨_, _, h₂, hsize, rfl⟩ := Checked.seq_eq_ok h₁
  obtain ⟨_, _, h₃, hdim, rfl⟩ := Checked.seq_eq_ok h₂
  obtain ⟨_, -, rfl⟩ := Checked.map_eq_ok h₃
  exact ⟨Arguments.required_positive_eq_ok hdim,
    Arguments.optional_positive_eq_ok (by decide) hsize⟩

/-- **The number of lists of an accepted index is above zero.** -/
theorem Index.check_eq_ok {args : Arguments} {i : Index} (h : check args = .ok i) :
    0 < i.lists := by
  obtain ⟨_, _, h₁, hlists, rfl⟩ := Checked.seq_eq_ok h
  obtain ⟨_, -, rfl⟩ := Checked.map_eq_ok h₁
  exact Arguments.optional_positive_eq_ok (by decide) hlists

theorem IndexRequest.check_eq_ok {args : Arguments} {r : IndexRequest} (h : check args = .ok r) :
    0 < r.index.lists := by
  obtain ⟨_, _, h₁, hindex, rfl⟩ := Checked.seq_eq_ok h
  obtain ⟨_, -, rfl⟩ := Checked.map_eq_ok h₁
  obtain rfl | ⟨v, hv⟩ := Arguments.optional_eq_ok hindex
  · exact (by decide : 0 < Index.standard.lists)
  · obtain ⟨_, hindex⟩ := Reader.record_eq_ok hv
    exact Index.check_eq_ok hindex

/-- **An accepted insertion has an id for each row or none.** -/
theorem Insertion.check_eq_ok {args : Arguments} {i : Insertion} (h : check args = .ok i) :
    i.ids = [] ∨ i.ids.length = i.rows.length := by
  have haligned := (Checked.ensure_eq_ok h).2
  simpa [isAligned] using haligned

/-- **The numbers of an accepted search are above zero.** -/
theorem Search.check_eq_ok {args : Arguments} {s : Search} (h : check args = .ok s) :
    0 < s.topK ∧ 0 < s.probes := by
  obtain ⟨_, _, h₁, hprobes, rfl⟩ := Checked.seq_eq_ok h
  obtain ⟨_, _, h₂, htop, rfl⟩ := Checked.seq_eq_ok h₁
  obtain ⟨_, _, h₃, -, rfl⟩ := Checked.seq_eq_ok h₂
  obtain ⟨_, _, h₄, -, rfl⟩ := Checked.seq_eq_ok h₃
  obtain ⟨_, -, rfl⟩ := Checked.map_eq_ok h₄
  exact ⟨Arguments.optional_positive_eq_ok (by decide) htop,
    Arguments.optional_positive_eq_ok (by decide) hprobes⟩

theorem FileSearch.check_eq_ok {args : Arguments} {s : FileSearch} (h : check args = .ok s) :
    0 < s.search.topK ∧ 0 < s.search.probes := by
  obtain ⟨_, _, h₁, hsearch, rfl⟩ := Checked.seq_eq_ok h
  obtain ⟨_, -, rfl⟩ := Checked.map_eq_ok h₁
  obtain ⟨_, hv⟩ := Arguments.required_eq_ok hsearch
  obtain ⟨_, hsearch⟩ := Reader.record_eq_ok hv
  exact Search.check_eq_ok hsearch

/-! ## Operations with accepted parameters -/

namespace Operation

/-- **The parameters of an operation were accepted** by their checks. The name of a table alone is
not checked. -/
def Accepted : Operation → Prop
  | .createTable t => ∃ args, TableSchema.check args = .ok t
  | .createIndex r => ∃ args, IndexRequest.check args = .ok r
  | .insert i => ∃ args, Insertion.check args = .ok i
  | .search s => ∃ args, Search.check args = .ok s
  | .searchInFiles s => ∃ args, FileSearch.check args = .ok s
  | .deleteByRange _ range => ∃ args, DateRange.check args = .ok range
  | _ => True

/-- **What validation does not grant**: the integers of an operation are within the bounds of their
fields as far as they are bounded by nothing else. -/
def WithinBounds : Operation → Prop
  | .createTable t => t.dimension < 2 ^ 63 ∧ t.indexFileSize < 2 ^ 63
  | .createIndex r => r.index.lists < 2 ^ 31
  | .insert i => ∀ id ∈ i.ids, -(2 ^ 63) ≤ id ∧ id < 2 ^ 63
  | .search s => s.topK < 2 ^ 63 ∧ s.probes < 2 ^ 63
  | .searchInFiles s => s.search.topK < 2 ^ 63 ∧ s.search.probes < 2 ^ 63
  | _ => True

theorem isInt64_iff {n : Int} : Wire.isInt64 n = true ↔ -(2 ^ 63) ≤ n ∧ n < 2 ^ 63 := by
  simp [Wire.isInt64]

/-- An integer above zero fits 64 bits exactly if it is small enough. -/
theorem isInt64_of_pos {n : Int} (hn : 0 < n) : Wire.isInt64 n = true ↔ n < 2 ^ 63 := by
  rw [isInt64_iff]
  omega

theorem isInt32_of_pos {n : Int} (hn : 0 < n) : Wire.isInt32 n = true ↔ n < 2 ^ 31 := by
  simp only [Wire.isInt32, Bool.and_eq_true, decide_eq_true_eq]
  omega

/-- **Accepted integers fit exactly if they are within the bounds.** -/
theorem Accepted.integersFit {op : Operation} (hop : op.Accepted) :
    op.IntegersFit ↔ op.WithinBounds := by
  cases op with
  | createTable t =>
    obtain ⟨_, h⟩ := hop
    obtain ⟨hdim, hsize⟩ := TableSchema.check_eq_ok h
    simp [IntegersFit, wideIntegers, narrowIntegers, WithinBounds, isInt64_of_pos hdim,
      isInt64_of_pos hsize]
  | createIndex r =>
    obtain ⟨_, h⟩ := hop
    simp [IntegersFit, wideIntegers, narrowIntegers, WithinBounds,
      isInt32_of_pos (IndexRequest.check_eq_ok h)]
  | insert i => simp [IntegersFit, wideIntegers, narrowIntegers, WithinBounds, isInt64_iff]
  | search s =>
    obtain ⟨_, h⟩ := hop
    obtain ⟨htop, hprobes⟩ := Search.check_eq_ok h
    simp [IntegersFit, wideIntegers, narrowIntegers, WithinBounds, isInt64_of_pos htop,
      isInt64_of_pos hprobes]
  | searchInFiles s =>
    obtain ⟨_, h⟩ := hop
    obtain ⟨htop, hprobes⟩ := FileSearch.check_eq_ok h
    simp [IntegersFit, wideIntegers, narrowIntegers, WithinBounds, isInt64_of_pos htop,
      isInt64_of_pos hprobes]
  | _ => exact iff_of_true ⟨List.forall_mem_nil _, List.forall_mem_nil _⟩ trivial

end Operation

/-! ## Calls that come to an answer -/

/-- **A response answers**: octets, or an error of the transport. -/
def Response.Answers : Response → Prop
  | .raises _ => False
  | _ => True

theorem Response.Answers.outcome {response : Response} (h : response.Answers)
    (method : Wire.Method) : ∃ outcome, response.outcome method = .ok outcome := by
  cases response with
  | octets bs =>
    rw [Response.outcome]
    cases method.reply.decode? bs with
    | none => exact ⟨_, rfl⟩
    | some m => exact ⟨_, rfl⟩
  | callError e => exact ⟨_, rfl⟩
  | raises r => exact h.elim

/-- **Steps do not disturb the call during which they take place**: none of them is an interrupt,
and if there are any, no channel raises when it is closed. -/
structure Session.Undisturbed (s : Session) (steps : List Step) : Prop where
  interrupt : ∀ step ∈ steps, step.isInterrupt = false
  closing : steps ≠ [] → ∀ l ∈ s.links, l.behaviour.closingRaises? = none

namespace Run

open Session

variable {s : Session} {i m : Nat} {steps : List Step}

/-- A link that a call enters or leaves behaves as before. -/
theorem behaviour_leaveCall {l : Link} (hl : (s.leaveCall i).links[i]? = some l) :
    ∃ l', s.links[i]? = some l' ∧ l.behaviour = l'.behaviour := by
  rw [leaveCall, links_changeLink, if_pos rfl] at hl
  obtain ⟨l', hl', rfl⟩ := Option.map_eq_some_iff.mp hl
  exact ⟨l', hl', rfl⟩

/-- A call that leaves a handle which is not shut down leaves it open. -/
theorem leave_ok_of_admits (hadm : s.admits i = true) : (leave i s).1 = .ok () := by
  obtain ⟨h, hi, hshut⟩ := Scene.admits_iff.mp hadm
  have hleft : (s.leaveCall i).handle? i = some h.leave := by
    rw [leaveCall, handle?_onHandle, if_pos rfl, push_toScene, hi, Option.map_some]
  have hdrained : (s.leaveCall i).drained i = false := by
    rw [Scene.drained, hleft, Option.any_some, Handle.isDrained]
    show (h.isShutdown && _) = false
    rw [hshut, Bool.false_and]
  rw [leave_run, hdrained]
  rfl

/-- A call leaves a channel that raises nothing, though it may close it. -/
theorem leave_ok_of_quiet (hquiet : ∀ l, s.links[i]? = some l → l.behaviour.closingRaises? = none) :
    (leave i s).1 = .ok () := by
  rw [leave_run]
  split
  · refine close_ok fun l hl => ?_
    obtain ⟨l', hl', hbehaviour⟩ := behaviour_leaveCall hl
    rw [hbehaviour]
    exact hquiet l' hl'
  · rfl

theorem admits_enterCall (hadm : s.admits i = true) : (s.enterCall i).admits i = true := by
  obtain ⟨h, hi, hshut⟩ := Scene.admits_iff.mp hadm
  refine Scene.admits_iff.mpr ⟨h.enter, ?_, hshut⟩
  rw [enterCall, handle?_onHandle, if_pos rfl, push_toScene, hi, Option.map_some]

variable {method : Wire.Method} {request : Wire.Octets} {response : Response}

/-- An outcome stands if what is done in either case comes to its end. -/
theorem andFinally_fst {α : Type} {x : Run α} {after : Run Unit}
    (hafter : (after (x s).2).1 = .ok ()) : (andFinally x after s).1 = (x s).1 := by
  rw [andFinally_run]
  cases hrun : after (x s).2 with
  | mk r s' =>
    rw [hrun] at hafter
    obtain rfl : r = .ok () := hafter
    rfl

/-- What a channel does when it is closed was settled when it was made. -/
theorem leave_ok_of_evolves {s' : Session} {l : Link} (hl : s.links[i]? = some l)
    (hquiet : l.behaviour.closingRaises? = none) (hevolves : s.Evolves s') :
    (leave i s').1 = .ok () := by
  obtain ⟨l', hl', hll'⟩ := hevolves.links i l hl
  refine leave_ok_of_quiet fun l'' hl'' => ?_
  obtain rfl : l' = l'' := Option.some.inj (hl'.symm.trans hl'')
  rw [hll'.behaviour]
  exact hquiet

/-- After undisturbing steps a call leaves as if there had been none. -/
theorem leave_ok_of_undisturbed {s' : Session} (hadm : s.admits i = true)
    (hsteps : s.Undisturbed steps) (hevolves : s.Evolves s')
    (hnone : steps = [] → s'.admits i = true) : (leave i s').1 = .ok () := by
  by_cases hnil : steps = []
  · exact leave_ok_of_admits (hnone hnil)
  · obtain ⟨h, hi, -⟩ := Scene.admits_iff.mp hadm
    obtain ⟨l, hl, -⟩ := handle?_eq_some.mp hi
    exact leave_ok_of_evolves hl (hsteps.closing hnil l (List.mem_of_getElem? hl)) hevolves

/-- A session evolves while a request is under way. -/
theorem evolves_underWay (hs : s.Valid) (i : Nat) (path : String) (request : Wire.Octets)
    (steps : List Step) :
    s.Evolves (Step.runAll steps ((s.enterCall i).push (.called i path request))).2 := by
  have hcalled : s.Evolves ((s.enterCall i).push (.called i path request)) :=
    (evolves_enterCall s i).trans (evolves_push _ _)
  exact hcalled.trans (silent_runAll steps _ (hcalled.valid hs)).evolves

/-- **A call on an open channel comes to the outcome of its answer**, whatever that is, if the steps
that take place meanwhile come to their end and it then leaves. -/
theorem dispatch_fst (hadm : s.admits i = true) (hopen : s.isOpen i = true)
    (hsteps : ∀ step ∈ steps, step.isInterrupt = false)
    (hleave : (leave i (Step.runAll steps
      ((s.enterCall i).push (.called i method.path request))).2).1 = .ok ()) :
    (dispatch i method.name request (Step.runAll steps) response s).1
      = response.outcome method := by
  have hrun : invoke i method request (Step.runAll steps) response (s.enterCall i)
      = (response.outcome method,
        (Step.runAll steps ((s.enterCall i).push (.called i method.path request))).2) := by
    rw [invoke_run_open ((isOpen_enterCall s i).trans hopen),
      bind_run_ok (Prod.ext (Step.runAll_ok hsteps _) rfl)]
    rfl
  rw [dispatch_run_admitted hadm, track_run, if_pos hadm,
    andFinally_fst (by rw [hrun]; exact hleave), hrun]

/-- **A call that is admitted comes to an outcome**, if it is answered and not disturbed. -/
theorem dispatch_ok (hs : s.Valid) (hadm : s.admits i = true) (hanswers : response.Answers)
    (hsteps : s.Undisturbed steps) :
    ∃ outcome, (dispatch i method.name request (Step.runAll steps) response s).1 = .ok outcome := by
  have hentered : (s.enterCall i).admits i = true := admits_enterCall hadm
  cases hopen : s.isOpen i with
  | false =>
    have hrun : invoke i method request (Step.runAll steps) response (s.enterCall i)
        = (.ok (.fault ⟨none, closedChannelText⟩), s.enterCall i) :=
      invoke_run_closed ((isOpen_enterCall s i).trans hopen)
    rw [dispatch_run_admitted hadm, track_run, if_pos hadm,
      andFinally_fst (by rw [hrun]; exact leave_ok_of_admits hentered), hrun]
    exact ⟨_, rfl⟩
  | true =>
    obtain ⟨outcome, houtcome⟩ := hanswers.outcome method
    refine ⟨outcome, (dispatch_fst hadm hopen hsteps.interrupt ?_).trans houtcome⟩
    refine leave_ok_of_undisturbed hadm hsteps (evolves_underWay hs i _ _ steps) fun hnil => ?_
    rw [hnil]
    exact hentered

variable {op : Operation}

/-- **An operation whose integers fit comes to a result**, if it is answered and not disturbed. -/
theorem operate_ok (hs : s.Valid) (hcon : s.isConnected m = true) (hfit : op.IntegersFit)
    (hanswers : response.Answers) (hsteps : s.Undisturbed steps) :
    ∃ result, (operate m op (Step.runAll steps) response s).1 = .ok result := by
  have hreq := Operation.request_eq_ok hfit
  cases hdisp : (s.manager m).dispatcher? with
  | none =>
    rw [operate_run_unbound hcon hreq hdisp, conclude_run]
    exact ⟨_, rfl⟩
  | some i =>
    rw [operate_run_bound hcon hreq hdisp]
    have hcall : ∃ outcome, (dispatch i op.method.name (op.method.request.encode op.message)
        (Step.runAll steps) response s).1 = .ok outcome := by
      cases hadm : s.admits i with
      | true => exact dispatch_ok hs hadm hanswers hsteps
      | false =>
        obtain ⟨text, hdecline⟩ := decline_run i op.method.name s
        rw [dispatch_run_refused hadm, hdecline]
        exact ⟨_, rfl⟩
    obtain ⟨outcome, houtcome⟩ := hcall
    rw [bind_run_ok (Prod.ext houtcome rfl), conclude_run]
    exact ⟨_, rfl⟩

/-- **Whether an operation with accepted parameters answers** is decided by bounds that validation
does not know of. In every session in which the manager is connected, and for every answer of the
server, the operation comes to a result exactly if its integers are within the bounds of their
fields. Otherwise it raises, names the first integer that does not fit, and leaves everything as it
was. -/
theorem operate_answers_iff (hop : op.Accepted) (hs : s.Valid) (hcon : s.isConnected m = true)
    (hanswers : response.Answers) (hsteps : s.Undisturbed steps) :
    ((∃ result, (operate m op (Step.runAll steps) response s).1 = .ok result) ↔ op.WithinBounds) ∧
      (¬ op.WithinBounds → ∃ n, op.misfit? = some n ∧
        operate m op (Step.runAll steps) response s = (.error (.request (.outOfRange n)), s)) := by
  have hraises : ¬ op.WithinBounds → ∃ n, op.misfit? = some n ∧
      operate m op (Step.runAll steps) response s = (.error (.request (.outOfRange n)), s) := by
    intro hbounds
    obtain ⟨n, hn, hreq⟩ := Operation.request_eq_error (mt hop.integersFit.mp hbounds)
    exact ⟨n, hn, operate_run_unsendable hcon hreq⟩
  refine ⟨⟨fun ⟨result, hresult⟩ => ?_, fun hbounds => ?_⟩, hraises⟩
  · by_contra hbounds
    obtain ⟨n, -, hrun⟩ := hraises hbounds
    rw [hrun] at hresult
    cases hresult
  · exact operate_ok hs hcon (hop.integersFit.mpr hbounds) hanswers hsteps

/-- A table of `2 ^ 63` dimensions, which validation accepts. -/
def vastArguments : Arguments := [("table_name", .text "t"), ("dimension", .int (2 ^ 63))]

/-- A vast table is accepted, and creating it raises though the client is connected. -/
theorem operate_answers_iff_vast : let s := (withClient .bare .standard).after promptSteps
    ∃ t, TableSchema.check vastArguments = .ok t ∧ s.isConnected 0 = true ∧
      operate 0 (.createTable t) (Step.runAll []) (.octets []) s
        = (.error (.request (.outOfRange (2 ^ 63))), s) := by
  intro s
  have hreached : s.Reached fun _ => true :=
    ⟨_, promptSteps, ⟨.bare, .standard, .inl rfl⟩, rfl, List.mem_cons_self⟩
  have hcon : s.isConnected 0 = true := by decide +kernel
  have hcheck : TableSchema.check vastArguments = .ok ⟨"t", 2 ^ 63, 1024, .l2⟩ := by rfl
  have hbounds : ¬ (Operation.createTable ⟨"t", 2 ^ 63, 1024, .l2⟩).WithinBounds := fun h =>
    absurd h.1 (Int.lt_irrefl _)
  have hanswers : (Response.octets []).Answers := trivial
  have hsteps : s.Undisturbed [] := ⟨nofun, fun h => absurd rfl h⟩
  have hop : (Operation.createTable ⟨"t", 2 ^ 63, 1024, .l2⟩).Accepted := ⟨_, hcheck⟩
  obtain ⟨n, hn, hrun⟩ :=
    (operate_answers_iff hop hreached.valid hcon hanswers hsteps).2 hbounds
  obtain rfl : 2 ^ 63 = n := Option.some.inj hn
  exact ⟨_, hcheck, hcon, hrun⟩

end Run

end VectorLink
