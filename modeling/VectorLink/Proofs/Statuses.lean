import VectorLink.Proofs.Operations

/-!
# Where a status comes from

The statuses of the client and the outcomes of the server share one table of numbers: the server's
are zero to twenty-four, and the client's own are negative. A reply may hold any number of 32 bits,
and it is looked up in that table as it stands. So a reply that holds one of the client's own
numbers is taken for what only the client can know: that nothing was sent, that the call failed, or
that calls outlasted a wait.

Apart from such a reply the status of an operation tells the truth about what was sent and what came
back (`Operation.Truthful`), and with one it does not. The two together are `truthful_iff`.
-/

namespace VectorLink

/-! ## The table of numbers -/

namespace Status

/-- **A number that some status has is looked up as that status.** -/
theorem ofNumber_number (a : Status) : ofNumber a.number = a := by
  cases a <;> rfl

/-- A number is looked up as a status other than the unknown one only if it is that status's own. -/
theorem number_of_ofNumber {n : Int} {a : Status} (h : ofNumber n = a) (ha : a ≠ .unknown) :
    n = a.number := by
  unfold ofNumber at h
  cases hfind : all.find? fun b => b.number == n with
  | none =>
    rw [hfind] at h
    exact absurd h.symm ha
  | some b =>
    have hb := List.find?_some hfind
    rw [hfind] at h
    obtain rfl : b = a := h
    simpa using Eq.symm (by simpa using hb)

/-- Whether a number is one of the server's outcomes. -/
def isServed (n : Int) : Prop := 0 ≤ n ∧ n ≤ 24

/-- Whether a number is that of a status that only the client can know. -/
def isReserved (n : Int) : Prop :=
  n = notConnected.number ∨ n = callFailed.number ∨ n = shutdownTimeout.number

/-- Every status is the unknown one, one of the client's own, or one of the server's. -/
theorem number_cases (a : Status) : a = .unknown ∨ isReserved a.number ∨ isServed a.number := by
  cases a <;> simp [isReserved, isServed, number]

/-- **A number that is neither served nor reserved is unknown.** -/
theorem ofNumber_unknown {n : Int} (hs : ¬ isServed n) (hr : ¬ isReserved n) :
    ofNumber n = .unknown := by
  by_contra hne
  have hn : n = (ofNumber n).number := number_of_ofNumber rfl hne
  rcases number_cases (ofNumber n) with hu | hres | hser
  · exact hne hu
  · exact hr (hn ▸ hres)
  · exact hs (hn ▸ hser)

end Status

/-! ## The status of an outcome -/

/-- A checked value that was changed was right before. -/
theorem Checked.map_eq_ok {α β : Type} {f : α → β} {c : Checked α} {b : β}
    (h : f <$> c = .ok b) : ∃ a, c = .ok a ∧ f a = b := by
  cases c with
  | ok a => exact ⟨a, rfl, Except.ok.inj h⟩
  | error issues => cases h

namespace Operation

/-- A reply that reports success is read as a success, if it makes sense. -/
theorem success_status {op : Operation} {m : Wire.Message} {r : Result}
    (h : op.success m = .ok r) : r.status = .success := by
  cases op with
  | describeTable table =>
    obtain ⟨_, _, rfl⟩ := Checked.map_eq_ok h
    rfl
  | describeIndex table =>
    obtain ⟨_, _, rfl⟩ := Checked.map_eq_ok h
    rfl
  | _ =>
    cases h
    rfl

/-- **The status of a reply**: what its number says, except that a success may make no sense. -/
theorem interpret_reply_status (op : Operation) (m : Wire.Message) :
    (op.interpret (.reply m)).status = Status.ofNumber (op.verdict m).code ∨
      (op.verdict m).code = 0 ∧ (op.interpret (.reply m)).status = .unknown := by
  unfold interpret
  by_cases hzero : (op.verdict m).code = 0
  · simp only [hzero, if_true]
    cases hs : op.success m with
    | ok r =>
      refine .inl ?_
      show r.status = _
      rw [success_status hs]
      rfl
    | error issues => exact .inr ⟨trivial, rfl⟩
  · simp only [hzero, if_false]
    exact .inl rfl

/-- **A reply with a reserved number** gives the status that the number is reserved for. -/
theorem forged_status (op : Operation) (m : Wire.Message)
    (h : Status.isReserved (op.verdict m).code) :
    (op.interpret (.reply m)).status.number = (op.verdict m).code ∧
      ((op.interpret (.reply m)).status = .notConnected ∨
        (op.interpret (.reply m)).status = .callFailed ∨
        (op.interpret (.reply m)).status = .shutdownTimeout) := by
  have hstatus : (op.interpret (.reply m)).status = Status.ofNumber (op.verdict m).code := by
    obtain hstatus | ⟨hzero, -⟩ := op.interpret_reply_status m
    · exact hstatus
    · rw [hzero] at h
      exact absurd h (by simp [Status.isReserved, Status.number])
  rw [hstatus]
  obtain hn | hn | hn := h
  · rw [hn, Status.ofNumber_number]
    exact ⟨rfl, .inl rfl⟩
  · rw [hn, Status.ofNumber_number]
    exact ⟨rfl, .inr (.inl rfl)⟩
  · rw [hn, Status.ofNumber_number]
    exact ⟨rfl, .inr (.inr rfl)⟩

/-- **A reply with any other number** never gives a status that only the client can know, and the
unknown one unless the server's outcomes have that number. -/
theorem unforged_status (op : Operation) (m : Wire.Message)
    (h : ¬ Status.isReserved (op.verdict m).code) :
    (op.interpret (.reply m)).status ≠ .notConnected ∧
      (op.interpret (.reply m)).status ≠ .callFailed ∧
      (op.interpret (.reply m)).status ≠ .shutdownTimeout ∧
      (¬ Status.isServed (op.verdict m).code → (op.interpret (.reply m)).status = .unknown) := by
  obtain hstatus | ⟨-, hstatus⟩ := op.interpret_reply_status m
  · rw [hstatus]
    refine ⟨fun hn => ?_, fun hn => ?_, fun hn => ?_, fun hs => Status.ofNumber_unknown hs h⟩
    · exact h (.inl (Status.number_of_ofNumber hn nofun))
    · exact h (.inr (.inl (Status.number_of_ofNumber hn nofun)))
    · exact h (.inr (.inr (Status.number_of_ofNumber hn nofun)))
  · rw [hstatus]
    exact ⟨nofun, nofun, nofun, fun _ => rfl⟩

end Operation

/-- A response never says that a call was not issued. -/
theorem Response.outcome_ne_notIssued (method : Wire.Method) (response : Response) :
    response.outcome method ≠ .ok .notIssued := by
  cases response with
  | octets bs =>
    rw [outcome]
    split <;> simp
  | callError e => simp [outcome]
  | raises r =>
    rw [outcome]
    split <;> simp

/-! ## What a status tells -/

namespace Operation

/-- The number in the reply that a response holds, if it holds one. -/
def replyCode? (op : Operation) (response : Response) : Option Int :=
  match response.outcome op.method with
  | .ok (.reply m) => some (op.verdict m).code
  | _ => none

/-- **A status tells the truth** about an operation of a manager in a session, about the requests
that it sent, and about the response to them. -/
structure Truthful (op : Operation) (m : Nat) (response : Response) (s : Session)
    (sent : List Request) (status : Status) : Prop where
  /-- Not connected means that nothing was sent. -/
  notConnected : status = .notConnected → sent = []
  /-- A failed call failed by itself, if not because its channel was closed. -/
  callFailed : status = .callFailed → (∃ f, response.outcome op.method = .ok (.fault f)) ∨
    ∃ i, s.route? m = some i ∧ s.isOpen i = false
  /-- No operation waits for running calls. -/
  shutdownTimeout : status ≠ .shutdownTimeout
  /-- A number that is none of the server's outcomes is unknown. -/
  unknown : ∀ c, sent ≠ [] → op.replyCode? response = some c → ¬ Status.isServed c →
    status = .unknown

section Reply

variable {op : Operation} {m : Nat} {response : Response} {s : Session} {sent : List Request}
  {reply : Wire.Message}

/-- The number in a reply is the only one that its response holds. -/
theorem replyCode?_reply (hout : response.outcome op.method = .ok (.reply reply)) {c : Int} :
    op.replyCode? response = some c ↔ (op.verdict reply).code = c := by
  unfold replyCode?
  rw [hout]
  exact Option.some_inj

/-- There is no number where no reply is. -/
theorem replyCode?_fault {f : Fault} (hout : response.outcome op.method = .ok (.fault f))
    (c : Int) : op.replyCode? response ≠ some c := by
  unfold replyCode?
  rw [hout]
  exact nofun

/-- **Without a reserved number the status tells the truth** about a reply. -/
theorem truthful_reply (hout : response.outcome op.method = .ok (.reply reply))
    (hres : ¬ Status.isReserved (op.verdict reply).code) :
    op.Truthful m response s sent (op.interpret (.reply reply)).status := by
  obtain ⟨hconn, hfailed, htime, hunknown⟩ := op.unforged_status reply hres
  refine ⟨fun h => absurd h hconn, fun h => absurd h hfailed, htime, fun c _ hc hserved => ?_⟩
  exact hunknown ((replyCode?_reply hout).mp hc ▸ hserved)

/-- **With a reserved number it does not**: a request was sent, the call came to a reply on an open
channel, and the status says otherwise. -/
theorem not_truthful_reply (hout : response.outcome op.method = .ok (.reply reply))
    (hres : Status.isReserved (op.verdict reply).code) (hsent : sent ≠ [])
    (hopen : ∀ i, s.route? m = some i → s.isOpen i = true) :
    ¬ op.Truthful m response s sent (op.interpret (.reply reply)).status := by
  intro ht
  -- each of the three says something that is not so
  obtain ⟨-, hstatus | hstatus | hstatus⟩ := op.forged_status reply hres
  · exact hsent (ht.notConnected hstatus)
  · obtain ⟨f, hfault⟩ | ⟨i, hi, hclosed⟩ := ht.callFailed hstatus
    · rw [hout] at hfault
      cases hfault
    · rw [hopen i hi] at hclosed
      cases hclosed
  · exact ht.shutdownTimeout hstatus

end Reply

end Operation

namespace Run

open Session

variable {s s' : Session} {m : Nat} {op : Operation} {response : Response} {steps : List Step}
  {result : Result}

/-- **How an operation that answers came to its status**: nothing was sent, and it says that it is
not connected; or the channel was closed, and the call failed; or one request was sent, and the call
failed or brought a reply. -/
theorem operate_cases (hs : s.Valid)
    (hrun : operate m op (Step.runAll steps) response s = (.ok result, s')) :
    (s.requestsUntil s' = [] ∧ result.status = .notConnected) ∨
    (s.requestsUntil s' = [] ∧ result.status = .callFailed ∧
      ∃ i, s.route? m = some i ∧ s.isOpen i = false) ∨
    ∃ (request : Request) (i : Nat), s.requestsUntil s' = [request] ∧ s.route? m = some i ∧
      s.isOpen i = true ∧
      ((∃ f, response.outcome op.method = .ok (.fault f)) ∧ result.status = .callFailed ∨
        ∃ reply, response.outcome op.method = .ok (.reply reply) ∧
          result = op.interpret (.reply reply)) := by
  have hfst : (operate m op (Step.runAll steps) response s).1 = .ok result := by rw [hrun]
  have hsnd : (operate m op (Step.runAll steps) response s).2 = s' := by rw [hrun]
  cases hcon : s.isConnected m with
  | false =>
    rw [operate_run_idle hcon] at hfst hsnd
    subst hsnd
    cases hfst
    exact .inl ⟨Sent.requestsUntil_eq (related_noted (R := Silent) s _ _ _), rfl⟩
  | true =>
    cases hreq : op.request with
    | error e =>
      rw [operate_run_unsendable hcon hreq] at hfst
      cases hfst
    | ok message =>
      cases hroute : s.route? m with
      | none =>
        obtain ⟨hanswer, hsent⟩ := operate_unrouted (Step.runAll steps) response hcon hreq hroute
        rw [hsnd] at hsent
        rw [hfst] at hanswer
        cases hanswer
        exact .inl ⟨hsent.requestsUntil_eq, rfl⟩
      | some i =>
        cases hopen : s.isOpen i with
        | false =>
          obtain ⟨hsent, hanswer⟩ :=
            operate_closed (Step.runAll steps) response hs hroute hreq hopen
          rw [hsnd] at hsent
          rw [hanswer result hfst]
          exact .inr (.inl ⟨hsent.requestsUntil_eq, rfl, i, rfl, hopen⟩)
        | true =>
          obtain ⟨hsent, hanswer⟩ :=
            operate_open (Step.runAll steps) response hs hroute hreq hopen (silent_runAll steps)
          rw [hsnd] at hsent
          obtain ⟨outcome, hout, rfl⟩ := hanswer result hfst
          refine .inr (.inr ⟨_, i, hsent.requestsUntil_eq, rfl, hopen, ?_⟩)
          cases outcome with
          | notIssued => exact absurd hout (response.outcome_ne_notIssued _)
          | fault f => exact .inl ⟨⟨f, hout⟩, rfl⟩
          | reply reply => exact .inr ⟨reply, hout, rfl⟩

/-- **The status of an operation tells the truth exactly if no reply holds a reserved number**,
whatever the session, the operation, the response, and the steps during the call are. A reply that
holds one gives the operation the status that the number is reserved for. -/
theorem truthful_iff (hs : s.Valid)
    (hrun : operate m op (Step.runAll steps) response s = (.ok result, s')) :
    (op.Truthful m response s (s.requestsUntil s') result.status ↔
      ∀ c, s.requestsUntil s' ≠ [] → op.replyCode? response = some c → ¬ Status.isReserved c) ∧
    ∀ c, s.requestsUntil s' ≠ [] → op.replyCode? response = some c → Status.isReserved c →
      result.status.number = c := by
  obtain ⟨hnone, hstatus⟩ | ⟨hnone, hstatus, hclosed⟩ | ⟨request, i, hsent, hroute, hopen, hend⟩ :=
    operate_cases hs hrun
  · rw [hnone, hstatus]
    refine ⟨iff_of_true ⟨fun _ => rfl, nofun, nofun, fun _ h => absurd rfl h⟩ ?_, ?_⟩
    · exact fun _ h => absurd rfl h
    · exact fun _ h => absurd rfl h
  · rw [hnone, hstatus]
    refine ⟨iff_of_true ⟨nofun, fun _ => .inr hclosed, nofun, fun _ h => absurd rfl h⟩ ?_, ?_⟩
    · exact fun _ h => absurd rfl h
    · exact fun _ h => absurd rfl h
  · have hne : s.requestsUntil s' ≠ [] := by
      rw [hsent]
      exact List.cons_ne_nil _ _
    obtain ⟨⟨f, hfault⟩, hstatus⟩ | ⟨reply, hreply, rfl⟩ := hend
    · have hnever := Operation.replyCode?_fault hfault
      rw [hstatus]
      refine ⟨iff_of_true ⟨nofun, fun _ => .inl ⟨f, hfault⟩, nofun, ?_⟩ ?_, ?_⟩
      · exact fun c _ h => absurd h (hnever c)
      · exact fun c _ h => absurd h (hnever c)
      · exact fun c _ h => absurd h (hnever c)
    · have hcode {c : Int} := Operation.replyCode?_reply hreply (c := c)
      by_cases hres : Status.isReserved (op.verdict reply).code
      · have hlie := Operation.not_truthful_reply hreply hres hne fun j hj => by
          rw [← Option.some_inj.mp (hroute.symm.trans hj)]
          exact hopen
        refine ⟨iff_of_false hlie fun h => h _ hne (hcode.mpr rfl) hres, fun c _ hc _ => ?_⟩
        rw [← hcode.mp hc]
        exact (op.forged_status reply hres).1
      · refine ⟨iff_of_true (Operation.truthful_reply hreply hres) fun c _ hc => ?_,
          fun c _ hc h => ?_⟩
        · rw [← hcode.mp hc]
          exact hres
        · rw [← hcode.mp hc] at h
          exact absurd h hres

/-- A reply that holds minus two, in the ten octets of a negative number. -/
def disowningReply : Response :=
  .octets [0x08, 0xfe, 0xff, 0xff, 0xff, 0xff, 0xff, 0xff, 0xff, 0xff, 0x01]

/-- A connection that succeeds at once. -/
def promptSteps : List Step := [.connectManager (.text "host") (.int 1) (.int 0) .smooth []]

/-- A table is dropped and the server says minus two: the client says that it is not connected,
though the request was sent. -/
theorem truthful_iff_disowned : let s := (withClient .bare .standard).after promptSteps
    ∃ result s', operate 0 (.dropTable "t") (Step.runAll []) disowningReply s = (.ok result, s') ∧
      (s.requestsUntil s').length = 1 ∧ result.status = .notConnected ∧
      ¬ (Operation.dropTable "t").Truthful 0 disowningReply s (s.requestsUntil s')
        result.status := by
  intro s
  have hreached : s.Reached fun _ => true :=
    ⟨_, promptSteps, ⟨.bare, .standard, .inl rfl⟩, rfl, List.mem_cons_self⟩
  have hcode : (Operation.dropTable "t").replyCode? disowningReply
      = some Status.notConnected.number := by decide +kernel
  have hsent : (s.requestsUntil
      (operate 0 (.dropTable "t") (Step.runAll []) disowningReply s).2).length = 1 := by
    decide +kernel
  have hanswer :
      (operate 0 (.dropTable "t") (Step.runAll []) disowningReply s).1.toBool = true := by
    decide +kernel
  cases hrun : operate 0 (.dropTable "t") (Step.runAll []) disowningReply s with
  | mk answer s' =>
    rw [hrun] at hsent hanswer
    cases answer with
    | error => cases hanswer
    | ok result =>
      obtain ⟨htrue, hforged⟩ := truthful_iff hreached.valid hrun
      have hne : s.requestsUntil s' ≠ [] := fun h => by
        rw [h] at hsent
        cases hsent
      have hnum := hforged _ hne hcode (.inl rfl)
      refine ⟨result, s', rfl, hsent, ?_, fun ht => htrue.mp ht _ hne hcode (.inl rfl)⟩
      rw [← Status.ofNumber_number result.status, hnum]
      rfl

end Run

end VectorLink
