import VectorLink.Proofs.Requests

/-!
# What an operation sends and answers

An operation comes to its end in one of five ways, and which one is decided before anything is sent,
except for the last: the manager is not connected; the request cannot be put together; the call is
not issued, since it is bound to no link or to one that admits no calls; the channel of the link is
closed; or one request reaches the channel. Only in the last case is anything sent, and then it is
one request.

The call is issued on the link that the manager's calls are bound to, if there is one that takes
them (`Scene.route?`).
-/

namespace VectorLink

theorem Wire.Method.ofName?_name (method : Wire.Method) :
    Wire.Method.ofName? method.name = some method := by
  cases method <;> rfl

/-- Whether the channel of a link takes requests. -/
def Scene.isOpen (s : Scene) (i : Nat) : Bool := !((s.links[i]?).map Link.isClosed).getD true

/-- **The link that a manager issues its calls on**: the one that they are bound to, while the
manager is connected and the link admits calls. -/
def Scene.route? (s : Scene) (m : Nat) : Option Nat :=
  if s.isConnected m then (s.manager m).dispatcher?.filter s.admits else none

theorem Scene.route?_eq_some {s : Scene} {m i : Nat} :
    s.route? m = some i ↔ s.isConnected m = true ∧ (s.manager m).dispatcher? = some i ∧
      s.admits i = true := by
  unfold route?
  cases s.isConnected m with
  | false => simp
  | true => rw [if_pos rfl, Option.filter_eq_some_iff, eq_self_iff_true, true_and]

namespace Run

open Session

variable {s : Session} {i : Nat}

/-! ## Calls -/

/-- A tracked call sends what takes place inside it sends. -/
theorem track_sent {α : Type} {body : Bool → Run α} {requests : List Request} (hs : s.Valid)
    (hadm : s.admits i = true)
    (hbody : Sent (s.enterCall i) (body true (s.enterCall i)).2 requests) :
    Sent s (track i body s).2 requests := by
  have henter : Silent s (s.enterCall i) := silent_indifferent.enterCall s i
  have hleave := silent_indifferent.leave i _ ((henter.evolves.trans hbody.evolves).valid hs)
  rw [track_run, if_pos hadm, andFinally_snd]
  have := (henter.trans hbody).trans hleave
  rwa [List.nil_append, List.append_nil] at this

theorem track_ok {α : Type} {body : Bool → Run α} {a : α} (hadm : s.admits i = true)
    (h : (track i body s).1 = .ok a) : (body true (s.enterCall i)).1 = .ok a := by
  rw [track_run, if_pos hadm] at h
  exact andFinally_ok h

theorem isOpen_enterCall (s : Session) (i : Nat) : (s.enterCall i).isOpen i = s.isOpen i := by
  unfold Scene.isOpen Session.enterCall
  rw [links_changeLink, if_pos rfl, push_toScene,
    Option.map_map]
  rfl

variable {method : Wire.Method} {request : Wire.Octets} {during : Run Unit} {response : Response}

/-- A request is sent exactly if the channel is open. -/
theorem send_run (i : Nat) (path : String) (request : Wire.Octets) (s : Session) :
    send i path request s
      = (.ok (s.isOpen i), if s.isOpen i then s.push (.called i path request) else s) := by
  rw [send, get_bind_run, Scene.isOpen]
  cases ((s.links[i]?).map Link.isClosed).getD true <;> rfl

/-- A channel that is closed takes no request. -/
theorem invoke_run_closed (hclosed : s.isOpen i = false) :
    invoke i method request during response s = (.ok (.fault ⟨none, closedChannelText⟩), s) := by
  rw [invoke, bind_run_ok (send_run i method.path request s), hclosed]
  rfl

/-- **A channel that is open takes the request**, then other things take place, then there is an
answer. -/
theorem invoke_run_open (hopen : s.isOpen i = true) :
    invoke i method request during response s
      = (during >>= fun _ => resume (response.outcome method))
          (s.push (.called i method.path request)) := by
  rw [invoke, bind_run_ok (send_run i method.path request s), hopen]
  rfl

theorem invoke_sent (hs : s.Valid) (hopen : s.isOpen i = true) (hd : Keeps Silent during) :
    Sent s (invoke i method request during response s).2 [⟨i, method.path, request⟩] := by
  rw [invoke_run_open hopen]
  have hrest : Keeps Silent (during >>= fun _ => resume (response.outcome method)) :=
    hd.bind fun _ => keeps_resume _
  have hcalled := sent_called s i method.path request
  have := hcalled.trans (hrest _ (hcalled.evolves.valid hs))
  rwa [List.append_nil] at this

/-- An outcome of a call on an open channel is what the answer gives. -/
theorem invoke_ok {outcome : CallOutcome} (hopen : s.isOpen i = true)
    (h : (invoke i method request during response s).1 = .ok outcome) :
    response.outcome method = .ok outcome := by
  rw [invoke_run_open hopen, bind_run] at h
  cases hx : during (s.push (.called i method.path request)) with
  | mk r s' =>
    rw [hx] at h
    cases r with
    | ok => exact h
    | error e => cases h

/-- A call that is declined is noted. -/
theorem decline_run (i : Nat) (name : String) (s : Session) :
    ∃ text, decline i name s = (.ok .notIssued, s.noted .transport .debug text) := by
  have htarget : targetOf i s = (.ok (((s.links[i]?).map Link.target).getD ""), s) := rfl
  exact ⟨_, by rw [decline, bind_run_ok htarget, log_bind_run]; rfl⟩

/-- A call that is not admitted is declined. -/
theorem dispatch_run_refused {name : String} (hadm : s.admits i = false) :
    dispatch i name request during response s = decline i name s := by
  rw [dispatch, track_run, hadm, if_neg Bool.false_ne_true, if_pos (by rfl)]

/-- A call that is admitted is a call on the channel, inside the handle. -/
theorem dispatch_run_admitted (hadm : s.admits i = true) :
    dispatch i method.name request during response s
      = track i (fun _ => invoke i method request during response) s := by
  rw [dispatch, track_run, track_run, if_pos hadm, if_pos hadm, Wire.Method.ofName?_name]
  rfl

/-! ## Operations -/

variable {m : Nat} {op : Operation} {message : Wire.Message}

/-- A manager that is not connected says so. -/
theorem operate_run_idle (hcon : s.isConnected m = false) :
    operate m op during response s = (.ok (.failed op.form .notConnected ""),
      s.noted .client .warning notConnectedText) := by
  rw [operate, get_bind_run, hcon, if_pos (by rfl), log_bind_run]
  rfl

/-- A request that cannot be put together is not sent. -/
theorem operate_run_unsendable {e : Wire.AssignError} (hcon : s.isConnected m = true)
    (hreq : op.request = .error e) :
    operate m op during response s = (.error (.request e), s) := by
  rw [operate, get_bind_run, hcon, if_neg (by decide), hreq]
  rfl

theorem conclude_run (op : Operation) (outcome : CallOutcome) (s : Session) :
    conclude op outcome s = (.ok (op.interpret outcome),
      s.noted .client (op.remark outcome).1 (op.remark outcome).2) := by
  show (log .client (op.remark outcome).1 (op.remark outcome).2 >>= fun _ =>
    pure (op.interpret outcome)) s = _
  rw [log_bind_run]
  rfl

theorem operate_run_unbound (hcon : s.isConnected m = true) (hreq : op.request = .ok message)
    (hdisp : (s.manager m).dispatcher? = none) :
    operate m op during response s = conclude op .notIssued s := by
  rw [operate, get_bind_run, hcon, if_neg (by decide), hreq]
  simp only [get_bind_run, hdisp]
  rfl

theorem operate_run_bound (hcon : s.isConnected m = true) (hreq : op.request = .ok message)
    (hdisp : (s.manager m).dispatcher? = some i) :
    operate m op during response s
      = (dispatch i op.method.name (op.method.request.encode message) during response
          >>= conclude op) s := by
  rw [operate, get_bind_run, hcon, if_neg (by decide), hreq]
  simp only [get_bind_run, hdisp]

/-- Noting an outcome sends nothing and changes nothing about it. -/
theorem operate_bound_sent {requests : List Request} (hcon : s.isConnected m = true)
    (hreq : op.request = .ok message) (hdisp : (s.manager m).dispatcher? = some i)
    (hcall : Sent s
      (dispatch i op.method.name (op.method.request.encode message) during response s).2 requests) :
    Sent s (operate m op during response s).2 requests := by
  rw [operate_run_bound hcon hreq hdisp, bind_run]
  cases hrun : dispatch i op.method.name (op.method.request.encode message) during response s with
  | mk r s' =>
    rw [hrun] at hcall
    cases r with
    | error e => exact hcall
    | ok outcome =>
      show Sent s (conclude op outcome s').2 requests
      rw [conclude_run]
      have hnote : Silent s' _ := related_noted s' .client (op.remark outcome).1
        (op.remark outcome).2
      have := hcall.trans hnote
      rwa [List.append_nil] at this

theorem operate_bound_ok {result : Result} (hcon : s.isConnected m = true)
    (hreq : op.request = .ok message) (hdisp : (s.manager m).dispatcher? = some i)
    (h : (operate m op during response s).1 = .ok result) :
    ∃ outcome, (dispatch i op.method.name (op.method.request.encode message) during response s).1
      = .ok outcome ∧ result = op.interpret outcome := by
  rw [operate_run_bound hcon hreq hdisp, bind_run] at h
  cases hrun : dispatch i op.method.name (op.method.request.encode message) during response s with
  | mk r s' =>
    rw [hrun] at h
    cases r with
    | error e => cases h
    | ok outcome =>
      have h : (conclude op outcome s').1 = .ok result := h
      rw [conclude_run] at h
      exact ⟨outcome, rfl, (Except.ok.inj h).symm⟩

variable (during response)

/-- **An operation without a route** sends nothing and says that the client is not connected. -/
theorem operate_unrouted (hcon : s.isConnected m = true) (hreq : op.request = .ok message)
    (hroute : s.route? m = none) :
    (operate m op during response s).1 = .ok (.failed op.form .notConnected "") ∧
      Sent s (operate m op during response s).2 [] := by
  cases hdisp : (s.manager m).dispatcher? with
  | none =>
    rw [operate_run_unbound hcon hreq hdisp, conclude_run]
    exact ⟨rfl, related_noted (R := Silent) s _ _ _⟩
  | some i =>
    -- calls are bound to a link, so without a route it is that link that admits nobody
    have hadm : s.admits i = false := by
      rw [← Bool.not_eq_true]
      intro hadm
      rw [Scene.route?_eq_some.mpr ⟨hcon, hdisp, hadm⟩] at hroute
      cases hroute
    obtain ⟨text, hdecline⟩ := decline_run i op.method.name s
    have hrun : dispatch i op.method.name (op.method.request.encode message) during response s
        = (.ok .notIssued, s.noted .transport .debug text) :=
      (dispatch_run_refused hadm).trans hdecline
    refine ⟨?_, operate_bound_sent hcon hreq hdisp ?_⟩
    · rw [operate_run_bound hcon hreq hdisp, bind_run_ok hrun, conclude_run]
      rfl
    · rw [hrun]
      exact related_noted (R := Silent) s _ _ _

/-- **An operation on a closed channel** sends nothing, and the call is a fault. -/
theorem operate_closed (hs : s.Valid) (hroute : s.route? m = some i)
    (hreq : op.request = .ok message) (hclosed : s.isOpen i = false) :
    Sent s (operate m op during response s).2 [] ∧
      ∀ result, (operate m op during response s).1 = .ok result →
        result = op.interpret (.fault ⟨none, closedChannelText⟩) := by
  obtain ⟨hcon, hdisp, hadm⟩ := Scene.route?_eq_some.mp hroute
  have hinner : (s.enterCall i).isOpen i = false := (isOpen_enterCall s i).trans hclosed
  refine ⟨operate_bound_sent hcon hreq hdisp ?_, fun result h => ?_⟩
  · rw [dispatch_run_admitted hadm]
    refine track_sent hs hadm ?_
    rw [invoke_run_closed hinner]
    exact Sent.refl _
  · obtain ⟨outcome, hout, rfl⟩ := operate_bound_ok hcon hreq hdisp h
    rw [dispatch_run_admitted hadm] at hout
    have hout := track_ok hadm hout
    rw [invoke_run_closed hinner] at hout
    cases hout
    rfl

/-- **An operation on an open channel sends its request**, once, whatever comes of it; and its
result is what the answer means. -/
theorem operate_open (hs : s.Valid) (hroute : s.route? m = some i)
    (hreq : op.request = .ok message) (hopen : s.isOpen i = true) (hd : Keeps Silent during) :
    Sent s (operate m op during response s).2
        [⟨i, op.method.path, op.method.request.encode message⟩] ∧
      ∀ result, (operate m op during response s).1 = .ok result →
        ∃ outcome, response.outcome op.method = .ok outcome ∧ result = op.interpret outcome := by
  obtain ⟨hcon, hdisp, hadm⟩ := Scene.route?_eq_some.mp hroute
  have hinner : (s.enterCall i).isOpen i = true := (isOpen_enterCall s i).trans hopen
  refine ⟨operate_bound_sent hcon hreq hdisp ?_, fun result h => ?_⟩
  · rw [dispatch_run_admitted hadm]
    exact track_sent hs hadm (invoke_sent ((evolves_enterCall s i).valid hs) hinner hd)
  · obtain ⟨outcome, hout, rfl⟩ := operate_bound_ok hcon hreq hdisp h
    rw [dispatch_run_admitted hadm] at hout
    exact ⟨outcome, invoke_ok hinner (track_ok hadm hout), rfl⟩

end Run

end VectorLink
