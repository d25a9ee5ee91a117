import VectorLink.Proofs.Interleaving
import VectorLink.Proofs.Operations

/-!
# What the steps of tasks come to

The next step of a task depends on its phase and on the session that it finds, and on nothing else.
Here is, phase by phase, what it comes to: where the task is then, and what became of the session.
That the pieces fit together is shown elsewhere; whoever reasons about steps needs only these
equations and never takes a step apart.
-/

namespace VectorLink

open Run

/-- A step leads to the session that what it does leads to. -/
theorem settle_snd {α : Type} (x : Run α) (failed : Failure → α) (s : Session) :
    (settle x failed s).2 = (x s).2 := by
  rw [settle]
  rcases x s with ⟨_ | _, _⟩ <;> rfl

/-! ## Operations -/

/-- An outcome is always concluded. -/
theorem conclude_eq (op : Operation) (outcome : CallOutcome) (s : Session) : conclude op outcome s
    = (.ok (op.interpret outcome), (conclude op outcome s).2) := by rw [conclude_run]

namespace CallPhase

variable {m : Nat} {op : Operation} {response : Response} {s s' : Session} {link : Nat}
  {message : Wire.Message}

theorem step_asked_idle (hcon : s.isConnected m = false) : step m op response .asked s
    = (.finished (.ok (.failed op.form .notConnected "")),
        s.noted .client .warning notConnectedText) := by
  rw [step, settle, next, get_bind_run, hcon, if_pos (by rfl), log_bind_run]
  rfl

theorem step_asked_unsendable {e : Wire.AssignError} (hcon : s.isConnected m = true)
    (hreq : op.request = .error e) :
    step m op response .asked s = (.finished (.error (.request e)), s) := by
  rw [step, settle, next, get_bind_run, hcon, if_neg (by decide), hreq]
  rfl

theorem step_asked_ready (hcon : s.isConnected m = true) (hreq : op.request = .ok message) :
    step m op response .asked s = (.ready message, s) := by
  rw [step, settle, next, get_bind_run, hcon, if_neg (by decide), hreq]
  rfl

theorem step_ready_unbound (hdisp : (s.manager m).dispatcher? = none) :
    step m op response (.ready message) s
      = (.finished (.ok (op.interpret .notIssued)), (conclude op .notIssued s).2) := by
  rw [step, settle, next, get_bind_run, hdisp]
  simp only [bind_run_ok (conclude_eq op .notIssued s)]
  rfl

theorem step_ready_bound (hdisp : (s.manager m).dispatcher? = some link) :
    step m op response (.ready message) s = (.bound link message, s) := by
  rw [step, settle, next, get_bind_run, hdisp]
  rfl

theorem step_bound_admitted (hadm : s.admits link = true) :
    step m op response (.bound link message) s = (.entered link message, s.enterCall link) := by
  have henter := enter_run link s
  rw [hadm, if_pos rfl] at henter
  rw [step, settle, next, bind_run_ok henter]
  rfl

theorem step_bound_declined (hadm : s.admits link = false) :
    step m op response (.bound link message) s = (.finished (.ok (op.interpret .notIssued)),
      (conclude op .notIssued (decline link op.method.name s).2).2) := by
  have henter := enter_run link s
  obtain ⟨text, hdecline⟩ := decline_run link op.method.name s
  rw [hadm, if_neg Bool.false_ne_true] at henter
  rw [step, settle, next, bind_run_ok henter, if_neg Bool.false_ne_true, bind_run_ok hdecline,
    bind_run_ok (conclude_eq ..), hdecline]
  rfl

theorem step_entered_open (hopen : s.isOpen link = true) :
    step m op response (.entered link message) s = (.calling link,
      s.push (.called link op.method.path (op.method.request.encode message))) := by
  rw [step, settle, next, bind_run_ok (send_run ..), hopen]
  rfl

theorem step_entered_closed (hclosed : s.isOpen link = false) :
    step m op response (.entered link message) s
      = (.leaving link (.ok (.fault ⟨none, closedChannelText⟩)), s) := by
  rw [step, settle, next, bind_run_ok (send_run ..), hclosed]
  rfl

theorem step_leaving_raised {e : Failure} (hleave : leave link s = (.error e, s'))
    (outcome : Except Failure CallOutcome) :
    step m op response (.leaving link outcome) s = (.finished (.error e), s') := by
  rw [step, settle, next, bind_run_error hleave]

theorem step_leaving_failed {f : Failure} (hleave : leave link s = (.ok (), s')) :
    step m op response (.leaving link (.error f)) s = (.finished (.error f), s') := by
  rw [step, settle, next, bind_run_ok hleave]
  rfl

theorem step_leaving_ok (hleave : leave link s = (.ok (), s')) (outcome : CallOutcome) :
    step m op response (.leaving link (.ok outcome)) s
      = (.finished (.ok (op.interpret outcome)), (conclude op outcome s').2) := by
  have hend : (resume (.ok outcome) >>= fun outcome => conclude op outcome >>= fun r =>
      pure (CallPhase.finished (.ok r))) s'
        = (.ok (.finished (.ok (op.interpret outcome))), (conclude op outcome s').2) :=
    bind_run_ok (conclude_eq op outcome s') _
  rw [step, settle, next, bind_run_ok hleave]
  simp only [hend]

end CallPhase

/-! ## Disconnects -/

namespace DisconnectPhase

variable {m : Nat} {s s' : Session} {link : Nat} {timeout : Value}

theorem step_waiting_busy (hbusy : (s.manager m).isBusy = true) :
    step m .waiting s = (.waiting, s) := by
  rw [step, settle, next, get_bind_run, hbusy]
  rfl

theorem step_waiting_free (hfree : (s.manager m).isBusy = false) : step m .waiting s
    = (.checking, s.changeManager m fun mgr => { mgr with isBusy := true }) := by
  rw [step, settle, next, get_bind_run, hfree]
  rfl

theorem step_checking_idle (hcon : s.isConnected m = false) : step m .checking s
    = (.releasing (.ok (some (.failed .nothing .notConnected ""))),
        s.noted .connection .warning notConnectedText) := by
  rw [step, settle, next, get_bind_run, hcon, if_pos (by rfl), log_bind_run]
  rfl

theorem step_checking_connected (hcon : s.isConnected m = true) : step m .checking s
    = (.shutting (.float (s.manager m).config.drainTimeout) (((s.manager m).current?).getD 0),
        s) := by
  rw [step, settle, next, get_bind_run, hcon, if_neg (by decide), get_bind_run, get_bind_run]
  rfl

theorem step_shutting : step m (.shutting timeout link) s
    = (.unbinding timeout link, if s.admits link then s.retire link else s) := by
  have hshut := shutDown_run link s
  rw [step, settle, next]
  cases hadm : s.admits link with
  | true =>
    rw [hadm, if_pos rfl] at hshut
    rw [bind_run_ok hshut]
    rfl
  | false =>
    rw [hadm, if_neg Bool.false_ne_true] at hshut
    rw [bind_run_ok hshut]
    rfl

theorem step_announcing : step m (.announcing timeout link) s
    = (if s.idle link then .draining link else
        (s.environment.clock.waitRaises? timeout).elim (.draining link) fun r =>
          .releasing (.error (.raised r)), s.push (.waited timeout)) := by
  have hmeasure : measureWait link timeout (s.push (.waited timeout))
      = (if s.idle link then .ok () else
          (s.environment.clock.waitRaises? timeout).elim (.ok ()) fun r => .error (.raised r),
        s.push (.waited timeout)) := measureWait_run link timeout _
  rw [step, settle, next, record_bind_run, bind_run, hmeasure]
  cases s.idle link with
  | true => rfl
  | false => cases s.environment.clock.waitRaises? timeout <;> rfl

theorem step_draining : step m (.draining link) s
    = (if ((s.handle? link).map fun h => h.inFlight == 0).getD true then .closing link
        else .draining link, s) := by
  rw [step, settle, next, bind_run_ok (isIdle_run link s)]
  cases ((s.handle? link).map fun h => h.inFlight == 0).getD true <;> rfl

theorem expire_draining : expire (.draining link) s
    = (if ((s.handle? link).map fun h => h.inFlight == 0).getD true then .closing link
        else .releasing (.ok none), s) := by
  rw [expire, settle, bind_run_ok (isIdle_run link s)]
  cases ((s.handle? link).map fun h => h.inFlight == 0).getD true <;> rfl

theorem step_closing_raised {e : Failure} (hclose : close link s = (.error e, s')) :
    step m (.closing link) s = (.releasing (.error e), s') := by
  rw [step, settle, next, bind_run_error hclose]

theorem step_closing_ok (hclose : close link s = (.ok (), s')) : step m (.closing link) s
    = (.releasing (.ok (some (.succeeded .nothing))), (farewell link true s').2) := by
  obtain ⟨text, hbye⟩ := farewell_run link s'
  rw [step, settle, next, bind_run_ok hclose, bind_run_ok hbye, hbye]
  rfl

/-- A disconnect that is over has a result, and others are excluded no more. -/
theorem step_releasing_ok (r? : Option Result) :
    ∃ r, partFrom m r? (s.changeManager m fun mgr => { mgr with isBusy := false })
        = (.ok r, (step m (.releasing (.ok r?)) s).2) ∧
      (step m (.releasing (.ok r?)) s).1 = .finished (.ok r) := by
  have hnext : next m (.releasing (.ok r?)) s = (partFrom m r? >>= fun r => pure (finished (.ok r)))
      (s.changeManager m fun mgr => { mgr with isBusy := false }) := rfl
  obtain ⟨r, s', hpart⟩ :=
    partFrom_run m r? (s.changeManager m fun mgr => { mgr with isBusy := false })
  rw [step, settle, hnext, bind_run_ok hpart, hpart]
  exact ⟨r, rfl, rfl⟩

end DisconnectPhase

end VectorLink
