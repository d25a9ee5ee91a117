import VectorLink.Proofs.Steps

/-!
# Activities that nobody interferes with

An activity that was split into steps is the same activity. At every phase there is something left
of it (`CallPhase.rest`, `ConnectPhase.rest`, `DisconnectPhase.rest`), at the beginning that is all
of it, and at the end only its answer. No step changes what comes of the rest, if the rest goes on
at once. So a task that nobody interferes with comes to the answer and to the session that its
activity comes to, which is to say that no step was left out and none was made up.
-/

namespace VectorLink

open Run

/-! ## Steps and what is left -/

/-- So many steps, with nothing in between. -/
def alone {α : Type} (step : α → Session → α × Session) (n : Nat) (p : α) (s : Session) :
    α × Session := (fun q : α × Session => step q.1 q.2)^[n] (p, s)

/-- What no step changes is the same after any number of them. -/
theorem alone_rest {α β : Type} {step : α → Session → α × Session} (rest : α → Run β)
    (hstep : ∀ p s, rest (step p s).1 (step p s).2 = rest p s) (n : Nat) (p : α) (s : Session) :
    rest (alone step n p s).1 (alone step n p s).2 = rest p s := by
  induction n generalizing p s with
  | zero => rfl
  | succ n ih => exact (ih (step p s).1 (step p s).2).trans (hstep p s)

/-! ## Operations -/

namespace CallPhase

variable (m : Nat) (op : Operation) (response : Response)

/-- **What is left of an operation** if it goes on at once. -/
def rest : CallPhase → Run Result
  | .asked => operate m op (pure ()) response
  | .ready message => do
    match ((← get).manager m).dispatcher? with
    | some link =>
      dispatch link op.method.name (op.method.request.encode message) (pure ()) response
        >>= conclude op
    | none => conclude op .notIssued
  | .bound link message =>
    dispatch link op.method.name (op.method.request.encode message) (pure ()) response
      >>= conclude op
  | .entered link message =>
    andFinally (invoke link op.method (op.method.request.encode message) (pure ()) response)
      (leave link) >>= conclude op
  | .calling link => andFinally (resume (response.outcome op.method)) (leave link) >>= conclude op
  | .leaving link outcome => andFinally (resume outcome) (leave link) >>= conclude op
  | .finished answer => resume answer

variable {m op response}

theorem rest_ready {s : Session} {message : Wire.Message} (hcon : s.isConnected m = true)
    (hreq : op.request = .ok message) :
    rest m op response (.ready message) s = operate m op (pure ()) response s := by
  rw [rest, get_bind_run]
  cases hdisp : (s.manager m).dispatcher? with
  | none => rw [operate_run_unbound hcon hreq hdisp]
  | some link => rw [operate_run_bound hcon hreq hdisp]

/-- **A step of an operation** does not change what comes of it if it goes on at once. -/
theorem step_rest (p : CallPhase) (s : Session) :
    (p.step m op response s).1.rest m op response (p.step m op response s).2
      = p.rest m op response s := by
  cases p with
  | asked =>
    cases hcon : s.isConnected m with
    | false =>
      rw [step_asked_idle hcon]
      exact (operate_run_idle hcon).symm
    | true =>
      cases hreq : op.request with
      | error e =>
        rw [step_asked_unsendable hcon hreq]
        exact (operate_run_unsendable hcon hreq).symm
      | ok message =>
        rw [step_asked_ready hcon hreq]
        exact rest_ready hcon hreq
  | ready message =>
    cases hdisp : (s.manager m).dispatcher? with
    | none =>
      rw [step_ready_unbound hdisp, rest, rest, get_bind_run, hdisp]
      exact (conclude_eq op .notIssued s).symm
    | some link => rw [step_ready_bound hdisp, rest, rest, get_bind_run, hdisp]
  | bound link message =>
    cases hadm : s.admits link with
    | true =>
      have hcall :
          dispatch link op.method.name (op.method.request.encode message) (pure ()) response s
            = andFinally
                (invoke link op.method (op.method.request.encode message) (pure ()) response)
                (leave link) (s.enterCall link) := by
        rw [dispatch_run_admitted hadm, track_run, if_pos hadm]
      rw [step_bound_admitted hadm]
      exact bind_run_congr hcall.symm _
    | false =>
      obtain ⟨text, hdecline⟩ := decline_run link op.method.name s
      rw [step_bound_declined hadm, rest, rest,
        bind_run_ok ((dispatch_run_refused hadm).trans hdecline), hdecline, conclude_eq]
      rfl
  | entered link message =>
    cases hopen : s.isOpen link with
    | true =>
      have hcall : invoke link op.method (op.method.request.encode message) (pure ()) response s
          = resume (response.outcome op.method)
              (s.push (.called link op.method.path (op.method.request.encode message))) := by
        rw [invoke_run_open hopen]
        rfl
      rw [step_entered_open hopen]
      exact bind_run_congr (andFinally_congr hcall.symm _) _
    | false =>
      have hcall : invoke link op.method (op.method.request.encode message) (pure ()) response s
          = resume (.ok (.fault ⟨none, closedChannelText⟩)) s := invoke_run_closed hopen
      rw [step_entered_closed hopen]
      exact bind_run_congr (andFinally_congr hcall.symm _) _
  | calling link => rfl
  | leaving link outcome =>
    -- leaving may close the channel, and if that raises the outcome is lost
    have hend := andFinally_run (resume outcome) (leave link) s
    rw [show resume outcome s = (outcome, s) from rfl] at hend
    rw [rest, bind_run, hend]
    cases hleave : leave link s with
    | mk r s' =>
      cases r with
      | error e => rw [step_leaving_raised hleave]; rfl
      | ok =>
        cases outcome with
        | error f => rw [step_leaving_failed hleave]; rfl
        | ok outcome =>
          rw [step_leaving_ok hleave]
          exact (conclude_eq op outcome s').symm
  | finished answer => rfl

/-- **An operation that nobody interferes with** comes to what it comes to when it runs at once. -/
theorem run_alone {n : Nat} {s s' : Session} {answer : Except Failure Result}
    (h : alone (step m op response) n .asked s = (.finished answer, s')) :
    operate m op (pure ()) response s = (answer, s') := by
  have hrest := alone_rest (rest m op response) step_rest n asked s
  rw [h] at hrest
  exact hrest.symm

end CallPhase

/-! ## Connecting -/

/-- What is done while others are excluded, and after that. -/
def excluding {α : Type} (m : Nat) (x : Run α) (finish : α → Run Result) : Run Result :=
  andFinally x (occupy m false) >>= finish

/-- What is done while others are excluded can be done one part after the other. A failure skips
what is left of it. -/
theorem settle_excluding {α β γ : Type} {m : Nat} {finish : γ → Run Result} (rest : β → Run Result)
    {failed : Failure → β} (x : Run α) (c : α → β) {k : α → Run γ} {next : Run β}
    {now : Run Result} {s : Session} (hnext : next s = (x >>= fun a => pure (c a)) s)
    (hnow : now s = excluding m (x >>= k) finish s)
    (hrest : ∀ a, rest (c a) = excluding m (k a) finish)
    (hfailed : ∀ f, rest (failed f) = excluding m (resume (.error f)) finish) :
    rest (settle next failed s).1 (settle next failed s).2 = now s := by
  rw [settle, hnext, hnow, bind_run, excluding]
  cases hx : x s with
  | mk r s' =>
    cases r with
    | ok a =>
      show rest (c a) s' = _
      rw [hrest]
      exact bind_run_congr (andFinally_congr (bind_run_ok hx k).symm _) _
    | error f =>
      show rest (failed f) s' = _
      rw [hfailed]
      exact bind_run_congr (andFinally_congr (bind_run_error hx k).symm _) _

/-- How pauses in which nothing takes place are numbered does not matter. -/
theorem pollReady_number (link : Nat) (timeout : Value) (length : Except Raised Binary64)
    (left number : Nat) : pollReady link timeout length (fun _ => pure ()) left number
      = pollReady link timeout length (fun _ => pure ()) left 1 := by
  induction left generalizing number with
  | zero => rfl
  | succ left ih => rw [pollReady, pollReady, ih (number + 1), ih 2]

/-- There is nothing to wait for when a link is ready. -/
theorem waitPatiently_run_ready {link : Nat} {s : Session} (timeout : Value)
    (length : Except Raised Binary64) (hready : isReady link s = (.ok true, s))
    (patience : Patience) :
    waitPatiently link timeout length (fun _ => pure ()) patience s = (.ok (), s) := by
  cases patience with
  | incomparable kindName =>
    rw [waitPatiently, bind_run_ok hready]
    rfl
  | pauses n => cases n <;> (rw [waitPatiently, pollReady, bind_run_ok hready]; rfl)

/-- When a link is not ready it is waited for by a pause and by waiting on. -/
theorem waitPatiently_run_pause {link : Nat} {s : Session} (timeout : Value)
    (length : Except Raised Binary64) (hready : isReady link s = (.ok false, s))
    (patience : Patience) :
    waitPatiently link timeout length (fun _ => pure ()) patience s
      = (pauseOnce link timeout length patience >>=
          waitPatiently link timeout length fun _ => pure ()) s := by
  cases patience with
  | incomparable kindName =>
    rw [waitPatiently, bind_run_ok hready]
    rfl
  | pauses n =>
    cases n with
    | zero =>
      obtain ⟨f, s', hgive⟩ := giveUp_run link timeout s
      rw [waitPatiently, pollReady, bind_run_ok hready, pauseOnce, bind_run_error (hgive _)]
      exact hgive Unit
    | succ left =>
      rw [waitPatiently, pollReady, bind_run_ok hready, if_neg Bool.false_ne_true, pauseOnce,
        bind_assoc]
      refine congrArg (fun f => (pauseSeconds length >>= f) s) (funext fun x => ?_)
      rw [bind_assoc, pollReady_number]
      rfl

namespace ConnectPhase

variable (v : Venture)

/-- **What is left of a connect** if it goes on at once. -/
def rest : ConnectPhase → Run Result
  | .waiting => Run.connect v.manager v.host v.port v.timeout v.behaviour fun _ => pure ()
  | .choosing => excluding v.manager
      (establish v.manager v.host v.port v.timeout v.behaviour fun _ => pure ()) welcome
  | .making target => excluding v.manager (do
      let config := ((← get).manager v.manager).config
      let link ← setUp target config.channelOptions v.behaviour
      install v.manager link
      unbindCalls v.manager
      waitUntilReady link v.timeout config.pollInterval fun _ => pure ()
      bindCalls v.manager link
      return target) welcome
  | .installing target interval link => excluding v.manager (do
      install v.manager link
      unbindCalls v.manager
      waitUntilReady link v.timeout interval fun _ => pure ()
      bindCalls v.manager link
      return target) welcome
  | .unbinding target interval link => excluding v.manager (do
      unbindCalls v.manager
      waitUntilReady link v.timeout interval fun _ => pure ()
      bindCalls v.manager link
      return target) welcome
  | .announcing target interval link => excluding v.manager (do
      waitUntilReady link v.timeout interval fun _ => pure ()
      bindCalls v.manager link
      return target) welcome
  | .looking target length link patience => excluding v.manager (do
      waitPatiently link v.timeout length (fun _ => pure ()) patience
      bindCalls v.manager link
      return target) welcome
  | .binding target link => excluding v.manager (do
      bindCalls v.manager link
      return target) welcome
  | .releasing answer => excluding v.manager (resume answer) welcome
  | .finished answer => resume answer

variable {v}

/-- **A step of a connect** does not change what comes of it if it goes on at once. -/
theorem step_rest (p : ConnectPhase) (s : Session) :
    (p.step v s).1.rest v (p.step v s).2 = p.rest v s := by
  cases p with
  | waiting =>
    have hrun := exclusively_run v.manager
      (establish v.manager v.host v.port v.timeout v.behaviour fun _ => pure ()) s
    rw [step, settle, next, get_bind_run]
    cases hbusy : (s.manager v.manager).isBusy with
    | true => rfl -- it looks again later
    | false =>
      rw [hbusy, if_neg Bool.false_ne_true] at hrun
      exact bind_run_congr hrun.symm _
  | choosing =>
    exact settle_excluding (rest v) (chooseTarget v.manager v.host v.port) making rfl rfl
      (fun _ => rfl) fun _ => rfl
  | making target =>
    refine settle_excluding (rest v)
      (setUp target (s.manager v.manager).config.channelOptions v.behaviour)
      (installing target (s.manager v.manager).config.pollInterval) rfl ?_ (fun _ => rfl)
      fun _ => rfl
    exact bind_run_congr (andFinally_congr (get_bind_run _ s) _) _
  | installing target interval link =>
    exact settle_excluding (rest v) (install v.manager link)
      (fun _ => unbinding target interval link) rfl rfl (fun _ => rfl) fun _ => rfl
  | unbinding target interval link =>
    exact settle_excluding (rest v) (unbindCalls v.manager)
      (fun _ => announcing target interval link) rfl rfl (fun _ => rfl) fun _ => rfl
  | announcing target interval link =>
    refine settle_excluding (rest v) (do
        announce link v.timeout
        return (← get).environment.clock.pause interval)
      (fun length => looking target length link (.ofTime v.timeout interval)) ?_ ?_ (fun _ => rfl)
      fun _ => rfl
    · rw [next, bind_assoc]
      rfl
    · simp only [rest, waitUntilReady, bind_assoc, pure_bind]
  | looking target length link patience =>
    have hlook := isReady_run link s
    cases hready : ((s.handle? link).map fun h => h.state == .ready).getD false with
    | true =>
      rw [hready] at hlook
      have hwait := waitPatiently_run_ready v.timeout length hlook patience
      have hbind := bind_run_ok hwait fun _ => bindCalls v.manager link >>= fun _ => pure target
      rw [step, settle, next, bind_run_ok hlook]
      exact bind_run_congr (andFinally_congr hbind.symm _) _
    | false =>
      rw [hready] at hlook
      refine settle_excluding (rest v) (pauseOnce link v.timeout length patience)
        (looking target length link) ?_ ?_ (fun _ => rfl) fun _ => rfl
      · rw [next, bind_run_ok hlook]
        rfl
      · -- one pause is taken off the wait, and the rest goes on from there
        have hwait := waitPatiently_run_pause v.timeout length hlook patience
        refine bind_run_congr (andFinally_congr ?_ _) _
        rw [← bind_assoc (pauseOnce link v.timeout length patience)]
        exact bind_run_congr hwait _
  | binding target link =>
    exact settle_excluding (rest v) (bindCalls v.manager link) (fun _ => releasing (.ok target))
      rfl rfl (fun _ => rfl) fun _ => rfl
  | releasing answer =>
    cases answer with
    | error f => rfl
    | ok target =>
      set t := s.changeManager v.manager fun mgr => { mgr with isBusy := false }
      have hnext : next v (.releasing (.ok target)) s
          = (welcome target >>= fun r => pure (finished (.ok r))) t := rfl
      have hrest : rest v (.releasing (.ok target)) s = welcome target t := rfl
      rw [step, settle, hnext, hrest, bind_run_ok (welcome_run target t), welcome_run]
      rfl
  | finished answer => rfl

/-- **A connect that nobody interferes with** comes to what it comes to when it runs at once. -/
theorem run_alone {n : Nat} {s s' : Session} {answer : Except Failure Result}
    (h : alone (step v) n .waiting s = (.finished answer, s')) :
    Run.connect v.manager v.host v.port v.timeout v.behaviour (fun _ => pure ()) s
      = (answer, s') := by
  have hrest := alone_rest (rest v) step_rest n waiting s
  rw [h] at hrest
  exact hrest.symm

end ConnectPhase

/-! ## Disconnecting -/

namespace DisconnectPhase

variable (m : Nat)

/-- A disconnect that waits no more closes the channel if no call is in progress. -/
def closeIfIdle (link : Nat) : Run (Option Result) := do
  if ← isIdle link then
    close link
    farewell link true
  else farewell link false

theorem awaitTermination_run (link : Nat) (timeout : Value) (s : Session) :
    (awaitTermination link timeout [] >>= farewell link) s
      = (do
          record (.waited timeout)
          measureWait link timeout
          closeIfIdle link) s := by
  rw [awaitTermination, bind_assoc, record_bind_run, record_bind_run, bind_assoc]
  refine congrFun (congrArg (measureWait link timeout >>= ·) (funext fun _ => funext fun t => ?_)) _
  rw [bind_assoc, waitIdle, closeIfIdle, isIdle_bind_run, isIdle_bind_run]
  cases t.idle link with
  | false => rfl
  | true =>
    rw [if_pos rfl, if_pos rfl, bind_assoc]
    rfl

/-- **What is left of a disconnect** if it goes on at once and no call leaves any more. -/
def rest : DisconnectPhase → Run Result
  | .waiting => Run.disconnect m []
  | .checking => excluding m (dismantle m []) (partFrom m)
  | .shutting timeout link => excluding m (do
      shutDown link
      unbindCalls m
      farewell link (← awaitTermination link timeout [])) (partFrom m)
  | .unbinding timeout link => excluding m (do
      unbindCalls m
      farewell link (← awaitTermination link timeout [])) (partFrom m)
  | .announcing timeout link =>
    excluding m (do farewell link (← awaitTermination link timeout [])) (partFrom m)
  | .draining link => excluding m (closeIfIdle link) (partFrom m)
  | .closing link => excluding m (do
      close link
      farewell link true) (partFrom m)
  | .releasing answer => excluding m (resume answer) (partFrom m)
  | .finished answer => resume answer

variable {m}

theorem closeIfIdle_run (link : Nat) (s : Session) : closeIfIdle link s
    = if ((s.handle? link).map fun h => h.inFlight == 0).getD true then
        (close link >>= fun _ => farewell link true) s
      else (.ok none, s) := by
  rw [closeIfIdle, bind_run_ok (isIdle_run link s)]
  cases ((s.handle? link).map fun h => h.inFlight == 0).getD true <;> rfl

/-- **A step of a disconnect** does not change what comes of it if it goes on at once and no call
leaves any more. -/
theorem step_rest (p : DisconnectPhase) (s : Session) :
    (p.step m s).1.rest m (p.step m s).2 = p.rest m s := by
  cases p with
  | waiting =>
    have hrun := exclusively_run m (dismantle m []) s
    cases hbusy : (s.manager m).isBusy with
    | true => rw [step_waiting_busy hbusy]
    | false =>
      rw [hbusy, if_neg Bool.false_ne_true] at hrun
      rw [step_waiting_free hbusy]
      exact bind_run_congr hrun.symm _
  | checking =>
    cases hcon : s.isConnected m with
    | false =>
      rw [step_checking_idle hcon]
      exact bind_run_congr (andFinally_congr (dismantle_run_idle hcon).symm _) _
    | true =>
      have hrun : dismantle m [] s = (shutDown (((s.manager m).current?).getD 0) >>= fun _ =>
          unbindCalls m >>= fun _ =>
            awaitTermination (((s.manager m).current?).getD 0)
              (.float (s.manager m).config.drainTimeout) [] >>=
              farewell (((s.manager m).current?).getD 0)) s := by
        rw [dismantle, get_bind_run, hcon, if_neg (by decide), get_bind_run, get_bind_run]
      rw [step_checking_connected hcon]
      exact bind_run_congr (andFinally_congr hrun.symm _) _
  | shutting timeout link =>
    exact settle_excluding (rest m) (shutDown link) (fun _ => unbinding timeout link) rfl rfl
      (fun _ => rfl) fun _ => rfl
  | unbinding timeout link =>
    exact settle_excluding (rest m) (unbindCalls m) (fun _ => announcing timeout link) rfl rfl
      (fun _ => rfl) fun _ => rfl
  | announcing timeout link =>
    refine settle_excluding (rest m) (do
        record (.waited timeout)
        measureWait link timeout) (fun _ => draining link) ?_ ?_ (fun _ => rfl) fun _ => rfl
    · rw [next, bind_assoc]
    · rw [bind_assoc]
      exact bind_run_congr (andFinally_congr (awaitTermination_run link timeout s) _) _
  | draining link =>
    have hend := closeIfIdle_run link s
    rw [step_draining]
    cases hidle : ((s.handle? link).map fun h => h.inFlight == 0).getD true with
    | false => rfl -- it goes on waiting
    | true =>
      rw [hidle, if_pos rfl] at hend
      exact bind_run_congr (andFinally_congr hend.symm _) _
  | closing link =>
    refine settle_excluding (rest m) (close link >>= fun _ => farewell link true)
      (fun r? => releasing (.ok r?)) ?_ ?_ (fun _ => rfl) fun _ => rfl
    · rw [next, bind_assoc]
    · exact bind_run_congr (andFinally_congr (congrFun (bind_pure _).symm s) _) _
  | releasing answer =>
    cases answer with
    | error f => rfl
    | ok r? =>
      obtain ⟨r, hpart, hover⟩ := step_releasing_ok (m := m) (s := s) r?
      rw [hover]
      exact hpart.symm
  | finished answer => rfl

/-- Neither does it that the time to wait is used up. -/
theorem expire_rest (p : DisconnectPhase) (s : Session) :
    (p.expire s).1.rest m (p.expire s).2 = p.rest m s := by
  cases p with
  | draining link =>
    have hend := closeIfIdle_run link s
    rw [expire_draining]
    cases hidle : ((s.handle? link).map fun h => h.inFlight == 0).getD true with
    | false =>
      rw [hidle, if_neg Bool.false_ne_true] at hend
      exact bind_run_congr (andFinally_congr hend.symm _) _
    | true =>
      rw [hidle, if_pos rfl] at hend
      exact bind_run_congr (andFinally_congr hend.symm _) _
  | _ => rfl

/-- **A disconnect that nobody interferes with** comes to what it comes to when it runs at once,
whenever its time to wait is used up. -/
theorem run_alone {n k : Nat} {s t s' : Session} {p : DisconnectPhase}
    {answer : Except Failure Result} (hwait : alone (step m) n .waiting s = (p, t))
    (h : alone (step m) k (p.expire t).1 (p.expire t).2 = (.finished answer, s')) :
    Run.disconnect m [] s = (answer, s') := by
  have hbefore := alone_rest (rest m) step_rest n waiting s
  have hafter := alone_rest (rest m) step_rest k (p.expire t).1 (p.expire t).2
  rw [hwait] at hbefore
  rw [h, expire_rest p t, hbefore] at hafter
  exact hafter.symm

end DisconnectPhase

end VectorLink
