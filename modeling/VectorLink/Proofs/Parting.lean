import VectorLink.Proofs.Aftermath
import VectorLink.Proofs.Decision
import VectorLink.Proofs.Failing

/-!
# What a disconnect comes to

A disconnect shuts the handle of its manager down, then waits for the calls that still run on it. It
may succeed, be outlasted by a call, or be interrupted. What becomes of the manager is the same in
all three cases (`Connection.Parted`): the handle is never ready again, and the manager may connect
anew. What becomes of the channel does not depend on the outcome either. It is open as long as calls
run on it, and closed as soon as none does, whether or not anybody still waits for that
(`Connection.Drainage.closes`).

So only the answer differs, and it says whether the calls came to an end in time
(`Connection.Drainage.success`). What interrupts the wait counts only as long as a call is running:
the wait looks whether one is before each thing that takes place. It is the same with a wait that is
too long for the clock, which raises as soon as it begins (`Session.stopper?`).
-/

namespace VectorLink

namespace Session

/-! ## Managers are left as busy as they were -/

/-- **Managers are as busy as they were.** -/
structure AsBusy (s s' : Session) : Prop where
  evolves : s.Evolves s'
  busy : ∀ m, m < s.managers.length → (s'.manager m).isBusy = (s.manager m).isBusy

variable {s s' : Session} {m : Nat}

theorem AsBusy.of_managers (hev : s.Evolves s') (hm : s'.managers = s.managers) : AsBusy s s' :=
  ⟨hev, fun m _ => by rw [Scene.manager, hm]; rfl⟩

instance : Run.Lasting AsBusy where
  refl s := .of_managers (.refl s) rfl
  trans h h' := ⟨h.evolves.trans h'.evolves,
    fun m hm => (h'.busy m (hm.trans_le h.evolves.managers)).trans (h.busy m hm)⟩
  evolves := AsBusy.evolves
  note s e _ := .of_managers (evolves_push s e) rfl

theorem asBusy_indifferent : Run.Indifferent AsBusy :=
  .of_events (fun hev _ _ hm => .of_managers hev hm) fun hev _ hm => .of_managers hev hm

/-- A change of one manager that leaves it as busy as it was. -/
theorem asBusy_changeManager (s : Session) (m : Nat) {f : Manager → Manager}
    (hf : ∀ mgr, (f mgr).isBusy = mgr.isBusy) : AsBusy s (s.changeManager m f) := by
  refine ⟨evolves_changeManager s m f, fun n hn => ?_⟩
  by_cases hmn : m = n
  · subst hmn
    rw [manager_changeManager s hn, if_pos rfl, hf]
  · rw [manager_changeManager_ne s hmn]

theorem asBusy_putToUse (s : Session) (m i : Nat) : AsBusy s (s.putToUse m i) := by
  have hnote : AsBusy s (s.push (.installed m i)) := .of_managers (evolves_push s _) rfl
  have hcur : AsBusy (s.push (.installed m i)) ((s.push (.installed m i)).changeManager m
    fun mgr => { mgr with current? := some i }) := asBusy_changeManager _ m fun _ => rfl
  exact Run.Lasting.trans (Run.Lasting.trans hnote hcur) (asBusy_changeManager _ m fun _ => rfl)

theorem asBusy_bindTo (s : Session) (m i : Nat) : AsBusy s (s.bindTo m i) := by
  have hnote : AsBusy s (s.push (.bound m i)) := .of_managers (evolves_push s _) rfl
  exact Run.Lasting.trans hnote (asBusy_changeManager _ m fun _ => rfl)

end Session

namespace Run

open Session

variable {s s' : Session} {m i : Nat}

/-- **An activity under exclusion** leaves its manager free if it found it free. -/
theorem asBusy_exclusively {α : Type} {x : Run α} (hx : Keeps AsBusy x) :
    Keeps AsBusy (exclusively m x) := by
  intro s hs
  rw [exclusively_run]
  cases hbusy : (s.manager m).isBusy with
  | true => exact Lasting.refl s
  | false =>
    rw [if_neg Bool.false_ne_true, andFinally_snd]
    have hmark := evolves_changeManager s m fun mgr => { mgr with isBusy := true }
    have hin := hx _ (hmark.valid hs)
    set t := s.changeManager m fun mgr => { mgr with isBusy := true }
    refine ⟨(hmark.trans hin.evolves).trans (evolves_changeManager _ m _), fun n hn => ?_⟩
    have hnt : n < t.managers.length := hn.trans_le hmark.managers
    show (((x t).2.released m).manager n).isBusy = _
    by_cases hmn : m = n
    · subst hmn
      rw [manager_released _ (hnt.trans_le hin.evolves.managers), hbusy]
    · rw [released, manager_changeManager_ne _ hmn, hin.busy n hnt, manager_changeManager_ne s hmn]

/-- **Every step leaves all managers as busy as they were.** -/
theorem asBusy_respects : Step.Respects (fun _ => true) AsBusy where
  bracketed answer h :=
    Lasting.trans (Lasting.trans (AsBusy.of_managers (evolves_push _ _) rfl) h)
      (AsBusy.of_managers (evolves_push _ _) rfl)
  connect hpause s hs _ := by
    refine ((asBusy_exclusively ?_).bind keeps_welcome) s hs
    intro s hs
    obtain ⟨e, s', hrun, h⟩ | ⟨i, s₁, s₂, s', h₁, h₂, -, -, -, h₃, hend⟩ :=
      establish_run _ _ _ _ _ (fun _ _ => asBusy_indifferent.makeLink _ _ _) hpause hs
    · rw [hrun]
      exact h
    · have hall := Lasting.trans (Lasting.trans h₁ h₂)
        (Lasting.trans (asBusy_putToUse s₂ _ i) h₃)
      obtain ⟨e, hrun⟩ | ⟨target, hrun⟩ := hend
      · rw [hrun]
        exact hall
      · rw [hrun]
        exact Lasting.trans hall (asBusy_bindTo s' _ i)
  disconnect hd s hs _ := by
    refine ((asBusy_exclusively ?_).bind fun r? => keeps_partFrom _ r?) s hs
    refine keeps_look fun s => Keeps.ite ((keeps_log _ _ _).bind fun _ => keeps_pure _) ?_
    refine keeps_look fun _ => keeps_look fun _ => (asBusy_indifferent.shutDown _).bind fun _ => ?_
    refine Keeps.bind (fun s _ => asBusy_changeManager s _ fun _ => rfl) fun _ => ?_
    exact (asBusy_indifferent.tending.awaitTermination hd).bind fun ended => keeps_farewell _ ended
  dispatch hd := asBusy_indifferent.considerate.dispatch
    (fun s _ _ => .of_managers (evolves_push s _) rfl) hd
  deliver := asBusy_indifferent.considerate.deliver
  beginCall := asBusy_indifferent.considerate.beginCall
  endCall := asBusy_indifferent.considerate.endCall
  keepDispatcher name :=
    keeps_look fun _ => keeps_look fun _ =>
      Keeps.bind (fun s _ => .of_managers (evolves_unmanaged.kept s _) rfl) fun _ => keeps_pure _
  addClient s c := by
    refine ⟨evolves_unmanaged.addClient s c, fun n hn => ?_⟩
    rw [manager_addManager, if_neg (ne_of_gt (show n < (s.setThreshold c).managers.length from hn))]
    rfl
  activate s m hm := .of_managers (evolves_unmanaged.activate s m hm) rfl
  restoreDispatcher name _ :=
    (Step.keeps_keptDispatcher name).bind fun _ => keeps_look fun _ => fun s _ =>
      asBusy_changeManager s _ fun _ => rfl
  shutDown _ := asBusy_indifferent.shutDown
  awaitTermination _ _ _ _ _ hd := asBusy_indifferent.tending.awaitTermination hd

end Run

/-! ## The wait for running calls -/

namespace Step

/-- What a step raises that ends whatever is in progress. -/
def interruption? : Step → Option Raised
  | .interrupt text => some (.interrupt text)
  | _ => none

theorem interruption?_eq_none {step : Step} (h : step.isInterrupt = false) :
    step.interruption? = none := by
  cases step <;> first | rfl | cases h

end Step

namespace Run

open Session

variable {s s' : Session} {m i : Nat} {during : List (Run Unit)}

/-- **A wait for running calls**, filled with steps, finds that none is running at its end; or else
the first interrupt among the steps ends it, if there is one. -/
theorem waitIdle_runEach (i : Nat) (steps : List Step) (s : Session) :
    (waitIdle i (Step.runEach steps) s).1
      = if (waitIdle i (Step.runEach steps) s).2.idle i then .ok true else
        match steps.findSome? Step.interruption? with
        | some r => .error (.raised r)
        | none => .ok false := by
  induction steps generalizing s with
  | nil =>
    show Except.ok (s.idle i) = if s.idle i then .ok true else .ok false
    cases s.idle i <;> rfl
  | cons step steps ih =>
    rw [Step.runEach, waitIdle, isIdle_bind_run]
    cases hidle : s.idle i with
    | true =>
      rw [if_pos rfl]
      show Except.ok true = if s.idle i then .ok true else _
      rw [hidle, if_pos rfl]
    | false =>
      rw [if_neg Bool.false_ne_true]
      cases hstep : step.isInterrupt with
      | true =>
        obtain ⟨text, rfl⟩ := Step.exists_of_isInterrupt hstep
        rw [bind_run_error (Step.writtenDown_interrupt text s)]
        dsimp only
        rw [hidle, if_neg Bool.false_ne_true]
        rfl
      | false =>
        rw [bind_run_ok (Step.writtenDown_run hstep _ s), ih, List.findSome?_cons,
          Step.interruption?_eq_none hstep]

/-- A wait that the clock does not measure is ended by that, before anything takes place in it. -/
theorem waitIdle_limited (i : Nat) (clock : Clock) (timeout : Value) (steps : List Step)
    (s : Session) :
    (waitIdle i (limited clock timeout (Step.runEach steps)) s).1
      = if (waitIdle i (limited clock timeout (Step.runEach steps)) s).2.idle i then .ok true else
        match (clock.waitRaises? timeout).or (steps.findSome? Step.interruption?) with
        | some r => .error (.raised r)
        | none => .ok false := by
  unfold limited
  cases clock.waitRaises? timeout with
  | none => exact waitIdle_runEach i steps s
  | some r =>
    dsimp only
    rw [waitIdle, isIdle_bind_run, Option.some_or]
    cases hidle : s.idle i with
    | true =>
      show Except.ok true = if s.idle i then .ok true else _
      rw [hidle, if_pos rfl]
    | false =>
      show Except.error (Failure.raised r) = if s.idle i then .ok true else _
      rw [hidle, if_neg Bool.false_ne_true]

end Run

/-! ## Disconnecting -/

namespace Session

/-- **A manager parts from its link**: it is busy, its link is shut down, and its calls are bound to
nothing. -/
def parting (s : Session) (m i : Nat) : Session :=
  ((s.occupied m).retire i).changeManager m fun mgr => { mgr with dispatcher? := none }

/-- **What ends the wait of a manager early**, if a call is running: that the clock does not measure
it, or else the first interrupt among the steps. -/
def stopper? (s : Session) (m : Nat) (waiting : List Step) : Option Raised :=
  (s.environment.clock.waitRaises? (.float (s.manager m).config.drainTimeout)).or
    (waiting.findSome? Step.interruption?)

variable {s s' : Session} {m i : Nat}

theorem retired_parting {h : Handle} (hi : s.handle? i = some h) :
    (s.parting m i).retired i = true := by
  show ((s.occupied m).retire i).retired i = true
  rw [Scene.retired, handle?_retire]
  show ((s.handle? i).map Handle.shutDown).any _ = true
  rw [hi]
  rfl

/-- A link whose last call has left before it is shut down is drained at once. -/
theorem drained_parting {h : Handle} (hi : s.handle? i = some h) (hidle : s.idle i = true) :
    (s.parting m i).drained i = true := by
  refine Scene.drained_of_idle (retired_parting hi) ?_
  have hh : (s.parting m i).handle? i = (s.handle? i).map Handle.shutDown :=
    handle?_retire (s.occupied m) i
  rw [Scene.idle, hi] at hidle
  rw [Scene.idle, hh, hi]
  exact hidle

theorem manager_parting (hm : m < s.managers.length) :
    (s.parting m i).manager m = { s.manager m with dispatcher? := none, isBusy := true } := by
  have hm' : m < ((s.occupied m).retire i).managers.length := by
    show m < (s.occupied m).managers.length
    rw [occupied, length_changeManager]
    exact hm
  have hoccupied : ((s.occupied m).retire i).manager m = { s.manager m with isBusy := true } :=
    manager_occupied s hm
  rw [parting, manager_changeManager _ hm', if_pos rfl, hoccupied]

/-- **A manager that parts from its link** governs all others. -/
theorem governs_parting {h : Handle} (hm : m < s.managers.length)
    (hcur : (s.manager m).current? = some i) (hi : s.handle? i = some h) :
    Governs (some m) s (s.parting m i) := by
  have hmark : Governs (some m) s (s.occupied m) :=
    governs_changeManager s hm fun _ => ⟨rfl, rfl⟩
  have hshut : Governs (some m) (s.occupied m) ((s.occupied m).retire i) :=
    governs_indifferent.retire _ i
  have hev := (hmark.trans hshut).upholds.evolves
  refine (hmark.trans hshut).trans (governs_unbind _ (hm.trans_le hev.managers) ?_
    (retired_parting (m := m) hi))
  show ((s.occupied m).manager m).current? = some i
  rw [manager_occupied s hm]
  exact hcur

end Session

namespace Run

open Session

variable {s s' : Session} {m i : Nat} {during : List (Run Unit)}

/-- A manager that is free and not connected says so, and changes nothing. -/
theorem disconnect_run_free (hm : m < s.managers.length) (hfree : (s.manager m).isBusy = false)
    (hcon : s.isConnected m = false) (during : List (Run Unit)) :
    ∃ s', disconnect m during s = (.ok (.failed .nothing .notConnected ""), s') ∧
      s'.toScene = s.toScene := by
  have hcon' : (s.occupied m).isConnected m = false := by
    rw [Scene.isConnected, current?_occupied s hm]
    exact hcon
  refine ⟨((s.occupied m).noted .connection .warning notConnectedText).released m, ?_,
    released_toScene hfree (noted_toScene _ _ _ _)⟩
  have hin := exclusively_run_free (dismantle m during) hfree
  rw [dismantle_run_idle hcon'] at hin
  rw [disconnect, bind_run_ok hin]
  rfl

theorem disconnect_run_idle (hs : s.Available m) (hcon : s.isConnected m = false)
    (during : List (Run Unit)) :
    ∃ s', disconnect m during s = (.ok (.failed .nothing .notConnected ""), s') ∧
      s'.toScene = s.toScene := disconnect_run_free hs.here hs.free hcon during

/-- A manager that is connected parts from its link and waits for its calls. -/
theorem exclusively_dismantle_run (hs : s.Available m) {h : Handle}
    (hcur : (s.manager m).current? = some i) (hi : s.handle? i = some h)
    (hready : h.state = .ready) {r : Except Failure (Option Result)}
    (hrun : (awaitTermination i (.float (s.manager m).config.drainTimeout) during >>= farewell i)
      (s.parting m i) = (r, s')) :
    exclusively m (dismantle m during) s = (r, s'.released m) := by
  have hmark := manager_occupied s hs.here
  have hcur' : ((s.occupied m).manager m).current? = some i := by rw [hmark]; exact hcur
  have hin : dismantle m during (s.occupied m) = (r, s') := by
    rw [dismantle_run hcur' hi hready, hmark]
    exact hrun
  rw [exclusively_run_free _ hs.free, hin]

/-- **A manager that is connected** parts from its link and waits for its calls. -/
theorem disconnect_run_waited (hs : s.Available m) {h : Handle}
    (hcur : (s.manager m).current? = some i) (hi : s.handle? i = some h)
    (hready : h.state = .ready) {r? : Option Result}
    (hrun : (awaitTermination i (.float (s.manager m).config.drainTimeout) during >>= farewell i)
      (s.parting m i) = (.ok r?, s')) :
    disconnect m during s = partFrom m r? (s'.released m) := by
  rw [disconnect, bind_run_ok (exclusively_dismantle_run hs hcur hi hready hrun)]

/-- What ends the wait ends the disconnect. -/
theorem disconnect_run_stopped (hs : s.Available m) {h : Handle}
    (hcur : (s.manager m).current? = some i) (hi : s.handle? i = some h)
    (hready : h.state = .ready) {e : Failure}
    (hrun : (awaitTermination i (.float (s.manager m).config.drainTimeout) during >>= farewell i)
      (s.parting m i) = (.error e, s')) :
    disconnect m during s = (.error e, s'.released m) := by
  rw [disconnect, bind_run_error (exclusively_dismantle_run hs hcur hi hready hrun)]

/-- What a manager answers whose calls outlasted the wait. -/
theorem outlasted_answer (m : Nat) (s : Session) : (outlasted m s).1
    = .ok (.failed .nothing .shutdownTimeout ("Channel not terminated after "
      ++ (s.manager m).config.drainTimeout.text ++ "s")) := by
  rw [outlasted, get_bind_run, get_bind_run, get_bind_run, log_bind_run, String.append_assoc]
  rfl

/-- Nothing is done after a wait, except that it is noted if calls outlasted it. -/
theorem partFrom_snd (m : Nat) (r? : Option Result) (s : Session) :
    (partFrom m r? s).2 = s ∨ ∃ text, (partFrom m r? s).2 = s.noted .connection .error text := by
  cases r? with
  | some r => exact .inl rfl
  | none =>
    rw [partFrom, outlasted, get_bind_run, get_bind_run, get_bind_run, log_bind_run]
    exact .inr ⟨_, rfl⟩

/-- **A wait that finds no call running** closes the channel and succeeds, if closing raises
nothing. -/
theorem awaitTermination_farewell {timeout : Value} {u : Session}
    (hrun : waitIdle i (limited s.environment.clock timeout during) (s.push (.waited timeout))
      = (.ok true, u))
    (hclose : (close i u).1 = .ok ()) :
    ∃ text, (awaitTermination i timeout during >>= farewell i) s
      = (.ok (some (.succeeded .nothing)), (close i u).2.noted .connection .info text) := by
  have hended : awaitTermination i timeout during s = (.ok true, (close i u).2) := by
    rw [awaitTermination_run_wait, hrun]
    dsimp only
    rw [hclose]
    rfl
  obtain ⟨text, hbye⟩ := farewell_run i (close i u).2
  exact ⟨text, (bind_run_ok hended _).trans hbye⟩

section

variable (hs : s.Available m) {h : Handle} (hcur : (s.manager m).current? = some i)
  (hi : s.handle? i = some h) (hready : h.state = .ready)

include hs hcur hi hready

/-- **A disconnect ends where its wait ended**, but its manager is free again, and it may have noted
that calls outlasted the wait. -/
theorem disconnect_snd {R : Session → Session → Prop} [Lasting R] (t : Tending R)
    (hd : ∀ x ∈ during, Keeps R x) :
    ∃ u, R (s.parting m i) u ∧ ((disconnect m during s).2 = u.released m ∨
      ∃ text, (disconnect m during s).2 = (u.released m).noted .connection .error text) := by
  have hv := (governs_parting hs.here hcur hi).upholds.evolves.valid hs.valid
  have hwait : Keeps R
      (awaitTermination i (.float (s.manager m).config.drainTimeout) during >>= farewell i) :=
    (t.awaitTermination hd).bind fun ended => keeps_farewell i ended
  cases hrun : (awaitTermination i (.float (s.manager m).config.drainTimeout) during
      >>= farewell i) (s.parting m i) with
  | mk r u =>
    refine ⟨u, hwait.related hv hrun, ?_⟩
    cases r with
    | error e => exact .inl (by rw [disconnect_run_stopped hs hcur hi hready hrun])
    | ok r? =>
      rw [disconnect_run_waited hs hcur hi hready hrun]
      exact partFrom_snd m r? (u.released m)

/-- **What links and managers do not disturb holds from the parting to the end of a disconnect.** -/
theorem disconnect_related {R : Session → Session → Prop} [Lasting R] (u : Unmanaged R)
    (t : Tending R) (hd : ∀ x ∈ during, Keeps R x) :
    R (s.parting m i) (disconnect m during s).2 := by
  obtain ⟨s', hwaited, hend⟩ := disconnect_snd hs hcur hi hready t hd
  have hfree : R (s.parting m i) (s'.released m) :=
    Lasting.trans hwaited (u.changeManager s' m _ fun _ => rfl)
  obtain hend | ⟨text, hend⟩ := hend
  · rw [hend]
    exact hfree
  · rw [hend]
    exact Lasting.trans hfree (related_noted _ _ _ _)

omit hready in
/-- After the wait the manager is as it was, but with calls bound to nothing. -/
theorem manager_waited (hgov : Governs none (s.parting m i) s') :
    (s'.released m).manager m = { s.manager m with dispatcher? := none } := by
  have hpart := governs_parting hs.here hcur hi
  have hmgr := manager_parting (i := i) hs.here
  -- nothing touches a busy manager while it waits
  have hrec := hgov.record (hpart.upholds.always hs.wired) m nofun (by rw [hmgr])
  have hm' := hs.here.trans_le (hpart.upholds.evolves.trans hgov.upholds.evolves).managers
  rw [manager_released s' hm', hrec, hmgr, ← hs.free]

/-- **What a disconnect leaves of its manager**, whatever it comes to. -/
theorem manager_disconnect (hd : ∀ x ∈ during, Keeps (Governs none) x) :
    (disconnect m during s).2.manager m = { s.manager m with dispatcher? := none } := by
  obtain ⟨s', hwaited, hend⟩ := disconnect_snd hs hcur hi hready governs_indifferent.tending hd
  have hleft := manager_waited hs hcur hi hwaited
  obtain hend | ⟨text, hend⟩ := hend
  · rw [hend]
    exact hleft
  · rw [hend, noted_toScene]
    exact hleft

/-- **What a disconnect answers** if its channel closes without raising. -/
theorem disconnect_answer {l : Link} (hl : s.links[i]? = some l)
    (hquiet : l.behaviour.closingRaises? = none) {waiting : List Step}
    (hd : ∀ x ∈ Step.runEach waiting, Keeps (Governs none) x) :
    let x := disconnect m (Step.runEach waiting) s
    (x.2.idle i = true ∧ x.1 = .ok (.succeeded .nothing)) ∨
      x.2.idle i = false ∧ x.1 = match s.stopper? m waiting with
        | some r => .error (.raised r)
        | none => .ok (.failed .nothing .shutdownTimeout ("Channel not terminated after "
            ++ (s.manager m).config.drainTimeout.text ++ "s")) := by
  have hpart := governs_parting hs.here hcur hi
  have hnote : Governs none (s.parting m i)
      ((s.parting m i).push (.waited (.float (s.manager m).config.drainTimeout))) :=
    Lasting.note _ rfl
  set activities := limited (s.parting m i).environment.clock
    (.float (s.manager m).config.drainTimeout) (Step.runEach waiting)
  have hwait : Keeps (Governs none) (waitIdle i activities) :=
    keeps_waitIdle (forall_limited keeps_raise hd _ _)
  have hanswer := waitIdle_limited i (s.parting m i).environment.clock
    (.float (s.manager m).config.drainTimeout) waiting
    ((s.parting m i).push (.waited (.float (s.manager m).config.drainTimeout)))
  have hawait := awaitTermination_run_wait i (.float (s.manager m).config.drainTimeout)
    (Step.runEach waiting) (s.parting m i)
  dsimp only
  cases hrun : waitIdle i activities
      ((s.parting m i).push (.waited (.float (s.manager m).config.drainTimeout))) with
  | mk r u =>
    rw [hrun] at hanswer hawait
    have hwaited : Governs none (s.parting m i) u := hnote.trans (hwait.related
      ((hpart.upholds.evolves.trans hnote.upholds.evolves).valid hs.valid) hrun)
    cases hidle : u.idle i with
    | true =>
      rw [if_pos hidle] at hanswer
      obtain rfl : r = .ok true := hanswer
      have hev := hpart.upholds.evolves.trans hwaited.upholds.evolves
      obtain ⟨l', hl', he⟩ := hev.links i l hl
      have hclose : (close i u).1 = .ok () := close_ok fun k hk => by
        obtain rfl := Option.some_inj.mp (hl'.symm.trans hk)
        rw [he.behaviour]
        exact hquiet
      -- closing the channel lets no call in
      have hdrained := (settles_close i u (hev.valid hs.valid)).drained i (Scene.drained_of_idle
        (hwaited.upholds.evolves.retired (retired_parting (m := m) hi)) hidle)
      obtain ⟨text, hbye⟩ := awaitTermination_farewell hrun hclose
      rw [disconnect_run_waited hs hcur hi hready hbye]
      refine .inl ⟨?_, rfl⟩
      show Scene.idle (Session.toScene (Session.noted _ _ _ _)) i = true
      rw [noted_toScene]
      exact Scene.idle_of_drained hdrained
    | false =>
      rw [if_neg (by rw [hidle]; exact Bool.false_ne_true)] at hanswer
      replace hanswer : r = match s.stopper? m waiting with
        | some r => .error (.raised r)
        | none => .ok false := hanswer
      cases hfirst : s.stopper? m waiting with
      | some raised =>
        rw [hfirst] at hanswer
        obtain rfl : r = .error (.raised raised) := hanswer
        rw [disconnect_run_stopped hs hcur hi hready (bind_run_error hawait _)]
        exact .inr ⟨hidle, rfl⟩
      | none =>
        rw [hfirst] at hanswer
        obtain rfl : r = .ok false := hanswer
        have hbye : farewell i false u = (.ok none, u) := rfl
        rw [disconnect_run_waited hs hcur hi hready ((bind_run_ok hawait _).trans hbye)]
        refine .inr ⟨?_, ?_⟩
        · obtain hend | ⟨text, hend⟩ := partFrom_snd m none (u.released m)
          · rw [hend]
            exact hidle
          · rw [hend, noted_toScene]
            exact hidle
        · rw [partFrom, outlasted_answer, manager_waited hs hcur hi hwaited]

end

/-! ## Connecting again -/

/-- **A manager that may connect is not told that it is connected already.** -/
theorem connect_welcomes {pause : Nat → Run Unit}
    (hpause : ∀ k, FailsInWait (pause k))
    (hm : m < s.managers.length) (hfree : s.mayConnect m = true) (host port timeout : Value)
    (behaviour : ChannelBehaviour) (target : String) :
    (connect m host port timeout behaviour pause s).1
      ≠ .error (.connect (.alreadyConnected target)) := by
  cases hidle : (s.manager m).isBusy with
  | true =>
    have hbusy : exclusively m (establish m host port timeout behaviour pause) s
        = (.error .busy, s) := by rw [exclusively_run, hidle, if_pos rfl]
    rw [connect, bind_run_error hbusy]
    intro h
    cases h
  | false =>
    have hfree' : (s.occupied m).mayConnect m = true := (mayConnect_occupied s hm).trans hfree
    rw [connect_run _ _ _ _ _ hidle]
    cases hrun : establish m host port timeout behaviour pause (s.occupied m) with
    | mk r t =>
      cases r with
      | ok name =>
        intro h
        cases h
      | error e =>
        have hnever := ne_alreadyConnected_of_establish hpause hfree' (congrArg Prod.fst hrun)
        exact fun h => hnever target (Except.error.inj h)

end Run

/-! ## The whole disconnect -/

/-- **A manager has parted from a link for good**: the link is shut down and not listened to, and
whatever comes later it is never ready again and keeps the manager from no connection. -/
structure Connection.Parted (s : Session) (m i : Nat) : Prop where
  current : (s.manager m).current? = some i
  dispatcher : (s.manager m).dispatcher? = none
  isFree : (s.manager m).isBusy = false
  shut : s.retired i = true
  unheard : ∃ l, s.links[i]? = some l ∧ l.listeners = 0
  notConnected : s.isConnected m = false
  never : ∀ t, s.Later (fun _ => true) t → t.ready i = false
  reconnects : ∀ t, s.Later (fun _ => true) t → (t.manager m).current? = some i →
    ∀ (host port timeout : Value) (behaviour : ChannelBehaviour) (pauses : List (Nat × List Step))
      (target : String), (Run.connect m host port timeout behaviour (Step.runPauses pauses) t).1
        ≠ .error (.connect (.alreadyConnected target))

/-- **What a wait for the calls of a link comes to**, if its channel closes without raising: the
answer of the disconnect that waited from one session to another, and what becomes of the
channel. -/
structure Connection.Drainage (s : Session) (m i : Nat) (waiting : List Step)
    (answer : Except Failure Result) (s' : Session) : Prop where
  /-- It succeeds if no call was running at its beginning or at a moment on the way. -/
  success : answer = .ok (.succeeded .nothing) ↔
    s.idle i = true ∨ ∃ t, s.Passes s' t ∧ t.idle i = true
  /-- Then the channel is closed. -/
  terminated : answer = .ok (.succeeded .nothing) →
    s'.connectivity m = .terminated ∧ s'.isOpen i = false
  /-- If not, what ended the wait early is the answer, or else that the time is over. -/
  outlasted : answer ≠ .ok (.succeeded .nothing) → s'.isOpen i = true ∧
    answer = match s.stopper? m waiting with
      | some r => .error (.raised r)
      | none => .ok (.failed .nothing .shutdownTimeout ("Channel not terminated after "
          ++ (s.manager m).config.drainTimeout.text ++ "s"))
  /-- From then on the channel is open exactly as long as a call is running. -/
  closes : ∀ t, s'.Later (fun step => !step.isByHand) t → t.isOpen i = !t.idle i

open Connection

namespace Session

variable {s s' : Session} {m i : Nat}

/-- **A tidy channel that is shut down** is closed as soon as no call is running, and not before. -/
theorem Tidy.closed (hs : s.Tidy none) {l : Link} (hl : s.links[i]? = some l)
    (hquiet : l.behaviour.closingRaises? = none) (hret : s.retired i = true) :
    s.isOpen i = !s.idle i ∧
      ∃ h, s.handle? i = some h ∧ h.isTerminated = s.idle i := by
  obtain ⟨h, hi, hshut⟩ := (Option.any_eq_true ..).mp hret
  obtain ⟨l', hl', hh⟩ := handle?_eq_some.mp hi
  obtain rfl := Option.some_inj.mp (hl.symm.trans hl')
  have htidy := hs i l h hl hh
  have hterm : h.isTerminated = s.idle i := by
    rw [Scene.idle, hi, Option.map_some, Option.getD_some]
    cases hterm : h.isTerminated with
    | true => rw [(htidy.ended hterm).2]; rfl
    | false =>
      refine (beq_eq_false_iff_ne.mpr fun hidle => ?_).symm
      have hdrained := htidy.drained (Option.some_ne_none i).symm hquiet hshut hidle
      exact absurd (hterm.symm.trans hdrained) Bool.false_ne_true
  refine ⟨?_, h, hi, hterm⟩
  rw [Scene.isOpen, hl, Option.map_some, Option.getD_some, htidy.closed, hterm]

/-- A link that was shut down is in the way of no connection. -/
theorem mayConnect_of_retired (hcur : (s.manager m).current? = some i)
    (hret : s.retired i = true) : s.mayConnect m = true := by
  refine Scene.mayConnect_of_isParted ?_
  obtain ⟨h, hi, hshut⟩ := (Option.any_eq_true ..).mp hret
  rw [Scene.isParted, Scene.current?, hcur, Option.bind_some, hi, Option.all_some, hshut]

section

variable (hs : s.Available m) (htidy : s.Always (Tidy none)) {h : Handle}
  (hcur : (s.manager m).current? = some i) (hi : s.handle? i = some h)
  (hready : h.state = .ready) {waiting : List Step}
  (hwaiting : Step.allWithin (fun step => !step.isByHand) waiting = true)

include hs htidy hcur hi hready hwaiting

omit hcur hi hready in
/-- A disconnect leaves all links tidy. -/
theorem tidy_disconnect :
    (Run.disconnect m (Step.runEach waiting) s).2.Always (Tidy none) := by
  have hd : ∀ x ∈ Step.runEach waiting, Run.Keeps (Upholds (Tidy none)) x :=
    Step.keeps_runEach Run.tidy_respects waiting
      (Step.allWithin_mono (fun _ h => (Step.of_not_isByHand h).1) waiting hwaiting)
  exact (Run.tidy_respects.disconnect hd s hs.valid hs.here).always htidy

omit htidy hwaiting in
theorem along_disconnect (waiting : List Step) :
    Along Settles (s.parting m i) (Run.disconnect m (Step.runEach waiting) s).2 := by
  have hd : ∀ x ∈ Step.runEach waiting, Run.Keeps (Along Settles) x :=
    Step.keeps_runEach Run.settles_respects waiting (Step.allWithin_true waiting)
  exact Run.disconnect_related hs hcur hi hready (along_unmanaged Run.settles_unmanaged)
    (along_tending Run.settles_tending) hd

/-- **Whatever a disconnect comes to, its manager has parted from its link.** -/
theorem parted_disconnect : Parted (Run.disconnect m (Step.runEach waiting) s).2 m i := by
  have hd : ∀ x ∈ Step.runEach waiting, Run.Keeps (Governs none) x :=
    Step.keeps_runEach Run.governs_respects waiting
      (Step.allWithin_mono (fun _ h => (Step.of_not_isByHand h).2) waiting hwaiting)
  have hmgr := Run.manager_disconnect hs hcur hi hready hd
  have hall := (tidy_disconnect hs htidy hwaiting).now
  have hpart := (governs_parting hs.here hcur hi).upholds.evolves
  have hev := (along_disconnect hs hcur hi hready waiting).whole.evolves
  set s' := (Run.disconnect m (Step.runEach waiting) s).2
  have hret : s'.retired i = true := hev.retired (retired_parting hi)
  have hcur' : (s'.manager m).current? = some i := by rw [hmgr]; exact hcur
  have hv : s'.Valid := (hpart.trans hev).valid hs.valid
  refine ⟨hcur', by rw [hmgr], by rw [hmgr]; exact hs.free, hret, ?_, ?_, fun t ht => ?_,
    fun t ht hcurt host port timeout behaviour pauses target => ?_⟩
  · obtain ⟨h', hi', hshut⟩ := (Option.any_eq_true ..).mp hret
    obtain ⟨l, hl, hh⟩ := handle?_eq_some.mp hi'
    refine ⟨l, hl, ?_⟩
    rw [(hall i l h' hl hh).listeners, hshut]
    rfl
  · rw [Scene.isConnected_eq_ready hcur']
    exact Scene.ready_of_retired hret
  · exact Scene.ready_of_retired ((ht.settles hv).evolves.retired hret)
  · have hlater := (ht.settles hv).evolves
    have hm := hs.here.trans_le ((hpart.trans hev).trans hlater).managers
    exact Run.connect_welcomes (Step.failsWith_runPauses pauses) hm
      (mayConnect_of_retired hcurt (hlater.retired hret)) host port timeout behaviour target

omit htidy hwaiting in
/-- A link that a disconnect shut down is idle at its end exactly if it was idle before or at a
moment on the way, since no call enters it any more. -/
theorem idle_disconnect (waiting : List Step) :
    (Run.disconnect m (Step.runEach waiting) s).2.idle i = true ↔ s.idle i = true ∨
      ∃ t, s.Passes (Run.disconnect m (Step.runEach waiting) s).2 t ∧ t.idle i = true := by
  have halong := along_disconnect hs hcur hi hready waiting
  set s' := (Run.disconnect m (Step.runEach waiting) s).2
  refine ⟨fun h => .inr ⟨s', .inl rfl, h⟩, fun h => Scene.idle_of_drained ?_⟩
  obtain hidle | ⟨t, ht, hidle⟩ := h
  · exact halong.whole.drained i (drained_parting hi hidle)
  · obtain ⟨hbefore, hafter⟩ := halong.passes ht
    exact hafter.drained i
      (Scene.drained_of_idle (hbefore.evolves.retired (retired_parting hi)) hidle)

/-- **After a disconnect the channel is open as long as a call is running**, if it closes without
raising. -/
theorem closed_disconnect {l : Link} (hl : s.links[i]? = some l)
    (hquiet : l.behaviour.closingRaises? = none) (t : Session)
    (ht : (Run.disconnect m (Step.runEach waiting) s).2.Later (fun step => !step.isByHand) t) :
    t.isOpen i = !t.idle i ∧ ∃ h, t.handle? i = some h ∧ h.isTerminated = t.idle i := by
  have hpart := (governs_parting hs.here hcur hi).upholds.evolves
  have hend := (along_disconnect hs hcur hi hready waiting).whole.evolves
  have hv := (hpart.trans hend).valid hs.valid
  have hlater := (ht.settles hv).evolves
  obtain ⟨l', hl', he⟩ := ((hpart.trans hend).trans hlater).links i l hl
  refine (ht.tidy (fun _ h => (Step.of_not_isByHand h).1) hv
    (tidy_disconnect hs htidy hwaiting)).now.closed hl' (by rw [he.behaviour]; exact hquiet) ?_
  exact hlater.retired (hend.retired (retired_parting hi))

/-- **What the wait comes to** if the channel closes without raising. -/
theorem drainage_disconnect {l : Link} (hl : s.links[i]? = some l)
    (hquiet : l.behaviour.closingRaises? = none) :
    Drainage s m i waiting (Run.disconnect m (Step.runEach waiting) s).1
      (Run.disconnect m (Step.runEach waiting) s).2 := by
  have hd : ∀ x ∈ Step.runEach waiting, Run.Keeps (Governs none) x :=
    Step.keeps_runEach Run.governs_respects waiting
      (Step.allWithin_mono (fun _ h => (Step.of_not_isByHand h).2) waiting hwaiting)
  have hanswer := Run.disconnect_answer hs hcur hi hready hl hquiet hd
  have hmgr := Run.manager_disconnect hs hcur hi hready hd
  have hpassed := idle_disconnect hs hcur hi hready waiting
  have hclosed := closed_disconnect hs htidy hcur hi hready hwaiting hl hquiet
  dsimp only at hanswer
  set answer := (Run.disconnect m (Step.runEach waiting) s).1
  set s' := (Run.disconnect m (Step.runEach waiting) s).2
  obtain ⟨hnow, h', hi', hterm⟩ := hclosed s' ⟨s', .here, .inl rfl⟩
  have hsuccess : answer = .ok (.succeeded .nothing) ↔ s'.idle i = true := by
    obtain ⟨hidle, hok⟩ | ⟨hidle, ha⟩ := hanswer
    · exact iff_of_true hok hidle
    · refine iff_of_false (fun hok => ?_) (by rw [hidle]; exact Bool.false_ne_true)
      rw [hok] at ha
      cases hfirst : s.stopper? m waiting with
      | some r =>
        rw [hfirst] at ha
        cases ha
      | none =>
        rw [hfirst] at ha
        cases ha
  refine ⟨hsuccess.trans hpassed, fun hok => ?_, fun hnot => ?_, fun t ht => (hclosed t ht).1⟩
  · have hidle := hsuccess.mp hok
    refine ⟨?_, by rw [hnow, hidle]; rfl⟩
    rw [Scene.connectivity, Scene.current?, hmgr, hcur, Option.bind_some, hi']
    exact if_pos (hterm.trans hidle)
  · obtain ⟨-, hok⟩ | ⟨hidle, ha⟩ := hanswer
    · exact absurd hok hnot
    · exact ⟨by rw [hnow, hidle]; rfl, ha⟩

end

/-! ## The end of a block -/

/-- **The end of a block** leaves its manager not connected, whatever the block did. -/
theorem leaveBlock_disconnects (hs : s.Available m) (htidy : s.Always (Tidy none))
    {body waiting : List Step} (hbody : Step.allWithin (fun step => !step.isByHand) body = true)
    (hwaiting : Step.allWithin (fun step => !step.isByHand) waiting = true) :
    (Run.andFinally (Step.runAll body) (Run.leaveBlock m (Step.runEach waiting)) s).2.isConnected m
      = false := by
  have hgov : Governs none s (s.after body) := Step.keeps_runAll Run.governs_respects body
    (Step.allWithin_mono (fun _ h => (Step.of_not_isByHand h).2) body hbody) s hs.valid
  have hup : Upholds (Tidy none) s (s.after body) := Step.keeps_runAll Run.tidy_respects body
    (Step.allWithin_mono (fun _ h => (Step.of_not_isByHand h).1) body hbody) s hs.valid
  have hbusy : AsBusy s (s.after body) :=
    Step.keeps_runAll Run.asBusy_respects body (Step.allWithin_true body) s hs.valid
  have hav : (s.after body).Available m := ⟨hbusy.evolves.valid hs.valid,
    hgov.upholds.always hs.wired, hs.here.trans_le hbusy.evolves.managers,
    (hbusy.busy m hs.here).trans hs.free⟩
  rw [Run.andFinally_snd]
  show (Run.leaveBlock m (Step.runEach waiting) (s.after body)).2.isConnected m = false
  rw [Run.leaveBlock, Run.get_bind_run]
  cases hcon : (s.after body).isConnected m with
  | false => exact hcon
  | true =>
    obtain ⟨i, h, hcur, hi, hready⟩ := Scene.isConnected_iff.mp hcon
    have hparted := parted_disconnect hav (hup.always htidy) hcur hi hready hwaiting
    rw [if_pos rfl, Run.bind_run]
    rcases hrun : Run.disconnect m (Step.runEach waiting) (s.after body) with ⟨_ | _, s'⟩
    all_goals
      rw [hrun] at hparted
      exact hparted.notConnected

/-- **A disconnect does nothing to a client that is not connected**, and parts any other from its
link for good, whether it comes to its end, is outlasted by a call, or is interrupted. If the
channel closes without raising, it succeeds exactly if the last call has left by the end of the
wait, and otherwise the channel closes when the last call leaves. So a block that disconnects at its
end leaves its client not connected. -/
theorem disconnect_parts (hs : s.Reached fun step => !step.isByHand) (hm : m < s.managers.length)
    (hfree : (s.manager m).isBusy = false) {waiting : List Step}
    (hwaiting : Step.allWithin (fun step => !step.isByHand) waiting = true) :
    let x := Run.disconnect m (Step.runEach waiting) s
    (s.isConnected m = false →
      x.1 = .ok (.failed .nothing .notConnected "") ∧ x.2.toScene = s.toScene) ∧
    (s.isConnected m = true → ∃ i l, (s.manager m).current? = some i ∧ s.links[i]? = some l ∧
      Parted x.2 m i ∧
        (l.behaviour.closingRaises? = none → Drainage s m i waiting x.1 x.2)) ∧
    ∀ body, Step.allWithin (fun step => !step.isByHand) body = true →
      (Run.andFinally (Step.runAll body)
        (Run.leaveBlock m (Step.runEach waiting)) s).2.isConnected m = false := by
  have hav := hs.available hm hfree
  have htidy := (hs.mono fun _ hstep => (Step.of_not_isByHand hstep).1).tidy
  refine ⟨fun hcon => ?_, fun hcon => ?_, fun body hbody =>
    leaveBlock_disconnects hav htidy hbody hwaiting⟩
  · obtain ⟨s', hrun, hsame⟩ := Run.disconnect_run_idle hav hcon (Step.runEach waiting)
    rw [hrun]
    exact ⟨rfl, hsame⟩
  · obtain ⟨i, h, hcur, hi, hready⟩ := Scene.isConnected_iff.mp hcon
    obtain ⟨l, hl, -⟩ := handle?_eq_some.mp hi
    exact ⟨i, l, hcur, hl, parted_disconnect hav htidy hcur hi hready hwaiting,
      drainage_disconnect hav htidy hcur hi hready hwaiting hl⟩

/-- A client with a call in progress. -/
def engagedSteps : List Step :=
  [.connectManager (.text "host") (.int 1) (.int 0) .smooth [], .beginCall "long"]

/-- The wait for the call is interrupted just before it leaves. Its channel stays open, and closes
when it has left. -/
theorem disconnect_parts_interrupted :
    let s := (withManager .bare .standard).after engagedSteps
    let waiting : List Step := [.notify 0 "READY" true, .interrupt "enough", .endCall "long"]
    let x := Run.disconnect 0 (Step.runEach waiting) s
    (s.isConnected 0 = true ∧ x.1.toBool = false ∧ x.2.isOpen 0 = true ∧
      (x.2.after [.endCall "long"]).isOpen 0 = false) ∧
    (s.isConnected 0 = false →
      x.1 = .ok (.failed .nothing .notConnected "") ∧ x.2.toScene = s.toScene) ∧
    (s.isConnected 0 = true → ∃ i l, (s.manager 0).current? = some i ∧ s.links[i]? = some l ∧
      Parted x.2 0 i ∧
        (l.behaviour.closingRaises? = none → Drainage s 0 i waiting x.1 x.2)) ∧
    ∀ body, Step.allWithin (fun step => !step.isByHand) body = true →
      (Run.andFinally (Step.runAll body)
        (Run.leaveBlock 0 (Step.runEach waiting)) s).2.isConnected 0 = false := by
  have hreached : ((withManager .bare .standard).after engagedSteps).Reached
      fun step => !step.isByHand :=
    ⟨_, engagedSteps, ⟨.bare, .standard, .inr rfl⟩, by decide, List.mem_cons_self⟩
  exact ⟨by decide +kernel, disconnect_parts hreached (by decide +kernel) (by decide +kernel)
    (by decide)⟩

end Session

end VectorLink
