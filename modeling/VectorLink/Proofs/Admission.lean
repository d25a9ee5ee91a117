import VectorLink.Client.Connect
import VectorLink.Proofs.Logbook

/-!
# Admission under interleaving

A call looks whether the client is connected and what calls are bound to, and neither look is worth
anything by the time it sends its request: in between a disconnect may have shut the handle down,
and a connect may have put another link to use. What makes calls safe is only the moment of
admission. A handle that is shut down admits nobody, the calls that it admitted are counted, and its
channel is closed only when it is shut down and the count is zero.

That no step of any task breaks this is shown for each kind of task apart, and for each phase. The
log goes on to agree with the scene (`Log.Agrees`), and a disconnect relies between two of its steps
only on what no other task takes back (`DisconnectPhase.Holds`, `Session.Steady`). So it holds in
every world that actions lead to (`World.Sound`), and the rest is read off it.
-/

namespace VectorLink

open Run Session

/-! ## Steps of operations and connects -/

/-- Where an operation is. -/
def CallPhase.place : CallPhase → Whereabouts
  | .asked | .ready _ | .bound _ _ => .before
  | .entered link _ | .calling link | .leaving link _ => .on link
  | .finished _ => .after

/-- Where a task is. -/
def Task.place : Task → Whereabouts
  | operation _ _ _ p => p.place
  | _ => .before

/-- **No step of a connect is part of a call.** -/
theorem ConnectPhase.quiet_step (v : Venture) (p : ConnectPhase) {s : Session} (hs : s.Valid) :
    s.Quiet (p.step v s).2 := by
  have hnext : Keeps Quiet (p.next v) := by
    cases p with
    | waiting =>
      exact keeps_look fun _ => (keeps_pure _).ite
        ((changeManager_quiet _ _).bind fun _ => keeps_pure _)
    | choosing => exact (keeps_chooseTarget _ _ _).bind fun _ => keeps_pure _
    | making target =>
      exact keeps_look fun _ => (keeps_setUp (makeLink_quiet _ _ _)).bind fun _ => keeps_pure _
    | installing target interval link =>
      have hinstall : Keeps Quiet (install v.manager link) := fun s _ =>
        (quiet_push s rfl).trans (quiet_changeManager _ v.manager _)
      exact hinstall.bind fun _ => keeps_pure _
    | unbinding target interval link =>
      exact (changeManager_quiet _ _).bind fun _ => keeps_pure _
    | announcing target interval link =>
      exact (keeps_announce _ _).bind fun _ => keeps_look fun _ => keeps_pure _
    | looking target length link patience =>
      have hpause : Keeps Quiet (pauseOnce link v.timeout length patience) := by
        match patience with
        | .pauses 0 => exact keeps_giveUp _ _
        | .pauses (left + 1) =>
          exact (keeps_pauseSeconds _).bind fun _ => (keeps_note rfl).bind fun _ => keeps_pure _
        | .incomparable kindName => exact keeps_raise _
      exact (keeps_isReady link).bind fun _ =>
        (keeps_pure _).ite (hpause.bind fun _ => keeps_pure _)
    | binding target link => exact (bindCalls_quiet _ _).bind fun _ => keeps_pure _
    | releasing answer =>
      cases answer with
      | ok target =>
        exact (changeManager_quiet _ _).bind fun _ =>
          (keeps_welcome target).bind fun _ => keeps_pure _
      | error f => exact (changeManager_quiet _ _).bind fun _ => keeps_pure _
    | finished answer => exact keeps_pure _
  rw [step, settle_snd]
  exact hnext s hs

variable {s : Session} {t : Nat} {old : Log} {places : List Whereabouts}

theorem conclude_quiet (op : Operation) (outcome : CallOutcome) (s : Session) :
    s.Quiet (conclude op outcome s).2 := by
  rw [conclude_run]
  exact quiet_noted s _ _ _

theorem decline_quiet (link : Nat) (name : String) (s : Session) :
    s.Quiet (decline link name s).2 := by
  obtain ⟨text, hdecline⟩ := decline_run link name s
  rw [hdecline]
  exact quiet_noted s _ _ _

/-- **A step of an operation** is in order. -/
theorem CallPhase.proceeds_step (m : Nat) (op : Operation) (response : Response) (p : CallPhase)
    (h : (s.signed t old).Agrees places s.toScene) (ht : places[t]? = some p.place) :
    Proceeds t old places (p.step m op response s).1.place s (p.step m op response s).2 := by
  cases p with
  | asked =>
    cases hcon : s.isConnected m with
    | false =>
      rw [step_asked_idle hcon]
      exact (quiet_noted s _ _ _).proceeds_over h ht
    | true =>
      cases hreq : op.request with
      | error e =>
        rw [step_asked_unsendable hcon hreq]
        exact (Quiet.refl s).proceeds_over h ht
      | ok message =>
        rw [step_asked_ready hcon hreq]
        exact (Quiet.refl s).proceeds h ht
  | ready message =>
    cases hdisp : (s.manager m).dispatcher? with
    | none =>
      rw [step_ready_unbound hdisp]
      exact (conclude_quiet op .notIssued s).proceeds_over h ht
    | some link =>
      rw [step_ready_bound hdisp]
      exact (Quiet.refl s).proceeds h ht
  | bound link message =>
    cases hadm : s.admits link with
    | true =>
      rw [step_bound_admitted hadm]
      exact proceeds_enterCall h ht hadm
    | false =>
      rw [step_bound_declined hadm]
      exact ((decline_quiet link _ s).trans (conclude_quiet op .notIssued _)).proceeds_over h ht
  | entered link message =>
    -- the channel cannot have been closed since the operation entered
    rw [step_entered_open (h.isOpen ht)]
    exact proceeds_called h ht _ _
  | calling link => exact (Quiet.refl s).proceeds h ht
  | leaving link outcome =>
    have hleft := proceeds_leave h ht
    -- it has left whether or not closing the channel raises then
    cases hleave : leave link s with
    | mk r s' =>
      rw [hleave] at hleft
      cases r with
      | error e =>
        rw [step_leaving_raised hleave]
        exact hleft
      | ok =>
        cases outcome with
        | error f =>
          rw [step_leaving_failed hleave]
          exact hleft
        | ok outcome =>
          rw [step_leaving_ok hleave]
          exact hleft.quiet (conclude_quiet op outcome s')
  | finished answer => exact (Quiet.refl s).proceeds h ht

/-! ## Steps of disconnects -/

namespace DisconnectPhase

variable {m : Nat}

/-- **What a disconnect relies on** until its next step: that there is a handle, that it is shut
down, or that no call is in progress any more. -/
def Holds (s : Scene) : DisconnectPhase → Prop
  | .shutting _ link => (s.handle? link).isSome = true
  | .unbinding _ link | .announcing _ link | .draining link => s.retired link = true
  | .closing link => s.drained link = true
  | _ => True

/-- What a disconnect relies on no other task takes back. -/
theorem Holds.steady {s s' : Session} {p : DisconnectPhase} (h : p.Holds s.toScene)
    (hs : s.Steady s') : p.Holds s'.toScene := by
  cases p with
  | shutting timeout link =>
    obtain ⟨hd, hi⟩ := Option.isSome_iff_exists.mp h
    obtain ⟨hd', hi', -⟩ := hs.evolves.handle hi
    exact Option.isSome_iff_exists.mpr ⟨hd', hi'⟩
  | unbinding | announcing | draining => exact hs.evolves.retired h
  | closing link => exact hs.drained link h
  | _ => trivial

/-- A handle that was shut down and that is idle is drained. -/
theorem drained_of_idle {link : Nat} (hret : s.retired link = true)
    (hidle : ((s.handle? link).map fun h => h.inFlight == 0).getD true = true) :
    s.drained link = true := by
  obtain ⟨h, hi, hshut⟩ := (Option.any_eq_true ..).mp hret
  rw [hi, Option.map_some, Option.getD_some, beq_iff_eq] at hidle
  exact Scene.drained_iff.mpr ⟨h, hi, hshut, hidle⟩

/-- **A step of a disconnect** is in order, and then it may rely on what its next phase relies
on. -/
theorem proceeds_step (p : DisconnectPhase) (hs : s.Valid) (hp : p.Holds s.toScene)
    (h : (s.signed t old).Agrees places s.toScene) (ht : places[t]? = some .before) :
    Proceeds t old places .before s (p.step m s).2 ∧
      (p.step m s).1.Holds (p.step m s).2.toScene := by
  cases p with
  | waiting =>
    cases hbusy : (s.manager m).isBusy with
    | true =>
      rw [step_waiting_busy hbusy]
      exact ⟨(Quiet.refl s).proceeds h ht, trivial⟩
    | false =>
      rw [step_waiting_free hbusy]
      exact ⟨(quiet_changeManager s m _).proceeds h ht, trivial⟩
  | checking =>
    cases hcon : s.isConnected m with
    | false =>
      rw [step_checking_idle hcon]
      exact ⟨(quiet_noted s _ _ _).proceeds h ht, trivial⟩
    | true =>
      obtain ⟨i, hd, hcur, hi, -⟩ := Scene.isConnected_iff.mp hcon
      rw [step_checking_connected hcon, hcur]
      exact ⟨(Quiet.refl s).proceeds h ht, Option.isSome_iff_exists.mpr ⟨hd, hi⟩⟩
  | shutting timeout link =>
    rw [step_shutting]
    cases hadm : s.admits link with
    | true => exact ⟨proceeds_retire h ht hadm, (retired_retire hadm link).mpr (.inr rfl)⟩
    | false =>
      -- there is a handle, so if it admits nobody it is shut down already
      obtain ⟨hd, hi⟩ := Option.isSome_iff_exists.mp hp
      rw [Scene.admits, hi, Option.any_some, Handle.admits, Bool.not_eq_false'] at hadm
      exact ⟨(Quiet.refl s).proceeds h ht, (Option.any_eq_true ..).mpr ⟨hd, hi, hadm⟩⟩
  | unbinding timeout link => exact ⟨(quiet_changeManager s m _).proceeds h ht, hp⟩
  | announcing timeout link =>
    rw [step_announcing]
    refine ⟨(quiet_push s rfl).proceeds h ht, ?_⟩
    cases s.idle link with
    | true => exact hp
    | false =>
      cases s.environment.clock.waitRaises? timeout with
      | none => exact hp
      | some r => exact trivial
  | draining link =>
    rw [step_draining]
    cases hidle : ((s.handle? link).map fun h => h.inFlight == 0).getD true with
    | false => exact ⟨(Quiet.refl s).proceeds h ht, hp⟩
    | true => exact ⟨(Quiet.refl s).proceeds h ht, drained_of_idle hp hidle⟩
  | closing link =>
    have hclosed := proceeds_close h ht hp
    cases hclose : close link s with
    | mk r s' =>
      rw [hclose] at hclosed
      cases r with
      | error e =>
        rw [step_closing_raised hclose]
        exact ⟨hclosed, trivial⟩
      | ok =>
        obtain ⟨text, hbye⟩ := farewell_run link s'
        rw [step_closing_ok hclose, hbye]
        exact ⟨hclosed.quiet (quiet_noted _ _ _ _), trivial⟩
  | releasing answer =>
    have hfree := quiet_changeManager s m fun mgr => { mgr with isBusy := false }
    cases answer with
    | error f => exact ⟨hfree.proceeds h ht, trivial⟩
    | ok r? =>
      obtain ⟨r, hpart, hover⟩ := step_releasing_ok (m := m) (s := s) r?
      rw [hover]
      have hquiet : Keeps Quiet (partFrom m r?) := keeps_partFrom m r?
      exact ⟨(hfree.trans (hquiet.related (hfree.evolves.valid hs) hpart)).proceeds h ht, trivial⟩
  | finished answer => exact ⟨(Quiet.refl s).proceeds h ht, trivial⟩

/-- So is the end of its wait. -/
theorem proceeds_expire (p : DisconnectPhase) (hp : p.Holds s.toScene)
    (h : (s.signed t old).Agrees places s.toScene) (ht : places[t]? = some .before) :
    Proceeds t old places .before s (p.expire s).2 ∧
      (p.expire s).1.Holds (p.expire s).2.toScene := by
  cases p with
  | draining link =>
    rw [expire_draining]
    cases hidle : ((s.handle? link).map fun h => h.inFlight == 0).getD true with
    | false => exact ⟨(Quiet.refl s).proceeds h ht, trivial⟩
    | true => exact ⟨(Quiet.refl s).proceeds h ht, drained_of_idle hp hidle⟩
  | _ => exact ⟨(Quiet.refl s).proceeds h ht, hp⟩

end DisconnectPhase

/-! ## Steps of tasks -/

namespace Task

/-- What a task relies on until its next step. -/
def Holds (s : Scene) : Task → Prop
  | disconnect _ p => p.Holds s
  | _ => True

theorem Holds.steady {s s' : Session} {task : Task} (h : task.Holds s.toScene) (hs : s.Steady s') :
    task.Holds s'.toScene := by
  cases task with
  | disconnect m p => exact DisconnectPhase.Holds.steady h hs
  | _ => trivial

/-- **Going on in some way is in order** for every task, whatever happened before, and then the task
may rely on what it relies on. -/
def InOrder (f : Task → Session → Task × Session) : Prop :=
  ∀ {s : Session} {t : Nat} {old : Log} {places : List Whereabouts} (task : Task), s.Valid →
    task.Holds s.toScene → (s.signed t old).Agrees places s.toScene → places[t]? = some task.place →
      Proceeds t old places (f task s).1.place s (f task s).2 ∧
        (f task s).1.Holds (f task s).2.toScene

/-- **Every step is in order.** -/
theorem inOrder_step : InOrder step := by
  intro s t old places task hs hp h ht
  cases task with
  | operation m op response p => exact ⟨p.proceeds_step m op response h ht, trivial⟩
  | connect v p => exact ⟨(p.quiet_step v hs).proceeds h ht, trivial⟩
  | disconnect m p => exact p.proceeds_step hs hp h ht
  | report link text isDelivered =>
    cases isDelivered with
    | false => exact ⟨(deliver_quiet link text s hs).proceeds h ht, trivial⟩
    | true => exact ⟨(Quiet.refl s).proceeds h ht, trivial⟩

theorem inOrder_expire : InOrder expire := by
  intro s t old places task hs hp h ht
  cases task with
  | disconnect m p => exact p.proceeds_expire hp h ht
  | _ => exact ⟨(Quiet.refl s).proceeds h ht, hp⟩

/-- An interrupt changes nothing but where its task goes on. -/
theorem inOrder_interrupt (r : Raised) : InOrder (interrupt r) := by
  intro s t old places task hs hp h ht
  have hstay : (interrupt r task s).2 = s ∧ (interrupt r task s).1.place = task.place ∧
      (interrupt r task s).1.Holds s.toScene := by
    cases task with
    | operation m op response p => cases p <;> exact ⟨rfl, rfl, trivial⟩
    | connect v p => cases p <;> exact ⟨rfl, rfl, trivial⟩
    | disconnect m p =>
      cases p with
      | draining link => exact ⟨rfl, rfl, trivial⟩
      | _ => exact ⟨rfl, rfl, hp⟩
    | report link text isDelivered => exact ⟨rfl, rfl, trivial⟩
  obtain ⟨hsame, hplace, hholds⟩ := hstay
  rw [hsame, hplace]
  exact ⟨(Quiet.refl s).proceeds h ht, hholds⟩

end Task

/-! ## Worlds -/

namespace World

variable {w : World}

/-- The session that a task finds in a world. -/
def session (w : World) : Session := ⟨w.scene, []⟩

/-- **A world in which everything was in order**, and every task may rely on what it relies on. -/
structure Sound (w : World) : Prop where
  valid : w.session.Valid
  agrees : w.log.Agrees (w.tasks.map Task.place) w.scene
  holds : ∀ task ∈ w.tasks, task.Holds w.scene

/-- A task that goes on. -/
theorem perform_eq {t : Nat} {task : Task} (ht : w.tasks[t]? = some task)
    (f : Task → Session → Task × Session) : w.perform t f
      = ⟨(f task w.session).2.toScene, w.tasks.set t (f task w.session).1,
          (f task w.session).2.signed t w.log⟩ := by
  rw [perform, ht]
  rfl

theorem place_getElem? {t : Nat} {task : Task} (ht : w.tasks[t]? = some task) :
    (w.tasks.map Task.place)[t]? = some task.place := by
  rw [List.getElem?_map, ht, Option.map_some]

/-- What one task finds when another has gone on. -/
theorem Sound.proceeds (hw : w.Sound) {f : Task → Session → Task × Session} (hf : Task.InOrder f)
    {t : Nat} {task : Task} (ht : w.tasks[t]? = some task) :
    Proceeds t w.log (w.tasks.map Task.place) (f task w.session).1.place w.session
        (f task w.session).2 ∧
      (f task w.session).1.Holds (f task w.session).2.toScene :=
  hf task hw.valid (hw.holds task (List.mem_of_getElem? ht)) hw.agrees (place_getElem? ht)

/-- A task that goes on in order leaves the world sound. -/
theorem Sound.perform (hw : w.Sound) {f : Task → Session → Task × Session} (hf : Task.InOrder f)
    (t : Nat) : (w.perform t f).Sound := by
  cases ht : w.tasks[t]? with
  | none =>
    rw [World.perform, ht]
    exact hw
  | some task =>
    obtain ⟨hp, hholds⟩ := hw.proceeds hf ht
    rw [perform_eq ht]
    refine ⟨hp.steady.evolves.valid hw.valid, ?_, fun u hu => ?_⟩
    · rw [List.map_set]
      exact hp.agrees
    · obtain hu | rfl := List.mem_or_eq_of_mem_set hu
      -- the others rely only on what is never taken back
      · exact (hw.holds u hu).steady hp.steady
      · exact hholds

/-- A task that is begun leaves the world sound. -/
theorem Sound.launch (hw : w.Sound) {task : Task} (hplace : task.place = .before)
    (hholds : task.Holds w.scene) : (w.launch task).Sound where
  valid := hw.valid
  agrees := by
    show w.log.Agrees ((w.tasks ++ [task]).map Task.place) w.scene
    rw [List.map_append, List.map_singleton, hplace]
    exact hw.agrees.launch
  holds u hu := by
    obtain hu | hu := List.mem_append.mp hu
    · exact hw.holds u hu
    · rw [List.mem_singleton.mp hu]
      exact hholds

/-- **Every action leaves the world sound.** -/
theorem Sound.step (hw : w.Sound) (a : Action) : (w.step a).Sound := by
  cases a with
  | operate m op response => exact hw.launch rfl trivial
  | connect v => exact hw.launch rfl trivial
  | disconnect m => exact hw.launch rfl trivial
  | report link text => exact hw.launch rfl trivial
  | advance t => exact hw.perform Task.inOrder_step t
  | expire t => exact hw.perform Task.inOrder_expire t
  | interrupt t r => exact hw.perform (Task.inOrder_interrupt r) t

/-- **Every sequence of actions leaves the world sound.** -/
theorem Sound.run (hw : w.Sound) (actions : List Action) : (w.run actions).Sound := by
  induction actions generalizing w with
  | nil => exact hw
  | cons a actions ih => exact ih (hw.step a)

end World

/-! ## Operations that come too late -/

/-- Whether an operation can enter no more: it holds on to a link that is shut down, or is over. -/
def CallPhase.Barred (s : Scene) : CallPhase → Prop
  | .bound link _ => s.retired link = true
  | .finished _ => True
  | _ => False

/-- What is quiet is no entering. -/
theorem Session.Quiet.entered {s' : Session} (hq : s.Quiet s') {i : Nat}
    (h : Event.entered i ∈ s'.history) : .entered i ∈ s.history := by
  obtain ⟨later, hlater, hplain⟩ := hq.tells
  rw [hlater, List.mem_append] at h
  exact h.resolve_left fun hmem => Bool.false_ne_true (hplain _ hmem)

/-- **Going on in some way bars** those operations that can enter no more. -/
def Task.Bars (f : Task → Session → Task × Session) : Prop :=
  ∀ (m : Nat) (op : Operation) (response : Response) (p : CallPhase) (s : Session),
    p.Barred s.toScene → ∃ p', (f (.operation m op response p) s).1 = .operation m op response p' ∧
      p'.Barred (f (.operation m op response p) s).2.toScene ∧
      ∀ i, Event.entered i ∈ (f (.operation m op response p) s).2.history → .entered i ∈ s.history

theorem Task.bars_step : Bars step := by
  intro m op response p s hp
  cases p with
  | bound link message =>
    have hadm : s.admits link = false := Scene.admits_false_of_retired hp
    rw [Task.step, CallPhase.step_bound_declined hadm]
    exact ⟨_, rfl, trivial, fun i =>
      ((decline_quiet link _ s).trans (conclude_quiet op .notIssued _)).entered⟩
  | finished answer => exact ⟨.finished answer, rfl, trivial, fun _ => id⟩
  | _ => cases hp

theorem Task.bars_expire : Bars expire := fun _ _ _ p _ hp => ⟨p, rfl, hp, fun _ => id⟩

theorem Task.bars_interrupt (r : Raised) : Bars (interrupt r) := by
  intro m op response p s hp
  cases p with
  | calling => cases hp
  | _ => exact ⟨_, rfl, hp, fun _ => id⟩

namespace World

variable {w : World}

/-- Whether a task is an operation that never entered and can enter no more. -/
def Barred (w : World) (t : Nat) : Prop :=
  (∀ i, (t, .entered i) ∉ w.log) ∧ ∃ m op response p,
    w.tasks[t]? = some (.operation m op response p) ∧ p.Barred w.scene

theorem Sound.barred_perform (hw : w.Sound) {f : Task → Session → Task × Session}
    (hf : Task.InOrder f) (hbars : Task.Bars f) {t : Nat} (h : w.Barred t) (u : Nat) :
    (w.perform u f).Barred t := by
  obtain ⟨hlog, m, op, response, p, ht, hp⟩ := h
  cases hu : w.tasks[u]? with
  | none =>
    rw [World.perform, hu]
    exact ⟨hlog, m, op, response, p, ht, hp⟩
  | some task =>
    rw [perform_eq hu]
    by_cases hut : u = t
    · -- the operation itself goes on
      subst u
      obtain rfl := Option.some_inj.mp (hu.symm.trans ht)
      obtain ⟨p', hp', hbarred, hentered⟩ := hbars m op response p w.session hp
      refine ⟨fun i hmem => ?_, m, op, response, p', ?_, hbarred⟩
      · obtain hmem | hmem := List.mem_append.mp hmem
        · obtain ⟨e, he, heq⟩ := List.mem_map.mp hmem
          obtain rfl := (Prod.mk.inj heq).2
          exact List.not_mem_nil (hentered i he)
        · exact hlog i hmem
      · show (w.tasks.set t _)[t]? = _
        rw [hp', List.getElem?_set_self (List.getElem?_eq_some_iff.mp ht).1]
    · -- another task goes on, and no handle that is shut down is ever opened again
      obtain ⟨hproceeds, -⟩ := hw.proceeds hf hu
      refine ⟨fun i hmem => ?_, m, op, response, p, ?_, ?_⟩
      · obtain hmem | hmem := List.mem_append.mp hmem
        · obtain ⟨e, -, heq⟩ := List.mem_map.mp hmem
          exact hut (Prod.mk.inj heq).1
        · exact hlog i hmem
      · show (w.tasks.set u _)[t]? = _
        rw [List.getElem?_set_ne hut, ht]
      · cases p with
        | bound link message => exact hproceeds.steady.evolves.retired hp
        | finished => trivial
        | _ => cases hp

theorem barred_launch {t : Nat} (h : w.Barred t) (task : Task) : (w.launch task).Barred t := by
  obtain ⟨hlog, m, op, response, p, ht, hp⟩ := h
  refine ⟨hlog, m, op, response, p, ?_, hp⟩
  show (w.tasks ++ [task])[t]? = _
  rw [List.getElem?_append_left (List.getElem?_eq_some_iff.mp ht).1, ht]

theorem Sound.barred_step (hw : w.Sound) {t : Nat} (h : w.Barred t) (a : Action) :
    (w.step a).Barred t := by
  cases a with
  | advance u => exact hw.barred_perform Task.inOrder_step Task.bars_step h u
  | expire u => exact hw.barred_perform Task.inOrder_expire Task.bars_expire h u
  | interrupt u r => exact hw.barred_perform (Task.inOrder_interrupt r) (Task.bars_interrupt r) h u
  | _ => exact barred_launch h _

/-- **An operation that can enter no more never does**, whatever happens. -/
theorem Sound.barred_run (hw : w.Sound) {t : Nat} (h : w.Barred t) (actions : List Action) :
    (w.run actions).Barred t := by
  induction actions generalizing w with
  | nil => exact h
  | cons a actions ih => exact ih (hw.step a) (hw.barred_step h a)

/-! ## Safety -/

/-- **Calls are safe in a world.** -/
structure AdmitsSafely (w : World) : Prop where
  /-- Everything that happened was permitted: nobody entered a link after it was shut down, every
  request was sent on the link that its task was on, and no channel was closed before that or while
  it was on. -/
  orderly : w.log.Orderly
  /-- What is told of a link is what became of it: its handle is shut down exactly if that was told,
  and its channel was not closed unless that was told. -/
  told : ∀ i, (w.scene.retired i = true ↔ ∃ u, (u, .shutDown i) ∈ w.log) ∧
    (w.scene.isBroken i = true → ∃ u, (u, .closed i true) ∈ w.log)
  /-- An operation that was admitted sends its request next, on the link that it entered. -/
  sends : ∀ (t m : Nat) (op : Operation) (response : Response) (i : Nat) (message : Wire.Message),
    w.tasks[t]? = some (.operation m op response (.entered i message)) →
      (w.step (.advance t)).log
        = (t, .called i op.method.path (op.method.request.encode message)) :: w.log
  /-- An operation that holds on to a link that was shut down is declined next: it says that the
  client is not connected. Whatever happens, it sends nothing. -/
  declines : ∀ (t m : Nat) (op : Operation) (response : Response) (i : Nat)
    (message : Wire.Message), w.tasks[t]? = some (.operation m op response (.bound i message)) →
      (∃ u, (u, .shutDown i) ∈ w.log) →
        (w.step (.advance t)).tasks[t]?
            = some (.operation m op response (.finished (.ok (.failed op.form .notConnected "")))) ∧
          ∀ (later : List Action) (j : Nat) (path : String) (request : Wire.Octets),
            (t, .called j path request) ∉ (w.run later).log

theorem Sound.sends (hw : w.Sound) {t m : Nat} {op : Operation} {response : Response} {i : Nat}
    {message : Wire.Message}
    (ht : w.tasks[t]? = some (.operation m op response (.entered i message))) :
    (w.step (.advance t)).log
      = (t, .called i op.method.path (op.method.request.encode message)) :: w.log := by
  have hopen : w.session.isOpen i = true := hw.agrees.isOpen (place_getElem? ht)
  show (w.perform t Task.step).log = _
  rw [perform_eq ht, Task.step, CallPhase.step_entered_open hopen]
  rfl

theorem declines_retired {t m : Nat} {op : Operation} {response : Response} {i : Nat}
    {message : Wire.Message} (ht : w.tasks[t]? = some (.operation m op response (.bound i message)))
    (hret : w.scene.retired i = true) : (w.step (.advance t)).tasks[t]?
      = some (.operation m op response (.finished (.ok (.failed op.form .notConnected "")))) := by
  have hadm : w.session.admits i = false := Scene.admits_false_of_retired hret
  show (w.perform t Task.step).tasks[t]? = _
  rw [perform_eq ht, Task.step, CallPhase.step_bound_declined hadm,
    List.getElem?_set_self (List.getElem?_eq_some_iff.mp ht).1]
  rfl

/-- **Calls are safe in every world** that actions lead to, in whatever order, from one in which no
link was made. -/
theorem admits_safely {scene : Scene} (hlinks : scene.links = [])
    (hactive : scene.active < scene.managers.length) (actions : List Action) :
    ((start scene).run actions).AdmitsSafely := by
  have hsound : ((start scene).run actions).Sound :=
    Sound.run (w := start scene) ⟨hactive, .of_no_links hlinks, List.forall_mem_nil _⟩ actions
  refine ⟨hsound.agrees.orderly, fun i => ⟨hsound.agrees.shut i, hsound.agrees.broken i⟩,
    fun t m op response i message ht => hsound.sends ht,
    fun t m op response i message ht hshut => ?_⟩
  have hret := (hsound.agrees.shut i).mpr hshut
  refine ⟨declines_retired ht hret, fun later j path request hmem => ?_⟩
  -- it holds on to a link, so it has not entered any yet
  have hbarred : ((start scene).run actions).Barred t := by
    refine ⟨fun k hk => ?_, m, op, response, _, ht, hret⟩
    obtain ⟨p, hp, hne⟩ := hsound.agrees.entered t k hk
    exact hne (Option.some_inj.mp (hp.symm.trans (place_getElem? ht)))
  exact (hsound.barred_run hbarred later).1 j ((hsound.run later).agrees.orderly.entered hmem)

/-- A connect, two operations that look what calls are bound to, of which the second enters, and a
disconnect that shuts the handle down. -/
def lateActions : List Action :=
  .connect ⟨0, .text "host", .int 1, .int 0, .smooth⟩ :: List.replicate 9 (.advance 0) ++
    .operate 0 (.hasTable "t") (.octets []) :: List.replicate 2 (.advance 1) ++
    .operate 0 .showTables (.octets []) :: List.replicate 3 (.advance 2) ++
    .disconnect 0 :: List.replicate 3 (.advance 3)

/-- The operation that entered sends its request next, and the one that did not never sends any. -/
theorem admits_safely_late :
    let w := (start (Session.withClient .bare .standard).toScene).run lateActions
    w.AdmitsSafely ∧ w.scene.retired 0 = true ∧ w.log.isOn 2 0 = true ∧
      (w.step (.advance 2)).log = (2, .called 0 Operation.showTables.method.path []) :: w.log ∧
      ∀ later path request, (1, .called 0 path request) ∉ (w.run later).log := by
  intro w
  have hsafe : w.AdmitsSafely := admits_safely rfl (by decide) lateActions
  have hret : w.scene.retired 0 = true := by decide +kernel
  refine ⟨hsafe, hret, by decide +kernel, hsafe.sends 2 0 .showTables (.octets []) 0 _ rfl,
    fun later path request => ?_⟩
  have hshut : ∃ u, (u, .shutDown 0) ∈ w.log := (hsafe.told 0).1.mp hret
  exact (hsafe.declines 1 0 (.hasTable "t") (.octets []) 0 _ rfl hshut).2 later 0 path request

end World

end VectorLink
