import VectorLink.Proofs.Lifecycle

/-!
# Connecting and disconnecting, step by step

Connecting is long, and most of it can fail. What matters about it is short: either nothing came
into use, or a new link did, and then either the connection failed and calls are bound to nothing,
or it came to its end and they are bound to that link (`Run.establish_run`). What takes place in
between is only known to keep whatever relation its parts keep.

Disconnecting has one such step, before the wait (`Run.dismantle_run`).
-/

namespace VectorLink

/-- Whether an event binds the calls of a manager. -/
def Event.isBinding : Event → Bool
  | .bound _ _ => true
  | _ => false

theorem Event.isBinding_of_isOfLink {e : Event} (he : e.isOfLink = true) : e.isBinding = false := by
  cases e <;> first | rfl | cases he

theorem mem_bound_cons {e : Event} (he : e.isBinding = false) {m i : Nat} {history : List Event} :
    Event.bound m i ∈ e :: history ↔ Event.bound m i ∈ history := by
  rw [List.mem_cons]
  refine or_iff_right fun h => ?_
  rw [← h] at he
  exact absurd he Bool.false_ne_true.symm

namespace Scene

/-- Whether no call is in progress on a link. -/
def idle (s : Scene) (i : Nat) : Bool := ((s.handle? i).map fun h => h.inFlight == 0).getD true

/-- A link that is shut down and idle is drained. -/
theorem drained_of_idle {s : Scene} {i : Nat} (hret : s.retired i = true)
    (hidle : s.idle i = true) : s.drained i = true := by
  obtain ⟨h, hi, hshut⟩ := (Option.any_eq_true ..).mp hret
  rw [idle, hi] at hidle
  exact drained_iff.mpr ⟨h, hi, hshut, by simpa using hidle⟩

theorem idle_of_drained {s : Scene} {i : Nat} (h : s.drained i = true) : s.idle i = true := by
  obtain ⟨hd, hi, -, hidle⟩ := drained_iff.mp h
  rw [idle, hi, Option.map_some, hidle]
  rfl

end Scene

namespace Session

/-- A link has come into use, and calls are bound to nothing. -/
def putToUse (s : Session) (m i : Nat) : Session :=
  let t := (s.push (.installed m i)).changeManager m fun mgr => { mgr with current? := some i }
  t.changeManager m fun mgr => { mgr with dispatcher? := none }

theorem manager_putToUse (s : Session) (hm : m < s.managers.length) (i n : Nat) :
    (s.putToUse m i).manager n
      = if m = n then { s.manager n with current? := some i, dispatcher? := none }
        else s.manager n := by
  have hm₁ : m < ((s.push (.installed m i)).changeManager m
      fun mgr => { mgr with current? := some i }).managers.length := by
    rw [length_changeManager]
    exact hm
  rw [putToUse, manager_changeManager _ hm₁, manager_changeManager (s.push (.installed m i)) hm]
  split <;> rfl

theorem evolves_putToUse (s : Session) (m i : Nat) : s.Evolves (s.putToUse m i) :=
  (evolves_push s _).trans ((evolves_changeManager _ m _).trans (evolves_changeManager _ m _))

/-- The calls of a manager have been bound to a link. -/
def bindTo (s : Session) (m i : Nat) : Session :=
  (s.push (.bound m i)).changeManager m fun mgr => { mgr with dispatcher? := some i }

theorem evolves_bindTo (s : Session) (m i : Nat) : s.Evolves (s.bindTo m i) :=
  (evolves_push s _).trans (evolves_changeManager _ m _)

theorem manager_bindTo (s : Session) (hm : m < s.managers.length) (i n : Nat) :
    (s.bindTo m i).manager n
      = if m = n then { s.manager n with dispatcher? := some i } else s.manager n :=
  manager_changeManager (s.push (.bound m i)) hm n _

/-- A further manager changes none of the others. -/
theorem manager_addManager (s : Session) (c : Config) (n : Nat) :
    (s.addManager c).manager n = if s.managers.length = n then .fresh c else s.manager n := by
  unfold Scene.manager addManager
  rw [List.getD_eq_getElem?_getD, List.getD_eq_getElem?_getD, List.getElem?_append]
  rcases Nat.lt_trichotomy n s.managers.length with hlt | rfl | hgt
  · rw [if_pos hlt, if_neg (Nat.ne_of_gt hlt)]
  · rw [if_neg (Nat.lt_irrefl _), if_pos rfl, Nat.sub_self]
    rfl
  · rw [if_neg (Nat.not_lt_of_gt hgt), if_neg (Nat.ne_of_lt hgt), List.getElem?_singleton,
      if_neg (Nat.sub_ne_zero_of_lt hgt), List.getElem?_eq_none (Nat.le_of_lt hgt)]

/-- Before it is added a manager is taken to be one that has never connected. -/
theorem manager_length (s : Scene) : s.manager s.managers.length = .fresh .standard := by
  rw [Scene.manager, List.getD_eq_getElem?_getD, List.getElem?_eq_none le_rfl]
  rfl

/-- So adding it changes nothing about what managers use and what their calls are bound to. -/
theorem wiring_addManager (s : Session) (c : Config) (n : Nat) :
    ((s.addManager c).manager n).current? = (s.manager n).current? ∧
      ((s.addManager c).manager n).dispatcher? = (s.manager n).dispatcher? := by
  rw [manager_addManager]
  split
  · next hn =>
    rw [← hn, manager_length]
    exact ⟨rfl, rfl⟩
  · exact ⟨rfl, rfl⟩

end Session

namespace Run

open Session

/-! ## Making a link -/

/-- A link that was made has the next number, and a handle. -/
theorem makeLink_ok {target : String} {options : ChannelOptions} {behaviour : ChannelBehaviour}
    {s s' : Session} {i : Nat} (h : makeLink target options behaviour s = (.ok i, s')) :
    i = s.links.length ∧ ∃ hd, s'.handle? i = some hd := by
  have hadd : (s.addLink (Link.fresh target options behaviour).listen).handle? s.links.length
      = some (.fresh target) := handle?_eq_some.mpr ⟨_, links_addLink_length s _, rfl⟩
  rw [makeLink_run] at h
  cases hmake : behaviour.makingRaises? with
  | some r =>
    rw [hmake] at h
    cases h
  | none =>
    cases hlisten : behaviour.listeningRaises? with
    | some r =>
      rw [hmake, hlisten] at h
      cases h
    | none =>
      cases hfirst : behaviour.initial? with
      | none =>
        simp only [hmake, hlisten, hfirst] at h
        obtain ⟨⟨⟩, rfl⟩ := Prod.mk.inj h
        exact ⟨rfl, _, hadd⟩
      | some report =>
        simp only [hmake, hlisten, hfirst] at h
        obtain ⟨⟨⟩, rfl⟩ := Prod.mk.inj h
        -- a report takes no handle away
        obtain ⟨hd, hi, -⟩ := (evolves_hear _ s.links.length report).handle hadd
        rw [deliver_run hadd]
        refine ⟨rfl, hd, ?_⟩
        split
        · exact hi
        · rw [noted_toScene]
          exact hi

theorem setUp_ok {target : String} {options : ChannelOptions} {behaviour : ChannelBehaviour}
    {s s' : Session} {i : Nat} (h : setUp target options behaviour s = (.ok i, s')) :
    i = s.links.length ∧ ∃ hd, s'.handle? i = some hd := by
  rw [setUp, bind_run_ok (attempt_run _ s)] at h
  cases hmake : makeLink target options behaviour s with
  | mk r s₁ =>
    rw [hmake] at h
    match r, h with
    | .ok link, h =>
      obtain ⟨⟨⟩, rfl⟩ := Prod.mk.inj h
      exact makeLink_ok hmake
    | .error (.raised r), h =>
      have h : (if r.isOrdinary then
          log .connection .error ("Connect failed! " ++ target ++ ": " ++ r.message) >>= fun _ =>
            refuse (.setup r)
        else raise r : Run Nat) s₁ = (.ok i, s') := h
      split at h
      · rw [log_bind_run] at h
        cases h
      · cases h
    | .error (.connect _), h | .error (.invalid _), h | .error (.load _), h
    | .error (.request _), h | .error .unreadableRequest, h | .error .busy, h
    | .error (.absent _), h => cases h

/-- Making a link binds nothing. -/
def BindsNothing (s s' : Session) : Prop :=
  s.Evolves s' ∧ ∀ m i : Nat, Event.bound m i ∈ s'.history → Event.bound m i ∈ s.history

theorem BindsNothing.of_event {s s' : Session} (hev : s.Evolves s') {e : Event}
    (he : e.isBinding = false) (hh : s'.history = e :: s.history) : BindsNothing s s' :=
  ⟨hev, fun m i h => by rw [hh] at h; exact (mem_bound_cons he).mp h⟩

instance : Lasting BindsNothing where
  refl s := ⟨.refl s, fun _ _ => id⟩
  trans h h' := ⟨h.1.trans h'.1, fun m i => h.2 m i ∘ h'.2 m i⟩
  evolves h := h.1
  note s e he := .of_event (evolves_push s e) (by cases e <;> first | rfl | cases he) rfl

theorem bindsNothing_indifferent : Indifferent BindsNothing :=
  .of_events (fun hev he hh _ => .of_event hev (Event.isBinding_of_isOfLink he) hh)
    fun hev hh _ => ⟨hev, fun m i h => by rwa [hh] at h⟩

/-! ## Connecting -/

theorem isReady_run (link : Nat) (s : Session) : isReady link s
    = (.ok (((s.handle? link).map fun h => h.state == .ready).getD false), s) := rfl

/-- **Giving up** on a link tells its target and how long it was waited for. -/
theorem giveUp_run_handle {i : Nat} {s : Session} {h : Handle} (hi : s.handle? i = some h)
    (timeout : Value) : ∃ text, ∀ α : Type, (giveUp i timeout : Run α) s
      = (.error (.connect (.timeout h.target timeout)), s.noted .connection .error text) := by
  refine ⟨"Connect timeout! " ++ h.target ++ " is " ++ h.state.word, fun α => ?_⟩
  rw [giveUp, get_bind_run, hi]
  exact log_bind_run ..

/-- Giving up is a failure. -/
theorem giveUp_run (link : Nat) (timeout : Value) (s : Session) :
    ∃ f s', ∀ α : Type, (giveUp link timeout : Run α) s = (.error f, s') := by
  cases hi : s.handle? link with
  | none => exact ⟨_, _, fun α => by rw [giveUp, get_bind_run, hi]; rfl⟩
  | some h =>
    obtain ⟨text, hgive⟩ := giveUp_run_handle hi timeout
    exact ⟨_, _, hgive⟩

/-- Calls are bound to a link unless that raises. -/
theorem bindCalls_run (m i : Nat) (s : Session) :
    bindCalls m i s = match s.links[i]?.bind fun l => l.behaviour.bindingRaises? with
      | some r => (.error (.raised r), s)
      | none => (.ok (), s.bindTo m i) := by
  rw [bindCalls, get_bind_run]
  cases s.links[i]?.bind fun l => l.behaviour.bindingRaises? <;> rfl

/-- **What a manager does to connect**: it fails before a link comes into use; or a new link with a
handle comes into use, and it fails while it waits or when it binds its calls; or it binds them. -/
theorem establish_run {R : Session → Session → Prop} [Lasting R] {s : Session} (m : Nat)
    (host port timeout : Value) (behaviour : ChannelBehaviour) {pause : Nat → Run Unit}
    (hmake : ∀ (target : String) (options : ChannelOptions),
      Keeps R (makeLink target options behaviour))
    (hpause : ∀ k, Keeps R (pause k)) (hs : s.Valid) :
    (∃ e s', establish m host port timeout behaviour pause s = (.error e, s') ∧ R s s') ∨
      ∃ (i : Nat) (s₁ s₂ s' : Session), R s s₁ ∧ R s₁ s₂ ∧ BindsNothing s₁ s₂ ∧
        i = s₁.links.length ∧ (∃ h, s₂.handle? i = some h) ∧ R (s₂.putToUse m i) s' ∧
        ((∃ e, establish m host port timeout behaviour pause s = (.error e, s')) ∨
          ∃ target, establish m host port timeout behaviour pause s
            = (.ok target, s'.bindTo m i)) := by
  have hchoose : Keeps R (chooseTarget m host port) := keeps_chooseTarget m host port
  cases hrun₁ : chooseTarget m host port s with
  | mk r₁ s₁ =>
    have h₁ : R s s₁ := hchoose.related hs hrun₁
    have hs₁ := (Lasting.evolves h₁).valid hs
    cases r₁ with
    | error e => exact .inl ⟨e, s₁, by rw [establish, bind_run_error hrun₁], h₁⟩
    | ok target =>
      set config := (s₁.manager m).config with hconfig
      have hset : Keeps R (setUp target config.channelOptions behaviour) := keeps_setUp (hmake _ _)
      cases hrun₂ : setUp target config.channelOptions behaviour s₁ with
      | mk r₂ s₂ =>
        have h₂ : R s₁ s₂ := hset.related hs₁ hrun₂
        have hs₂ := (Lasting.evolves h₂).valid hs₁
        have hbegin : establish m host port timeout behaviour pause s
            = (setUp target config.channelOptions behaviour >>= fun i => install m i >>= fun _ =>
                unbindCalls m >>= fun _ => waitUntilReady i timeout config.pollInterval pause
                  >>= fun _ => bindCalls m i >>= fun _ => pure target) s₁ := by
          rw [establish, bind_run_ok hrun₁, get_bind_run]
        cases r₂ with
        | error e =>
          -- no link has come into use yet
          exact .inl ⟨e, s₂, by rw [hbegin, bind_run_error hrun₂], Lasting.trans h₁ h₂⟩
        | ok i =>
          obtain ⟨hi, hhandle⟩ := setUp_ok hrun₂
          have hquiet : BindsNothing s₁ s₂ :=
            (keeps_setUp (bindsNothing_indifferent.makeLink _ _ _)).related hs₁ hrun₂
          have hmid : establish m host port timeout behaviour pause s
              = (waitUntilReady i timeout config.pollInterval pause
                  >>= fun _ => bindCalls m i >>= fun _ => pure target) (s₂.putToUse m i) := by
            rw [hbegin, bind_run_ok hrun₂]
            rfl
          have hwait : Keeps R (waitUntilReady i timeout config.pollInterval pause) :=
            keeps_waitUntilReady hpause
          cases hrun₃ : waitUntilReady i timeout config.pollInterval pause (s₂.putToUse m i) with
          | mk r₃ s' =>
            have h₃ := hwait.related ((evolves_putToUse s₂ m i).valid hs₂) hrun₃
            refine .inr ⟨i, s₁, s₂, s', h₁, h₂, hquiet, hi, hhandle, h₃, ?_⟩
            -- the link stays in use even if waiting for it or binding calls to it fails
            cases r₃ with
            | error e => exact .inl ⟨e, by rw [hmid, bind_run_error hrun₃]⟩
            | ok =>
              rw [hmid, bind_run_ok hrun₃, bind_run, bindCalls_run]
              cases s'.links[i]?.bind fun l => l.behaviour.bindingRaises? with
              | some r => exact .inl ⟨.raised r, rfl⟩
              | none => exact .inr ⟨target, rfl⟩

theorem welcome_run (target : String) (s : Session) : welcome target s
    = (.ok (.succeeded .nothing),
        s.noted .connection .info ("Connected successfully to " ++ target)) := by
  rw [welcome, log_bind_run]
  rfl

/-! ## Disconnecting -/

theorem isIdle_run (link : Nat) (s : Session) : isIdle link s
    = (.ok (((s.handle? link).map fun h => h.inFlight == 0).getD true), s) := rfl

theorem isIdle_bind_run {α : Type} (i : Nat) (f : Bool → Run α) (s : Session) :
    (isIdle i >>= f) s = f (s.idle i) s := bind_run_ok (isIdle_run i s) f

/-- **What holds while running calls are waited for.** Suppose that something holds at first, and
more as long as a call is running, and that what takes place then preserves the latter. Then a wait
that ends because no call is running ends with the former, and any other with the latter. -/
theorem waitIdle_holds {I J : Session → Prop} {during : List (Run Unit)}
    {i : Nat} {s s' : Session} (hbusy : ∀ s, I s → s.idle i = false → J s) (hback : ∀ s, J s → I s)
    (hact : ∀ x ∈ during, ∀ s, J s → s.idle i = false → J (x s).2) (hs : I s)
    {r : Except Failure Bool} (hrun : waitIdle i during s = (r, s')) :
    (r = .ok true ∧ I s' ∧ s'.idle i = true) ∨ (r ≠ .ok true ∧ J s') := by
  induction during generalizing s with
  | nil =>
    obtain ⟨rfl, rfl⟩ := Prod.mk.inj ((isIdle_run i s).symm.trans hrun)
    cases hidle : s.idle i with
    | true => exact .inl ⟨congrArg _ hidle, hs, rfl⟩
    | false =>
      refine .inr ⟨fun h => ?_, hbusy s hs hidle⟩
      exact Bool.false_ne_true (hidle.symm.trans (Except.ok.inj h))
  | cons x rest ih =>
    rw [waitIdle, isIdle_bind_run] at hrun
    cases hidle : s.idle i with
    | true =>
      rw [hidle] at hrun
      obtain ⟨rfl, rfl⟩ := Prod.mk.inj hrun
      exact .inl ⟨rfl, hs, hidle⟩
    | false =>
      rw [hidle, if_neg Bool.false_ne_true, bind_run] at hrun
      have hx := hact x List.mem_cons_self s (hbusy s hs hidle) hidle
      cases hxs : x s with
      | mk rx s₁ =>
        rw [hxs] at hrun hx
        cases rx with
        | error e =>
          obtain ⟨rfl, rfl⟩ := Prod.mk.inj hrun
          exact .inr ⟨nofun, hx⟩
        | ok =>
          exact ih (fun y hy => hact y (List.mem_cons_of_mem x hy)) (hback _ hx) hrun

theorem measureWait_run (i : Nat) (timeout : Value) (s : Session) : measureWait i timeout s
    = (if s.idle i then .ok () else
        (s.environment.clock.waitRaises? timeout).elim (.ok ()) (.error <| .raised ·), s) := by
  rw [measureWait, isIdle_bind_run]
  cases s.idle i with
  | true => rfl
  | false =>
    rw [Bool.not_false, if_pos rfl, get_bind_run, if_neg Bool.false_ne_true]
    cases s.environment.clock.waitRaises? timeout <;> rfl

/-- **What takes place while running calls are waited for.** If the clock does not measure the wait,
the first thing is that it raises. -/
def limited (clock : Clock) (timeout : Value) (during : List (Run Unit)) : List (Run Unit) :=
  match clock.waitRaises? timeout with
  | some r => raise r :: during
  | none => during

theorem forall_limited {P : Run Unit → Prop} {during : List (Run Unit)}
    (hraise : ∀ r, P (raise r)) (hd : ∀ x ∈ during, P x) (clock : Clock) (timeout : Value) :
    ∀ x ∈ limited clock timeout during, P x := by
  unfold limited
  cases clock.waitRaises? timeout with
  | some r => exact List.forall_mem_cons.mpr ⟨hraise r, hd⟩
  | none => exact hd

/-- Measuring a wait is the first thing that takes place in it, and takes place only if a call is
running. -/
theorem measureWait_bind_waitIdle (i : Nat) (timeout : Value) (during : List (Run Unit))
    (s : Session) : (measureWait i timeout >>= fun _ => waitIdle i during) s
      = waitIdle i (limited s.environment.clock timeout during) s := by
  rw [bind_run, measureWait_run, limited]
  cases hidle : s.idle i with
  | true =>
    have hdone : ∀ activities, waitIdle i activities s = (.ok true, s) := by
      intro activities
      cases activities with
      | nil => exact (isIdle_run i s).trans (congrArg (fun b => (Except.ok b, s)) hidle)
      | cons x rest => rw [waitIdle, isIdle_bind_run, hidle]; rfl
    rw [if_pos rfl, hdone]
    exact hdone during
  | false =>
    rw [if_neg Bool.false_ne_true]
    cases s.environment.clock.waitRaises? timeout with
    | none => rfl
    | some r => rw [waitIdle, isIdle_bind_run, hidle]; rfl

/-- **What comes of a wait for running calls**: it closes the channel if no call is running at its
end, and leaves it alone if one is or if the wait was ended from outside. -/
theorem awaitTermination_run_wait (i : Nat) (timeout : Value) (during : List (Run Unit))
    (s : Session) : awaitTermination i timeout during s
      = match waitIdle i (limited s.environment.clock timeout during)
            (s.push (.waited timeout)) with
        | (.ok true, s') => ((close i s').1.map fun _ => true, (close i s').2)
        | (.ok false, s') => (.ok false, s')
        | (.error e, s') => (.error e, s') := by
  have hwait : (measureWait i timeout >>= fun _ => waitIdle i during) (s.push (.waited timeout))
      = waitIdle i (limited s.environment.clock timeout during) (s.push (.waited timeout)) :=
    measureWait_bind_waitIdle i timeout during (s.push (.waited timeout))
  rw [awaitTermination, record_bind_run, ← bind_assoc, bind_run, hwait]
  match waitIdle i (limited s.environment.clock timeout during) (s.push (.waited timeout)) with
  | (.error e, s') => rfl
  | (.ok false, s') => rfl
  | (.ok true, s') =>
    show (close i >>= fun _ => pure true : Run Bool) s'
      = ((close i s').1.map fun _ => true, (close i s').2)
    rw [bind_run]
    obtain ⟨rc, s''⟩ := close i s'
    cases rc <;> rfl

/-- A manager that is not connected only says so. -/
theorem dismantle_run_idle {m : Nat} {during : List (Run Unit)} {s : Session}
    (hcon : s.isConnected m = false) :
    dismantle m during s = (.ok (some (.failed .nothing .notConnected "")),
      s.noted .connection .warning notConnectedText) := by
  rw [dismantle, get_bind_run, hcon, if_pos (by rfl), log_bind_run]
  rfl

/-- **A manager that is connected shuts its handle down** and has its calls bound to no link, and
only then waits. -/
theorem dismantle_run {m i : Nat} {h : Handle} {during : List (Run Unit)} {s : Session}
    (hcur : (s.manager m).current? = some i) (hi : s.handle? i = some h)
    (hready : h.state = .ready) :
    dismantle m during s
      = (awaitTermination i (.float (s.manager m).config.drainTimeout) during >>= farewell i)
        ((s.retire i).changeManager m fun mgr => { mgr with dispatcher? := none }) := by
  have hcon : s.isConnected m = true := Scene.isConnected_iff.mpr ⟨i, h, hcur, hi, hready⟩
  have hadm : s.admits i = true :=
    Scene.admits_iff.mpr ⟨h, hi, (Handle.state_eq_ready.mp hready).2.1⟩
  have hshut : shutDown i s = (.ok (), s.retire i) := by rw [shutDown_run, if_pos hadm]
  rw [dismantle, get_bind_run, hcon, if_neg (by decide), get_bind_run, get_bind_run, hcur]
  exact bind_run_ok hshut _

theorem farewell_run (i : Nat) (s : Session) :
    ∃ text, farewell i true s
      = (.ok (some (.succeeded .nothing)), s.noted .connection .info text) := by
  have htarget : targetOf i s = (.ok (((s.links[i]?).map Link.target).getD ""), s) := rfl
  exact ⟨_, by rw [farewell, if_pos rfl, bind_run_ok htarget, log_bind_run]; rfl⟩

/-- A manager that disconnected has a result. -/
theorem partFrom_run (m : Nat) (r? : Option Result) (s : Session) :
    ∃ r s', partFrom m r? s = (.ok r, s') := by
  cases r? with
  | some r => exact ⟨r, s, rfl⟩
  | none =>
    rw [partFrom, outlasted, get_bind_run, get_bind_run, get_bind_run, log_bind_run]
    exact ⟨_, _, rfl⟩

end Run

end VectorLink
