import VectorLink.Proofs.Activity
import VectorLink.Scenario.Run

/-!
# Runs and their moments

A run is what a scenario does to a session. Its steps may hold further steps, which take place at
the pauses of a connection, during a call, or while running calls are waited for, and each of those
may hold steps again. A law of the client has to hold at the beginning and the end of every one of
them.

The induction over all of that is done here, once. A relation that the client's own activities keep,
given that whatever takes place inside them keeps it (`Step.Respects`), is kept by every step
(`Step.keeps_perform`). What holds at each moment of a run is then a relation like any other, since
the history of a session holds its moments (`Session.moments`).
-/

namespace VectorLink

namespace Step

mutual

/-- **Whether a step is allowed**, and with it all steps inside it. -/
def within (p : Step → Bool) : Step → Bool
  | .connect said behaviour pauses =>
    p (.connect said behaviour pauses) && pausesWithin p pauses
  | .connectTo args behaviour pauses =>
    p (.connectTo args behaviour pauses) && pausesWithin p pauses
  | .connectManager host port timeout behaviour pauses =>
    p (.connectManager host port timeout behaviour pauses) && pausesWithin p pauses
  | .connectAnew given? keywords behaviour pauses =>
    p (.connectAnew given? keywords behaviour pauses) && pausesWithin p pauses
  | .disconnect waiting => p (.disconnect waiting) && allWithin p waiting
  | .block body waiting => p (.block body waiting) && allWithin p body && allWithin p waiting
  | .operate op response during => p (.operate op response during) && allWithin p during
  | .dispatch name requestName request kept? response during =>
    p (.dispatch name requestName request kept? response during) && allWithin p during
  | .awaitTermination timeout waiting =>
    p (.awaitTermination timeout waiting) && allWithin p waiting
  | step => p step

/-- Whether all steps are allowed. -/
def allWithin (p : Step → Bool) : List Step → Bool
  | [] => true
  | step :: steps => step.within p && allWithin p steps

/-- Whether the steps of all pauses are allowed. -/
def pausesWithin (p : Step → Bool) : List (Nat × List Step) → Bool
  | [] => true
  | (_, steps) :: pauses => allWithin p steps && pausesWithin p pauses

end

mutual

theorem within_true : ∀ step : Step, step.within (fun _ => true) = true
  | .connect _ _ pauses | .connectTo _ _ pauses | .connectManager _ _ _ _ pauses
  | .connectAnew _ _ _ pauses => by
    rw [within, Bool.true_and]
    exact pausesWithin_true pauses
  | .disconnect waiting | .awaitTermination _ waiting => by
    rw [within, Bool.true_and]
    exact allWithin_true waiting
  | .block body waiting => by
    rw [within, Bool.true_and, allWithin_true body, Bool.true_and]
    exact allWithin_true waiting
  | .operate _ _ during | .dispatch _ _ _ _ _ during => by
    rw [within, Bool.true_and]
    exact allWithin_true during
  | .notify _ _ _ | .beginCall _ | .endCall _ | .keepDispatcher _ | .restoreDispatcher _
  | .shutDown | .options _ | .logLevel | .observe | .interrupt _ => rfl

/-- Where nothing is forbidden all steps are allowed. -/
theorem allWithin_true : ∀ steps : List Step, allWithin (fun _ => true) steps = true
  | [] => rfl
  | step :: steps => by
    rw [allWithin, within_true step, Bool.true_and]
    exact allWithin_true steps

theorem pausesWithin_true :
    ∀ pauses : List (Nat × List Step), pausesWithin (fun _ => true) pauses = true
  | [] => rfl
  | (_, steps) :: pauses => by
    rw [pausesWithin, allWithin_true steps, Bool.true_and]
    exact pausesWithin_true pauses

end

mutual

theorem within_mono {p q : Step → Bool} (h : ∀ step, p step = true → q step = true) :
    ∀ step : Step, step.within p = true → step.within q = true
  | .connect _ _ pauses, hw | .connectTo _ _ pauses, hw | .connectManager _ _ _ _ pauses, hw
  | .connectAnew _ _ _ pauses, hw => by
    rw [within, Bool.and_eq_true] at hw ⊢
    exact ⟨h _ hw.1, pausesWithin_mono h pauses hw.2⟩
  | .disconnect waiting, hw | .awaitTermination _ waiting, hw => by
    rw [within, Bool.and_eq_true] at hw ⊢
    exact ⟨h _ hw.1, allWithin_mono h waiting hw.2⟩
  | .block body waiting, hw => by
    rw [within, Bool.and_eq_true, Bool.and_eq_true] at hw ⊢
    exact ⟨⟨h _ hw.1.1, allWithin_mono h body hw.1.2⟩, allWithin_mono h waiting hw.2⟩
  | .operate _ _ during, hw | .dispatch _ _ _ _ _ during, hw => by
    rw [within, Bool.and_eq_true] at hw ⊢
    exact ⟨h _ hw.1, allWithin_mono h during hw.2⟩
  | .notify _ _ _, hw | .beginCall _, hw | .endCall _, hw | .keepDispatcher _, hw
  | .restoreDispatcher _, hw | .shutDown, hw | .options _, hw | .logLevel, hw | .observe, hw
  | .interrupt _, hw => h _ hw

/-- What is allowed stays so where more is. -/
theorem allWithin_mono {p q : Step → Bool} (h : ∀ step, p step = true → q step = true) :
    ∀ steps : List Step, allWithin p steps = true → allWithin q steps = true
  | [], _ => rfl
  | step :: steps, hw => by
    rw [allWithin, Bool.and_eq_true] at hw ⊢
    exact ⟨within_mono h step hw.1, allWithin_mono h steps hw.2⟩

theorem pausesWithin_mono {p q : Step → Bool} (h : ∀ step, p step = true → q step = true) :
    ∀ pauses : List (Nat × List Step), pausesWithin p pauses = true → pausesWithin q pauses = true
  | [], _ => rfl
  | (_, steps) :: pauses, hw => by
    rw [pausesWithin, Bool.and_eq_true] at hw ⊢
    exact ⟨allWithin_mono h steps hw.1, pausesWithin_mono h pauses hw.2⟩

end

open Run (Keeps Lasting)

/-- **What a relation has to satisfy to be kept by every step** that is allowed: each activity of
the client keeps it, provided that what takes place inside the activity does. -/
structure Respects (p : Step → Bool) (R : Session → Session → Prop) : Prop where
  bracketed : ∀ {s s' : Session} (answer : Except Failure Answer),
    R (s.push (.began s.toScene)) s' → R s (s'.push (.ended answer s'.toScene))
  connect : ∀ {m : Nat} {host port timeout : Value} {behaviour : ChannelBehaviour}
    {pause : Nat → Run Unit}, (∀ k, Keeps R (pause k)) → ∀ s : Session, s.Valid →
      m < s.managers.length → R s (Run.connect m host port timeout behaviour pause s).2
  disconnect : ∀ {m : Nat} {during : List (Run Unit)}, (∀ x ∈ during, Keeps R x) →
    ∀ s : Session, s.Valid → m < s.managers.length → R s (Run.disconnect m during s).2
  dispatch : ∀ {link : Nat} {name : String} {request : Wire.Octets} {during : Run Unit}
    {response : Response}, Keeps R during → Keeps R (Run.dispatch link name request during response)
  deliver : ∀ (link : Nat) (report : String), Keeps R (Run.deliver link report)
  beginCall : ∀ name : String, Keeps R (Run.beginCall name)
  endCall : ∀ name : String, Keeps R (Run.endCall name)
  keepDispatcher : ∀ name : String, Keeps R (Run.keepDispatcher name)
  addClient : ∀ (s : Session) (c : Config), R s ((s.setThreshold c).addManager c)
  activate : ∀ (s : Session) (m : Nat), m < s.managers.length → R s { s with active := m }
  restoreDispatcher : ∀ name : String, p (.restoreDispatcher name) = true →
    Keeps R (Run.restoreDispatcher name)
  shutDown : p .shutDown = true → ∀ link : Nat, Keeps R (Run.shutDown link)
  awaitTermination : ∀ (timeout : Value) (waiting : List Step),
    p (.awaitTermination timeout waiting) = true → ∀ (link : Nat) (during : List (Run Unit)),
      (∀ x ∈ during, Keeps R x) → Keeps R (Run.awaitTermination link timeout during)

section Keeping

variable {R : Session → Session → Prop} [Lasting R] {p : Step → Bool}

/-- A connection keeps the relation wherever its endpoint comes from. -/
theorem Respects.connectClient (h : Respects p R) {m : Nat} {said : Arguments}
    {behaviour : ChannelBehaviour} {pause : Nat → Run Unit} (hpause : ∀ k, Keeps R (pause k))
    {s : Session} (hs : s.Valid) (hm : m < s.managers.length) :
    R s (Run.connectClient m said behaviour pause s).2 := by
  rw [Run.connectClient, Run.get_bind_run]
  cases Endpoint.check ((s.manager m).config.endpointArguments said) with
  | error issues => exact Lasting.refl s
  | ok e => exact h.connect hpause s hs hm

/-- Making a client and connecting it keeps the relation. -/
theorem Respects.connectAnew (h : Respects p R) {given? : Option Arguments}
    {keywords : Arguments} {behaviour : ChannelBehaviour} {pause : Nat → Run Unit}
    (hpause : ∀ k, Keeps R (pause k)) :
    Keeps R (Run.connectAnew given? keywords behaviour pause) := by
  unfold Run.connectAnew
  generalize keywords.partition _ = parts
  obtain ⟨said, rest⟩ := parts
  refine Run.keeps_look fun s₀ => ?_
  cases Session.configure s₀.environment Run.shortcutName given? rest with
  | error e => exact Run.keeps_throw _
  | ok c =>
    refine Run.keeps_get_bind fun s hs => ?_
    -- the new manager is the last one, so it exists as soon as it is added
    have hadd : R s ((s.setThreshold c).addManager c) := h.addClient s c
    have hnew : s.managers.length < ((s.setThreshold c).addManager c).managers.length := by
      simp [Session.addManager, Session.setThreshold]
    have hcon : R _ (Run.connectClient s.managers.length said behaviour pause _).2 :=
      h.connectClient hpause ((Lasting.evolves hadd).valid hs) hnew
    refine Run.related_bind hadd fun _ s₁ hs₁ => ?_
    cases hs₁
    refine Run.related_bind hcon fun r s' hr => h.activate s' _ ?_
    -- managers are never taken away, so it still exists when it takes the place of the other
    have hgrow := (Lasting.evolves hcon).managers
    rw [hr] at hgrow
    exact hnew.trans_le hgrow

/-- A step that is no interrupt is written down with its answer. -/
theorem writtenDown_run {step : Step} (hstep : step.isInterrupt = false) (activity : Run Answer)
    (s : Session) :
    step.writtenDown activity s =
      (.ok (), (activity (s.push (.began s.toScene))).2.push
        (.ended (activity (s.push (.began s.toScene))).1
          (activity (s.push (.began s.toScene))).2.toScene)) := by
  rw [writtenDown, hstep, if_neg Bool.false_ne_true]
  rfl

/-- What is written down around an activity changes nothing by itself. -/
theorem Respects.writtenDown (h : Respects p R) {step : Step} {activity : Run Answer}
    (ha : Keeps R activity) : Keeps R (step.writtenDown activity) := by
  intro s hs
  cases hstep : step.isInterrupt with
  | true =>
    rw [Step.writtenDown, hstep, if_pos rfl]
    exact (ha.bind fun _ => Run.keeps_pure ()) s hs
  | false =>
    rw [writtenDown_run hstep]
    exact h.bracketed _ (ha _ hs)

/-- A block keeps what its body and its disconnecting keep. -/
theorem Respects.block (h : Respects p R) {body : Run Unit} {waiting : List (Run Unit)}
    (hbody : Keeps R body) (hwait : ∀ x ∈ waiting, Keeps R x) {s : Session} (hs : s.Valid) :
    R s (Run.andFinally body (Run.leaveBlock s.active waiting) s).2 := by
  refine Run.related_bind (hbody.attempt s hs) fun r s' hr => ?_
  have hR : R s s' := by
    have := hbody s hs
    cases hr
    exact this
  have hev := Lasting.evolves hR
  refine Run.related_bind ?_ fun _ s'' _ => Lasting.refl s''
  rw [Run.leaveBlock, Run.get_bind_run]
  split
  · refine Run.related_bind (h.disconnect hwait s' (hev.valid hs) ?_) fun _ s'' _ =>
      Lasting.refl s''
    exact lt_of_lt_of_le hs hev.managers
  · exact Lasting.refl s'

theorem keeps_currentLink (wanted : String) : Keeps R (Run.currentLink wanted) := by
  refine Run.keeps_look fun s => Run.keeps_look fun s' => ?_
  cases (s.manager s'.active).current? with
  | none => exact Run.keeps_throw _
  | some link => exact Run.keeps_pure link

theorem keeps_keptDispatcher (name : String) : Keeps R (Run.keptDispatcher name) := by
  refine Run.keeps_look fun s => ?_
  cases s.keptDispatchers.find? fun d => d.1 == name with
  | none => exact Run.keeps_raise _
  | some d => exact Run.keeps_pure d.2

theorem keeps_normalRequest (name : String) (request : Wire.Octets) :
    Keeps R (Run.normalRequest name request) := by
  unfold Run.normalRequest
  cases Wire.Method.ofName? name with
  | none => exact Run.keeps_raise _
  | some method =>
    cases hd : method.request.decode? request with
    | none => simpa only [hd] using Run.keeps_throw _
    | some message => simpa only [hd] using Run.keeps_pure _

/-- A call made by hand keeps what any call keeps. -/
theorem Respects.dispatchByHand (h : Respects p R) {name requestName : String}
    {request : Wire.Octets} {kept? : Option String} {response : Response} {during : Run Unit}
    (hd : Keeps R during) :
    Keeps R (Run.dispatchByHand name requestName request kept? response during) := by
  have hrequest : Keeps R (Run.normalRequest requestName request) := keeps_normalRequest _ _
  unfold Run.dispatchByHand
  cases kept? with
  | none =>
    refine Run.keeps_look fun s => Run.keeps_look fun s' => ?_
    cases (s.manager s'.active).dispatcher? with
    | none => exact hrequest.bind fun _ => Run.keeps_throw _
    | some link => exact hrequest.bind fun _ => (h.dispatch hd).bind fun _ => Run.keeps_pure _
  | some kept =>
    refine (keeps_keptDispatcher kept).bind fun dispatcher? => ?_
    cases dispatcher? with
    | none => exact hrequest.bind fun _ => Run.keeps_throw _
    | some link => exact hrequest.bind fun _ => (h.dispatch hd).bind fun _ => Run.keeps_pure _

theorem Respects.report (h : Respects p R) (link : Nat) (state : String) (forced : Bool) :
    Keeps R (Run.report link state forced) :=
  Run.keeps_look fun _ => (h.deliver link state).ite (Run.keeps_pure ())

/-! ## All steps -/

-- a step holds the steps that take place inside it, so all four go by recursion together
mutual

/-- **Every allowed step keeps the relation.** -/
theorem keeps_perform (h : Respects p R) :
    ∀ step : Step, step.within p = true → Keeps R (perform step)
  | .connect said behaviour pauses, hw => by
    rw [within, Bool.and_eq_true] at hw
    rw [perform]
    refine Run.keeps_get_bind fun s hs => ?_
    exact Run.related_bind (h.connectClient (keeps_runPauses h pauses hw.2) hs hs)
      fun _ s' _ => Lasting.refl s'
  | .connectTo args behaviour pauses, hw => by
    rw [within, Bool.and_eq_true] at hw
    unfold perform
    cases Endpoint.check args with
    | error issues => exact Run.keeps_throw _
    | ok e =>
      refine Run.keeps_get_bind fun s hs => ?_
      exact Run.related_bind (h.connect (keeps_runPauses h pauses hw.2) s hs hs)
        fun _ s' _ => Lasting.refl s'
  | .connectManager host port timeout behaviour pauses, hw => by
    rw [within, Bool.and_eq_true] at hw
    rw [perform]
    refine Run.keeps_get_bind fun s hs => ?_
    exact Run.related_bind (h.connect (keeps_runPauses h pauses hw.2) s hs hs)
      fun _ s' _ => Lasting.refl s'
  | .connectAnew given? keywords behaviour pauses, hw => by
    rw [within, Bool.and_eq_true] at hw
    rw [perform]
    exact (h.connectAnew (keeps_runPauses h pauses hw.2)).bind fun _ => Run.keeps_pure _
  | .disconnect waiting, hw => by
    rw [within, Bool.and_eq_true] at hw
    rw [perform]
    refine Run.keeps_get_bind fun s hs => ?_
    exact Run.related_bind (h.disconnect (keeps_runEach h waiting hw.2) s hs hs)
      fun _ s' _ => Lasting.refl s'
  | .block body waiting, hw => by
    rw [within, Bool.and_eq_true, Bool.and_eq_true] at hw
    rw [perform]
    -- the manager in use at the beginning is the one that is disconnected at the end
    refine Run.keeps_get_bind fun s hs => ?_
    exact Run.related_bind
      (h.block (keeps_runAll h body hw.1.2) (keeps_runEach h waiting hw.2) hs)
      fun _ s' _ => Lasting.refl s'
  | .operate op response during, hw => by
    rw [within, Bool.and_eq_true] at hw
    cases op with
    | error issues => rw [perform]; exact Run.keeps_throw _
    | ok op =>
      rw [perform]
      exact Run.keeps_look fun s =>
        (Run.keeps_operate fun _ _ _ => h.dispatch (keeps_runAll h during hw.2)).bind
          fun _ => Run.keeps_pure _
  | .notify link report forced, _ => by
    rw [perform]
    exact (h.report link report forced).bind fun _ => Run.keeps_pure _
  | .beginCall name, _ => by
    rw [perform]
    exact (h.beginCall name).bind fun _ => Run.keeps_pure _
  | .endCall name, _ => by
    rw [perform]
    exact (h.endCall name).bind fun _ => Run.keeps_pure _
  | .keepDispatcher name, _ => by
    rw [perform]
    exact (h.keepDispatcher name).bind fun _ => Run.keeps_pure _
  | .restoreDispatcher name, hw => by
    simp only [within] at hw
    rw [perform]
    exact (h.restoreDispatcher name hw).bind fun _ => Run.keeps_pure _
  | .dispatch name requestName request kept? response during, hw => by
    rw [within, Bool.and_eq_true] at hw
    rw [perform]
    exact h.dispatchByHand (keeps_runAll h during hw.2)
  | .shutDown, hw => by
    simp only [within] at hw
    rw [perform]
    exact (keeps_currentLink _).bind fun link =>
      (h.shutDown hw link).bind fun _ => Run.keeps_pure _
  | .awaitTermination timeout waiting, hw => by
    rw [within, Bool.and_eq_true] at hw
    rw [perform]
    exact (keeps_currentLink _).bind fun link =>
      (h.awaitTermination timeout waiting hw.1 link _ (keeps_runEach h waiting hw.2)).bind
        fun _ => Run.keeps_pure _
  | .options link, _ => by
    rw [perform]
    exact Run.keeps_look fun _ => Run.keeps_pure _
  | .logLevel, _ => by
    rw [perform]
    exact Run.keeps_look fun _ => Run.keeps_pure _
  | .observe, _ => by
    rw [perform]
    exact Run.keeps_pure _
  | .interrupt text, _ => by
    rw [perform]
    exact Run.keeps_raise _

/-- Steps one after another keep the relation. -/
theorem keeps_runAll (h : Respects p R) :
    ∀ steps : List Step, allWithin p steps = true → Keeps R (runAll steps)
  | [], _ => by
    rw [runAll]
    exact Run.keeps_pure ()
  | step :: steps, hw => by
    rw [allWithin, Bool.and_eq_true] at hw
    rw [runAll]
    exact (h.writtenDown (keeps_perform h step hw.1)).bind fun _ => keeps_runAll h steps hw.2

/-- Each step as an activity of its own keeps the relation. -/
theorem keeps_runEach (h : Respects p R) :
    ∀ steps : List Step, allWithin p steps = true → ∀ x ∈ runEach steps, Keeps R x
  | [], _ => by simp [runEach]
  | step :: steps, hw => by
    rw [allWithin, Bool.and_eq_true] at hw
    rw [runEach, List.forall_mem_cons]
    exact ⟨h.writtenDown (keeps_perform h step hw.1), keeps_runEach h steps hw.2⟩

/-- The steps of every pause keep the relation. -/
theorem keeps_runPauses (h : Respects p R) :
    ∀ pauses : List (Nat × List Step), pausesWithin p pauses = true →
      ∀ k, Keeps R (runPauses pauses k)
  | [], _, k => by
    rw [runPauses]
    exact Run.keeps_pure ()
  | (n, steps) :: pauses, hw, k => by
    rw [pausesWithin, Bool.and_eq_true] at hw
    rw [runPauses]
    exact (keeps_runAll h steps hw.1).ite (keeps_runPauses h pauses hw.2 k)

end

end Keeping

/-! ## Coming to an end -/

/-- **Steps without an interrupt come to their end**, whatever becomes of each. -/
theorem runAll_ok {steps : List Step} (hsteps : ∀ step ∈ steps, step.isInterrupt = false)
    (s : Session) : (runAll steps s).1 = .ok () := by
  induction steps generalizing s with
  | nil => rfl
  | cons step steps ih =>
    obtain ⟨hstep, hsteps⟩ := List.forall_mem_cons.mp hsteps
    rw [runAll, Run.bind_run_ok (writtenDown_run hstep _ s)]
    exact ih hsteps _

/-- Pauses without an interrupt come to their end. -/
theorem runPauses_ok {pauses : List (Nat × List Step)}
    (hpauses : ∀ pause ∈ pauses, ∀ step ∈ pause.2, step.isInterrupt = false) (k : Nat)
    (s : Session) : (runPauses pauses k s).1 = .ok () := by
  induction pauses with
  | nil => rfl
  | cons pause pauses ih =>
    obtain ⟨hpause, hpauses⟩ := List.forall_mem_cons.mp hpauses
    rw [runPauses]
    split
    · exact runAll_ok hpause s
    · exact ih hpauses

end Step

/-! ## Reaching a moment -/

namespace Session

/-- **A session at its start**: one client, or one manager alone, and nothing has happened yet. -/
def Initial (s : Session) : Prop :=
  ∃ (env : Environment) (c : Config), s = .withClient env c ∨ s = .withManager env c

/-- The session after some steps. -/
def after (s : Session) (steps : List Step) : Session := (Step.runAll steps s).2

/-- **The sessions that a client can reach** by allowed steps: all moments of all runs, also those
inside a step. -/
def Reached (p : Step → Bool) (s : Session) : Prop :=
  ∃ (start : Session) (steps : List Step),
    start.Initial ∧ Step.allWithin p steps = true ∧ s ∈ (start.after steps).moments

/-- What is reached by some steps is reached where more are allowed. -/
theorem Reached.mono {p q : Step → Bool} {s : Session} (hs : s.Reached p)
    (h : ∀ step, p step = true → q step = true) : s.Reached q := by
  obtain ⟨start, steps, hstart, hsteps, hmem⟩ := hs
  exact ⟨start, steps, hstart, Step.allWithin_mono h steps hsteps, hmem⟩

theorem Initial.valid {s : Session} (hs : s.Initial) : s.Valid := by
  obtain ⟨env, c, rfl | rfl⟩ := hs <;> exact Nat.zero_lt_one

theorem Initial.history {s : Session} (hs : s.Initial) : s.history = [] := by
  obtain ⟨env, c, rfl | rfl⟩ := hs <;> rfl

theorem Initial.links {s : Session} (hs : s.Initial) : s.links = [] := by
  obtain ⟨env, c, rfl | rfl⟩ := hs <;> rfl

theorem Initial.openCalls {s : Session} (hs : s.Initial) : s.openCalls = [] := by
  obtain ⟨env, c, rfl | rfl⟩ := hs <;> rfl

/-- At the start no manager has ever connected. -/
theorem Initial.manager {s : Session} (hs : s.Initial) (m : Nat) :
    ∃ c, s.manager m = .fresh c := by
  obtain ⟨env, c, rfl | rfl⟩ := hs <;>
    cases m with
    | zero => exact ⟨c, rfl⟩
    | succ m => exact ⟨.standard, rfl⟩

/-- A run from the start keeps what its steps keep. -/
theorem Initial.related {R : Session → Session → Prop} [Run.Lasting R] {p : Step → Bool}
    (h : Step.Respects p R) {s : Session} (hs : s.Initial) {steps : List Step}
    (hw : Step.allWithin p steps = true) : R s (s.after steps) :=
  Step.keeps_runAll h steps hw s hs.valid

end Session

end VectorLink
