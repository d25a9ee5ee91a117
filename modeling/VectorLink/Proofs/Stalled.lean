import VectorLink.Proofs.Parting

/-!
# Clients that are stalled

A connection may come to rest on a link that is not ready: its connect timed out or was interrupted,
its channel never reported anything, or a channel that was ready has dropped since. The link stays
in use, because the channel may recover. Until it does, or the handle is shut down, the client is
stalled: a live handle keeps another link from being made, and one that is not ready keeps calls and
disconnects away.

Connects, disconnects, operations and the ends of blocks each find that out for themselves. What is
shown here is that they agree: whatever a client calls, in whatever order and however nested in
blocks, is refused, and nothing comes of it (`Session.Reached.stalled`). The answers do not depend
on what the calls were given, except that arguments which make no sense are noticed first where they
are looked at before the handle is (`Scene.refusal`).
-/

namespace VectorLink

namespace Step

/-- **Whether a step is a call of the client.** The steps that would take place while the call is in
progress may be any. -/
def isCall : Step → Bool
  | .connect _ _ _ | .connectTo _ _ _ | .connectManager _ _ _ _ _ | .disconnect _
  | .operate _ _ _ => true
  | _ => false

mutual

/-- Whether a step is a call of the client, or a block of such steps. -/
def isOfClient : Step → Bool
  | .block body _ => allOfClient body
  | step => step.isCall

/-- **Whether all steps are calls of the client**, or blocks of such steps. -/
def allOfClient : List Step → Bool
  | [] => true
  | step :: steps => step.isOfClient && allOfClient steps

end

theorem isInterrupt_of_isCall {step : Step} (h : step.isCall = true) :
    step.isInterrupt = false := by
  cases step <;> first | rfl | cases h

end Step

/-! ## The answers of a stalled client -/

namespace Scene

/-- **A scene whose client is stalled**: the handle in use is live but not ready. -/
structure Stalled (c : Scene) (h : Handle) : Prop where
  here : c.active < c.managers.length
  inUse : c.current? c.active = some h
  live : h.isLive = true
  cold : h.state ≠ .ready

/-- How a connect fails while the handle in use is live. A manager that is busy already does not get
as far as looking at the handle. -/
def standoff (c : Scene) (h : Handle) : Failure :=
  if (c.manager c.active).isBusy then .busy else .connect (.alreadyConnected h.target)

/-- How a connect to an endpoint fails while the handle in use is live. -/
def standoffAt (c : Scene) (h : Handle) (endpoint : Checked Endpoint) : Failure :=
  match endpoint with
  | .ok _ => c.standoff h
  | .error issues => .invalid issues

/-- **What a stalled client answers a call.** A block itself has nothing to complain about. -/
def refusal (c : Scene) (h : Handle) : Step → Except Failure Answer
  | .connect said _ _ =>
    .error (c.standoffAt h
      (Endpoint.check ((c.manager c.active).config.endpointArguments said)))
  | .connectTo args _ _ => .error (c.standoffAt h (Endpoint.check args))
  | .connectManager _ _ _ _ _ => .error (c.standoff h)
  | .disconnect _ =>
    if (c.manager c.active).isBusy then .error .busy
    else .ok (.result (.failed .nothing .notConnected ""))
  | .operate (.ok op) _ _ => .ok (.result (.failed op.form .notConnected ""))
  | .operate (.error issues) _ _ => .error (.invalid issues)
  | _ => .ok (.value (.bool true))

mutual

/-- What a stalled client answers the calls of a block, in order. -/
def innerRefusals (c : Scene) (h : Handle) : Step → List (Except Failure Answer)
  | .block body _ => refusals c h body
  | _ => []

/-- **What a stalled client answers calls**, in the order in which they end. -/
def refusals (c : Scene) (h : Handle) : List Step → List (Except Failure Answer)
  | [] => []
  | step :: steps => innerRefusals c h step ++ c.refusal h step :: refusals c h steps

end

variable {c : Scene} {h : Handle}

theorem innerRefusals_of_isCall {step : Step} (hcall : step.isCall = true) :
    c.innerRefusals h step = [] := by
  cases step <;> first | rfl | cases hcall

theorem Stalled.isConnected (hc : c.Stalled h) : c.isConnected c.active = false := by
  rw [Scene.isConnected, hc.inUse]
  exact decide_eq_false hc.cold

end Scene

/-! ## Nothing but answers -/

/-- The answer of an activity, at its end. -/
def Event.answer? : Event → Option (Except Failure Answer)
  | .ended answer _ => some answer
  | _ => none

/-- **Whether an event leaves a scene alone**: it is a log record, or the beginning or end of an
activity at which that scene was found. -/
def Event.FindsOnly (c : Scene) : Event → Prop
  | .logged _ _ _ => True
  | .began seen | .ended _ seen => seen = c
  | _ => False

namespace Session

/-- The answers in a part of a history, in the order in which they were given. -/
def answersOf (part : List Event) : List (Except Failure Answer) :=
  (part.filterMap Event.answer?).reverse

theorem answersOf_append (part before : List Event) :
    answersOf (part ++ before) = answersOf before ++ answersOf part := by
  rw [answersOf, List.filterMap_append, List.reverse_append]
  rfl

/-- **Nothing came of what happened** from one session to a later one, except the answers. -/
structure Idles (answers : List (Except Failure Answer)) (s s' : Session) : Prop where
  scene : s'.toScene = s.toScene
  told : ∃ part, s'.history = part ++ s.history ∧ (∀ e ∈ part, e.FindsOnly s.toScene) ∧
    answersOf part = answers

variable {answers answers' : List (Except Failure Answer)} {s s' s'' : Session}

theorem Idles.refl (s : Session) : Idles [] s s :=
  ⟨rfl, [], rfl, fun _ he => (List.not_mem_nil he).elim, rfl⟩

/-- The answers of what idles follow upon one another. -/
theorem Idles.trans (h : Idles answers s s') (h' : Idles answers' s' s'') :
    Idles (answers ++ answers') s s'' := by
  obtain ⟨part, hpart, honly, hans⟩ := h.told
  obtain ⟨part', hpart', honly', hans'⟩ := h'.told
  refine ⟨h'.scene.trans h.scene, part' ++ part, ?_, fun e he => ?_, ?_⟩
  · rw [hpart', hpart, List.append_assoc]
  · obtain he | he := List.mem_append.mp he
    · exact h.scene ▸ honly' e he
    · exact honly e he
  · rw [answersOf_append, hans, hans']

/-- A log record comes to nothing. -/
theorem idles_noted (s : Session) (source : LogSource) (level : LogLevel) (message : String) :
    Idles [] s (s.noted source level message) := by
  unfold noted
  split
  · exact ⟨rfl, [_], rfl, List.forall_mem_singleton.mpr trivial, rfl⟩
  · exact .refl s

/-- What idles between a beginning and an end adds the answer of the end. -/
theorem Idles.bracketed (h : Idles answers (s.push (.began s.toScene)) s')
    (answer : Except Failure Answer) :
    Idles (answers ++ [answer]) s (s'.push (.ended answer s'.toScene)) := by
  have hbegan : Idles [] s (s.push (.began s.toScene)) :=
    ⟨rfl, [_], rfl, List.forall_mem_singleton.mpr rfl, rfl⟩
  have hended : Idles [answer] s' (s'.push (.ended answer s'.toScene)) :=
    ⟨rfl, [_], rfl, List.forall_mem_singleton.mpr rfl, rfl⟩
  exact (hbegan.trans h).trans hended

/-- A free manager that was busy only while a log record was written is as it was before. -/
theorem released_noted {m : Nat} (hfree : (s.manager m).isBusy = false) (source : LogSource)
    (level : LogLevel) (message : String) :
    ((s.occupied m).noted source level message).released m = s.noted source level message := by
  have hscene : (((s.occupied m).noted source level message).released m).toScene = s.toScene :=
    released_toScene hfree (noted_toScene _ _ _ _)
  have hhistory : ((s.occupied m).noted source level message).history
      = (s.noted source level message).history := by
    unfold noted
    show (if s.threshold.weight ≤ level.weight then _ else _ : Session).history = _
    split <;> rfl
  show Session.mk _ ((s.occupied m).noted source level message).history = _
  rw [hhistory]
  exact congrArg (Session.mk · _) (hscene.trans (noted_toScene s source level message).symm)

end Session

/-! ## Every call idles -/

namespace Run

open Session

variable {s : Session} {m : Nat} {h : Handle}

/-- Giving an answer with the value of an activity adds nothing to what it did. -/
theorem idles_answering {α : Type} {answers : List (Except Failure Answer)} {x : Run α}
    {r : Except Failure α} (hx : (x s).1 = r ∧ Idles answers s (x s).2) (f : α → Answer) :
    ((x >>= fun a => pure (f a)) s).1 = r.map f ∧
      Idles answers s ((x >>= fun a => pure (f a)) s).2 := by
  obtain ⟨rfl, hidle⟩ := hx
  cases hrun : x s with
  | mk r s' =>
    rw [hrun] at hidle
    cases r with
    | error e => rw [bind_run_error hrun]; exact ⟨rfl, hidle⟩
    | ok a => rw [bind_run_ok hrun]; exact ⟨rfl, hidle⟩

/-- **A connect idles while the handle in use is live.** -/
theorem connect_idles (hc : s.Stalled h) (host port timeout : Value)
    (behaviour : ChannelBehaviour) (pause : Nat → Run Unit) :
    (connect s.active host port timeout behaviour pause s).1 = .error (s.standoff h) ∧
      Idles [] s (connect s.active host port timeout behaviour pause s).2 := by
  unfold Scene.standoff
  cases hbusy : (s.manager s.active).isBusy with
  | true =>
    have hrun := exclusively_run s.active
      (establish s.active host port timeout behaviour pause) s
    rw [hbusy, if_pos rfl] at hrun
    rw [connect, bind_run_error hrun]
    exact ⟨rfl, .refl s⟩
  | false =>
    obtain ⟨text, hchoose⟩ := chooseTarget_run_live host port
      ((current?_occupied s hc.here).trans hc.inUse) hc.live
    rw [connect_run _ _ _ _ _ hbusy, establish_run_untargeted hchoose]
    dsimp only
    rw [released_noted hbusy]
    exact ⟨rfl, idles_noted s _ _ _⟩

/-- A connect to an endpoint that need not make sense. -/
theorem connectTo_idles (hc : s.Stalled h) (endpoint : Checked Endpoint)
    (behaviour : ChannelBehaviour) (pause : Nat → Run Unit) :
    let x : Run Result := match endpoint with
      | .ok e => connectTo s.active e behaviour pause
      | .error issues => throw (.invalid issues)
    (x s).1 = .error (s.standoffAt h endpoint) ∧ Idles [] s (x s).2 := by
  cases endpoint with
  | ok e => exact connect_idles hc (.text e.host) e.port.value (.int e.timeout) behaviour pause
  | error issues => exact ⟨rfl, .refl s⟩

/-- A client that connects goes to the endpoint that it was told and configured. -/
theorem connectClient_idles (hc : s.Stalled h) (said : Arguments)
    (behaviour : ChannelBehaviour) (pause : Nat → Run Unit) :
    (connectClient s.active said behaviour pause s).1
        = .error (s.standoffAt h
          (Endpoint.check ((s.manager s.active).config.endpointArguments said))) ∧
      Idles [] s (connectClient s.active said behaviour pause s).2 := by
  rw [connectClient, get_bind_run]
  exact connectTo_idles hc _ behaviour pause

/-- **A disconnect idles while the handle in use is not ready.** -/
theorem disconnect_idles (hc : s.Stalled h) (during : List (Run Unit)) :
    (disconnect s.active during s).1
        = (if (s.manager s.active).isBusy then .error .busy
          else .ok (.failed .nothing .notConnected "")) ∧
      Idles [] s (disconnect s.active during s).2 := by
  cases hbusy : (s.manager s.active).isBusy with
  | true =>
    have hrun := exclusively_run s.active (dismantle s.active during) s
    rw [hbusy, if_pos rfl] at hrun
    rw [disconnect, bind_run_error hrun]
    exact ⟨rfl, .refl s⟩
  | false =>
    have hcon : (s.occupied s.active).isConnected s.active = false := by
      rw [Scene.isConnected, current?_occupied s hc.here]
      exact hc.isConnected
    have hrun := exclusively_run_free (dismantle s.active during) hbusy
    rw [dismantle_run_idle hcon, released_noted hbusy] at hrun
    rw [disconnect, bind_run_ok hrun]
    exact ⟨rfl, idles_noted s _ _ _⟩

end Run

namespace Step

open Session

variable {s : Session} {h : Handle}

/-- **Every call of a stalled client idles.** -/
theorem perform_idles (hc : s.Stalled h) {step : Step} (hcall : step.isCall = true) :
    (perform step s).1 = s.refusal h step ∧ Idles [] s (perform step s).2 := by
  cases step with
  | connect said behaviour pauses =>
    rw [perform, Run.get_bind_run, Scene.refusal]
    exact Run.idles_answering (Run.connectClient_idles hc said behaviour _) .result
  | connectTo args behaviour pauses =>
    have hx := Run.connectTo_idles hc (Endpoint.check args) behaviour (runPauses pauses)
    rw [perform, Scene.refusal]
    cases hcheck : Endpoint.check args with
    | ok e =>
      rw [hcheck] at hx
      exact Run.idles_answering hx .result
    | error issues => exact ⟨rfl, .refl s⟩
  | connectManager host port timeout behaviour pauses =>
    rw [perform, Run.get_bind_run, Scene.refusal]
    exact Run.idles_answering (Run.connect_idles hc host port timeout behaviour _) .result
  | disconnect waiting =>
    have hx := Run.idles_answering (Run.disconnect_idles hc (runEach waiting)) .result
    rw [perform, Run.get_bind_run, Scene.refusal]
    refine ⟨hx.1.trans ?_, hx.2⟩
    split <;> rfl
  | operate op response during =>
    cases op with
    | error issues => rw [perform]; exact ⟨rfl, .refl s⟩
    | ok op =>
      have hrun : Run.operate s.active op (runAll during) response s
          = (.ok (.failed op.form .notConnected ""),
            s.noted .client .warning Run.notConnectedText) := Run.operate_run_idle hc.isConnected
      have hanswer : perform (.operate (.ok op) response during) s
          = (.ok (.result (.failed op.form .notConnected "")),
            s.noted .client .warning Run.notConnectedText) := by
        rw [perform, Run.get_bind_run, Run.bind_run_ok hrun]
        rfl
      rw [hanswer, Scene.refusal]
      exact ⟨rfl, idles_noted s _ _ _⟩
  | _ => cases hcall

/-- A block idles if its body does: at its end the client is as stalled as at its beginning. -/
theorem perform_block_idles (hc : s.Stalled h) {body : List Step} (waiting : List Step)
    {answers : List (Except Failure Answer)} (hok : (runAll body s).1 = .ok ())
    (hidle : Idles answers s (runAll body s).2) :
    (perform (.block body waiting) s).1 = .ok (.value (.bool true)) ∧
      Idles answers s (perform (.block body waiting) s).2 := by
  have hstill : (runAll body s).2.isConnected s.active = false := by
    rw [hidle.scene]
    exact hc.isConnected
  have hleave : Run.leaveBlock s.active (runEach waiting) (runAll body s).2
      = (.ok (), (runAll body s).2) := by
    rw [Run.leaveBlock, Run.get_bind_run, hstill]
    rfl
  have hx := Run.andFinally_run (runAll body) (Run.leaveBlock s.active (runEach waiting)) s
  rw [hleave] at hx
  dsimp only at hx
  rw [hok] at hx
  rw [perform, Run.get_bind_run, Run.bind_run_ok hx]
  exact ⟨rfl, hidle⟩

/-- What idles as an activity idles as a step, with its answer. -/
theorem writtenDown_idles {step : Step} (hstep : step.isInterrupt = false)
    {answer : Except Failure Answer} {answers : List (Except Failure Answer)}
    {activity : Run Answer} (hans : (activity (s.push (.began s.toScene))).1 = answer)
    (hidle : Idles answers (s.push (.began s.toScene)) (activity (s.push (.began s.toScene))).2) :
    (step.writtenDown activity s).1 = .ok () ∧
      Idles (answers ++ [answer]) s (step.writtenDown activity s).2 := by
  rw [writtenDown_run hstep, hans]
  exact ⟨rfl, hidle.bracketed answer⟩

theorem run_idles_of_isCall (hc : s.Stalled h) {step : Step} (hcall : step.isCall = true) :
    (step.writtenDown (perform step) s).1 = .ok () ∧
      Idles (s.innerRefusals h step ++ [s.refusal h step]) s
        (step.writtenDown (perform step) s).2 := by
  have hx := perform_idles (s := s.push (.began s.toScene)) hc hcall
  rw [Scene.innerRefusals_of_isCall hcall]
  exact writtenDown_idles (isInterrupt_of_isCall hcall) hx.1 hx.2

-- a block holds further steps, so steps and lists of steps go by recursion together
mutual

/-- A call of a stalled client idles, and so does a block of calls. -/
theorem run_idles : ∀ (step : Step) (s : Session), s.Stalled h → step.isOfClient = true →
    (step.writtenDown (perform step) s).1 = .ok () ∧
      Idles (s.innerRefusals h step ++ [s.refusal h step]) s
        (step.writtenDown (perform step) s).2
  | .block body waiting, s, hc, hcalls => by
    have hbegun : (s.push (.began s.toScene)).Stalled h := hc
    obtain ⟨hok, hidle⟩ := runAll_idles body _ hbegun hcalls
    obtain ⟨hanswer, hblock⟩ := perform_block_idles hbegun waiting hok hidle
    exact writtenDown_idles rfl hanswer hblock
  | .connect _ _ _, _, hc, hcall | .connectTo _ _ _, _, hc, hcall
  | .connectManager _ _ _ _ _, _, hc, hcall | .connectAnew _ _ _ _, _, hc, hcall
  | .disconnect _, _, hc, hcall | .operate _ _ _, _, hc, hcall | .notify _ _ _, _, hc, hcall
  | .beginCall _, _, hc, hcall | .endCall _, _, hc, hcall | .keepDispatcher _, _, hc, hcall
  | .restoreDispatcher _, _, hc, hcall | .dispatch _ _ _ _ _ _, _, hc, hcall
  | .shutDown, _, hc, hcall | .awaitTermination _ _, _, hc, hcall | .options _, _, hc, hcall
  | .logLevel, _, hc, hcall | .observe, _, hc, hcall | .interrupt _, _, hc, hcall =>
    run_idles_of_isCall hc hcall

/-- **Calls of a stalled client idle one after another.** -/
theorem runAll_idles : ∀ (steps : List Step) (s : Session), s.Stalled h →
    allOfClient steps = true →
    (runAll steps s).1 = .ok () ∧ Idles (s.refusals h steps) s (runAll steps s).2
  | [], s, _, _ => ⟨rfl, .refl s⟩
  | step :: steps, s, hc, hcalls => by
    obtain ⟨hcall, hcalls⟩ := Bool.and_eq_true_iff.mp hcalls
    obtain ⟨hok, hstep⟩ := run_idles step s hc hcall
    rw [runAll, Scene.refusals]
    cases hrun : step.writtenDown (perform step) s with
    | mk r s' =>
      rw [hrun] at hok hstep
      cases hok
      rw [Run.bind_run_ok hrun]
      -- the scene is the same, so the client is still stalled and gives the same answers
      obtain ⟨hend, hrest⟩ := runAll_idles steps s' (hstep.scene ▸ hc) hcalls
      have hall := hstep.trans hrest
      rw [hstep.scene, List.append_assoc] at hall
      exact ⟨hend, hall⟩

end

end Step

namespace Session

/-! ## Stalled clients do nothing -/

/-- **Nothing comes of the calls of a stalled client.** As long as the handle in use is neither
ready nor shut down, every connect, disconnect and operation is refused, and so is what stands in a
block. The calls are answered one after another and nothing else happens: not even for a moment is a
link made, a channel called or closed, a listener taken away or a manager changed. -/
theorem Reached.stalled {s : Session} (hs : s.Reached fun step => !step.closesByHand) {h : Handle}
    (hcur : s.current? s.active = some h) (hopen : h.isShutdown = false)
    (hcold : s.connectivity s.active ≠ .ready) {steps : List Step}
    (hcalls : Step.allOfClient steps = true) :
    (Step.runAll steps s).1 = .ok () ∧
      Idles (s.refusals h steps) s (Step.runAll steps s).2 := by
  obtain ⟨i, -, hi⟩ := Option.bind_eq_some_iff.mp hcur
  obtain ⟨l, hl, hh⟩ := handle?_eq_some.mp hi
  have hended : h.isTerminated = true → h.isShutdown = true :=
    fun hterm => ((hs.tidy.now i l h hl hh).ended hterm).1
  have hstate : s.connectivity s.active = h.state := by rw [Scene.connectivity, hcur]
  exact Step.runAll_idles steps s
    ⟨hs.valid, hcur, Handle.isLive_of_ended hended hopen, hstate ▸ hcold⟩ hcalls

/-- A channel that was ready drops while a call runs on it. -/
def droppedSteps : List Step :=
  [.connectManager (.text "host") (.int 1) (.int 0) .smooth [], .beginCall "long",
    .notify 0 "TRANSIENT_FAILURE" false]

/-- Calls that are made of a client in and around a block. What would take place during the calls
would end the running call and report that the channel has recovered. -/
def fruitlessSteps : List Step :=
  [.block
      [.operate (.ok (.hasTable "t")) (.octets []) [.endCall "long"],
        .connectManager (.text "host") (.text "no port") (.int 9) .smooth
          [(1, [.notify 0 "READY" false])]]
      [.endCall "long"],
    .disconnect [.endCall "long"]]

theorem stalled_dropped :
    let s := (withClient .bare .standard).after droppedSteps
    s.refusals ⟨"host:1", .transientFailure, 1, false, false⟩ fruitlessSteps
        = [.ok (.result (.failed .presence .notConnected "")),
          .error (.connect (.alreadyConnected "host:1")), .ok (.value (.bool true)),
          .ok (.result (.failed .nothing .notConnected ""))] ∧
      (Step.runAll fruitlessSteps s).1 = .ok () ∧
      Idles (s.refusals ⟨"host:1", .transientFailure, 1, false, false⟩ fruitlessSteps) s
        (Step.runAll fruitlessSteps s).2 := by
  have hreached : ((withClient .bare .standard).after droppedSteps).Reached
      fun step => !step.closesByHand :=
    ⟨_, droppedSteps, ⟨.bare, .standard, .inl rfl⟩, by decide, List.mem_cons_self⟩
  exact ⟨rfl, hreached.stalled (by decide +kernel) rfl (by decide +kernel) (by decide)⟩

end Session

end VectorLink
