import VectorLink.Proofs.Runs

/-!
# No activity reads the history

The history is written as things happen and is read by nobody but the theorems: what an activity
answers, and what it leaves behind, depends on the scene that it finds alone. So two sessions that
have come to the same scene on different ways go on alike, and a run can be compared with another
one in which less was written down.

**Run from the same scene an activity has the same outcome and leaves the same scene**, whatever the
histories are (`Run.Oblivious`). This is a statement about two runs at once, so it does not follow
from what a single run keeps; it is carried over from the parts of an activity to the whole in its
own right, and over all steps by recursion (`Step.oblivious_perform`). Looking at the session is the
only part that could break it, and there one has to see that nothing but the scene is looked at.
-/

namespace VectorLink

namespace Run

variable {α β : Type}

/-- **An activity does not read the history.** -/
def Oblivious (x : Run α) : Prop :=
  ∀ (c : Scene) (before before' : List Event), (x ⟨c, before⟩).1 = (x ⟨c, before'⟩).1 ∧
    (x ⟨c, before⟩).2.toScene = (x ⟨c, before'⟩).2.toScene

/-- Two sessions that show the same scene. -/
theorem Oblivious.alike {x : Run α} (hx : Oblivious x) {s s' : Session}
    (h : s.toScene = s'.toScene) :
    (x s).1 = (x s').1 ∧ (x s).2.toScene = (x s').2.toScene := by
  obtain ⟨c, before⟩ := s
  obtain ⟨c', before'⟩ := s'
  obtain rfl : c = c' := h
  exact hx c before before'

/-! ## From parts to the whole -/

theorem oblivious_pure (a : α) : Oblivious (pure a : Run α) := fun _ _ _ => ⟨rfl, rfl⟩

theorem oblivious_throw (e : Failure) : Oblivious (throw e : Run α) := fun _ _ _ => ⟨rfl, rfl⟩

theorem oblivious_raise (r : Raised) : Oblivious (raise r : Run α) := oblivious_throw _

theorem oblivious_refuse (c : ConnectFailure) : Oblivious (refuse c : Run α) := oblivious_throw _

theorem oblivious_resume (r : Except Failure α) : Oblivious (resume r) := fun _ _ _ => ⟨rfl, rfl⟩

theorem Oblivious.bind {x : Run α} {f : α → Run β} (hx : Oblivious x)
    (hf : ∀ a, Oblivious (f a)) : Oblivious (x >>= f) := by
  intro c before before'
  obtain ⟨hfst, hsnd⟩ := hx c before before'
  rw [bind_run, bind_run]
  cases hrun : x ⟨c, before⟩ with
  | mk r s =>
    cases hrun' : x ⟨c, before'⟩ with
    | mk r' s' =>
      rw [hrun, hrun'] at hfst hsnd
      obtain rfl : r = r' := hfst
      cases r with
      | error e => exact ⟨rfl, hsnd⟩
      | ok a => exact (hf a).alike hsnd

/-- **What is done with a session that is looked at** may depend on its scene only. -/
theorem oblivious_look {f : Session → Run β} (hf : ∀ s, Oblivious (f s))
    (hscene : ∀ c before before', f ⟨c, before⟩ = f ⟨c, before'⟩) : Oblivious (get >>= f) := by
  intro c before before'
  rw [get_bind_run, get_bind_run, hscene c before before']
  exact hf _ c before before'

theorem oblivious_modify {f : Session → Session}
    (hscene : ∀ c before before', (f ⟨c, before⟩).toScene = (f ⟨c, before'⟩).toScene) :
    Oblivious (modify f : Run Unit) := fun c before before' => ⟨rfl, hscene c before before'⟩

theorem Oblivious.ite {c : Prop} [Decidable c] {x y : Run α} (hx : Oblivious x)
    (hy : Oblivious y) : Oblivious (if c then x else y) := by
  split
  · exact hx
  · exact hy

theorem Oblivious.attempt {x : Run α} (hx : Oblivious x) : Oblivious (attempt x) :=
  fun c before before' =>
    ⟨congrArg Except.ok (hx c before before').1, (hx c before before').2⟩

theorem Oblivious.andFinally {x : Run α} {after : Run Unit} (hx : Oblivious x)
    (ha : Oblivious after) : Oblivious (andFinally x after) :=
  hx.attempt.bind fun r => ha.bind fun _ => oblivious_resume r

theorem oblivious_record (e : Event) : Oblivious (record e) :=
  oblivious_modify fun _ _ _ => rfl

theorem oblivious_changeLink (i : Nat) (f : Link → Link) : Oblivious (changeLink i f) :=
  oblivious_modify fun _ _ _ => rfl

theorem oblivious_changeManager (m : Nat) (f : Manager → Manager) :
    Oblivious (changeManager m f) := oblivious_modify fun _ _ _ => rfl

theorem oblivious_log (source : LogSource) (level : LogLevel) (message : String) :
    Oblivious (log source level message) :=
  oblivious_look (fun _ => (oblivious_record _).ite (oblivious_pure ())) fun _ _ _ => rfl

/-! ## Links -/

theorem oblivious_targetOf (i : Nat) : Oblivious (targetOf i) :=
  oblivious_look (fun _ => oblivious_pure _) fun _ _ _ => rfl

theorem oblivious_isReady (i : Nat) : Oblivious (isReady i) :=
  oblivious_look (fun _ => oblivious_pure _) fun _ _ _ => rfl

theorem oblivious_isIdle (i : Nat) : Oblivious (isIdle i) :=
  oblivious_look (fun _ => oblivious_pure _) fun _ _ _ => rfl

theorem oblivious_deliver (i : Nat) (report : String) : Oblivious (deliver i report) := by
  refine oblivious_look (fun s => ?_) fun _ _ _ => rfl
  cases s.handle? i with
  | none => exact oblivious_pure ()
  | some h =>
    exact (oblivious_record _).bind fun _ => (oblivious_changeLink i _).bind fun _ =>
      (oblivious_log _ _ _).ite (oblivious_pure ())

theorem oblivious_makeLink (target : String) (options : ChannelOptions)
    (behaviour : ChannelBehaviour) : Oblivious (makeLink target options behaviour) := by
  unfold makeLink
  cases behaviour.makingRaises? with
  | some r => exact oblivious_raise r
  | none =>
    refine oblivious_look (fun s => Oblivious.bind (oblivious_modify fun _ _ _ => rfl) fun _ => ?_)
      fun _ _ _ => rfl
    cases behaviour.listeningRaises? with
    | some r => exact oblivious_raise r
    | none =>
      refine (oblivious_changeLink _ _).bind fun _ => ?_
      cases behaviour.initial? with
      | none => exact oblivious_pure _
      | some report => exact (oblivious_deliver _ report).bind fun _ => oblivious_pure _

theorem oblivious_enter (i : Nat) : Oblivious (enter i) := by
  refine oblivious_look (fun s => ?_) fun _ _ _ => rfl
  cases s.handle? i with
  | none => exact oblivious_pure _
  | some h =>
    exact (((oblivious_record _).bind fun _ => (oblivious_changeLink i _).bind fun _ =>
      oblivious_pure _)).ite (oblivious_pure _)

theorem oblivious_close (i : Nat) : Oblivious (close i) := by
  refine oblivious_look (fun s => ?_) fun _ _ _ => rfl
  cases s.links[i]? with
  | none => exact oblivious_pure ()
  | some l =>
    dsimp only
    cases l.handle? with
    | none => exact oblivious_pure ()
    | some h =>
      refine Oblivious.ite ?_ (oblivious_pure ())
      cases l.behaviour.closingRaises? with
      | some r =>
        exact (oblivious_record _).bind fun _ => (oblivious_changeLink i _).bind fun _ =>
          oblivious_raise r
      | none =>
        exact (oblivious_record _).bind fun _ => (oblivious_changeLink i _).bind fun _ =>
          oblivious_log _ _ _

theorem oblivious_leave (i : Nat) : Oblivious (leave i) := by
  refine (oblivious_record _).bind fun _ => (oblivious_changeLink i _).bind fun _ => ?_
  refine oblivious_look (fun s => ?_) fun _ _ _ => rfl
  cases s.handle? i with
  | none => exact oblivious_pure ()
  | some h => exact (oblivious_close i).ite (oblivious_pure ())

theorem Oblivious.track {i : Nat} {body : Bool → Run α}
    (hbody : ∀ admitted, Oblivious (body admitted)) : Oblivious (track i body) :=
  (oblivious_enter i).bind fun admitted =>
    (hbody admitted).andFinally ((oblivious_leave i).ite (oblivious_pure ()))

theorem oblivious_shutDown (i : Nat) : Oblivious (shutDown i) := by
  refine oblivious_look (fun s => ?_) fun _ _ _ => rfl
  cases s.handle? i with
  | none => exact oblivious_pure ()
  | some h =>
    exact ((oblivious_record _).bind fun _ => oblivious_changeLink i _).ite (oblivious_pure ())

theorem oblivious_waitIdle {i : Nat} {during : List (Run Unit)}
    (hd : ∀ x ∈ during, Oblivious x) : Oblivious (waitIdle i during) := by
  induction during with
  | nil => exact oblivious_isIdle i
  | cons x rest ih =>
    exact (oblivious_isIdle i).bind fun _ => (oblivious_pure true).ite <|
      (hd x List.mem_cons_self).bind fun _ => ih fun y hy => hd y (List.mem_cons_of_mem x hy)

theorem oblivious_measureWait (i : Nat) (timeout : Value) :
    Oblivious (measureWait i timeout) := by
  refine (oblivious_isIdle i).bind fun _ => Oblivious.ite ?_ (oblivious_pure ())
  refine oblivious_look (fun s => ?_) fun _ _ _ => rfl
  cases s.environment.clock.waitRaises? timeout with
  | some r => exact oblivious_raise r
  | none => exact oblivious_pure ()

theorem oblivious_awaitTermination {i : Nat} {timeout : Value} {during : List (Run Unit)}
    (hd : ∀ x ∈ during, Oblivious x) : Oblivious (awaitTermination i timeout during) :=
  (oblivious_record _).bind fun _ => (oblivious_measureWait i timeout).bind fun _ =>
    (oblivious_waitIdle hd).bind fun _ =>
      ((oblivious_close i).bind fun _ => oblivious_pure _).ite (oblivious_pure _)

/-! ## Managers -/

theorem Oblivious.exclusively {m : Nat} {x : Run α} (hx : Oblivious x) :
    Oblivious (exclusively m x) :=
  oblivious_look (fun _ =>
    ((oblivious_throw _).bind fun _ => (oblivious_changeManager m _).bind fun _ =>
        hx.andFinally (oblivious_changeManager m _)).ite
      ((oblivious_changeManager m _).bind fun _ =>
        hx.andFinally (oblivious_changeManager m _))) fun _ _ _ => rfl

theorem oblivious_written (n : Int) : Oblivious (written n) :=
  (oblivious_pure _).ite (oblivious_raise _)

theorem oblivious_portOf (port : Value) : Oblivious (portOf port) := by
  unfold portOf
  cases readPort port with
  | ok n => exact oblivious_pure n
  | error r =>
    exact ((oblivious_log _ _ _).bind fun _ => oblivious_refuse _).ite (oblivious_raise r)

theorem oblivious_chooseTarget (m : Nat) (host port : Value) :
    Oblivious (chooseTarget m host port) := by
  have hport : Oblivious (do
      let number ← portOf port
      if number < 0 || greatestPort < number then
        log .connection .error ("Connect failed! Port " ++ (← written number) ++ " out of range")
        refuse (.portOutOfRange number)
      return host.plain ++ ":" ++ toString number) :=
    (oblivious_portOf port).bind fun number =>
      ((oblivious_written number).bind fun _ => (oblivious_log _ _ _).bind fun _ =>
        (oblivious_refuse _).bind fun _ => oblivious_pure _).ite (oblivious_pure _)
  refine oblivious_look (fun s => ?_) fun _ _ _ => rfl
  cases s.current? m with
  | none => exact hport
  | some h =>
    exact ((oblivious_log _ _ _).bind fun _ => (oblivious_refuse _).bind fun _ => hport).ite hport

theorem oblivious_setUp (target : String) (options : ChannelOptions)
    (behaviour : ChannelBehaviour) : Oblivious (setUp target options behaviour) := by
  refine (oblivious_makeLink target options behaviour).attempt.bind fun r => ?_
  match r with
  | .ok link => exact oblivious_pure link
  | .error (.raised r) =>
    exact ((oblivious_log _ _ _).bind fun _ => oblivious_refuse _).ite (oblivious_raise r)
  | .error (.connect _) | .error (.invalid _) | .error (.load _) | .error (.request _)
  | .error .unreadableRequest | .error .busy | .error (.absent _) => exact oblivious_throw _

theorem oblivious_giveUp (i : Nat) (timeout : Value) :
    Oblivious (giveUp i timeout : Run α) := by
  refine oblivious_look (fun s => ?_) fun _ _ _ => rfl
  cases s.handle? i with
  | none => exact oblivious_refuse _
  | some h => exact (oblivious_log _ _ _).bind fun _ => oblivious_refuse _

theorem oblivious_announce (i : Nat) (timeout : Value) : Oblivious (announce i timeout) := by
  have hwritten : Oblivious (writtenTime timeout) := by
    cases timeout with
    | int n => exact oblivious_written n
    | _ => exact oblivious_pure _
  exact hwritten.bind fun _ => (oblivious_targetOf i).bind fun _ => oblivious_log _ _ _

theorem oblivious_pollReady {i : Nat} {timeout : Value} {length : Except Raised Binary64}
    {pause : Nat → Run Unit} (hpause : ∀ k, Oblivious (pause k)) (left number : Nat) :
    Oblivious (pollReady i timeout length pause left number) := by
  have hseconds : Oblivious (pauseSeconds length) := by
    cases length with
    | error r => exact oblivious_raise r
    | ok seconds => exact oblivious_pure seconds
  induction left generalizing number with
  | zero =>
    exact (oblivious_isReady i).bind fun _ => (oblivious_pure ()).ite (oblivious_giveUp i timeout)
  | succ left ih =>
    exact (oblivious_isReady i).bind fun _ => (oblivious_pure ()).ite <|
      hseconds.bind fun _ => (oblivious_record _).bind fun _ =>
        (hpause number).bind fun _ => ih (number + 1)

theorem oblivious_waitUntilReady {i : Nat} {timeout : Value} {interval : Int}
    {pause : Nat → Run Unit} (hpause : ∀ k, Oblivious (pause k)) :
    Oblivious (waitUntilReady i timeout interval pause) := by
  refine (oblivious_announce i timeout).bind fun _ => oblivious_look (fun _ => ?_) fun _ _ _ => rfl
  cases Patience.ofTime timeout interval with
  | pauses n => exact oblivious_pollReady hpause n 1
  | incomparable kindName =>
    exact (oblivious_isReady i).bind fun _ => (oblivious_pure ()).ite (oblivious_raise _)

theorem oblivious_bindCalls (m i : Nat) : Oblivious (bindCalls m i) := by
  refine oblivious_look (fun s => ?_) fun _ _ _ => rfl
  cases s.links[i]?.bind fun l => l.behaviour.bindingRaises? with
  | some r => exact oblivious_raise r
  | none => exact (oblivious_record _).bind fun _ => oblivious_changeManager m _

theorem oblivious_connect {m : Nat} {host port timeout : Value} {behaviour : ChannelBehaviour}
    {pause : Nat → Run Unit} (hpause : ∀ k, Oblivious (pause k)) :
    Oblivious (connect m host port timeout behaviour pause) := by
  have hin : Oblivious (establish m host port timeout behaviour pause) :=
    (oblivious_chooseTarget m host port).bind fun target => oblivious_look (fun _ =>
      (oblivious_setUp target _ behaviour).bind fun i =>
        Oblivious.bind ((oblivious_record _).bind fun _ => oblivious_changeManager m _) fun _ =>
          (oblivious_changeManager m _).bind fun _ =>
            (oblivious_waitUntilReady hpause).bind fun _ =>
              (oblivious_bindCalls m i).bind fun _ => oblivious_pure _) fun _ _ _ => rfl
  exact hin.exclusively.bind fun _ => (oblivious_log _ _ _).bind fun _ => oblivious_pure _

theorem oblivious_farewell (i : Nat) (ended : Bool) : Oblivious (farewell i ended) :=
  Oblivious.ite ((oblivious_targetOf i).bind fun _ => (oblivious_log _ _ _).bind fun _ =>
    oblivious_pure _) (oblivious_pure none)

theorem oblivious_partFrom (m : Nat) (r? : Option Result) : Oblivious (partFrom m r?) := by
  cases r? with
  | some r => exact oblivious_pure r
  | none =>
    exact oblivious_look (fun _ => oblivious_look (fun _ => oblivious_look (fun _ =>
      (oblivious_log _ _ _).bind fun _ => oblivious_pure _) fun _ _ _ => rfl) fun _ _ _ => rfl)
      fun _ _ _ => rfl

theorem oblivious_disconnect {m : Nat} {during : List (Run Unit)}
    (hd : ∀ x ∈ during, Oblivious x) : Oblivious (disconnect m during) := by
  have hin : Oblivious (dismantle m during) := by
    refine oblivious_look (fun _ =>
      Oblivious.ite ((oblivious_log _ _ _).bind fun _ => oblivious_pure _) ?_) fun _ _ _ => rfl
    exact oblivious_look (fun _ => oblivious_look (fun _ => (oblivious_shutDown _).bind fun _ =>
      (oblivious_changeManager m _).bind fun _ => (oblivious_awaitTermination hd).bind fun _ =>
        oblivious_farewell _ _) fun _ _ _ => rfl) fun _ _ _ => rfl
  exact hin.exclusively.bind fun r? => oblivious_partFrom m r?

/-! ## Clients -/

theorem oblivious_dispatch {i : Nat} {name : String} {request : Wire.Octets} {during : Run Unit}
    {response : Response} (hd : Oblivious during) :
    Oblivious (dispatch i name request during response) := by
  refine Oblivious.track fun admitted => Oblivious.ite ?_ ?_
  · exact (oblivious_targetOf i).bind fun _ => (oblivious_log _ _ _).bind fun _ => oblivious_pure _
  · cases Wire.Method.ofName? name with
    | none => exact oblivious_raise _
    | some method =>
      have hsend : Oblivious (send i method.path request) :=
        oblivious_look (fun _ => (oblivious_pure _).ite
          ((oblivious_record _).bind fun _ => oblivious_pure _)) fun _ _ _ => rfl
      exact hsend.bind fun _ => (oblivious_pure _).ite (hd.bind fun _ => oblivious_resume _)

theorem oblivious_operate {m : Nat} {op : Operation} {during : Run Unit} {response : Response}
    (hd : Oblivious during) : Oblivious (operate m op during response) := by
  have hconclude : ∀ outcome, Oblivious (conclude op outcome) := fun _ =>
    (oblivious_log _ _ _).bind fun _ => oblivious_pure _
  refine oblivious_look (fun s =>
    Oblivious.ite ((oblivious_log _ _ _).bind fun _ => oblivious_pure _) ?_) fun _ _ _ => rfl
  cases op.request with
  | error e => exact oblivious_throw _
  | ok message =>
    refine oblivious_look (fun s => ?_) fun _ _ _ => rfl
    cases (s.manager m).dispatcher? with
    | none => exact hconclude .notIssued
    | some i => exact (oblivious_dispatch hd).bind hconclude

theorem oblivious_connectClient {m : Nat} {said : Arguments} {behaviour : ChannelBehaviour}
    {pause : Nat → Run Unit} (hpause : ∀ k, Oblivious (pause k)) :
    Oblivious (connectClient m said behaviour pause) := by
  refine oblivious_look (fun s => ?_) fun _ _ _ => rfl
  cases Endpoint.check ((s.manager m).config.endpointArguments said) with
  | error issues => exact oblivious_throw _
  | ok e => exact oblivious_connect hpause

theorem oblivious_connectAnew {given? : Option Arguments} {keywords : Arguments}
    {behaviour : ChannelBehaviour} {pause : Nat → Run Unit} (hpause : ∀ k, Oblivious (pause k)) :
    Oblivious (connectAnew given? keywords behaviour pause) := by
  unfold connectAnew
  generalize keywords.partition _ = parts
  obtain ⟨said, rest⟩ := parts
  refine oblivious_look (fun s => ?_) fun _ _ _ => rfl
  cases Session.configure s.environment shortcutName given? rest with
  | error e => exact oblivious_throw _
  | ok c =>
    exact oblivious_look (fun _ => Oblivious.bind (oblivious_modify fun _ _ _ => rfl) fun _ =>
      (oblivious_connectClient hpause).bind fun _ => oblivious_modify fun _ _ _ => rfl)
      fun _ _ _ => rfl

theorem oblivious_report (i : Nat) (state : String) (forced : Bool) :
    Oblivious (report i state forced) :=
  oblivious_look (fun _ => (oblivious_deliver i state).ite (oblivious_pure ())) fun _ _ _ => rfl

theorem oblivious_currentLink (wanted : String) : Oblivious (currentLink wanted) := by
  refine oblivious_look (fun s => oblivious_look (fun s' => ?_) fun _ _ _ => rfl) fun _ _ _ => rfl
  cases (s.manager s'.active).current? with
  | none => exact oblivious_throw _
  | some i => exact oblivious_pure i

theorem oblivious_beginCall (name : String) : Oblivious (beginCall name) :=
  (oblivious_currentLink _).bind fun i => (oblivious_enter i).bind fun _ =>
    Oblivious.bind (oblivious_modify fun _ _ _ => rfl) fun _ => oblivious_pure _

theorem oblivious_endCall (name : String) : Oblivious (endCall name) := by
  refine oblivious_look (fun s => ?_) fun _ _ _ => rfl
  cases s.openCalls.find? fun c => c.1 == name with
  | none => exact oblivious_raise _
  | some call =>
    exact Oblivious.bind (oblivious_modify fun _ _ _ => rfl) fun _ =>
      (oblivious_leave call.2.link).ite (oblivious_pure ())

theorem oblivious_keepDispatcher (name : String) : Oblivious (keepDispatcher name) :=
  oblivious_look (fun _ => oblivious_look (fun _ =>
    Oblivious.bind (oblivious_modify fun _ _ _ => rfl) fun _ => oblivious_pure _)
      fun _ _ _ => rfl) fun _ _ _ => rfl

theorem oblivious_keptDispatcher (name : String) : Oblivious (keptDispatcher name) := by
  refine oblivious_look (fun s => ?_) fun _ _ _ => rfl
  cases s.keptDispatchers.find? fun d => d.1 == name with
  | none => exact oblivious_raise _
  | some d => exact oblivious_pure d.2

theorem oblivious_restoreDispatcher (name : String) : Oblivious (restoreDispatcher name) :=
  (oblivious_keptDispatcher name).bind fun _ =>
    oblivious_look (fun _ => oblivious_changeManager _ _) fun _ _ _ => rfl

theorem oblivious_normalRequest (name : String) (request : Wire.Octets) :
    Oblivious (normalRequest name request) := by
  unfold normalRequest
  cases Wire.Method.ofName? name with
  | none => exact oblivious_raise _
  | some method =>
    cases hd : method.request.decode? request with
    | none => simpa only [hd] using oblivious_throw _
    | some message => simpa only [hd] using oblivious_pure _

theorem oblivious_dispatchByHand {name requestName : String} {request : Wire.Octets}
    {kept? : Option String} {response : Response} {during : Run Unit} (hd : Oblivious during) :
    Oblivious (dispatchByHand name requestName request kept? response during) := by
  have hrequest : Oblivious (normalRequest requestName request) := oblivious_normalRequest _ _
  unfold dispatchByHand
  cases kept? with
  | none =>
    refine oblivious_look (fun s => oblivious_look (fun s' => ?_) fun _ _ _ => rfl) fun _ _ _ => rfl
    cases (s.manager s'.active).dispatcher? with
    | none => exact hrequest.bind fun _ => oblivious_throw _
    | some link =>
      exact hrequest.bind fun _ => (oblivious_dispatch hd).bind fun _ => oblivious_pure _
  | some kept =>
    refine (oblivious_keptDispatcher kept).bind fun dispatcher? => ?_
    cases dispatcher? with
    | none => exact hrequest.bind fun _ => oblivious_throw _
    | some link =>
      exact hrequest.bind fun _ => (oblivious_dispatch hd).bind fun _ => oblivious_pure _

theorem oblivious_leaveBlock {m : Nat} {waiting : List (Run Unit)}
    (hw : ∀ x ∈ waiting, Oblivious x) : Oblivious (leaveBlock m waiting) :=
  oblivious_look (fun _ => ((oblivious_disconnect hw).bind fun _ => oblivious_pure _).ite
    (oblivious_pure ())) fun _ _ _ => rfl

end Run

/-! ## Steps -/

namespace Step

open Run

/-- What is written down around an activity holds the scene of the moment, and no more. -/
theorem oblivious_writtenDown {step : Step} {activity : Run Answer} (ha : Oblivious activity) :
    Oblivious (step.writtenDown activity) := by
  unfold writtenDown
  refine Oblivious.ite (ha.bind fun _ => oblivious_pure _) ?_
  exact oblivious_look (fun _ => (oblivious_record _).bind fun _ => ha.attempt.bind fun _ =>
    oblivious_look (fun _ => oblivious_record _) fun _ _ _ => rfl) fun _ _ _ => rfl

-- a step holds the steps that take place inside it, so all four go by recursion together
mutual

/-- **No step reads the history.** -/
theorem oblivious_perform : ∀ step : Step, Oblivious (perform step)
  | .connect said behaviour pauses => by
    rw [perform]
    exact oblivious_look (fun _ =>
      (oblivious_connectClient (oblivious_runPauses pauses)).bind fun _ => oblivious_pure _)
      fun _ _ _ => rfl
  | .connectTo args behaviour pauses => by
    unfold perform
    cases Endpoint.check args with
    | error issues => exact oblivious_throw _
    | ok e =>
      exact oblivious_look (fun _ =>
        (oblivious_connect (oblivious_runPauses pauses)).bind fun _ => oblivious_pure _)
        fun _ _ _ => rfl
  | .connectManager host port timeout behaviour pauses => by
    rw [perform]
    exact oblivious_look (fun _ =>
      (oblivious_connect (oblivious_runPauses pauses)).bind fun _ => oblivious_pure _)
      fun _ _ _ => rfl
  | .connectAnew given? keywords behaviour pauses => by
    rw [perform]
    exact (oblivious_connectAnew (oblivious_runPauses pauses)).bind fun _ => oblivious_pure _
  | .disconnect waiting => by
    rw [perform]
    exact oblivious_look (fun _ =>
      (oblivious_disconnect (oblivious_runEach waiting)).bind fun _ => oblivious_pure _)
      fun _ _ _ => rfl
  | .block body waiting => by
    rw [perform]
    exact oblivious_look (fun _ => ((oblivious_runAll body).andFinally
      (oblivious_leaveBlock (oblivious_runEach waiting))).bind fun _ => oblivious_pure _)
      fun _ _ _ => rfl
  | .operate op response during => by
    cases op with
    | error issues => rw [perform]; exact oblivious_throw _
    | ok op =>
      rw [perform]
      exact oblivious_look (fun _ =>
        (oblivious_operate (oblivious_runAll during)).bind fun _ => oblivious_pure _)
        fun _ _ _ => rfl
  | .notify link report forced => by
    rw [perform]
    exact (oblivious_report link report forced).bind fun _ => oblivious_pure _
  | .beginCall name => by
    rw [perform]
    exact (oblivious_beginCall name).bind fun _ => oblivious_pure _
  | .endCall name => by
    rw [perform]
    exact (oblivious_endCall name).bind fun _ => oblivious_pure _
  | .keepDispatcher name => by
    rw [perform]
    exact (oblivious_keepDispatcher name).bind fun _ => oblivious_pure _
  | .restoreDispatcher name => by
    rw [perform]
    exact (oblivious_restoreDispatcher name).bind fun _ => oblivious_pure _
  | .dispatch name requestName request kept? response during => by
    rw [perform]
    exact oblivious_dispatchByHand (oblivious_runAll during)
  | .shutDown => by
    rw [perform]
    exact (oblivious_currentLink _).bind fun link =>
      (oblivious_shutDown link).bind fun _ => oblivious_pure _
  | .awaitTermination timeout waiting => by
    rw [perform]
    exact (oblivious_currentLink _).bind fun _ =>
      (oblivious_awaitTermination (oblivious_runEach waiting)).bind fun _ => oblivious_pure _
  | .options link => by
    rw [perform]
    exact oblivious_look (fun _ => oblivious_pure _) fun _ _ _ => rfl
  | .logLevel => by
    rw [perform]
    exact oblivious_look (fun _ => oblivious_pure _) fun _ _ _ => rfl
  | .observe => by
    rw [perform]
    exact oblivious_pure _
  | .interrupt text => by
    rw [perform]
    exact oblivious_raise _

/-- Nor do steps one after another. -/
theorem oblivious_runAll : ∀ steps : List Step, Oblivious (runAll steps)
  | [] => by
    rw [runAll]
    exact oblivious_pure ()
  | step :: steps => by
    rw [runAll]
    exact (oblivious_writtenDown (oblivious_perform step)).bind fun _ => oblivious_runAll steps

theorem oblivious_runEach : ∀ steps : List Step, ∀ x ∈ runEach steps, Oblivious x
  | [] => by simp [runEach]
  | step :: steps => by
    rw [runEach, List.forall_mem_cons]
    exact ⟨oblivious_writtenDown (oblivious_perform step), oblivious_runEach steps⟩

theorem oblivious_runPauses :
    ∀ (pauses : List (Nat × List Step)) (k : Nat), Oblivious (runPauses pauses k)
  | [], k => by
    rw [runPauses]
    exact oblivious_pure ()
  | (n, steps) :: pauses, k => by
    rw [runPauses]
    exact (oblivious_runAll steps).ite (oblivious_runPauses pauses k)

end

end Step

end VectorLink
