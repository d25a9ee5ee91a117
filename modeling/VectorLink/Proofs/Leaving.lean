import VectorLink.Proofs.Acceptance
import VectorLink.Proofs.Counting

/-!
# What an answer is lost to

A call has its answer before it leaves its handle. Leaving is a matter of the handle, and one would
expect the answer to survive it. It does, except in one case: the handle was shut down while the
call was in progress, no other call is left, and the channel raises when it is told to close. Then
the call ends with what the channel raised, and its answer is gone (`Session.Reached.answers`).

The calls in flight are counted right in that case too, since a call is counted no more before its
channel is closed. But the handle has not closed its channel, and there is no call left that would.
-/

namespace VectorLink

/-- **What the last call runs into** when it leaves a link: the exception that the channel raises,
if the handle was shut down and has not closed the channel yet, and no other call is running. -/
def Scene.closingFailure? (s : Scene) (i : Nat) : Option Raised :=
  s.links[i]?.bind fun l => l.handle?.bind fun h =>
    if h.isShutdown && h.inFlight = 1 && !h.isTerminated then l.behaviour.closingRaises? else none

namespace Run

open Session

variable {s : Session} {i m : Nat}

/-- **A call leaves without a failure, unless it runs into one.** -/
theorem leave_fst (hrunning : s.running i ≠ 0) :
    (leave i s).1 = match s.closingFailure? i with
      | some r => .error (.raised r)
      | none => .ok () := by
  obtain ⟨h, hi⟩ : ∃ h, s.handle? i = some h := by
    cases hi : s.handle? i with
    | none => rw [Scene.running, hi] at hrunning; exact absurd rfl hrunning
    | some h => exact ⟨h, rfl⟩
  obtain ⟨l, hl, hh⟩ := handle?_eq_some.mp hi
  have hsome : h.inFlight ≠ 0 := by rwa [Scene.running, hi] at hrunning
  have hlink : (s.leaveCall i).links[i]? = some (l.onHandle Handle.leave) := by
    rw [leaveCall, links_changeLink, if_pos rfl, push_toScene, hl, Option.map_some]
  have hhandle : (l.onHandle Handle.leave).handle? = some h.leave := by
    rw [Link.onHandle, hh, Option.map_some]
  have hfailure : s.closingFailure? i
      = if h.isShutdown && h.inFlight = 1 && !h.isTerminated then l.behaviour.closingRaises?
        else none := by
    rw [Scene.closingFailure?, hl, Option.bind_some, hh, Option.bind_some]
  have hdrained : (s.leaveCall i).drained i = (h.isShutdown && h.inFlight = 1) := by
    rw [Scene.drained, Scene.handle?, hlink, Option.bind_some, hhandle, Option.any_some,
      Handle.isDrained]
    show (h.isShutdown && decide (h.inFlight - 1 = 0)) = _
    congr 2
    exact propext ⟨fun h0 => by omega, fun h1 => by omega⟩
  have hbehaviour : (l.onHandle Handle.leave).behaviour = l.behaviour := rfl
  rw [leave_run, hfailure, hdrained]
  cases h.isShutdown && decide (h.inFlight = 1) with
  | false => rfl
  | true =>
    rw [if_pos rfl, close_run hlink hhandle, hbehaviour]
    show (if h.isTerminated then _ else _ : Except Failure Unit × Session).1 = _
    cases h.isTerminated with
    | true => rfl
    | false => cases l.behaviour.closingRaises? <;> rfl

/-- Calls held open by hand are no matter of the calls that leave. -/
theorem openCalls_leave (i : Nat) (s : Session) : (leave i s).2.openCalls = s.openCalls := by
  rw [leave_run]
  split
  · cases hi : (s.leaveCall i).handle? i with
    | none =>
      rw [close_run_none hi]
      rfl
    | some h =>
      obtain ⟨l, hl, hh⟩ := handle?_eq_some.mp hi
      rw [close_run hl hh]
      split
      · rfl
      · cases l.behaviour.closingRaises? with
        | some r => rfl
        | none =>
          dsimp only
          rw [noted_toScene]
          rfl
  · rfl

variable {method : Wire.Method} {request : Wire.Octets} {response : Response} {steps : List Step}

/-- **While a request is under way** its call is counted, whatever takes place meanwhile. -/
theorem tallied_underWay {f : Nat → Nat} (hs : s.Valid) (hf : s.Tallied f)
    (hadm : s.admits i = true) (path : String) (request : Wire.Octets) (steps : List Step) :
    (Step.runAll steps ((s.enterCall i).push (.called i path request))).2.Tallied
      (oneMore i f) := by
  have hcalled : s.Evolves ((s.enterCall i).push (.called i path request)) :=
    (evolves_enterCall s i).trans (evolves_push _ _)
  exact (Step.keeps_runAll keepsCount_respects steps (Step.allWithin_true steps) _
    (hcalled.valid hs)).tallied _ ((hf.enterCall hadm).push_aside rfl)

/-- **A call on an open channel** comes to what it runs into when it leaves, and else to the outcome
of its answer. -/
theorem dispatch_leaving (hadm : s.admits i = true) (hopen : s.isOpen i = true)
    (hsteps : ∀ step ∈ steps, step.isInterrupt = false) {t : Session}
    (ht : t = (Step.runAll steps ((s.enterCall i).push (.called i method.path request))).2)
    (hrunning : t.running i ≠ 0) :
    dispatch i method.name request (Step.runAll steps) response s
      = (match t.closingFailure? i with
        | some r => .error (.raised r)
        | none => response.outcome method, (leave i t).2) := by
  have hrun : invoke i method request (Step.runAll steps) response (s.enterCall i)
      = (response.outcome method, t) := by
    rw [invoke_run_open ((isOpen_enterCall s i).trans hopen),
      bind_run_ok (Prod.ext (Step.runAll_ok hsteps _) rfl), ht]
    rfl
  have hleave := leave_fst hrunning
  rw [dispatch_run_admitted hadm, track_run, if_pos hadm, andFinally_run, hrun]
  dsimp only
  cases hend : leave i t with
  | mk r s' =>
    rw [hend] at hleave
    cases hfailure : t.closingFailure? i with
    | none =>
      rw [hfailure] at hleave
      cases hleave
      rfl
    | some e =>
      rw [hfailure] at hleave
      cases hleave
      rfl

/-- **An operation whose request reaches the server** comes to what its call runs into when it
leaves, and else to what its answer means. -/
theorem operate_leaving {m : Nat} {op : Operation} {message : Wire.Message} (response : Response)
    (hroute : s.route? m = some i) (hopen : s.isOpen i = true) (hreq : op.request = .ok message)
    (hsteps : ∀ step ∈ steps, step.isInterrupt = false) {t : Session}
    (ht : t = (Step.runAll steps ((s.enterCall i).push
      (.called i op.method.path (op.method.request.encode message)))).2)
    (hrunning : t.running i ≠ 0) :
    (operate m op (Step.runAll steps) response s).1
        = (match t.closingFailure? i with
          | some r => .error (.raised r)
          | none => (response.outcome op.method).map op.interpret) ∧
      ∀ {R : Session → Session → Prop} [Lasting R],
        R (leave i t).2 (operate m op (Step.runAll steps) response s).2 := by
  obtain ⟨hcon, hdisp, hadm⟩ := Scene.route?_eq_some.mp hroute
  rw [operate_run_bound hcon hreq hdisp, bind_run,
    dispatch_leaving hadm hopen hsteps ht hrunning]
  cases t.closingFailure? i with
  | some r => exact ⟨rfl, Lasting.refl _⟩
  | none =>
    cases response.outcome op.method with
    | error e => exact ⟨rfl, Lasting.refl _⟩
    | ok outcome =>
      -- nothing is done with an outcome but to note and to read it
      have hend : ∀ {R : Session → Session → Prop} [Lasting R],
          R (leave i t).2 (conclude op outcome (leave i t).2).2 := fun {R} _ => by
        rw [conclude_run]
        exact related_noted _ _ _ _
      refine ⟨?_, hend⟩
      show (conclude op outcome (leave i t).2).1 = _
      rw [conclude_run]
      rfl

end Run

namespace Session

variable {s : Session} {m i : Nat} {op : Operation} {message : Wire.Message}

/-- **An answer that arrived is lost only to a failing close.** Let a request reach the server, let
anything take place meanwhile, and let `t` be the session when the call is about to leave. The
operation comes to what its answer means, unless the handle was shut down, no other call runs on it,
and its channel raises when it is told to close; then the operation ends with what the channel
raised. In either case the call is counted no more, and every link counts as many calls as entered
it and have not left. -/
theorem Reached.answers {p : Step → Bool} (hs : s.Reached p) (hroute : s.route? m = some i)
    (hopen : s.isOpen i = true) (hreq : op.request = .ok message) (response : Response)
    {steps : List Step} (hsteps : ∀ step ∈ steps, step.isInterrupt = false) :
    let t := (Step.runAll steps ((s.enterCall i).push
      (.called i op.method.path (op.method.request.encode message)))).2
    let x := Run.operate m op (Step.runAll steps) response s
    x.1 = (match t.closingFailure? i with
      | some r => .error (.raised r)
      | none => (response.outcome op.method).map op.interpret) ∧
    (∀ j, entries j x.2.history = exits j x.2.history + x.2.running j) ∧
    t.running i = x.2.running i + 1 := by
  intro t x
  obtain ⟨hcon, hdisp, hadm⟩ := Scene.route?_eq_some.mp hroute
  obtain ⟨f, hf⟩ := hs.tallied
  have ht : t.Tallied (oneMore i f) := Run.tallied_underWay hs.valid hf hadm _ _ steps
  have hrunning : t.running i = t.heldOn i + (f i + 1) := by
    rw [ht.now.running, oneMore, if_pos rfl]
  have hv : t.Valid := (Run.evolves_underWay hs.valid i _ _ steps).valid hs.valid
  obtain ⟨hanswer, hend⟩ := Run.operate_leaving response hroute hopen hreq hsteps
    (t := t) rfl (by omega)
  have hleft : (Run.leave i t).2.Tallied f := Run.tallied_leave hv ht
  have hx : x.2.Tallied f := (hend (R := Run.KeepsCount)).tallied f hleft
  refine ⟨hanswer, hx.now.balance, ?_⟩
  have hscene : x.2.toScene = (Run.leave i t).2.toScene := (hend (R := OnlyNoted)).scene
  rw [hx.now.running, hrunning, heldOn, heldOn, congrArg Scene.openCalls hscene,
    Run.openCalls_leave, Nat.add_assoc]

/-- A client whose channel raises when it is told to close. -/
def brittleSteps : List Step :=
  [.connect [] ⟨some "READY", none, none, none, some ⟨"RuntimeError", "boom"⟩⟩ []]

/-- The reply of a server that has a table. -/
def presentReply : Response := .octets [0x10, 0x01]

/-- The client disconnects while it asks for a table, and does not get to know that the server has
it. -/
theorem answers_lost :
    let s := (withClient .bare .standard).after brittleSteps
    let x := Run.operate 0 (.hasTable "t") (Step.runAll [.disconnect []]) presentReply s
    (presentReply.outcome .hasTable).map (Operation.hasTable "t").interpret
        = .ok (.succeeded (.presence true)) ∧
      x.1 = .error (.raised ⟨"RuntimeError", "boom"⟩) ∧
      ∀ j, entries j x.2.history = exits j x.2.history + x.2.running j := by
  have hreached : ((withClient .bare .standard).after brittleSteps).Reached fun _ => true :=
    ⟨_, brittleSteps, ⟨.bare, .standard, .inl rfl⟩, by decide, List.mem_cons_self⟩
  have hroute : ((withClient .bare .standard).after brittleSteps).route? 0 = some 0 := by
    decide +kernel
  have hreq : (Operation.hasTable "t").request = .ok (Operation.textRequest "t") := rfl
  have hsteps : ∀ step ∈ [Step.disconnect []], step.isInterrupt = false := by decide
  obtain ⟨hanswer, hcount, -⟩ :=
    hreached.answers hroute (by decide +kernel) hreq presentReply hsteps
  exact ⟨by rfl, hanswer, hcount⟩

end Session

end VectorLink
