import VectorLink.Proofs.Acceptance
import VectorLink.Proofs.Binding
import VectorLink.Proofs.Oblivion

/-!
# What an operation leaves behind

While the request of an operation is under way anything may happen to its client: other operations,
a disconnect, even a connection to somewhere else, so that the link on which the call runs is no
longer in use when its answer comes. None of it concerns the answer, and the operation adds nothing
to it but its own entering and leaving.

The first is a matter of what the operation still looks at after its request, which is nothing but
the answer (`Run.dispatch_fst`). For the second the operation is compared with a tracked call in
which the same steps take place and nothing is asked (`Run.operate_scene`). The two runs do not
write down the same, since only one of them sends a request and notes what came of it, and it is
here that one needs to know that no step reads the history (`Step.oblivious_runAll`).

A call that nothing interferes with leaves everything as it was, since entering and leaving cancel
out (`Session.leaveCall_enterCall`) and a handle that is not shut down is not closed.
-/

namespace VectorLink

/-! ## Entering and leaving -/

theorem Handle.leave_enter (h : Handle) : h.enter.leave = h := rfl

/-- A handle that admits calls is not drained. -/
theorem Scene.not_drained_of_admits {s : Scene} {i : Nat} (hadm : s.admits i = true) :
    s.drained i = false := by
  obtain ⟨h, hi, hshut⟩ := Scene.admits_iff.mp hadm
  rw [Scene.drained, hi, Option.any_some, Handle.isDrained, hshut, Bool.false_and]

namespace Session

/-- **Entering and leaving cancel out** if the scene is the same in between. -/
theorem leaveCall_enterCall {s t : Session} {i : Nat} (h : t.toScene = (s.enterCall i).toScene) :
    (t.leaveCall i).toScene = s.toScene := by
  obtain ⟨c, history⟩ := t
  obtain rfl : c = (s.enterCall i).toScene := h
  have hcancel : Link.onHandle Handle.leave ∘ Link.onHandle Handle.enter = id := by
    funext l
    simp only [Function.comp_apply, Link.onHandle, Option.map_map]
    rw [show Handle.leave ∘ Handle.enter = id from funext Handle.leave_enter, Option.map_id]
    rfl
  have hlinks : (s.links.modify i (Link.onHandle Handle.enter)).modify i
      (Link.onHandle Handle.leave) = s.links := by
    rw [List.modify_modify_eq, hcancel, List.modify_id]
  exact congrArg (fun links => { s.toScene with links := links }) hlinks

end Session

namespace Run

open Session

variable {α β : Type} {s : Session} {i m : Nat}

/-- **A tracked call leaves everything as it was** if what takes place inside it does. -/
theorem onlyNoted_track {body : Bool → Run α}
    (hbody : ∀ admitted, Keeps OnlyNoted (body admitted)) : Keeps OnlyNoted (track i body) := by
  intro s hs
  rw [track_run]
  cases hadm : s.admits i with
  | false => exact hbody false s hs
  | true =>
    have henter := evolves_enterCall s i
    have hin := hbody true (s.enterCall i) (henter.valid hs)
    have hev := henter.trans hin.evolves
    have hscene := leaveCall_enterCall hin.scene
    rw [if_pos rfl, andFinally_snd]
    refine ⟨hev.trans (evolves_indifferent.leave i _ (hev.valid hs)), ?_⟩
    -- the handle admitted the call and does so still, so leaving it closes nothing
    rw [leave_run, hscene, Scene.not_drained_of_admits hadm]
    exact hscene

/-- **An operation leaves everything as it was** if what takes place meanwhile does, whatever comes
of it. -/
theorem onlyNoted_operate {op : Operation} {during : Run Unit} {response : Response}
    (hd : Keeps OnlyNoted during) : Keeps OnlyNoted (operate m op during response) :=
  keeps_operate fun _ _ _ => keeps_dispatch (fun _ hbody => onlyNoted_track hbody)
    (fun s _ _ => ⟨evolves_push s _, rfl⟩) hd

/-- Interrupts take place at once, and nothing after them. -/
theorem onlyNoted_interrupts {steps : List Step}
    (hsteps : ∀ step ∈ steps, step.isInterrupt = true) :
    Keeps OnlyNoted (Step.runAll steps) := by
  cases steps with
  | nil =>
    rw [Step.runAll]
    exact keeps_pure ()
  | cons step steps =>
    have hstep := hsteps step List.mem_cons_self
    cases step with
    | interrupt text => exact fun s _ => Lasting.refl s
    | _ => cases hstep

/-! ## A request on its way -/

/-- **Tracked calls leave the same scene** if what takes place inside them does. -/
theorem track_scene_congr {x : Bool → Run α} {y : Bool → Run β} (hadm : s.admits i = true)
    (h : (x true (s.enterCall i)).2.toScene = (y true (s.enterCall i)).2.toScene) :
    (track i x s).2.toScene = (track i y s).2.toScene := by
  rw [track_run, track_run, if_pos hadm, if_pos hadm, andFinally_snd, andFinally_snd]
  exact ((oblivious_leave i).alike h).2

/-- An answer that is passed on leaves the session as it is. -/
theorem bind_resume_snd (x : Run Unit) (r : Except Failure α) (s : Session) :
    ((x >>= fun _ => resume r) s).2 = (x s).2 := by
  rw [bind_run]
  obtain ⟨r', s'⟩ := x s
  cases r' <;> rfl

variable {during : Run Unit} {response : Response}

/-- **A request leaves behind what takes place while it is under way.** -/
theorem invoke_scene {method : Wire.Method} {request : Wire.Octets} (hopen : s.isOpen i = true)
    (hd : Oblivious during) :
    (invoke i method request during response s).2.toScene = (during s).2.toScene := by
  rw [invoke_run_open hopen, bind_resume_snd]
  exact (hd.alike (s.push_toScene _)).2

variable {op : Operation} {message : Wire.Message}

/-- **An operation leaves behind what a tracked call leaves** in which the same takes place. -/
theorem operate_scene (hroute : s.route? m = some i) (hopen : s.isOpen i = true)
    (hreq : op.request = .ok message) (hd : Oblivious during) :
    (operate m op during response s).2.toScene = (track i (fun _ => during) s).2.toScene := by
  obtain ⟨hcon, hdisp, hadm⟩ := Scene.route?_eq_some.mp hroute
  have hcall : (dispatch i op.method.name (op.method.request.encode message) during
      response s).2.toScene = (track i (fun _ => during) s).2.toScene := by
    rw [dispatch_run_admitted hadm]
    exact track_scene_congr hadm (invoke_scene ((isOpen_enterCall s i).trans hopen) hd)
  rw [operate_run_bound hcon hreq hdisp, ← hcall, bind_run]
  -- what is left to do is to note what came of the call
  obtain ⟨r, s'⟩ := dispatch i op.method.name (op.method.request.encode message) during response s
  cases r with
  | error e => rfl
  | ok outcome =>
    show (conclude op outcome s').2.toScene = s'.toScene
    rw [conclude_run, noted_toScene]

/-- **An operation answers what its response means**, whatever takes place meanwhile. -/
theorem operate_fst {steps : List Step} (hs : s.Valid) (hroute : s.route? m = some i)
    (hopen : s.isOpen i = true) (hreq : op.request = .ok message)
    (hsteps : ∀ step ∈ steps, step.isInterrupt = false)
    (hquiet : ∀ l, s.links[i]? = some l → l.behaviour.closingRaises? = none) :
    (operate m op (Step.runAll steps) response s).1
      = (response.outcome op.method).map op.interpret := by
  obtain ⟨hcon, hdisp, hadm⟩ := Scene.route?_eq_some.mp hroute
  obtain ⟨h, hi, -⟩ := Scene.admits_iff.mp hadm
  obtain ⟨l, hl, -⟩ := handle?_eq_some.mp hi
  have hcall : (dispatch i op.method.name (op.method.request.encode message)
      (Step.runAll steps) response s).1 = response.outcome op.method :=
    dispatch_fst hadm hopen hsteps
      (leave_ok_of_evolves hl (hquiet l hl) (evolves_underWay hs i _ _ steps))
  rw [operate_run_bound hcon hreq hdisp, bind_run, ← hcall]
  obtain ⟨r, s'⟩ :=
    dispatch i op.method.name (op.method.request.encode message) (Step.runAll steps) response s
  cases r with
  | error e => rfl
  | ok outcome =>
    show (conclude op outcome s').1 = .ok (op.interpret outcome)
    rw [conclude_run]

end Run

namespace Session

variable {s : Session}

/-- **An operation is a call that begins, what happens meanwhile, and a call that ends.** Whatever
steps take place while its request is under way, and whatever is answered or raised, the session
afterwards is as if a call had entered the link, the same steps had taken place, and the call had
left. If none of the steps is an interrupt and the channel closes without raising, then what the
operation returns or raises depends on the response alone, as if there had been no steps. And an
operation during which nothing takes place, or that is interrupted, leaves everything as it was,
also if it is refused. -/
theorem operates_as_tracked (hs : s.Reached fun step => !step.rebindsByHand) (m : Nat)
    (op : Operation) (response : Response) (steps : List Step) :
    let x := Run.operate m op (Step.runAll steps) response s
    (∀ (i : Nat) (message : Wire.Message), s.route? m = some i → op.request = .ok message →
      x.2.toScene = (Run.track i (fun _ => Step.runAll steps) s).2.toScene ∧
        ((∀ step ∈ steps, step.isInterrupt = false) →
          (∀ l, s.links[i]? = some l → l.behaviour.closingRaises? = none) →
            x.1 = (response.outcome op.method).map op.interpret ∧
              x.1 = (Run.operate m op (Step.runAll []) response s).1)) ∧
      ((∀ step ∈ steps, step.isInterrupt = true) → x.2.toScene = s.toScene) := by
  intro x
  refine ⟨fun i message hroute hreq => ?_, fun hsteps => ?_⟩
  · obtain ⟨hcon, hdisp, -⟩ := Scene.route?_eq_some.mp hroute
    obtain ⟨j, hcur, -, -, hopen⟩ := hs.open_of_connected hcon
    -- calls are bound to the link in use if to any
    obtain rfl : j = i := Option.some_inj.mp (hcur.symm.trans ((hs.wired.now m).dispatcher i hdisp))
    refine ⟨Run.operate_scene hroute hopen hreq (Step.oblivious_runAll steps),
      fun hsteps hquiet => ?_⟩
    have halone : (Run.operate m op (Step.runAll []) response s).1
        = (response.outcome op.method).map op.interpret :=
      Run.operate_fst hs.valid hroute hopen hreq (List.forall_mem_nil _) hquiet
    rw [halone, and_self]
    exact Run.operate_fst hs.valid hroute hopen hreq hsteps hquiet
  · exact (Run.onlyNoted_operate (Run.onlyNoted_interrupts hsteps) s hs.valid).scene

/-- The client parts from its server and connects to another one. -/
def renewalSteps : List Step :=
  [.operate (.ok .showTables) (.octets []) [], .disconnect [],
    .connectManager (.text "other") (.int 2) (.int 0) .smooth [], .beginCall "long",
    .notify 0 "IDLE" true]

/-- A call during which its link is replaced still raises what its response raises, and closes the
old channel when it leaves; the new one stays open. -/
theorem operates_as_tracked_renewed : let s := (withClient .bare .standard).after Run.promptSteps
    let x := Run.operate 0 (.dropTable "t") (Step.runAll renewalSteps)
      (.raises ⟨"KeyboardInterrupt", "stop"⟩) s
    x.1 = .error (.raised ⟨"KeyboardInterrupt", "stop"⟩) ∧
      x.2.toScene = (Run.track 0 (fun _ => Step.runAll renewalSteps) s).2.toScene ∧
      (x.2.manager 0).current? = some 1 ∧ x.2.links.map Link.isClosed = [true, false] := by
  have hreached : ((withClient .bare .standard).after Run.promptSteps).Reached
      fun step => !step.rebindsByHand :=
    ⟨_, Run.promptSteps, ⟨.bare, .standard, .inl rfl⟩, by decide, List.mem_cons_self⟩
  have hlink : ((withClient .bare .standard).after Run.promptSteps).links[0]?
      = some ⟨"host:1", Config.standard.channelOptions, .smooth, false, 0, 1,
        some ⟨"host:1", .ready, 0, false, false⟩⟩ := by decide +kernel
  obtain ⟨hcall, -⟩ := operates_as_tracked hreached 0 (.dropTable "t")
    (.raises ⟨"KeyboardInterrupt", "stop"⟩) renewalSteps
  obtain ⟨hscene, hanswer⟩ := hcall 0 _ (by decide +kernel) rfl
  obtain ⟨hraised, -⟩ := hanswer (by decide) fun l hl => by
    obtain rfl := Option.some_inj.mp (hlink.symm.trans hl)
    rfl
  exact ⟨hraised, hscene, by decide +kernel, by decide +kernel⟩

end Session

end VectorLink
