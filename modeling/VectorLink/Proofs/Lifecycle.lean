import VectorLink.Proofs.Runs

/-!
# What becomes of a link

For each event in the life of a link, what it makes of the session: a call that enters or leaves, a
shutdown, a report, a channel that closes or is told to in vain, and a new link. From these it
follows that sessions evolve along every run, whatever the steps are.
-/

namespace VectorLink

namespace Scene

/-- Whether a link has a handle that admits calls. -/
def admits (s : Scene) (i : Nat) : Bool := (s.handle? i).any Handle.admits

/-- Whether a link has a handle that was shut down. -/
def retired (s : Scene) (i : Nat) : Bool := (s.handle? i).any Handle.isShutdown

/-- Whether a link has a handle that is shut down and idle. -/
def drained (s : Scene) (i : Nat) : Bool := (s.handle? i).any Handle.isDrained

theorem admits_iff {s : Scene} {i : Nat} :
    s.admits i = true ↔ ∃ h, s.handle? i = some h ∧ h.isShutdown = false := by
  rw [admits, Option.any_eq_true]
  simp [Handle.admits]

theorem drained_iff {s : Scene} {i : Nat} :
    s.drained i = true ↔ ∃ h, s.handle? i = some h ∧ h.isShutdown = true ∧ h.inFlight = 0 := by
  rw [drained, Option.any_eq_true]
  simp [Handle.isDrained]

/-- **A manager is connected** when its link has a handle that is ready. -/
theorem isConnected_iff {s : Scene} {m : Nat} :
    s.isConnected m = true ↔ ∃ i h, (s.manager m).current? = some i ∧ s.handle? i = some h ∧
      h.state = .ready := by
  rw [isConnected, current?]
  cases (s.manager m).current? with
  | none => simp
  | some i => cases hi : s.handle? i <;> simp [hi]

end Scene

/-- A handle is ready when its channel said so last and neither shutting down nor closing came
since. -/
theorem Handle.state_eq_ready {h : Handle} :
    h.state = .ready ↔ h.isTerminated = false ∧ h.isShutdown = false ∧ h.reported = .ready := by
  unfold state
  cases h.isTerminated <;> cases h.isShutdown <;> simp

namespace Session

/-- A handle that was shut down stays so. -/
theorem Evolves.retired {s s' : Session} (hev : s.Evolves s') {i : Nat}
    (hi : s.retired i = true) : s'.retired i = true := by
  obtain ⟨h, hh, hshut⟩ := (Option.any_eq_true ..).mp hi
  obtain ⟨h', hh', he⟩ := hev.handle hh
  exact (Option.any_eq_true ..).mpr ⟨h', hh', he.shutdown hshut⟩

/-- A call has entered a link. -/
def enterCall (s : Session) (i : Nat) : Session :=
  (s.push (.entered i)).changeLink i (Link.onHandle Handle.enter)

/-- A call has left a link, whose channel stays as it is. -/
def leaveCall (s : Session) (i : Nat) : Session :=
  (s.push (.left i)).changeLink i (Link.onHandle Handle.leave)

/-- The handle of a link has been shut down. -/
def retire (s : Session) (i : Nat) : Session :=
  (s.push (.shutDown i)).changeLink i Link.shutDown

/-- The channel of a link has reported. -/
def hear (s : Session) (i : Nat) (report : String) : Session :=
  (s.push (.delivered i report)).changeLink i (Link.onHandle fun h => h.notify (.ofReport report))

/-- The channel of a link has closed. -/
def closeLink (s : Session) (i : Nat) : Session := (s.push (.closed i true)).changeLink i Link.close

/-- The channel of a link was told to close and raised. -/
def closeLinkInVain (s : Session) (i : Nat) : Session :=
  (s.push (.closed i false)).changeLink i Link.closeInVain

@[simp] theorem handle?_retire (s : Session) (i : Nat) :
    (s.retire i).handle? i = (s.handle? i).map Handle.shutDown := by
  rw [retire, handle?_changeLink, if_pos rfl, push_toScene, Scene.handle?]
  cases s.links[i]? with
  | none => rfl
  | some l => rfl

theorem evolves_enterCall (s : Session) (i : Nat) : s.Evolves (s.enterCall i) :=
  (evolves_push s _).trans
    (evolves_changeLink _ i fun l _ => Link.evolves_onHandle Handle.evolves_enter l)

theorem evolves_leaveCall (s : Session) (i : Nat) : s.Evolves (s.leaveCall i) :=
  (evolves_push s _).trans
    (evolves_changeLink _ i fun l _ => Link.evolves_onHandle Handle.evolves_leave l)

theorem evolves_retire (s : Session) (i : Nat) : s.Evolves (s.retire i) :=
  (evolves_push s _).trans (evolves_changeLink _ i fun l _ => l.evolves_shutDown)

theorem evolves_hear (s : Session) (i : Nat) (report : String) : s.Evolves (s.hear i report) :=
  (evolves_push s _).trans
    (evolves_changeLink _ i fun l _ => Link.evolves_onHandle (fun h => h.evolves_notify _) l)

theorem evolves_closeLink (s : Session) (i : Nat) : s.Evolves (s.closeLink i) :=
  (evolves_push s _).trans (evolves_changeLink _ i fun l _ => l.evolves_close)

theorem evolves_closeLinkInVain (s : Session) (i : Nat) : s.Evolves (s.closeLinkInVain i) :=
  (evolves_push s _).trans (evolves_changeLink _ i fun l _ => l.evolves_closeInVain)

end Session

namespace Run

/-! ## Running the events of a link -/

/-- A call enters unless the handle is shut down. -/
theorem enter_run (i : Nat) (s : Session) :
    enter i s = if s.admits i then (.ok true, s.enterCall i) else (.ok false, s) := by
  rw [enter, get_bind_run, Scene.admits]
  cases s.handle? i with
  | none => rfl
  | some h =>
    rw [Option.any_some]
    cases hadm : h.admits <;> simp only [hadm] <;> rfl

/-- A channel is closed unless that was done, and only a channel that does not raise counts as
closed. -/
theorem close_run {i : Nat} {s : Session} {l : Link} {h : Handle} (hl : s.links[i]? = some l)
    (hh : l.handle? = some h) :
    close i s = if h.isTerminated then (.ok (), s) else
      match l.behaviour.closingRaises? with
      | some r => (.error (.raised r), s.closeLinkInVain i)
      | none =>
        (.ok (), (s.closeLink i).noted .transport .debug
          ("Channel " ++ h.target ++ " closed")) := by
  rw [close, get_bind_run]
  simp only [hl, hh]
  cases h.isTerminated with
  | true => rfl
  | false => cases l.behaviour.closingRaises? <;> simp [Session.closeLink, Session.closeLinkInVain]

/-- Without a handle there is nothing to close. -/
theorem close_run_none {i : Nat} {s : Session} (hi : s.handle? i = none) :
    close i s = (.ok (), s) := by
  rw [close, get_bind_run]
  cases hl : s.links[i]? with
  | none => rfl
  | some l =>
    have hh : l.handle? = none := by simpa [Scene.handle?, hl] using hi
    simp [hh]

/-- A channel that raises nothing closes. -/
theorem close_ok {i : Nat} {s : Session}
    (hquiet : ∀ l, s.links[i]? = some l → l.behaviour.closingRaises? = none) :
    (close i s).1 = .ok () := by
  cases hi : s.handle? i with
  | none => rw [close_run_none hi]
  | some h =>
    obtain ⟨l, hl, hh⟩ := Session.handle?_eq_some.mp hi
    rw [close_run hl hh, hquiet l hl]
    split <;> rfl

/-- A call leaves, and the last one closes the channel of a handle that is shut down. -/
theorem leave_run (i : Nat) (s : Session) :
    leave i s = if (s.leaveCall i).drained i then close i (s.leaveCall i)
      else (.ok (), s.leaveCall i) := by
  rw [leave, record_bind_run, changeLink_bind_run, get_bind_run, Scene.drained]
  rw [show (s.push (.left i)).changeLink i (Link.onHandle Handle.leave) = s.leaveCall i from rfl]
  cases (s.leaveCall i).handle? i with
  | none => rfl
  | some h =>
    rw [Option.any_some]
    cases hd : h.isDrained <;> simp only [hd] <;> rfl

/-- A handle is shut down once. -/
theorem shutDown_run (i : Nat) (s : Session) :
    shutDown i s = if s.admits i then (.ok (), s.retire i) else (.ok (), s) := by
  rw [shutDown, get_bind_run, Scene.admits]
  cases s.handle? i with
  | none => rfl
  | some h =>
    rw [Option.any_some, Handle.admits]
    cases hs : h.isShutdown <;> simp only [hs] <;> rfl

/-- A report is delivered to the handle if there is one. -/
theorem deliver_run {i : Nat} {s : Session} {h : Handle} (hi : s.handle? i = some h)
    (report : String) :
    deliver i report s = (.ok (), if h.isShutdown then s.hear i report else
      (s.hear i report).noted .transport .debug ("Channel " ++ h.target ++ " is " ++ report)) := by
  rw [deliver, get_bind_run]
  simp only [hi]
  cases hs : h.isShutdown <;> simp [Session.hear]

theorem deliver_run_none {i : Nat} {s : Session} (hi : s.handle? i = none) (report : String) :
    deliver i report s = (.ok (), s) := by
  rw [deliver, get_bind_run]
  simp [hi]

/-- **A new link**: nothing if making the channel raises, a link without a handle if listening to it
raises, and else a link that is listened to and may have reported already. -/
theorem makeLink_run (target : String) (options : ChannelOptions) (behaviour : ChannelBehaviour)
    (s : Session) :
    makeLink target options behaviour s = match behaviour.makingRaises? with
      | some r => (.error (.raised r), s)
      | none => match behaviour.listeningRaises? with
        | some r => (.error (.raised r), s.addLink (.fresh target options behaviour))
        | none => match behaviour.initial? with
          | none => (.ok s.links.length, s.addLink (Link.fresh target options behaviour).listen)
          | some report => (.ok s.links.length,
              (deliver s.links.length report
                (s.addLink (Link.fresh target options behaviour).listen)).2) := by
  unfold makeLink
  cases behaviour.makingRaises? with
  | some r => rfl
  | none =>
    simp only [get_bind_run, modify_bind_run]
    cases behaviour.listeningRaises? with
    | some r => rfl
    | none =>
      simp only [changeLink_bind_run, Session.changeLink_addLink]
      cases behaviour.initial? with
      | none => rfl
      | some report =>
        have hd : deliver s.links.length report
              (s.addLink (Link.fresh target options behaviour).listen)
            = (.ok (), (deliver s.links.length report
              (s.addLink (Link.fresh target options behaviour).listen)).2) := by
          rw [deliver_run (h := Handle.fresh target)]
          rw [Session.handle?_eq_some]
          exact ⟨_, Session.links_addLink_length s _, rfl⟩
        exact bind_run_ok hd _

/-- **A tracked call**: what it does to a handle that admits it, and to one that does not. -/
theorem track_run {α : Type} (i : Nat) (body : Bool → Run α) (s : Session) :
    track i body s = if s.admits i then andFinally (body true) (leave i) (s.enterCall i)
      else body false s := by
  rw [track, bind_run, enter_run]
  cases s.admits i with
  | true => rfl
  | false =>
    show andFinally (body false) (pure ()) s = body false s
    rw [andFinally_run]
    rfl

/-! ## Relations that no link disturbs -/

/-- **A relation that calls and reports do not disturb.** A call enters only where it is admitted,
its leaving includes what follows from it, and only a handle hears reports. -/
structure Considerate (R : Session → Session → Prop) : Prop where
  enterCall : ∀ (s : Session) (i : Nat), s.admits i = true → R s (s.enterCall i)
  leave : ∀ i : Nat, Keeps R (leave i)
  hear : ∀ (s : Session) (i : Nat) (report : String), (s.handle? i).isSome = true →
    R s (s.hear i report)
  openCalls : ∀ (s : Session) (calls : List (String × OpenCall)), R s { s with openCalls := calls }

/-- **A relation that no activity on a link disturbs.** -/
structure Tending (R : Session → Session → Prop) : Prop extends Considerate R where
  shutDown : ∀ i : Nat, Keeps R (shutDown i)
  close : ∀ i : Nat, Keeps R (close i)
  makeLink : ∀ (target : String) (options : ChannelOptions) (behaviour : ChannelBehaviour),
    Keeps R (makeLink target options behaviour)

/-- **A relation that nothing disturbs that becomes of a link** once it was made. Only a handle
closes a channel. -/
structure Serene (R : Session → Session → Prop) : Prop where
  enterCall : ∀ (s : Session) (i : Nat), R s (s.enterCall i)
  leaveCall : ∀ (s : Session) (i : Nat), R s (s.leaveCall i)
  retire : ∀ (s : Session) (i : Nat), R s (s.retire i)
  hear : ∀ (s : Session) (i : Nat) (report : String), R s (s.hear i report)
  closeLink : ∀ (s : Session) (i : Nat), (s.handle? i).isSome = true → R s (s.closeLink i)
  closeLinkInVain : ∀ (s : Session) (i : Nat), R s (s.closeLinkInVain i)
  openCalls : ∀ (s : Session) (calls : List (String × OpenCall)), R s { s with openCalls := calls }

/-- **A relation that nothing in the life of a link disturbs**, its making included. -/
structure Indifferent (R : Session → Session → Prop) : Prop extends Serene R where
  addLink : ∀ (s : Session) (target : String) (options : ChannelOptions)
    (behaviour : ChannelBehaviour), R s (s.addLink (.fresh target options behaviour))
  addListened : ∀ (s : Session) (target : String) (options : ChannelOptions)
    (behaviour : ChannelBehaviour), R s (s.addLink (Link.fresh target options behaviour).listen)

theorem Considerate.mono {R S : Session → Session → Prop} (c : Considerate R)
    (hRS : ∀ {s s'}, R s s' → S s s') : Considerate S where
  enterCall s i hadm := hRS (c.enterCall s i hadm)
  leave i s hs := hRS (c.leave i s hs)
  hear s i report hi := hRS (c.hear s i report hi)
  openCalls s calls := hRS (c.openCalls s calls)

theorem Indifferent.mono {R S : Session → Session → Prop} (h : Indifferent R)
    (hRS : ∀ {s s'}, R s s' → S s s') : Indifferent S where
  enterCall s i := hRS (h.enterCall s i)
  leaveCall s i := hRS (h.leaveCall s i)
  retire s i := hRS (h.retire s i)
  hear s i report := hRS (h.hear s i report)
  closeLink s i hi := hRS (h.closeLink s i hi)
  closeLinkInVain s i := hRS (h.closeLinkInVain s i)
  addLink s target options behaviour := hRS (h.addLink s target options behaviour)
  addListened s target options behaviour := hRS (h.addListened s target options behaviour)
  openCalls s calls := hRS (h.openCalls s calls)

section Indifference

variable {R : Session → Session → Prop} [Lasting R]

/-- A call keeps the relation if tracking it and noting its request do, and what takes place while
it is in progress. -/
theorem keeps_dispatch {i : Nat} {name : String} {request : Wire.Octets} {during : Run Unit}
    {response : Response}
    (htrack : ∀ body : Bool → Run CallOutcome, (∀ admitted, Keeps R (body admitted)) →
      Keeps R (track i body))
    (hcalled : ∀ (s : Session) (path : String) (request : Wire.Octets),
      R s (s.push (.called i path request)))
    (hd : Keeps R during) : Keeps R (dispatch i name request during response) := by
  refine htrack _ fun admitted => (keeps_decline i name).ite ?_
  cases Wire.Method.ofName? name with
  | none => exact keeps_raise _
  | some method =>
    have hsend : Keeps R (send i method.path request) := by
      refine keeps_look fun s => (keeps_pure _).ite ?_
      exact Keeps.bind (fun s _ => hcalled s method.path request) fun _ => keeps_pure _
    exact hsend.bind fun _ => (keeps_pure _).ite (hd.bind fun _ => keeps_resume _)

/-- **A new link keeps the relation** if a link without a handle does, which is left where listening
raises, and one that is listened to and may report at once. -/
theorem keeps_makeLink {target : String} {options : ChannelOptions} {behaviour : ChannelBehaviour}
    (hbare : ∀ r, behaviour.listeningRaises? = some r →
      ∀ s : Session, R s (s.addLink (.fresh target options behaviour)))
    (hlistened : behaviour.listeningRaises? = none →
      ∀ s : Session, R s (s.addLink (Link.fresh target options behaviour).listen))
    (hdeliver : ∀ (i : Nat) (report : String), Keeps R (deliver i report)) :
    Keeps R (makeLink target options behaviour) := by
  intro s hs
  rw [makeLink_run]
  cases behaviour.makingRaises? with
  | some r => exact Lasting.refl s
  | none =>
    cases hlisten : behaviour.listeningRaises? with
    | some r => exact hbare r hlisten s
    | none =>
      have hadd := hlistened hlisten s
      cases behaviour.initial? with
      | none => exact hadd
      | some report =>
        exact Lasting.trans hadd (hdeliver _ report _ ((Lasting.evolves hadd).valid hs))

section Considerate

variable (c : Considerate R)

include c

theorem Considerate.enter (i : Nat) : Keeps R (enter i) := by
  intro s _
  rw [enter_run]
  split
  · next hadm => exact c.enterCall s i hadm
  · exact Lasting.refl s

theorem Considerate.deliver (i : Nat) (report : String) : Keeps R (deliver i report) := by
  intro s _
  cases hi : s.handle? i with
  | none =>
    rw [deliver_run_none hi]
    exact Lasting.refl s
  | some hd =>
    rw [deliver_run hi]
    have hheard := c.hear s i report (Option.isSome_of_eq_some hi)
    split
    · exact hheard
    · exact Lasting.trans hheard (related_noted _ _ _ _)

theorem Considerate.track {α : Type} {i : Nat} {body : Bool → Run α}
    (hbody : ∀ admitted, Keeps R (body admitted)) : Keeps R (track i body) :=
  (c.enter i).bind fun admitted =>
    (hbody admitted).andFinally ((c.leave i).ite (keeps_pure ()))

theorem Considerate.dispatch {i : Nat} {name : String} {request : Wire.Octets}
    {during : Run Unit} {response : Response}
    (hcalled : ∀ (s : Session) (path : String) (request : Wire.Octets),
      R s (s.push (.called i path request)))
    (hd : Keeps R during) : Keeps R (dispatch i name request during response) :=
  keeps_dispatch (fun _ => c.track) hcalled hd

theorem Considerate.beginCall (name : String) : Keeps R (beginCall name) :=
  (Step.keeps_currentLink _).bind fun link => (c.enter link).bind fun _ =>
    Keeps.bind (fun s _ => c.openCalls s _) fun _ => keeps_pure _

theorem Considerate.endCall (name : String) : Keeps R (endCall name) := by
  refine keeps_look fun s => ?_
  cases s.openCalls.find? fun c => c.1 == name with
  | none => exact keeps_raise _
  | some call =>
    exact Keeps.bind (fun s _ => c.openCalls s _) fun _ =>
      (c.leave call.2.link).ite (keeps_pure ())

end Considerate

section Serene

variable (h : Serene R)

include h

theorem Serene.close (i : Nat) : Keeps R (close i) := by
  intro s _
  cases hi : s.handle? i with
  | none =>
    rw [close_run_none hi]
    exact Lasting.refl s
  | some hd =>
    obtain ⟨l, hl, hh⟩ := Session.handle?_eq_some.mp hi
    rw [close_run hl hh]
    split
    · exact Lasting.refl s
    · cases l.behaviour.closingRaises? with
      | some r => exact h.closeLinkInVain s i
      | none =>
        have hclosed := h.closeLink s i (Option.isSome_of_eq_some hi)
        exact Lasting.trans hclosed (related_noted _ _ _ _)

theorem Serene.leave (i : Nat) : Keeps R (leave i) := by
  intro s hs
  have hleft : R s (s.leaveCall i) := h.leaveCall s i
  rw [leave_run]
  split
  · exact Lasting.trans hleft (h.close i _ ((Lasting.evolves hleft).valid hs))
  · exact hleft

/-- What nothing disturbs that becomes of a link, calls and reports do not disturb. -/
theorem Serene.considerate : Considerate R where
  enterCall s i _ := h.enterCall s i
  leave := h.leave
  hear s i report _ := h.hear s i report
  openCalls := h.openCalls

theorem Serene.shutDown (i : Nat) : Keeps R (shutDown i) := by
  intro s _
  rw [shutDown_run]
  split
  · exact h.retire s i
  · exact Lasting.refl s

/-- Nor does any activity on a link, if making one does not. -/
theorem Serene.tending (hmake : ∀ (target : String) (options : ChannelOptions)
    (behaviour : ChannelBehaviour), Keeps R (makeLink target options behaviour)) : Tending R :=
  { h.considerate with shutDown := h.shutDown, close := h.close, makeLink := hmake }

end Serene

theorem Indifferent.makeLink (h : Indifferent R) (target : String) (options : ChannelOptions)
    (behaviour : ChannelBehaviour) : Keeps R (makeLink target options behaviour) :=
  keeps_makeLink (fun _ _ s => h.addLink s target options behaviour)
    (fun _ s => h.addListened s target options behaviour) h.considerate.deliver

/-- What nothing in the life of a link disturbs, no activity on one disturbs. -/
theorem Indifferent.tending (h : Indifferent R) : Tending R := h.toSerene.tending h.makeLink

theorem Tending.awaitTermination (t : Tending R) {i : Nat} {timeout : Value}
    {during : List (Run Unit)} (hd : ∀ x ∈ during, Keeps R x) :
    Keeps R (awaitTermination i timeout during) := keeps_awaitTermination (t.close i) hd

end Indifference

/-! ## Relations that no manager disturbs -/

/-- **A relation to which managers do not matter**, but for their configurations, which nothing
changes. -/
structure Unmanaged (R : Session → Session → Prop) : Prop where
  changeManager : ∀ (s : Session) (m : Nat) (f : Manager → Manager),
    (∀ mgr, (f mgr).config = mgr.config) → R s (s.changeManager m f)
  installed : ∀ (s : Session) (m i : Nat), R s (s.push (.installed m i))
  bound : ∀ (s : Session) (m i : Nat), R s (s.push (.bound m i))
  addClient : ∀ (s : Session) (c : Config), R s ((s.setThreshold c).addManager c)
  activate : ∀ (s : Session) (m : Nat), m < s.managers.length → R s { s with active := m }
  kept : ∀ (s : Session) (kept : List (String × Option Nat)), R s { s with keptDispatchers := kept }

theorem Unmanaged.mono {R S : Session → Session → Prop} (u : Unmanaged R)
    (hRS : ∀ {s s'}, R s s' → S s s') : Unmanaged S where
  changeManager s m f hf := hRS (u.changeManager s m f hf)
  installed s m i := hRS (u.installed s m i)
  bound s m i := hRS (u.bound s m i)
  addClient s c := hRS (u.addClient s c)
  activate s m hm := hRS (u.activate s m hm)
  kept s kept := hRS (u.kept s kept)

section Unmanaged

variable {R : Session → Session → Prop} [Lasting R] (u : Unmanaged R)

include u

omit [Lasting R] in
theorem Unmanaged.keeps_changeManager (m : Nat) {f : Manager → Manager}
    (hf : ∀ mgr, (f mgr).config = mgr.config) : Keeps R (Run.changeManager m f) :=
  fun s _ => u.changeManager s m f hf

theorem Unmanaged.install (m i : Nat) : Keeps R (install m i) :=
  Keeps.bind (fun s _ => u.installed s m i) fun _ => u.keeps_changeManager m fun _ => rfl

omit [Lasting R] in
theorem Unmanaged.unbindCalls (m : Nat) : Keeps R (unbindCalls m) :=
  u.keeps_changeManager m fun _ => rfl

theorem Unmanaged.bindCalls (m i : Nat) : Keeps R (bindCalls m i) := by
  refine keeps_look fun s => ?_
  cases s.links[i]?.bind fun l => l.behaviour.bindingRaises? with
  | some r => exact keeps_raise r
  | none =>
    exact Keeps.bind (fun s _ => u.bound s m i) fun _ => u.keeps_changeManager m fun _ => rfl

theorem Unmanaged.exclusively {α : Type} {m : Nat} {x : Run α} (hx : Keeps R x) :
    Keeps R (exclusively m x) :=
  hx.exclusively fun s _ _ => u.changeManager s m _ fun _ => rfl

/-- Connecting keeps the relation if making a link and the pauses do. -/
theorem Unmanaged.establish {m : Nat} {host port timeout : Value} {behaviour : ChannelBehaviour}
    {pause : Nat → Run Unit}
    (hmake : ∀ (target : String) (options : ChannelOptions),
      Keeps R (makeLink target options behaviour))
    (hpause : ∀ k, Keeps R (pause k)) :
    Keeps R (establish m host port timeout behaviour pause) :=
  (keeps_chooseTarget m host port).bind fun target => keeps_look fun _ =>
    (keeps_setUp (hmake target _)).bind fun i => (u.install m i).bind fun _ =>
      (u.unbindCalls m).bind fun _ => (keeps_waitUntilReady hpause).bind fun _ =>
        (u.bindCalls m i).bind fun _ => keeps_pure _

theorem Unmanaged.connect {m : Nat} {host port timeout : Value} {behaviour : ChannelBehaviour}
    {pause : Nat → Run Unit}
    (hmake : ∀ (target : String) (options : ChannelOptions),
      Keeps R (makeLink target options behaviour))
    (hpause : ∀ k, Keeps R (pause k)) : Keeps R (connect m host port timeout behaviour pause) :=
  (u.exclusively (u.establish hmake hpause)).bind keeps_welcome

/-- Disconnecting keeps the relation if what is done under exclusion does. -/
theorem Unmanaged.disconnect {m : Nat} {during : List (Run Unit)}
    (hx : Keeps R (dismantle m during)) : Keeps R (disconnect m during) := by
  refine (u.exclusively hx).bind fun r => ?_
  cases r with
  | some r => exact keeps_pure r
  | none => exact keeps_outlasted m

theorem Unmanaged.dismantle (t : Tending R) {m : Nat} {during : List (Run Unit)}
    (hduring : ∀ x ∈ during, Keeps R x) : Keeps R (dismantle m during) := by
  refine keeps_look fun _ => Keeps.ite ((keeps_log _ _ _).bind fun _ => keeps_pure _) ?_
  exact keeps_look fun _ => keeps_look fun _ => (t.shutDown _).bind fun _ =>
    (u.unbindCalls m).bind fun _ => (t.awaitTermination hduring).bind fun _ =>
      Keeps.ite ((keeps_targetOf _).bind fun _ => (keeps_log _ _ _).bind fun _ => keeps_pure _)
        (keeps_pure _)

theorem Unmanaged.restoreDispatcher (name : String) : Keeps R (restoreDispatcher name) :=
  (Step.keeps_keptDispatcher name).bind fun _ => keeps_look fun _ =>
    u.keeps_changeManager _ fun _ => rfl

theorem Unmanaged.keepDispatcher (name : String) : Keeps R (keepDispatcher name) :=
  keeps_look fun _ => keeps_look fun _ => Keeps.bind (fun s _ => u.kept s _) fun _ => keeps_pure _

/-- **A relation that neither links nor managers disturb** is kept by every step. -/
theorem Unmanaged.respects (t : Tending R)
    (hcalled : ∀ (s : Session) (i : Nat) (path : String) (request : Wire.Octets),
      R s (s.push (.called i path request)))
    (hbracket : ∀ {s s' : Session} (answer : Except Failure Answer),
      R (s.push (.began s.toScene)) s' → R s (s'.push (.ended answer s'.toScene))) :
    Step.Respects (fun _ => true) R where
  bracketed := hbracket
  connect hpause s hs _ := u.connect (fun _ _ => t.makeLink _ _ _) hpause s hs
  disconnect hd s hs _ := u.disconnect (u.dismantle t hd) s hs
  dispatch {i} _ _ _ _ hd := t.dispatch (fun s => hcalled s i) hd
  deliver := t.deliver
  beginCall := t.beginCall
  endCall := t.endCall
  keepDispatcher := u.keepDispatcher
  addClient := u.addClient
  activate := u.activate
  restoreDispatcher name _ := u.restoreDispatcher name
  shutDown _ := t.shutDown
  awaitTermination _ _ _ _ _ hd := t.awaitTermination hd

end Unmanaged

end Run

/-! ## Sessions evolve -/

namespace Session

instance : Run.Lasting Evolves where
  refl := Evolves.refl
  trans := Evolves.trans
  evolves := id
  note s _ _ := evolves_push s _

theorem evolves_indifferent : Run.Indifferent Evolves where
  enterCall := evolves_enterCall
  leaveCall := evolves_leaveCall
  retire := evolves_retire
  hear := evolves_hear
  closeLink s i _ := evolves_closeLink s i
  closeLinkInVain := evolves_closeLinkInVain
  addLink s _ _ _ := evolves_addLink s _
  addListened s _ _ _ := evolves_addLink s _
  openCalls _ _ := .of_same rfl rfl rfl List.suffix_rfl

theorem evolves_unmanaged : Run.Unmanaged Evolves where
  changeManager s m f _ := evolves_changeManager s m f
  installed s _ _ := evolves_push s _
  bound s _ _ := evolves_push s _
  addClient s c := by
    refine ⟨List.suffix_rfl, ?_, fun hs => ?_, fun i l hl => ⟨l, hl, .refl l⟩⟩
    · simp [addManager, setThreshold]
    · have : s.active < s.managers.length + 1 := Nat.lt_succ_of_lt hs
      simpa [Valid, addManager, setThreshold] using this
  activate s m hm := ⟨List.suffix_rfl, le_rfl, fun _ => hm, fun i l hl => ⟨l, hl, .refl l⟩⟩
  kept _ _ := .of_same rfl rfl rfl List.suffix_rfl

end Session

/-- Whether an event belongs to the life of a link. -/
def Event.isOfLink : Event → Bool
  | .delivered _ _ | .entered _ | .left _ | .shutDown _ | .closed _ _ => true
  | _ => false

/-- Whether an event says what a manager uses. -/
def Event.isOfManager : Event → Bool
  | .installed _ _ | .bound _ _ => true
  | _ => false

/-- **What happens in the life of a link** writes down at most one event of it, and changes no
manager. -/
theorem Run.Indifferent.of_events {R : Session → Session → Prop}
    (hevent : ∀ {s s' : Session} {e : Event}, s.Evolves s' → e.isOfLink = true →
      s'.history = e :: s.history → s'.managers = s.managers → R s s')
    (hsilent : ∀ {s s' : Session}, s.Evolves s' → s'.history = s.history →
      s'.managers = s.managers → R s s') : Run.Indifferent R where
  enterCall s i := hevent (Session.evolves_indifferent.enterCall s i) rfl rfl rfl
  leaveCall s i := hevent (Session.evolves_indifferent.leaveCall s i) rfl rfl rfl
  retire s i := hevent (Session.evolves_indifferent.retire s i) rfl rfl rfl
  hear s i report := hevent (Session.evolves_indifferent.hear s i report) rfl rfl rfl
  closeLink s i _ := hevent (Session.evolves_closeLink s i) rfl rfl rfl
  closeLinkInVain s i := hevent (Session.evolves_indifferent.closeLinkInVain s i) rfl rfl rfl
  addLink s _ _ _ := hsilent (Session.evolves_addLink s _) rfl rfl
  addListened s _ _ _ := hsilent (Session.evolves_addLink s _) rfl rfl
  openCalls s calls := hsilent (Session.evolves_indifferent.openCalls s calls) rfl rfl

/-- **What managers do** writes down at most what they use, and changes no link and no call. -/
theorem Run.Unmanaged.of_events {R : Session → Session → Prop}
    (hevent : ∀ (s : Session) {e : Event}, e.isOfManager = true → R s (s.push e))
    (hsilent : ∀ {s s' : Session}, s.Evolves s' → s'.history = s.history → s'.links = s.links →
      s'.openCalls = s.openCalls → R s s') : Run.Unmanaged R where
  changeManager s m f _ := hsilent (Session.evolves_changeManager s m f) rfl rfl rfl
  installed s _ _ := hevent s rfl
  bound s _ _ := hevent s rfl
  addClient s c := hsilent (Session.evolves_unmanaged.addClient s c) rfl rfl rfl
  activate s m hm := hsilent (Session.evolves_unmanaged.activate s m hm) rfl rfl rfl
  kept s kept := hsilent (Session.evolves_unmanaged.kept s kept) rfl rfl rfl

namespace Session

end Session

end VectorLink
