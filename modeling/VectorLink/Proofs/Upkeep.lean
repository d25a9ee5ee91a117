import VectorLink.Proofs.Draining
import VectorLink.Proofs.Polling

/-!
# Handles and channels agree

What a handle says of itself and what its channel has been told are kept in different places, and a
channel may raise when it is told something. They agree nevertheless (`Link.Tidy`): a channel is
listened to once until its handle is shut down and then no more, it is closed if and only if its
handle is terminated, and a handle is terminated only when it is shut down and idle.

That a handle which is shut down and idle is also terminated holds of every channel that does not
raise when it is told to close, whatever the other channels do. So the books of a session
(`Session.Sound`), which are in order as long as nothing at all raises, are of no help here, and
each link is looked at by itself. As there, the link that is shut down or left at present may linger
for a moment.
-/

namespace VectorLink

/-! ## One link -/

/-- **A handle and its channel agree.** The link may linger between being drained and being
closed. -/
structure Link.Tidy (l : Link) (h : Handle) (lingers : Prop) : Prop where
  listeners : l.listeners = if h.isShutdown then 0 else 1
  ended : h.isTerminated = true → h.isShutdown = true ∧ h.inFlight = 0
  closed : l.isClosed = h.isTerminated
  drained : ¬ lingers → l.behaviour.closingRaises? = none → h.isShutdown = true →
    h.inFlight = 0 → h.isTerminated = true

namespace Link

variable {l : Link} {h : Handle} {lingers : Prop}

/-- A link may always be said to linger. -/
theorem Tidy.linger (ht : l.Tidy h lingers) {lingers' : Prop} (himp : lingers → lingers') :
    l.Tidy h lingers' := { ht with drained := fun hn => ht.drained (hn ∘ himp) }

/-- A link that is not drained, or closed already, or raises, does not linger. -/
theorem Tidy.settle (ht : l.Tidy h lingers)
    (hs : l.behaviour.closingRaises? = none → h.isShutdown = true → h.inFlight = 0 →
      h.isTerminated = true) {lingers' : Prop} : l.Tidy h lingers' :=
  { ht with drained := fun _ => hs }

theorem Tidy.enter (ht : l.Tidy h lingers) (hopen : h.isShutdown = false) :
    (l.onHandle Handle.enter).Tidy h.enter lingers where
  listeners := ht.listeners
  ended hterm := by
    have hshut := (ht.ended hterm).1
    rw [hopen] at hshut
    exact absurd hshut Bool.false_ne_true
  closed := ht.closed
  drained _ _ hshut := by
    have hshut : h.isShutdown = true := hshut
    rw [hopen] at hshut
    exact absurd hshut Bool.false_ne_true

/-- The last call that leaves may make a link linger. -/
theorem Tidy.leave (ht : l.Tidy h lingers) : (l.onHandle Handle.leave).Tidy h.leave True where
  listeners := ht.listeners
  ended hterm := by
    obtain ⟨hshut, hidle⟩ := ht.ended hterm
    refine ⟨hshut, ?_⟩
    show h.inFlight - 1 = 0
    rw [hidle]
  closed := ht.closed
  drained hn := absurd trivial hn

theorem Tidy.notify (ht : l.Tidy h lingers) (c : Connectivity) :
    (l.onHandle fun h => h.notify c).Tidy (h.notify c) lingers := by
  obtain ⟨reported, hn⟩ := h.notify_eq c
  rw [hn]
  exact ⟨ht.listeners, ht.ended, ht.closed, ht.drained⟩

/-- Shutting a handle down makes its link linger. -/
theorem Tidy.shutDown (ht : l.Tidy h lingers) (hopen : h.isShutdown = false) :
    l.shutDown.Tidy h.shutDown True where
  listeners := by
    show l.listeners - 1 = 0
    rw [ht.listeners, hopen]
    rfl
  ended hterm := by
    have hshut := (ht.ended hterm).1
    rw [hopen] at hshut
    exact absurd hshut Bool.false_ne_true
  closed := ht.closed
  drained hn := absurd trivial hn

/-- **Closing settles a link** that was drained. -/
theorem Tidy.close (ht : l.Tidy h lingers) (hshut : h.isShutdown = true) (hidle : h.inFlight = 0)
    {lingers' : Prop} : l.close.Tidy h.terminate lingers' where
  listeners := ht.listeners
  ended _ := ⟨hshut, hidle⟩
  closed := rfl
  drained _ _ _ _ := rfl

/-- A link that is listened to for the first time is tidy. -/
theorem tidy_listen (target : String) (options : ChannelOptions) (behaviour : ChannelBehaviour) :
    (fresh target options behaviour).listen.Tidy (.fresh target) lingers where
  listeners := rfl
  ended hterm := nomatch hterm
  closed := rfl
  drained _ _ hshut := nomatch hshut

end Link

/-! ## All links -/

namespace Session

/-- **All handles agree with their channels**; one link may linger. -/
def Tidy (lingering? : Option Nat) (s : Session) : Prop :=
  ∀ (i : Nat) (l : Link) (h : Handle), s.links[i]? = some l → l.handle? = some h →
    l.Tidy h (lingering? = some i)

variable {s s' : Session} {p? q? : Option Nat} {i : Nat}

theorem Tidy.linger (hs : s.Tidy none) (i : Nat) : s.Tidy (some i) :=
  fun j l h hl hh => (hs j l h hl hh).linger nofun

/-- A link no longer lingers if it is closed already, or not drained, or raises. -/
theorem Tidy.settle (hs : s.Tidy (some i))
    (hdone : ∀ l h, s.links[i]? = some l → l.handle? = some h →
      l.behaviour.closingRaises? = none → h.isShutdown = true → h.inFlight = 0 →
        h.isTerminated = true) : s.Tidy none := by
  intro j l h hl hh
  by_cases hij : i = j
  · subst hij
    exact (hs i l h hl hh).settle (hdone l h hl hh)
  · exact (hs j l h hl hh).linger fun hj => absurd (Option.some_inj.mp hj) hij

/-- **A change of one link** concerns no other. -/
theorem Tidy.changeLink (hs : s.Tidy p?) {F : Link → Link} {f : Handle → Handle}
    (hhandle : ∀ l : Link, (F l).handle? = l.handle?.map f)
    (hF : ∀ l h, s.links[i]? = some l → l.handle? = some h → l.Tidy h (p? = some i) →
      (F l).Tidy (f h) (q? = some i))
    (hp : ∀ j, i ≠ j → p? = some j → q? = some j) : (s.changeLink i F).Tidy q? := by
  intro j l h hl hh
  rw [links_changeLink] at hl
  by_cases hij : i = j
  · subst hij
    rw [if_pos rfl] at hl
    obtain ⟨l, hl', rfl⟩ := Option.map_eq_some_iff.mp hl
    rw [hhandle] at hh
    obtain ⟨h, hh', rfl⟩ := Option.map_eq_some_iff.mp hh
    exact hF l h hl' hh' (hs i l h hl' hh')
  · rw [if_neg hij] at hl
    exact (hs j l h hl hh).linger (hp j hij)

theorem Tidy.enterCall (hs : s.Tidy p?) (hopen : s.admits i = true) : (s.enterCall i).Tidy p? := by
  obtain ⟨h, hi, hshut⟩ := Scene.admits_iff.mp hopen
  refine Tidy.changeLink (s := s.push (.entered i)) hs (fun _ => rfl)
    (fun l h' hl hh ht => ht.enter ?_) fun _ _ => id
  obtain rfl : h = h' := Option.some_inj.mp (hi.symm.trans (handle?_eq_some.mpr ⟨l, hl, hh⟩))
  exact hshut

/-- A call that leaves may make its link linger. -/
theorem Tidy.leaveCall (hs : s.Tidy none) (i : Nat) : (s.leaveCall i).Tidy (some i) :=
  Tidy.changeLink (s := s.push (.left i)) hs (fun _ => rfl)
    (fun _ _ _ _ ht => ht.leave.linger fun _ => rfl) fun _ _ => nofun

theorem Tidy.hear (hs : s.Tidy p?) (i : Nat) (report : String) : (s.hear i report).Tidy p? :=
  Tidy.changeLink (s := s.push (.delivered i report)) hs (fun _ => rfl)
    (fun _ _ _ _ ht => ht.notify _) fun _ _ => id

/-- Shutting a handle down may make its link linger. -/
theorem Tidy.retire (hs : s.Tidy none) (hopen : s.admits i = true) :
    (s.retire i).Tidy (some i) := by
  obtain ⟨h, hi, hshut⟩ := Scene.admits_iff.mp hopen
  refine Tidy.changeLink (s := s.push (.shutDown i)) hs (fun _ => rfl)
    (fun l h' hl hh ht => (ht.shutDown ?_).linger fun _ => rfl) fun _ _ => nofun
  obtain rfl : h = h' := Option.some_inj.mp (hi.symm.trans (handle?_eq_some.mpr ⟨l, hl, hh⟩))
  exact hshut

theorem Tidy.addLink (hs : s.Tidy p?) {l : Link}
    (hl : ∀ h, l.handle? = some h → l.Tidy h (p? = some s.links.length)) :
    (s.addLink l).Tidy p? := by
  intro j l' h hl' hh
  by_cases hj : j = s.links.length
  · rw [hj, links_addLink_length] at hl'
    cases hl'
    rw [hj]
    exact hl h hh
  · rw [links_addLink s l hj] at hl'
    exact hs j l' h hl' hh

end Session

/-! ## What managers do not notice -/

/-- A use of a link by a manager is told from what happens in the life of a link. -/
theorem Event.isOfManager_of_isOfLink {e : Event} (he : e.isOfLink = true) :
    e.isOfManager = false := by
  cases e <;> first | rfl | cases he

theorem mem_cons_of_isOfManager {e e' : Event} (he : e.isOfManager = true)
    (he' : e'.isOfManager = false) {history : List Event} : e ∈ e' :: history ↔ e ∈ history := by
  rw [List.mem_cons]
  refine or_iff_right fun h => ?_
  rw [← h, he] at he'
  exact Bool.false_ne_true he'.symm

namespace Session

/-- **Managers do not notice**: none of them has changed or been put down to use a link, and no
moment was added. -/
structure Aloof (s s' : Session) : Prop where
  evolves : s.Evolves s'
  managers : s'.managers = s.managers
  moments : momentsOf s'.history = momentsOf s.history
  uses : ∀ e : Event, e.isOfManager = true → (e ∈ s'.history ↔ e ∈ s.history)

theorem Aloof.of_event {s s' : Session} {e : Event} (hev : s.Evolves s')
    (hb : e.isBracket = false) (hm : e.isOfManager = false) (hh : s'.history = e :: s.history)
    (hmgr : s'.managers = s.managers) : Aloof s s' where
  evolves := hev
  managers := hmgr
  moments := by rw [hh, momentsOf_cons hb]
  uses e' he' := by rw [hh, mem_cons_of_isOfManager he' hm]

theorem Aloof.of_history {s s' : Session} (hev : s.Evolves s') (hh : s'.history = s.history)
    (hmgr : s'.managers = s.managers) : Aloof s s' :=
  ⟨hev, hmgr, by rw [hh], fun _ _ => by rw [hh]⟩

instance : Run.Lasting Aloof where
  refl s := .of_history (.refl s) rfl rfl
  trans h h' :=
    ⟨h.evolves.trans h'.evolves, h'.managers.trans h.managers, h'.moments.trans h.moments,
      fun e he => (h'.uses e he).trans (h.uses e he)⟩
  evolves := Aloof.evolves
  note s e he := .of_event (evolves_push s e) (by cases e <;> first | rfl | cases he)
    (by cases e <;> first | rfl | cases he) rfl rfl

theorem aloof_indifferent : Run.Indifferent Aloof :=
  .of_events
    (fun hev he =>
      .of_event hev (Event.isBracket_of_isOfLink he) (Event.isOfManager_of_isOfLink he))
    .of_history

theorem aloof_openLink (s : Session) (target : String) (options : ChannelOptions)
    (behaviour : ChannelBehaviour) : Aloof s (s.openLink target options behaviour) := by
  have hadd := aloof_indifferent.addListened s target options behaviour
  unfold openLink
  cases behaviour.initial? with
  | none => exact hadd
  | some report =>
    exact Run.Lasting.trans (Run.Lasting.trans hadd (aloof_indifferent.hear _ _ report))
      (Run.related_noted _ _ _ _)

theorem aloof_abandonLink (s : Session) (target : String) (options : ChannelOptions)
    (behaviour : ChannelBehaviour) : Aloof s (s.abandonLink target options behaviour) := by
  unfold abandonLink
  split
  · exact Run.Lasting.refl s
  · exact aloof_indifferent.addLink s target options behaviour

/-- What managers do not notice only has to preserve an invariant. -/
theorem Aloof.upholds {I : Session → Prop} {s s' : Session} (h : Aloof s s') (hI : I s → I s') :
    Upholds I s s' := ⟨h.evolves, fun ha => ⟨hI ha.now, by rw [h.moments]; exact ha.past⟩⟩

end Session

namespace Run

open Session

variable {s s' : Session} {i m : Nat}

/-! ## Calls and reports -/

/-- **Closing settles a lingering link** if it is drained, also when its channel raises. -/
theorem tidy_close (hs : s.Tidy (some i)) (hdrained : s.drained i = true) :
    (close i s).2.Tidy none := by
  obtain ⟨h, hi, hshut, hidle⟩ := Scene.drained_iff.mp hdrained
  obtain ⟨l, hl, hh⟩ := handle?_eq_some.mp hi
  have hself : ∀ l' h', s.links[i]? = some l' → l'.handle? = some h' → l = l' ∧ h = h' := by
    intro l' h' hl' hh'
    obtain rfl := Option.some_inj.mp (hl.symm.trans hl')
    exact ⟨rfl, Option.some_inj.mp (hh.symm.trans hh')⟩
  rw [close_run hl hh]
  cases hterm : h.isTerminated with
  | true =>
    rw [if_pos rfl]
    -- a handle that is terminated already is not closed again
    refine hs.settle fun l' h' hl' hh' _ _ _ => ?_
    obtain ⟨-, rfl⟩ := hself l' h' hl' hh'
    exact hterm
  | false =>
    rw [if_neg Bool.false_ne_true]
    cases hraise : l.behaviour.closingRaises? with
    | some r =>
      -- nothing is asked of a channel that raises
      refine Tidy.changeLink (s := s.push (.closed i false)) (f := id) hs
        (fun l => by simp [Link.closeInVain]) (fun l' h' hl' hh' ht => ?_)
        fun j hij hj => absurd (Option.some_inj.mp hj) hij
      obtain ⟨rfl, rfl⟩ := hself l' h' hl' hh'
      refine ⟨ht.listeners, ht.ended, ht.closed, fun _ hquiet => ?_⟩
      have hquiet : l.behaviour.closingRaises? = none := hquiet
      rw [hraise] at hquiet
      cases hquiet
    | none =>
      dsimp only
      rw [Tidy, noted_toScene]
      refine Tidy.changeLink (s := s.push (.closed i true)) hs (fun _ => rfl)
        (fun l' h' hl' hh' ht => ?_) fun j hij hj => absurd (Option.some_inj.mp hj) hij
      obtain ⟨rfl, rfl⟩ := hself l' h' hl' hh'
      exact ht.close hshut hidle

/-- **A call that leaves keeps the links tidy**, whether or not it is the last one. -/
theorem tidy_leave (hs : s.Tidy none) (i : Nat) : (leave i s).2.Tidy none := by
  have hleft := hs.leaveCall i
  rw [leave_run]
  cases hd : (s.leaveCall i).drained i with
  | true => exact tidy_close hleft hd
  | false =>
    rw [if_neg Bool.false_ne_true]
    refine hleft.settle fun l h hl hh _ hshut hidle => ?_
    have hdrained := Scene.drained_iff.mpr ⟨h, handle?_eq_some.mpr ⟨l, hl, hh⟩, hshut, hidle⟩
    exact absurd (hd.symm.trans hdrained) Bool.false_ne_true

instance : Lasting (Upholds (Tidy none)) where
  refl := Upholds.refl
  trans := Upholds.trans
  evolves := Upholds.evolves
  note s e he := .of_event (evolves_push s e) (by cases e <;> first | rfl | cases he) rfl id

theorem tidy_considerate : Considerate (Upholds (Tidy none)) where
  enterCall s i hadm := .of_event (evolves_enterCall s i) rfl rfl fun hs => hs.enterCall hadm
  leave i s hs := (aloof_indifferent.leave i s hs).upholds fun hs => tidy_leave hs i
  hear s i report _ := .of_event (evolves_hear s i report) rfl rfl fun hs => hs.hear i report
  openCalls s calls := .of_history (evolves_indifferent.openCalls s calls) rfl id

theorem tidy_unmanaged : Unmanaged (Upholds (Tidy none)) :=
  .of_events
    (fun s _ he => .of_event (evolves_push s _) (Event.isBracket_of_isOfManager he) rfl id)
    fun hev hh hlinks _ => .of_history hev hh fun hs i l h hl => hs i l h (hlinks ▸ hl)

theorem tidy_makeLink (target : String) (options : ChannelOptions)
    (behaviour : ChannelBehaviour) :
    Keeps (Upholds (Tidy none)) (makeLink target options behaviour) := by
  refine keeps_makeLink (fun _ _ s => ?_) (fun _ s => ?_) tidy_considerate.deliver
  · exact .of_history (evolves_addLink s _) rfl fun hs => hs.addLink fun h hh => nomatch hh
  · refine .of_history (evolves_addLink s _) rfl fun hs => hs.addLink fun h hh => ?_
    obtain rfl := Option.some_inj.mp hh
    exact Link.tidy_listen target options behaviour

/-! ## Waiting for running calls -/

/-- What holds of a link that lingers while running calls are waited for. -/
def Lingers (i : Nat) (s : Session) : Prop :=
  s.Valid ∧ s.retired i = true ∧ s.Tidy (some i) ∧ ∀ t ∈ momentsOf s.history, t.Tidy none

/-- What holds of a link that is shut down and does not linger. -/
def Rests (i : Nat) (s : Session) : Prop :=
  s.Valid ∧ s.retired i = true ∧ s.Always (Tidy none)

theorem Rests.lingers (hs : Rests i s) : Lingers i s :=
  ⟨hs.1, hs.2.1, hs.2.2.now.linger i, hs.2.2.past⟩

/-- A link on which a call is running does not linger. -/
theorem Lingers.rests (hs : Lingers i s) (hbusy : s.idle i = false) : Rests i s := by
  refine ⟨hs.1, hs.2.1, hs.2.2.1.settle fun l h hl hh _ hshut hidle => ?_, hs.2.2.2⟩
  have hi := handle?_eq_some.mpr ⟨l, hl, hh⟩
  rw [Scene.idle, hi, Option.map_some, hidle] at hbusy
  exact absurd hbusy (by decide)

/-- A link that is drained no longer lingers once it was told to close. -/
theorem Lingers.close (hs : Lingers i s) (hidle : s.idle i = true) : Rests i (close i s).2 := by
  have hquiet := aloof_indifferent.close i s hs.1
  refine ⟨hquiet.evolves.valid hs.1, hquiet.evolves.retired hs.2.1, ?_, ?_⟩
  · exact tidy_close hs.2.2.1 (Scene.drained_of_idle hs.2.1 hidle)
  · rw [hquiet.moments]
    exact hs.2.2.2

/-- **Waiting for running calls leaves the link tidy**: either the wait closes its channel, or the
last call that leaves will. -/
theorem awaitTermination_rests {during : List (Run Unit)}
    (hd : ∀ x ∈ during, Keeps (Upholds (Tidy none)) x) (timeout : Value) (hs : Lingers i s) :
    Rests i (awaitTermination i timeout during s).2 := by
  have hwait : Lingers i (s.push (.waited timeout)) := hs
  rw [awaitTermination_run_wait]
  cases hrun : waitIdle i (limited s.environment.clock timeout during)
      (s.push (.waited timeout)) with
  | mk r s' =>
    have hend := waitIdle_holds (I := Lingers i) (J := Rests i)
      (fun t ht hbusy => ht.rests hbusy) (fun t ht => ht.lingers)
      (fun x hx t ht _ => by
        have hstep := forall_limited keeps_raise hd s.environment.clock timeout x hx t ht.1
        exact ⟨hstep.evolves.valid ht.1, hstep.evolves.retired ht.2.1, hstep.always ht.2.2⟩)
      hwait hrun
    match r, hend with
    | .error e, .inr ⟨_, hs'⟩ => exact hs'
    | .ok false, .inr ⟨_, hs'⟩ => exact hs'
    | .ok true, .inl ⟨_, hs', hidle⟩ => exact hs'.close hidle
    | .ok true, .inr ⟨h, _⟩ => exact absurd rfl h

/-- **Disconnecting keeps the links tidy**: nothing else takes place between shutting the handle
down and looking whether a call is running. -/
theorem tidy_dismantle {during : List (Run Unit)}
    (hd : ∀ x ∈ during, Keeps (Upholds (Tidy none)) x) :
    Keeps (Upholds (Tidy none)) (dismantle m during) := by
  intro s hs
  have hev : s.Evolves (dismantle m during s).2 :=
    evolves_unmanaged.dismantle evolves_indifferent.tending
      (fun x hx s hs => (hd x hx s hs).evolves) s hs
  refine ⟨hev, fun ha => ?_⟩
  cases hcon : s.isConnected m with
  | false =>
    rw [dismantle_run_idle hcon]
    exact (related_noted (R := Upholds (Tidy none)) s _ _ _).always ha
  | true =>
    obtain ⟨i, h, hcur, hi, hready⟩ := Scene.isConnected_iff.mp hcon
    have hopen := (Handle.state_eq_ready.mp hready).2.1
    have hadm : s.admits i = true := Scene.admits_iff.mpr ⟨h, hi, hopen⟩
    rw [dismantle_run hcur hi hready]
    set s₁ := (s.retire i).changeManager m fun mgr => { mgr with dispatcher? := none } with hs₁
    -- the link lingers from here until the wait has come to its end
    have hlingers : Lingers i s₁ := by
      refine ⟨((evolves_retire s i).trans (evolves_changeManager _ m _)).valid hs, ?_,
        ha.now.retire hadm, ha.past⟩
      show (s.retire i).retired i = true
      rw [Scene.retired, handle?_retire, hi]
      rfl
    have hrests := awaitTermination_rests hd (.float (s.manager m).config.drainTimeout) hlingers
    rw [bind_run]
    cases hrun : awaitTermination i (.float (s.manager m).config.drainTimeout) during s₁ with
    | mk r s₂ =>
      rw [hrun] at hrests
      cases r with
      | error e => exact hrests.2.2
      | ok ended =>
        -- after the wait there are only notes
        have hnotes : Upholds (Tidy none) s₂ (farewell i ended s₂).2 :=
          keeps_farewell i ended s₂ hrests.1
        exact hnotes.always hrests.2.2

/-- **Every step keeps the links tidy**, unless it takes a handle's life into its own hands. -/
theorem tidy_respects : Step.Respects (fun step => !step.closesByHand) (Upholds (Tidy none)) where
  bracketed answer h := h.bracketed (fun _ => id) (fun _ _ => id) answer
  connect hpause s hs _ := tidy_unmanaged.connect (fun _ _ => tidy_makeLink _ _ _) hpause s hs
  disconnect hd s hs _ := tidy_unmanaged.disconnect (tidy_dismantle hd) s hs
  dispatch hd :=
    tidy_considerate.dispatch (fun s _ _ => .of_event (evolves_push s _) rfl rfl id) hd
  deliver := tidy_considerate.deliver
  beginCall := tidy_considerate.beginCall
  endCall := tidy_considerate.endCall
  keepDispatcher := tidy_unmanaged.keepDispatcher
  addClient := tidy_unmanaged.addClient
  activate := tidy_unmanaged.activate
  restoreDispatcher name _ := tidy_unmanaged.restoreDispatcher name
  shutDown h := nomatch h
  awaitTermination _ _ h := nomatch h

end Run

/-- **At every moment all handles agree with their channels.** -/
theorem Session.Reached.tidy {s : Session} (hs : s.Reached fun step => !step.closesByHand) :
    s.Always (Session.Tidy none) := by
  refine Session.Initial.reached (fun s hs i l h hl => ?_) (fun s steps hstart hsteps => ?_) hs
  · rw [hs.links] at hl
    cases hl
  · exact hstart.related Run.tidy_respects hsteps

end VectorLink
