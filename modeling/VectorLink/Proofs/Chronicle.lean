import VectorLink.Proofs.Binding
import VectorLink.Proofs.Upkeep

/-!
# What the history tells of a manager

The connectivity that a manager reports is put together from two places: what the handle in use says
of its own end, and what its channel reported to it last. Both were written at some time in the
past, by whoever was at work then, and links were made, shut down and replaced in between. The
history knows all that happened, so it tells a connectivity too (`Chronicle.connectivity`): it looks
for the link that the manager put to use last, for the closing and the shutting down of that link,
and for the last report of its channel. It looks at nothing else, and at no handle.

**A manager reports what the history tells of it**, at every moment of every run
(`Session.connectivity_told`). The obvious invariant, that a handle remembers the last report of its
channel, does not hold: a handle that was shut down hears reports that still come and does not
remember them, and then the two go apart for good. They agree as long as it matters, which is what
`Handle.AsTold` says.
-/

namespace VectorLink

/-! ## What a history tells -/

namespace Event

/-- The link that an event says a manager put to use. -/
def usedBy? (m : Nat) : Event → Option Nat
  | .installed n i => if n = m then some i else none
  | _ => none

/-- What an event says that the channel of a link reported. -/
def reportOf? (i : Nat) : Event → Option String
  | .delivered j report => if j = i then some report else none
  | _ => none

/-- Whether an event says that the handle of a link was shut down. -/
def shutsDown (i : Nat) : Event → Bool
  | .shutDown j => j == i
  | _ => false

/-- Whether an event says that the channel of a link closed. -/
def closes (i : Nat) : Event → Bool
  | .closed j done => j == i && done
  | _ => false

/-- The link whose state an event says something about. -/
def about? : Event → Option Nat
  | .delivered i _ | .shutDown i | .closed i true => some i
  | _ => none

variable {e : Event} {i m : Nat}

/-- What is not about a link says nothing of its state. -/
theorem tells_nothing (he : e.about? ≠ some i) :
    e.reportOf? i = none ∧ e.shutsDown i = false ∧ e.closes i = false := by
  cases e with
  | delivered j report =>
    have hj : j ≠ i := fun h => he (congrArg some h)
    exact ⟨if_neg hj, rfl, rfl⟩
  | shutDown j =>
    have hj : j ≠ i := fun h => he (congrArg some h)
    exact ⟨rfl, beq_false_of_ne hj, rfl⟩
  | closed j done =>
    refine ⟨rfl, rfl, ?_⟩
    cases done with
    | false => exact Bool.and_false _
    | true =>
      have hj : j ≠ i := fun h => he (congrArg some h)
      rw [closes, beq_false_of_ne hj, Bool.false_and]
  | _ => exact ⟨rfl, rfl, rfl⟩

/-- What belongs to the life of a link does not say that a manager uses one. -/
theorem usedBy?_of_isOfLink (he : e.isOfLink = true) : e.usedBy? m = none := by
  cases e <;> first | rfl | cases he

end Event

namespace Chronicle

/-- The link that a manager put to use last. -/
def used? (m : Nat) (history : List Event) : Option Nat := history.findSome? (Event.usedBy? m)

/-- What the channel of a link reported last. -/
def lastReport? (i : Nat) (history : List Event) : Option String :=
  history.findSome? (Event.reportOf? i)

/-- Whether the handle of a link was shut down. -/
def wasShutDown (i : Nat) (history : List Event) : Bool := history.any (Event.shutsDown i)

/-- Whether the channel of a link closed. -/
def wasClosed (i : Nat) (history : List Event) : Bool := history.any (Event.closes i)

/-- **The connectivity that a history tells of a manager.** -/
def connectivity (m : Nat) (history : List Event) : Connectivity :=
  match used? m history with
  | none => .notCreated
  | some i =>
    if wasClosed i history then .terminated
    else if wasShutDown i history then .shutdown
    else ((lastReport? i history).map .ofReport).getD .idle

variable {e : Event} {i m n : Nat} {history : List Event}

theorem used?_cons (he : e.usedBy? m = none) : used? m (e :: history) = used? m history := by
  rw [used?, List.findSome?_cons, he, used?]

/-- The last use counts. -/
theorem used?_installed :
    used? n (.installed m i :: history) = if m = n then some i else used? n history := by
  rw [used?, List.findSome?_cons, Event.usedBy?]
  by_cases hmn : m = n
  · rw [if_pos hmn, if_pos hmn]
  · rw [if_neg hmn, if_neg hmn, used?]

/-- The last report counts. -/
theorem lastReport?_delivered (report : String) :
    lastReport? i (.delivered i report :: history) = some report := by
  rw [lastReport?, List.findSome?_cons, Event.reportOf?, if_pos rfl]

end Chronicle

open Chronicle

/-- **Only a channel that says READY is ready.** -/
theorem Connectivity.ofReport_eq_ready {report : String} :
    ofReport report = .ready ↔ report = "READY" := by
  refine ⟨fun h => ?_, fun h => by rw [h]; decide⟩
  unfold ofReport at h
  cases hfind : reportable.find? fun c => c.name == report with
  | none =>
    rw [hfind] at h
    cases h
  | some c =>
    rw [hfind] at h
    obtain rfl : c = .ready := h
    have hname := List.find?_some hfind
    exact (eq_of_beq hname).symm

/-! ## One handle -/

/-- **A handle is as the history tells.** What its channel reported matters only until it is shut
down. -/
structure Handle.AsTold (h : Handle) (i : Nat) (history : List Event) : Prop where
  shutDown : h.isShutdown = wasShutDown i history
  closed : h.isTerminated = wasClosed i history
  reported : h.isShutdown = false →
    h.reported = ((lastReport? i history).map .ofReport).getD .idle

namespace Handle.AsTold

variable {h : Handle} {i : Nat} {history : List Event} {e : Event}

/-- What is about another link changes nothing. -/
theorem cons (ht : h.AsTold i history) (he : e.about? ≠ some i) : h.AsTold i (e :: history) := by
  obtain ⟨hreport, hshut, hclosed⟩ := Event.tells_nothing he
  refine ⟨?_, ?_, ?_⟩
  · rw [wasShutDown, List.any_cons, hshut, Bool.false_or]
    exact ht.shutDown
  · rw [wasClosed, List.any_cons, hclosed, Bool.false_or]
    exact ht.closed
  · rw [lastReport?, List.findSome?_cons, hreport]
    exact ht.reported

theorem enter (ht : h.AsTold i history) : h.enter.AsTold i history :=
  ⟨ht.shutDown, ht.closed, ht.reported⟩

theorem leave (ht : h.AsTold i history) : h.leave.AsTold i history :=
  ⟨ht.shutDown, ht.closed, ht.reported⟩

/-- The last report is remembered, unless the handle was shut down. -/
theorem notify (ht : h.AsTold i history) (report : String) :
    (h.notify (.ofReport report)).AsTold i (.delivered i report :: history) := by
  refine ⟨?_, ?_, fun hopen => ?_⟩
  · rw [h.notify_isShutdown]
    exact ht.shutDown
  · rw [h.notify_isTerminated]
    exact ht.closed
  · rw [h.notify_isShutdown] at hopen
    rw [lastReport?_delivered, Handle.notify, hopen, if_neg Bool.false_ne_true]
    rfl

theorem shutDown_cons (ht : h.AsTold i history) :
    h.shutDown.AsTold i (.shutDown i :: history) := by
  refine ⟨?_, ht.closed, nofun⟩
  rw [wasShutDown, List.any_cons, Event.shutsDown, BEq.rfl]
  rfl

theorem close_cons (ht : h.AsTold i history) :
    h.terminate.AsTold i (.closed i true :: history) := by
  refine ⟨ht.shutDown, ?_, ht.reported⟩
  rw [wasClosed, List.any_cons, Event.closes, BEq.rfl]
  rfl

/-- **The state of a handle is what the history tells of its link.** -/
theorem state_eq (ht : h.AsTold i history) : h.state =
    if wasClosed i history then .terminated else if wasShutDown i history then .shutdown
    else ((lastReport? i history).map .ofReport).getD .idle := by
  rw [Handle.state, ht.closed, ht.shutDown]
  split
  · rfl
  · split
    · rfl
    · next hopen => exact ht.reported (ht.shutDown.trans (Bool.not_eq_true _ ▸ hopen))

end Handle.AsTold

/-! ## All handles and managers -/

namespace Session

/-- **A session is as its history tells.** A link without a handle is as a handle would be that
nothing has happened to. -/
structure Told (s : Session) : Prop where
  handle : ∀ i, ((s.handle? i).getD (.fresh "")).AsTold i s.history
  current : ∀ m, (s.manager m).current? = used? m s.history
  inUse : ∀ m i, (s.manager m).current? = some i → ∃ h, s.handle? i = some h

variable {s s' : Session} {i m : Nat} {e : Event}

theorem Told.asTold (hs : s.Told) {h : Handle} (hi : s.handle? i = some h) :
    h.AsTold i s.history := by
  have := hs.handle i
  rwa [hi] at this

/-- What writes nothing down and leaves links alone only has to leave the links in use alone. -/
theorem Told.carry (hs : s.Told) (hhist : s'.history = s.history) (hlinks : s'.links = s.links)
    (hcur : ∀ m, (s'.manager m).current? = (s.manager m).current?) : s'.Told where
  handle i := by
    rw [hhist, Scene.handle?, hlinks]
    exact hs.handle i
  current m := by
    rw [hhist, hcur]
    exact hs.current m
  inUse m i h := by
    rw [hcur] at h
    rw [Scene.handle?, hlinks]
    exact hs.inUse m i h

/-- What is written down about no link and no manager. -/
theorem Told.push (hs : s.Told) (he : e.about? = none) (hu : ∀ m, e.usedBy? m = none) :
    (s.push e).Told where
  handle i := (hs.handle i).cons (by rw [he]; nofun)
  current m := (hs.current m).trans (used?_cons (hu m)).symm
  inUse := hs.inUse

/-- **What happens to one link** only has to leave its own handle as told. -/
theorem Told.changeLink (hs : s.Told) (he : e.isOfLink = true) {F : Link → Link}
    {f : Handle → Handle} (hF : ∀ l : Link, (F l).handle? = l.handle?.map f)
    (habout : ∀ j, e.about? = some j → i = j ∧ ∃ h, s.handle? i = some h)
    (hself : ∀ h, s.handle? i = some h → h.AsTold i s.history →
      (f h).AsTold i (e :: s.history)) : ((s.push e).changeLink i F).Told where
  handle j := by
    rw [handle?_changeLink_map (s.push e) i j hF, push_toScene]
    show Handle.AsTold _ j (e :: s.history)
    by_cases hij : i = j
    · subst hij
      rw [if_pos rfl]
      cases hi : s.handle? i with
      | some h => exact hself h hi (hs.asTold hi)
      | none =>
        have hfresh := hs.handle i
        rw [hi] at hfresh
        refine hfresh.cons fun h => ?_
        -- an event is about a link with a handle only
        obtain ⟨-, hd, hsome⟩ := habout i h
        rw [hi] at hsome
        cases hsome
    · rw [if_neg hij]
      exact (hs.handle j).cons fun h => hij (habout j h).1
  current n := (hs.current n).trans (used?_cons (Event.usedBy?_of_isOfLink he)).symm
  inUse n j h := by
    obtain ⟨hd, hj⟩ := hs.inUse n j h
    rw [handle?_changeLink_map (s.push e) i j hF, push_toScene, hj]
    split
    · exact ⟨f hd, rfl⟩
    · exact ⟨hd, rfl⟩

/-- A new link has no handle, or one that nothing has happened to. -/
theorem Told.addLink (hs : s.Told) {l : Link}
    (hl : ∀ h, l.handle? = some h → ∃ target, h = .fresh target) : (s.addLink l).Told where
  handle j := by
    rw [handle?_addLink]
    show Handle.AsTold _ j s.history
    by_cases hj : j = s.links.length
    · have hfresh := hs.handle j
      rw [hj, Scene.handle?, List.getElem?_eq_none le_rfl] at hfresh
      rw [if_pos hj, hj]
      cases hh : l.handle? with
      | none => exact hfresh
      | some h =>
        obtain ⟨target, rfl⟩ := hl h hh
        exact ⟨hfresh.shutDown, hfresh.closed, hfresh.reported⟩
    · rw [if_neg hj]
      exact hs.handle j
  current := hs.current
  inUse n j h := by
    obtain ⟨hd, hj⟩ := hs.inUse n j h
    refine ⟨hd, ?_⟩
    rw [handle?_addLink, if_neg (lt_length_of_handle? hj).ne]
    exact hj

/-- **A link with a handle is put to use.** -/
theorem Told.putToUse (hs : s.Told) (hm : m < s.managers.length) {h : Handle}
    (hi : s.handle? i = some h) : (s.putToUse m i).Told where
  handle j := (hs.handle j).cons nofun
  current n := by
    have hused : used? n (s.putToUse m i).history = if m = n then some i else used? n s.history :=
      used?_installed
    rw [hused, manager_putToUse s hm]
    split
    · rfl
    · exact hs.current n
  inUse n j hcur := by
    rw [manager_putToUse s hm] at hcur
    split at hcur
    · obtain rfl := Option.some_inj.mp hcur
      exact ⟨h, hi⟩
    · exact hs.inUse n j hcur

/-- A change of a manager that leaves the link that it uses alone. -/
theorem current?_changeManager (s : Session) (m n : Nat) {f : Manager → Manager}
    (hf : ∀ mgr, (f mgr).current? = mgr.current?) :
    ((s.changeManager m f).manager n).current? = (s.manager n).current? := by
  unfold Scene.manager changeManager
  rw [List.getD_eq_getElem?_getD, List.getD_eq_getElem?_getD, List.getElem?_modify]
  cases s.managers[n]? with
  | none => rfl
  | some mgr =>
    by_cases hmn : m = n
    · simp [hmn, hf]
    · simp [hmn]

theorem Told.changeManager (hs : s.Told) (m : Nat) {f : Manager → Manager}
    (hf : ∀ mgr, (f mgr).current? = mgr.current?) : (s.changeManager m f).Told :=
  hs.carry rfl rfl fun n => current?_changeManager s m n hf

end Session

/-! ## Every run -/

namespace Run

open Session

variable {s s' : Session} {i m : Nat}

/-- What happens to one link, for a relation. -/
theorem told_changeLink {e : Event} (he : e.isOfLink = true) {F : Link → Link}
    {f : Handle → Handle} (hev : s.Evolves ((s.push e).changeLink i F))
    (hF : ∀ l : Link, (F l).handle? = l.handle?.map f)
    (habout : ∀ j, e.about? = some j → i = j ∧ ∃ h, s.handle? i = some h)
    (hself : ∀ h : Handle, h.AsTold i s.history → (f h).AsTold i (e :: s.history)) :
    Upholds Told s ((s.push e).changeLink i F) :=
  .of_event hev (Event.isBracket_of_isOfLink he) rfl fun hs =>
    hs.changeLink he hF habout fun h _ => hself h

/-- What is written down about no link and no manager, for a relation. -/
theorem told_push (s : Session) {e : Event} (hb : e.isBracket = false) (he : e.about? = none)
    (hu : ∀ m, e.usedBy? m = none) : Upholds Told s (s.push e) :=
  .of_event (evolves_push s e) hb rfl fun hs => hs.push he hu

instance : Lasting (Upholds Told) where
  refl := Upholds.refl
  trans := Upholds.trans
  evolves := Upholds.evolves
  note s e he := by
    cases e <;> first | exact told_push s rfl rfl fun _ => rfl | cases he

theorem told_close (i : Nat) : Keeps (Upholds Told) (close i) := by
  intro s _
  cases hi : s.handle? i with
  | none =>
    rw [close_run_none hi]
    exact Lasting.refl s
  | some h =>
    obtain ⟨l, hl, hh⟩ := handle?_eq_some.mp hi
    rw [close_run hl hh]
    split
    · exact Lasting.refl s
    · cases l.behaviour.closingRaises? with
      | some r =>
        -- a channel that raises counts as not closed
        exact told_changeLink (f := id) rfl (evolves_closeLinkInVain s i)
          (fun l => (congrFun Option.map_id l.handle?).symm) (fun _ h => nomatch h)
          fun h ht => ht.cons nofun
      | none =>
        have hclosed : Upholds Told s (s.closeLink i) :=
          told_changeLink rfl (evolves_closeLink s i) (fun _ => rfl)
            (fun j hj => ⟨Option.some_inj.mp hj, h, hi⟩) fun _ ht => ht.close_cons
        exact Lasting.trans hclosed (related_noted _ _ _ _)

theorem told_considerate : Considerate (Upholds Told) where
  enterCall s i _ := told_changeLink rfl (evolves_enterCall s i) (fun _ => rfl)
    (fun _ h => nomatch h) fun _ ht => ht.enter.cons nofun
  leave i := by
    intro s hs
    have hleft : Upholds Told s (s.leaveCall i) :=
      told_changeLink rfl (evolves_leaveCall s i) (fun _ => rfl) (fun _ h => nomatch h)
        fun _ ht => ht.leave.cons nofun
    rw [leave_run]
    split
    · exact Lasting.trans hleft (told_close i _ (hleft.evolves.valid hs))
    · exact hleft
  hear s i report hi := told_changeLink rfl (evolves_hear s i report) (fun _ => rfl)
    (fun _ hj => ⟨Option.some_inj.mp hj, Option.isSome_iff_exists.mp hi⟩) fun _ ht =>
      ht.notify report
  openCalls s calls := .of_history (evolves_indifferent.openCalls s calls) rfl fun hs =>
    hs.carry rfl rfl fun _ => rfl

theorem told_tending : Tending (Upholds Told) where
  toConsiderate := told_considerate
  shutDown i := by
    intro s _
    rw [shutDown_run]
    split
    · next hadm =>
      obtain ⟨h, hi, -⟩ := Scene.admits_iff.mp hadm
      exact told_changeLink rfl (evolves_retire s i) (fun _ => rfl)
        (fun j hj => ⟨Option.some_inj.mp hj, h, hi⟩) fun _ ht => ht.shutDown_cons
    · exact Lasting.refl s
  close := told_close
  makeLink target options behaviour := by
    refine keeps_makeLink (fun _ _ s => ?_) (fun _ s => ?_) told_considerate.deliver
    · exact .of_history (evolves_addLink s _) rfl fun hs => hs.addLink fun h hh => nomatch hh
    · refine .of_history (evolves_addLink s _) rfl fun hs => hs.addLink fun h hh => ?_
      exact ⟨target, (Option.some_inj.mp hh).symm⟩

/-- What managers do, except that they put links to use. -/
theorem told_changeManager (s : Session) (m : Nat) {f : Manager → Manager}
    (hf : ∀ mgr, (f mgr).current? = mgr.current?) : Upholds Told s (s.changeManager m f) :=
  .of_history (evolves_changeManager s m f) rfl fun hs => hs.changeManager m hf

theorem told_bindTo (s : Session) (m i : Nat) : Upholds Told s (s.bindTo m i) :=
  Lasting.trans (told_push s rfl rfl fun _ => rfl) (told_changeManager _ m fun _ => rfl)

/-- **A manager that connects is as the history tells**, whatever it comes to. -/
theorem told_establish (host port timeout : Value) (behaviour : ChannelBehaviour)
    {pause : Nat → Run Unit} (hpause : ∀ k, Keeps (Upholds Told) (pause k)) (hs : s.Valid)
    (hm : m < s.managers.length) :
    Upholds Told s (establish m host port timeout behaviour pause s).2 := by
  obtain ⟨e, s', hrun, h⟩ | ⟨i, s₁, s₂, s', h₁, h₂, -, -, ⟨h, hi⟩, h₃, hend⟩ :=
    establish_run (R := Upholds Told) m host port timeout behaviour
      (fun _ _ => told_tending.makeLink _ _ _) hpause hs
  · rw [hrun]
    exact h
  · have h₁₂ := Lasting.trans h₁ h₂
    have hput : Upholds Told s₂ (s₂.putToUse m i) :=
      .of_event (evolves_putToUse s₂ m i) rfl rfl fun hs =>
        hs.putToUse (hm.trans_le h₁₂.evolves.managers) hi
    have hall := Lasting.trans (Lasting.trans h₁₂ hput) h₃
    obtain ⟨e, hrun⟩ | ⟨target, hrun⟩ := hend
    · rw [hrun]
      exact hall
    · rw [hrun]
      exact Lasting.trans hall (told_bindTo s' m i)

/-- What is done under exclusion is done by a manager that exists. -/
theorem told_exclusively {α : Type} {x : Run α} (hs : s.Valid) (hm : m < s.managers.length)
    (hx : ∀ t : Session, t.Valid → m < t.managers.length → Upholds Told t (x t).2) :
    Upholds Told s (exclusively m x s).2 :=
  related_exclusively (R := fun _ => Upholds Told) (fun h _ => h)
    (fun t _ _ => told_changeManager t m fun _ => rfl) hs hm fun t ht htm _ => hx t ht htm

theorem told_dismantle {during : List (Run Unit)} (hd : ∀ x ∈ during, Keeps (Upholds Told) x) :
    Keeps (Upholds Told) (dismantle m during) := by
  refine keeps_look fun _ => Keeps.ite ((keeps_log _ _ _).bind fun _ => keeps_pure _) ?_
  refine keeps_look fun _ => keeps_look fun _ => (told_tending.shutDown _).bind fun _ => ?_
  refine Keeps.bind (fun s _ => told_changeManager s m fun _ => rfl) fun _ => ?_
  exact (told_tending.awaitTermination hd).bind fun ended => keeps_farewell _ ended

theorem told_connect {host port timeout : Value} {behaviour : ChannelBehaviour}
    {pause : Nat → Run Unit} (hpause : ∀ k, Keeps (Upholds Told) (pause k)) (hs : s.Valid)
    (hm : m < s.managers.length) :
    Upholds Told s (connect m host port timeout behaviour pause s).2 := by
  have hin : Upholds Told s (exclusively m (establish m host port timeout behaviour pause) s).2 :=
    told_exclusively hs hm fun t ht htm =>
      told_establish host port timeout behaviour hpause ht htm
  refine related_bind hin fun target s' hrun => keeps_welcome target s' ?_
  rw [hrun] at hin
  exact hin.evolves.valid hs

theorem told_disconnect {during : List (Run Unit)} (hd : ∀ x ∈ during, Keeps (Upholds Told) x)
    (hs : s.Valid) (hm : m < s.managers.length) :
    Upholds Told s (disconnect m during s).2 := by
  have hin : Upholds Told s (exclusively m (dismantle m during) s).2 :=
    told_exclusively hs hm fun t ht _ => told_dismantle hd t ht
  refine related_bind hin fun r? s' hrun => keeps_partFrom m r? s' ?_
  rw [hrun] at hin
  exact hin.evolves.valid hs

/-- **Every step leaves the session as its history tells.** -/
theorem told_respects : Step.Respects (fun _ => true) (Upholds Told) where
  bracketed answer h := h.bracketed (fun _ hs => hs.push rfl fun _ => rfl)
    (fun _ _ hs => hs.push rfl fun _ => rfl) answer
  connect hpause _ hs hm := told_connect hpause hs hm
  disconnect hd _ hs hm := told_disconnect hd hs hm
  dispatch hd := told_considerate.dispatch (fun s _ _ => told_push s rfl rfl fun _ => rfl) hd
  deliver := told_considerate.deliver
  beginCall := told_considerate.beginCall
  endCall := told_considerate.endCall
  keepDispatcher _ :=
    keeps_look fun _ => keeps_look fun _ => Keeps.bind (fun s _ =>
      .of_history (evolves_unmanaged.kept s _) rfl fun hs => hs.carry rfl rfl fun _ => rfl)
        fun _ => keeps_pure _
  addClient s c := .of_history (evolves_unmanaged.addClient s c) rfl fun hs =>
    hs.carry rfl rfl fun n => (wiring_addManager (s.setThreshold c) c n).1
  activate s m hm := .of_history (evolves_unmanaged.activate s m hm) rfl fun hs =>
    hs.carry rfl rfl fun _ => rfl
  restoreDispatcher name _ :=
    (Step.keeps_keptDispatcher name).bind fun _ => keeps_look fun _ => fun s _ =>
      told_changeManager s _ fun _ => rfl
  shutDown _ := told_tending.shutDown
  awaitTermination _ _ _ _ _ hd := told_tending.awaitTermination hd

end Run

namespace Session

variable {p : Step → Bool} {s : Session} {m : Nat}

theorem Initial.told (hs : s.Initial) : s.Told := by
  have hnone : ∀ i, s.handle? i = none := fun i => by rw [Scene.handle?, hs.links]; rfl
  refine ⟨fun i => ?_, fun m => ?_, fun m i h => ?_⟩
  · rw [hnone i, hs.history]
    exact ⟨rfl, rfl, fun _ => rfl⟩
  · obtain ⟨c, hc⟩ := hs.manager m
    rw [hc, hs.history]
    rfl
  · obtain ⟨c, hc⟩ := hs.manager m
    rw [hc] at h
    cases h

/-- **At every moment a session is as its history tells.** -/
theorem Reached.told (hs : s.Reached p) : s.Told :=
  (Initial.reached (fun _ hs => hs.told)
    (fun _ steps hstart _ => hstart.related Run.told_respects (Step.allWithin_true steps)) hs).now

/-- What a manager reports, by the link that it uses. -/
theorem Told.connectivity_eq (hs : s.Told) (m : Nat) :
    s.connectivity m = Chronicle.connectivity m s.history := by
  rw [Scene.connectivity, Scene.current?, Chronicle.connectivity, ← hs.current m]
  cases hcur : (s.manager m).current? with
  | none => rfl
  | some i =>
    obtain ⟨h, hi⟩ := hs.inUse m i hcur
    rw [Option.bind_some, hi]
    exact (hs.asTold hi).state_eq

/-! ## What never goes back -/

/-- All moments so far have evolved into this one. -/
def Grown (s : Session) : Prop := ∀ t ∈ momentsOf s.history, t.Evolves s

instance : Run.Lasting (Upholds Grown) where
  refl := Upholds.refl
  trans := Upholds.trans
  evolves := Upholds.evolves
  note s e he :=
    have hb : e.isBracket = false := by cases e <;> first | rfl | cases he
    .of_event (evolves_push s e) hb rfl fun hs t ht =>
      (hs t (momentsOf_cons hb _ ▸ ht)).trans (evolves_push s e)

theorem grown_of_event {s' : Session} (hev : s.Evolves s') {e : Event} (he : e.isBracket = false)
    (hh : s'.history = e :: s.history) : Upholds Grown s s' :=
  .of_event hev he hh fun hs t ht => (hs t (by rwa [hh, momentsOf_cons he] at ht)).trans hev

theorem grown_of_history {s' : Session} (hev : s.Evolves s') (hh : s'.history = s.history) :
    Upholds Grown s s' :=
  .of_history hev hh fun hs t ht => (hs t (hh ▸ ht)).trans hev

/-- **At every moment all earlier moments have evolved into it.** -/
theorem Reached.grown (hs : s.Reached p) : s.Grown := by
  have hrespects : Step.Respects (fun _ => true) (Upholds Grown) := by
    refine Run.Unmanaged.respects
      (.of_events (fun s e he => grown_of_event (evolves_push s e)
        (Event.isBracket_of_isOfManager he) rfl) fun hev hh _ _ => grown_of_history hev hh)
      (Run.Indifferent.tending (.of_events (fun hev he hh _ => grown_of_event hev
        (Event.isBracket_of_isOfLink he) hh) fun hev hh _ => grown_of_history hev hh))
      (fun s _ _ _ => grown_of_event (evolves_push s _) rfl rfl) fun answer h => ?_
    refine h.bracketed (fun s hs => ?_) (fun s _ hs => ?_) answer
    all_goals
      refine List.forall_mem_cons.mpr ⟨evolves_push s _, fun t ht => ?_⟩
      exact (hs t ht).trans (evolves_push s _)
  refine (Initial.reached (fun s hs t ht => ?_)
    (fun _ steps hstart _ => hstart.related hrespects (Step.allWithin_true steps)) hs).now
  rw [hs.history] at ht
  cases ht

end Session

/-! ## Reports that concern nobody -/

/-- What can be seen of a scene through a manager, whether or not it is the one in use. -/
def Scene.seenThrough (s : Scene) (m : Nat) : Snapshot := snapshot { s with active := m }

/-- It depends on the handle in use, on the manager, and on what can be seen of the channels. -/
theorem Scene.seenThrough_eq (s : Scene) (m : Nat) : s.seenThrough m =
    { state := s.connectivity m
      connected := s.isConnected m
      target? := (s.current? m).map Handle.target
      hasDispatcher := (s.manager m).dispatcher?.isSome
      handle? := (s.current? m).map fun h => ⟨h.inFlight, h.isShutdown, h.isTerminated⟩
      channels := s.links.map Scene.channelView } := rfl

namespace Session

variable {p : Step → Bool} {s : Session} {m i : Nat}

/-- A report changes nothing but what the handle of its link remembers. -/
theorem report_scene (i : Nat) (report : String) (forced : Bool) (s : Session) :
    (Run.report i report forced s).2.toScene = s.toScene ∨
      (Run.report i report forced s).2.toScene = (s.hear i report).toScene := by
  rw [Run.report, Run.get_bind_run]
  split
  · cases hi : s.handle? i with
    | none => exact .inl (by rw [Run.deliver_run_none hi])
    | some h =>
      refine .inr ?_
      rw [Run.deliver_run hi]
      split
      · rfl
      · exact noted_toScene _ _ _ _
  · exact .inl rfl

/-- **A handle that was shut down takes no note of a report.** -/
theorem hear_of_retired (hret : s.retired i = true) (report : String) :
    (s.hear i report).toScene = s.toScene := by
  obtain ⟨h, hi, hshut⟩ := (Option.any_eq_true ..).mp hret
  obtain ⟨l, hl, hh⟩ := handle?_eq_some.mp hi
  have hsame : (s.hear i report).links = s.links := by
    refine List.ext_getElem? fun j => ?_
    rw [hear, links_changeLink]
    split
    · next hij =>
      rw [← hij, push_toScene, hl, Option.map_some, Link.onHandle, hh, Option.map_some,
        Handle.notify, if_pos hshut, ← hh]
    · rfl
  show { s.toScene with links := (s.hear i report).links } = s.toScene
  rw [hsame]

/-- **A report is seen through no manager but the one that uses the link.** -/
theorem seenThrough_hear (hcur : (s.manager m).current? ≠ some i) (report : String) :
    (s.hear i report).seenThrough m = s.seenThrough m := by
  have hhandle : (s.hear i report).current? m = s.current? m := by
    show ((s.manager m).current?).bind (s.hear i report).handle? = _
    rw [Scene.current?]
    cases hm : (s.manager m).current? with
    | none => rfl
    | some j =>
      rw [Option.bind_some, Option.bind_some, hear, handle?_onHandle, if_neg, push_toScene]
      exact fun hij => hcur (by rw [hm, hij])
  have hviews : (s.hear i report).links.map Scene.channelView = s.links.map Scene.channelView := by
    refine List.ext_getElem? fun j => ?_
    rw [List.getElem?_map, List.getElem?_map, hear, links_changeLink]
    split
    · rw [Option.map_map]
      rfl
    · rfl
  rw [Scene.seenThrough_eq, Scene.seenThrough_eq, Scene.connectivity, Scene.isConnected, hhandle,
    hviews]
  rfl

/-! ## Managers and their history -/

/-- A history tells that a link is ready exactly if its channel said so last. -/
theorem told_ready_iff {report? : Option String} :
    (report?.map Connectivity.ofReport).getD .idle = .ready ↔ report? = some "READY" := by
  cases report? with
  | none => exact ⟨nofun, nofun⟩
  | some report => exact Connectivity.ofReport_eq_ready.trans Option.some_inj.symm

/-- **A manager reports what the history tells of it**, at every moment of every run: that it never
used a link, or that the one it used last has closed its channel, or was shut down, or else what the
channel reported last. It is connected exactly if that was READY and the handle was not shut down,
as long as nobody but the manager closes channels. A handle that was shut down or terminated at an
earlier moment still is. And a report that comes now is seen through no manager but the one that
uses the link, and by nobody if its handle was shut down. -/
theorem connectivity_told (hs : s.Reached p) :
    (∀ m, s.connectivity m = Chronicle.connectivity m s.history) ∧
      ((∀ step, p step = true → (!step.closesByHand) = true) → ∀ m, s.isConnected m = true ↔
        ∃ i, used? m s.history = some i ∧ lastReport? i s.history = some "READY" ∧
          wasShutDown i s.history = false) ∧
      (∀ t ∈ momentsOf s.history, ∀ i h, t.handle? i = some h → ∃ h', s.handle? i = some h' ∧
        (h.isShutdown = true → h'.isShutdown = true) ∧
        (h.isTerminated = true → h'.isTerminated = true)) ∧
      ∀ (i : Nat) (report : String) (forced : Bool),
        let t := (Run.report i report forced s).2
        (∀ m, (s.manager m).current? ≠ some i → t.seenThrough m = s.seenThrough m) ∧
          (s.retired i = true → t.toScene = s.toScene) := by
  have htold := hs.told
  refine ⟨htold.connectivity_eq, fun hp m => ?_, fun t ht i h hi => ?_, fun i report forced => ?_⟩
  · rw [← htold.current m, Scene.isConnected_iff]
    refine exists_congr fun i => ⟨?_, ?_⟩
    · rintro ⟨h, hcur, hi, hready⟩
      obtain ⟨-, hopen, hrep⟩ := Handle.state_eq_ready.mp hready
      have has := htold.asTold hi
      exact ⟨hcur, told_ready_iff.mp ((has.reported hopen).symm.trans hrep),
        has.shutDown.symm.trans hopen⟩
    · rintro ⟨hcur, hrep, hopen⟩
      obtain ⟨h, hi⟩ := htold.inUse m i hcur
      obtain ⟨l, hl, hh⟩ := handle?_eq_some.mp hi
      have has := htold.asTold hi
      have hshut := has.shutDown.trans hopen
      refine ⟨h, hcur, hi, Handle.state_eq_ready.mpr ⟨?_, hshut, ?_⟩⟩
      · -- a handle is terminated only after it was shut down
        cases hterm : h.isTerminated with
        | false => rfl
        | true =>
          have hended := (((hs.mono hp).tidy.now i l h hl hh).ended hterm).1
          exact absurd (hshut.symm.trans hended) Bool.false_ne_true
      · rw [has.reported hshut]
        exact told_ready_iff.mpr hrep
  · obtain ⟨h', hi', he⟩ := (hs.grown t ht).handle hi
    exact ⟨h', hi', he.shutdown, he.terminated⟩
  · obtain hsame | hheard := report_scene i report forced s
    · dsimp only
      rw [hsame]
      exact ⟨fun _ _ => rfl, fun _ => rfl⟩
    · dsimp only
      rw [hheard]
      exact ⟨fun m hcur => seenThrough_hear hcur report, fun hret => hear_of_retired hret report⟩

/-- A link is shut down while a call runs on it, its channel goes on reporting, and a second link
reports something that nobody knows. -/
def retoldSteps : List Step :=
  [.connectManager (.text "host") (.int 1) (.int 0) .smooth [], .beginCall "call", .disconnect [],
    .notify 0 "CONNECTING" true,
    .connectManager (.text "host") (.int 2) (.int 0) ⟨some "CONNECTING", none, none, none, none⟩ [],
    .notify 1 "READY" false, .notify 0 "READY" true, .notify 1 "LIMBO" false, .endCall "call"]

/-- The handles of the two links have heard different things, and the manager reports what the last
one says, which is also what the history tells. -/
theorem connectivity_told_retold : let s := (withManager .bare .standard).after retoldSteps
    (lastReport? 0 s.history, wasShutDown 0 s.history, wasClosed 0 s.history)
        = (some "READY", true, true) ∧
      lastReport? 1 s.history = some "LIMBO" ∧ Chronicle.connectivity 0 s.history = .idle ∧
      s.connectivity 0 = .idle ∧ s.isConnected 0 = false := by
  intro s
  have hreached : s.Reached fun step => !step.closesByHand :=
    ⟨_, retoldSteps, ⟨.bare, .standard, .inr rfl⟩, by decide, List.mem_cons_self⟩
  have htold : Chronicle.connectivity 0 s.history = .idle := by decide +kernel
  have hlast : lastReport? 1 s.history = some "LIMBO" := by decide +kernel
  have hused : used? 0 s.history = some 1 := by decide +kernel
  obtain ⟨hstate, hconnected, -⟩ := connectivity_told hreached
  refine ⟨by decide +kernel, hlast, htold, (hstate 0).trans htold, ?_⟩
  refine Bool.eq_false_iff.mpr fun h => ?_
  obtain ⟨i, hi, hready, -⟩ := (hconnected fun _ => id) 0 |>.mp h
  obtain rfl := Option.some_inj.mp (hused.symm.trans hi)
  rw [hlast] at hready
  exact absurd hready (by decide)

end Session

end VectorLink
