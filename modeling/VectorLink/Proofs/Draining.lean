import VectorLink.Proofs.Moments

/-!
# Draining and closing

A channel is closed in two places: where the client waits for running calls, and where the last call
leaves a handle that is shut down. That it is closed exactly once, and never under a running call,
has to survive every order in which these two can come about: a call may outlast the wait, the wait
may be interrupted, and the handle may have been replaced long before its last call leaves.

Each link keeps books (`Link.Booked`): how many calls run on it, how many entered and how many left
by the history, whether it is settled, and whether it lingers, that is, whether it may be drained
and yet open. Only inside the client's own activities does a link linger, namely between the moment
at which its handle is shut down or its last call leaves and the moment at which its channel closes.
Nothing else takes place in between, so at every moment of a run no link lingers.

The number of running calls has two parts: the calls held open by hand, which the session lists, and
the calls that the activities around the present one have entered. The latter are not in the
session, so the books are kept for any number of them (`Session.Sound`); entering a call raises the
number for what takes place inside it.
-/

namespace VectorLink

/-! ## The books of a link -/

/-- Whether an event is a call that enters a link. -/
def Event.enters (i : Nat) : Event → Bool
  | .entered j => i == j
  | _ => false

/-- Whether an event is a call that leaves a link. -/
def Event.leaves (i : Nat) : Event → Bool
  | .left j => i == j
  | _ => false

/-- How many calls entered a link. -/
def entries (i : Nat) (history : List Event) : Nat := history.countP (·.enters i)

/-- How many calls left a link. -/
def exits (i : Nat) (history : List Event) : Nat := history.countP (·.leaves i)

/-- **A handle and its channel agree** on whether the channel is closed, and it is closed at most
once and only when it is shut down and idle. -/
structure Link.Settled (l : Link) (h : Handle) : Prop where
  ended : h.isTerminated = true → h.isShutdown = true ∧ h.inFlight = 0
  closes : l.closes = if h.isTerminated then 1 else 0
  closed : l.isClosed = h.isTerminated

/-- **The books of a link**, if there is one: the calls running on it, those that entered and left,
and whether it may linger between being drained and being closed. -/
structure Link.Booked (l? : Option Link) (running entered left : Nat) (lingers : Prop) : Prop where
  counted : entered = left + running
  inFlight : ((l?.bind Link.handle?).map Handle.inFlight).getD 0 = running
  settled : ∀ l h, l? = some l → l.handle? = some h → l.Settled h
  drained : ∀ l h, l? = some l → l.handle? = some h → ¬ lingers →
    h.isShutdown = true → h.inFlight = 0 → h.isTerminated = true

namespace Link

variable {l : Link} {h : Handle} {running entered left : Nat} {lingers : Prop}

theorem Booked.inFlight_eq (hb : Booked (some l) running entered left lingers)
    (hh : l.handle? = some h) : h.inFlight = running := by
  have := hb.inFlight
  rwa [Option.bind_some, hh] at this

/-- A link may always be said to linger. -/
theorem Booked.linger {l? : Option Link} (hb : Booked l? running entered left lingers)
    {lingers' : Prop} (himp : lingers → lingers') : Booked l? running entered left lingers' :=
  { hb with drained := fun l h hl hh hn => hb.drained l h hl hh (hn ∘ himp) }

theorem Booked.enter (hb : Booked (some l) running entered left lingers)
    (hh : l.handle? = some h) (hopen : h.isShutdown = false) :
    Booked (some (l.onHandle Handle.enter)) (running + 1) (entered + 1) left lingers where
  counted := by rw [hb.counted, Nat.add_assoc]
  inFlight := by simp [onHandle, hh, Handle.enter, hb.inFlight_eq hh]
  settled := by
    rintro _ h' ⟨⟩ hh'
    obtain rfl : h.enter = h' := by simpa [onHandle, hh] using hh'
    have hs := hb.settled l h rfl hh
    refine ⟨fun ht => ?_, hs.closes, hs.closed⟩
    exact absurd (hs.ended ht).1 (by rw [hopen]; exact Bool.false_ne_true)
  drained := by
    rintro _ h' ⟨⟩ hh' _ _ hidle
    obtain rfl : h.enter = h' := by simpa [onHandle, hh] using hh'
    exact absurd hidle (Nat.succ_ne_zero _)

/-- The last call that leaves may make a link linger. -/
theorem Booked.leave (hb : Booked (some l) (running + 1) entered left lingers)
    (hh : l.handle? = some h) :
    Booked (some (l.onHandle Handle.leave)) running entered (left + 1) True where
  counted := by rw [hb.counted]; omega
  inFlight := by simp [onHandle, hh, Handle.leave, hb.inFlight_eq hh]
  settled := by
    rintro _ h' ⟨⟩ hh'
    obtain rfl : h.leave = h' := by simpa [onHandle, hh] using hh'
    have hs := hb.settled l h rfl hh
    refine ⟨fun ht => ?_, hs.closes, hs.closed⟩
    -- a terminated handle had no call left to leave
    have := (hs.ended ht).2
    rw [hb.inFlight_eq hh] at this
    exact absurd this (Nat.succ_ne_zero _)
  drained := fun _ _ _ _ hn => absurd trivial hn

theorem Booked.notify (hb : Booked (some l) running entered left lingers) (c : Connectivity) :
    Booked (some (l.onHandle fun h => h.notify c)) running entered left lingers := by
  refine ⟨hb.counted, ?_, ?_, ?_⟩
  · have := hb.inFlight
    cases hh : l.handle? with
    | none => simpa [onHandle, hh] using this
    | some h => simpa [onHandle, hh, h.notify_inFlight] using this
  · rintro _ h' ⟨⟩ hh'
    obtain ⟨h, hh, rfl⟩ := Option.map_eq_some_iff.mp hh'
    have hs := hb.settled l h rfl hh
    refine ⟨?_, ?_, ?_⟩
    · rw [h.notify_isTerminated, h.notify_isShutdown, h.notify_inFlight]
      exact hs.ended
    · rw [h.notify_isTerminated]
      exact hs.closes
    · rw [h.notify_isTerminated]
      exact hs.closed
  · rintro _ h' ⟨⟩ hh' hl
    obtain ⟨h, hh, rfl⟩ := Option.map_eq_some_iff.mp hh'
    rw [h.notify_isShutdown, h.notify_inFlight, h.notify_isTerminated]
    exact hb.drained l h rfl hh hl

/-- Shutting a handle down makes its link linger. -/
theorem Booked.shutDown (hb : Booked (some l) running entered left lingers) :
    Booked (some l.shutDown) running entered left True where
  counted := hb.counted
  inFlight := by
    have := hb.inFlight
    cases hh : l.handle? with
    | none => simpa [Link.shutDown, onHandle, hh] using this
    | some h => simpa [Link.shutDown, onHandle, hh, Handle.shutDown] using this
  settled := by
    rintro _ h' ⟨⟩ hh'
    obtain ⟨h, hh, rfl⟩ := Option.map_eq_some_iff.mp hh'
    have hs := hb.settled l h rfl hh
    exact ⟨fun ht => ⟨rfl, (hs.ended ht).2⟩, hs.closes, hs.closed⟩
  drained := fun _ _ _ _ hn => absurd trivial hn

/-- **Closing settles a link** that was drained and open. -/
theorem Booked.close (hb : Booked (some l) running entered left lingers)
    (hh : l.handle? = some h) (hshut : h.isShutdown = true) (hidle : h.inFlight = 0)
    (hopen : h.isTerminated = false) {lingers' : Prop} :
    Booked (some l.close) running entered left lingers' where
  counted := hb.counted
  inFlight := by simp [Link.close, onHandle, hh, Handle.terminate, hb.inFlight_eq hh]
  settled := by
    rintro _ h' ⟨⟩ hh'
    obtain rfl : h.terminate = h' := by simpa [Link.close, onHandle, hh] using hh'
    refine ⟨fun _ => ⟨hshut, hidle⟩, ?_, rfl⟩
    have hc := (hb.settled l h rfl hh).closes
    rw [hopen] at hc
    show l.closes + 1 = 1
    rw [hc]
    rfl
  drained := by
    rintro _ h' ⟨⟩ hh' _ _ _
    obtain rfl : h.terminate = h' := by simpa [Link.close, onHandle, hh] using hh'
    rfl

/-- A link that is listened to for the first time opens its books. -/
theorem booked_listen (target : String) (options : ChannelOptions)
    (behaviour : ChannelBehaviour) (n : Nat) :
    Booked (some (fresh target options behaviour).listen) 0 n n lingers where
  counted := rfl
  inFlight := rfl
  settled := by
    rintro _ h ⟨⟩ hh
    obtain rfl : Handle.fresh target = h := by simpa [fresh, listen] using hh
    exact ⟨fun ht => absurd ht Bool.false_ne_true, rfl, rfl⟩
  drained := by
    rintro _ h ⟨⟩ hh _ hshut
    obtain rfl : Handle.fresh target = h := by simpa [fresh, listen] using hh
    exact absurd hshut Bool.false_ne_true

end Link

/-! ## The books of a session -/

/-- Whether an event has no part in the books: it is no call that enters or leaves, and no
bracket. -/
def Event.isAside : Event → Bool
  | .entered _ | .left _ | .began _ | .ended _ _ => false
  | _ => true

theorem Event.isAside_of_isOfManager {e : Event} (he : e.isOfManager = true) :
    e.isAside = true := by
  cases e <;> first | rfl | cases he

theorem entries_aside {e : Event} (he : e.isAside = true) (i : Nat) (history : List Event) :
    entries i (e :: history) = entries i history := by
  cases e <;> first | rfl | exact absurd he Bool.false_ne_true

theorem exits_aside {e : Event} (he : e.isAside = true) (i : Nat) (history : List Event) :
    exits i (e :: history) = exits i history := by
  cases e <;> first | rfl | exact absurd he Bool.false_ne_true

/-- One more call, on one link. -/
def oneMore (i : Nat) (f : Nat → Nat) : Nat → Nat := fun j => if i = j then f j + 1 else f j

namespace Session

/-- How many calls are held open by hand on a link. -/
def heldOn (s : Session) (i : Nat) : Nat :=
  s.openCalls.countP fun c => c.2.link == i && c.2.admitted

/-- **No link is leaked or closed too early**: the calls in flight are those that entered and have
not left, the channel is closed once if its handle is terminated and else not at all, and a handle
that is shut down and idle is terminated. -/
def Drained (s : Session) : Prop :=
  ∀ (i : Nat) (l : Link) (h : Handle), s.links[i]? = some l → l.handle? = some h →
    entries i s.history = exits i s.history + h.inFlight ∧ l.Settled h ∧
      (h.isShutdown = true → h.inFlight = 0 → h.isTerminated = true)

/-- **The books of a session**, where `f` counts the calls that activities around the present one
have entered, and one link may linger. -/
structure Sound (f : Nat → Nat) (lingering? : Option Nat) (s : Session) : Prop where
  booked : ∀ i, Link.Booked s.links[i]? (s.heldOn i + f i) (entries i s.history)
    (exits i s.history) (lingering? = some i)
  past : ∀ t ∈ momentsOf s.history, t.Drained

variable {s s' : Session} {f g : Nat → Nat} {p? q? : Option Nat} {i : Nat}

/-- When no link lingers the session is drained as it should be. -/
theorem Sound.drained (hs : s.Sound f none) : s.Drained := by
  intro i l h hl hh
  have hb := hs.booked i
  rw [hl] at hb
  refine ⟨?_, hb.settled l h rfl hh, hb.drained l h rfl hh nofun⟩
  rw [hb.counted, hb.inFlight_eq hh]

/-- A change of one link and its counts leaves the books of the others as they are. -/
theorem Sound.change (hs : s.Sound f p?) (i : Nat)
    (hself : Link.Booked s'.links[i]? (s'.heldOn i + g i) (entries i s'.history)
      (exits i s'.history) (q? = some i))
    (hlinks : ∀ j, i ≠ j → s'.links[j]? = s.links[j]?)
    (hcalls : ∀ j, i ≠ j → s'.heldOn j + g j = s.heldOn j + f j)
    (hentries : ∀ j, i ≠ j → entries j s'.history = entries j s.history)
    (hexits : ∀ j, i ≠ j → exits j s'.history = exits j s.history)
    (hp : ∀ j, i ≠ j → p? = some j → q? = some j)
    (hpast : momentsOf s'.history = momentsOf s.history) : s'.Sound g q? where
  booked j := by
    by_cases hij : i = j
    · exact hij ▸ hself
    · rw [hlinks j hij, hcalls j hij, hentries j hij, hexits j hij]
      exact (hs.booked j).linger (hp j hij)
  past := by rw [hpast]; exact hs.past

/-- What changes neither links nor counts leaves the books as they are. -/
theorem Sound.same (hs : s.Sound f p?) (hlinks : s'.links = s.links)
    (hcalls : s'.openCalls = s.openCalls)
    (hentries : ∀ j, entries j s'.history = entries j s.history)
    (hexits : ∀ j, exits j s'.history = exits j s.history)
    (hpast : momentsOf s'.history = momentsOf s.history) : s'.Sound f p? where
  booked j := by
    rw [heldOn, hcalls, hlinks, hentries, hexits]
    exact hs.booked j
  past := by rw [hpast]; exact hs.past

theorem momentsOf_aside {e : Event} (he : e.isAside = true) (history : List Event) :
    momentsOf (e :: history) = momentsOf history :=
  momentsOf_cons (by cases e <;> first | rfl | exact absurd he Bool.false_ne_true) history

theorem Sound.push_aside (hs : s.Sound f p?) {e : Event} (he : e.isAside = true) :
    (s.push e).Sound f p? :=
  hs.same rfl rfl (fun j => entries_aside he j _) (fun j => exits_aside he j _)
    (momentsOf_aside he _)

theorem Sound.noted (hs : s.Sound f p?) (source : LogSource) (level : LogLevel)
    (message : String) : (s.noted source level message).Sound f p? := by
  unfold Session.noted
  split
  · exact hs.push_aside rfl
  · exact hs

/-- A moment is written down only when no link lingers. -/
theorem Sound.began (hs : s.Sound f none) : (s.push (.began s.toScene)).Sound f none where
  booked := hs.booked
  past := List.forall_mem_cons.mpr ⟨hs.drained, hs.past⟩

theorem Sound.ended (hs : s.Sound f none) (answer : Except Failure Answer) :
    (s.push (.ended answer s.toScene)).Sound f none where
  booked := hs.booked
  past := List.forall_mem_cons.mpr ⟨hs.drained, hs.past⟩

/-! ## What each event does to the books -/

/-- One link changes after something aside was written down. -/
theorem Sound.changeLink (hs : s.Sound f p?) {e : Event} (he : e.isAside = true)
    {F : Link → Link} {l : Link} (hl : s.links[i]? = some l)
    (hF : Link.Booked (some (F l)) (s.heldOn i + f i) (entries i s.history) (exits i s.history)
      (q? = some i)) (hp : ∀ j, i ≠ j → p? = some j → q? = some j) :
    ((s.push e).changeLink i F).Sound f q? := by
  have hlinks := links_changeLink (s.push e) i
  refine hs.change i ?_ (fun j hij => (hlinks j F).trans (if_neg hij)) (fun _ _ => rfl)
    (fun j _ => entries_aside he j _) (fun j _ => exits_aside he j _) hp (momentsOf_aside he _)
  rw [hlinks, if_pos rfl, push_toScene, hl, changeLink_history, push_history, entries_aside he,
    exits_aside he]
  exact hF

theorem Sound.enterCall (hs : s.Sound f p?) (hopen : s.admits i = true) :
    (s.enterCall i).Sound (oneMore i f) p? := by
  obtain ⟨h, hi, hshut⟩ := Scene.admits_iff.mp hopen
  obtain ⟨l, hl, hh⟩ := handle?_eq_some.mp hi
  have hlinks := links_changeLink (s.push (.entered i)) i
  refine hs.change i ?_ (fun j hij => (hlinks j _).trans (if_neg hij)) (fun j hij => ?_)
    (fun j hij => ?_) (fun _ _ => rfl) (fun _ _ => id) rfl
  · have hb := hs.booked i
    rw [hl] at hb
    have := hb.enter hh hshut
    rw [Session.enterCall, hlinks, if_pos rfl, push_toScene, hl, oneMore, if_pos rfl]
    simpa [entries, exits, Event.enters, Event.leaves, heldOn, changeLink_openCalls,
      Nat.add_assoc] using this
  · rw [oneMore, if_neg hij]
    rfl
  · simp [entries, Session.enterCall, Event.enters, Ne.symm hij]

/-- A call that leaves may make its link linger. -/
theorem Sound.leaveCall (hs : s.Sound (oneMore i f) none) : (s.leaveCall i).Sound f (some i) := by
  have hb := hs.booked i
  -- the books count a call on the link, so the link is there and has a handle
  obtain ⟨l, h, hl, hh⟩ : ∃ l h, s.links[i]? = some l ∧ l.handle? = some h := by
    have hrun := hb.inFlight
    rw [oneMore, if_pos rfl] at hrun
    cases hl : s.links[i]? with
    | none => simp [hl] at hrun
    | some l =>
      cases hh : l.handle? with
      | none => simp [hl, hh] at hrun
      | some h => exact ⟨l, h, rfl, hh⟩
  have hlinks := links_changeLink (s.push (.left i)) i
  refine hs.change i ?_ (fun j hij => (hlinks j _).trans (if_neg hij)) (fun j hij => ?_)
    (fun _ _ => rfl) (fun j hij => ?_) (fun _ _ => nofun) rfl
  · rw [hl, oneMore, if_pos rfl, ← Nat.add_assoc] at hb
    have := hb.leave hh
    rw [Session.leaveCall, hlinks, if_pos rfl, push_toScene, hl]
    simpa [entries, exits, Event.enters, Event.leaves, heldOn, changeLink_openCalls] using this
  · rw [oneMore, if_neg hij]
    rfl
  · simp [exits, Session.leaveCall, Event.leaves, Ne.symm hij]

theorem Sound.hear (hs : s.Sound f p?) (i : Nat) (report : String) :
    (s.hear i report).Sound f p? := by
  cases hl : s.links[i]? with
  | none =>
    refine hs.same ?_ rfl (fun _ => rfl) (fun _ => rfl) rfl
    refine List.ext_getElem? fun j => ?_
    rw [Session.hear, links_changeLink]
    split
    · next hij => rw [← hij, push_toScene, hl]; rfl
    · rfl
  | some l =>
    have hb := hs.booked i
    rw [hl] at hb
    exact hs.changeLink rfl hl (hb.notify _) fun _ _ => id

/-- Shutting a handle down may make its link linger. -/
theorem Sound.retire (hs : s.Sound f none) (hopen : s.admits i = true) :
    (s.retire i).Sound f (some i) := by
  obtain ⟨h, hi, _⟩ := Scene.admits_iff.mp hopen
  obtain ⟨l, hl, _⟩ := handle?_eq_some.mp hi
  have hb := hs.booked i
  rw [hl] at hb
  exact hs.changeLink rfl hl (hb.shutDown.linger fun _ => rfl) fun _ _ => nofun

/-- A link that is listened to from its making opens its books; one without a handle has none. -/
theorem Sound.addLink (hs : s.Sound f p?) (target : String) (options : ChannelOptions)
    (behaviour : ChannelBehaviour) :
    (s.addLink (.fresh target options behaviour)).Sound f p? ∧
      (s.addLink (Link.fresh target options behaviour).listen).Sound f p? := by
  have hb := hs.booked s.links.length
  rw [List.getElem?_eq_none le_rfl] at hb
  have hrun : s.heldOn s.links.length + f s.links.length = 0 := hb.inFlight.symm
  have hcount := hb.counted
  rw [hrun, Nat.add_zero] at hcount
  have hother : ∀ (l : Link) (j : Nat), s.links.length ≠ j →
      (s.addLink l).links[j]? = s.links[j]? := fun l j hj => links_addLink s l hj.symm
  constructor
  · refine hs.change s.links.length ?_ (hother _) (fun _ _ => rfl) (fun _ _ => rfl)
      (fun _ _ => rfl) (fun _ _ => id) rfl
    rw [links_addLink_length]
    have hbare : (Link.fresh target options behaviour).handle? = none := rfl
    refine ⟨hb.counted, hb.inFlight, fun l h hl hh => ?_, fun l h hl hh => ?_⟩ <;>
      (cases hl; simp [hbare] at hh)
  · refine hs.change s.links.length ?_ (hother _) (fun _ _ => rfl) (fun _ _ => rfl)
      (fun _ _ => rfl) (fun _ _ => id) rfl
    rw [links_addLink_length]
    show Link.Booked _ (s.heldOn s.links.length + f s.links.length)
      (entries s.links.length s.history) (exits s.links.length s.history) _
    rw [hrun, hcount]
    exact Link.booked_listen target options behaviour _

/-- A link may always be said to linger. -/
theorem Sound.linger (hs : s.Sound f none) (i : Nat) : s.Sound f (some i) :=
  ⟨fun j => (hs.booked j).linger nofun, hs.past⟩

/-- A link no longer lingers if it is closed already, or is not drained. -/
theorem Sound.settle (hs : s.Sound f (some i))
    (hdone : ∀ h, s.handle? i = some h → h.isShutdown = true → h.inFlight = 0 →
      h.isTerminated = true) : s.Sound f none where
  booked j := by
    have hb := hs.booked j
    by_cases hij : i = j
    · subst hij
      refine { hb with drained := fun l h hl hh _ => hdone h (handle?_eq_some.mpr ⟨l, hl, hh⟩) }
    · exact hb.linger fun hj => absurd (Option.some_inj.mp hj) hij
  past := hs.past

end Session

/-! ## Closing -/

/-- Whether an event is a channel that raised when it was told to close. -/
def Event.closesInVain : Event → Bool
  | .closed _ done => !done
  | _ => false

/-- Whether no channel has raised when it was told to close. -/
def Session.ClosesWell (s : Session) : Prop := ∀ e ∈ s.history, e.closesInVain = false

instance (s : Session) : Decidable s.ClosesWell :=
  inferInstanceAs (Decidable (∀ e ∈ s.history, e.closesInVain = false))

theorem Session.ClosesWell.earlier {s s' : Session} (hs : s'.ClosesWell) (hev : s.Evolves s') :
    s.ClosesWell := fun e he => hs e (hev.history.subset he)

namespace Run

open Session

variable {s : Session} {f : Nat → Nat} {i : Nat}

/-- **Closing settles a lingering link** if it is drained. -/
theorem sound_close (hs : s.Sound f (some i)) (hdrained : s.drained i = true)
    (hq : (close i s).2.ClosesWell) : (close i s).2.Sound f none := by
  obtain ⟨h, hi, hshut, hidle⟩ := Scene.drained_iff.mp hdrained
  obtain ⟨l, hl, hh⟩ := handle?_eq_some.mp hi
  have hb := hs.booked i
  rw [hl] at hb
  rw [close_run hl hh] at hq ⊢
  cases hterm : h.isTerminated with
  | true =>
    rw [if_pos rfl]
    -- a handle that is terminated already is not closed again
    refine hs.settle fun h' hi' _ _ => ?_
    obtain rfl : h = h' := Option.some_inj.mp (hi.symm.trans hi')
    exact hterm
  | false =>
    rw [hterm, if_neg Bool.false_ne_true] at hq
    rw [if_neg Bool.false_ne_true]
    cases hraise : l.behaviour.closingRaises? with
    | some r =>
      rw [hraise] at hq
      -- a channel that raises is ruled out
      have hgood : true = false := hq (.closed i false) List.mem_cons_self
      exact nomatch hgood
    | none =>
      refine Sound.noted ?_ _ _ _
      exact hs.changeLink rfl hl (hb.close hh hshut hidle hterm) fun j hij hj =>
        absurd (Option.some_inj.mp hj) hij

/-- **A call that leaves keeps the books**, whether or not it is the last one. -/
theorem sound_leave (hs : s.Sound (oneMore i f) none) (hq : (leave i s).2.ClosesWell) :
    (leave i s).2.Sound f none := by
  have hleft := hs.leaveCall
  rw [leave_run] at hq ⊢
  cases hd : (s.leaveCall i).drained i with
  | true =>
    rw [hd, if_pos rfl] at hq
    exact sound_close hleft hd hq
  | false =>
    rw [if_neg Bool.false_ne_true]
    refine hleft.settle fun h hi hshut hidle => ?_
    have hdrained := Scene.drained_iff.mpr ⟨h, hi, hshut, hidle⟩
    exact absurd (hd.symm.trans hdrained) Bool.false_ne_true

/-! ## Calls around an activity -/

/-- Taking one entry out of a list lowers a count by what that entry counts. -/
theorem countP_eraseP_of_find {α : Type} {p q : α → Bool} {l : List α} {a : α}
    (ha : l.find? p = some a) :
    (l.eraseP p).countP q + (if q a then 1 else 0) = l.countP q := by
  obtain ⟨hpa, before, rest, rfl, hbefore⟩ := List.find?_eq_some_iff_append.mp ha
  have hnone : ∀ b ∈ before, ¬ p b = true := fun b hb => by simpa using hbefore b hb
  rw [List.eraseP_append_right _ hnone, List.eraseP_cons_of_pos hpa, List.countP_append,
    List.countP_append, List.countP_cons, Nat.add_assoc]

/-- **What is in order for any number of calls around.** That is `P f`, where `f` counts the calls
that activities around the present one have entered, and it is kept wherever `Q` holds in the end. A
call that enters is one more of those around; one that is held open by hand is on the list of the
session in their place; and a call that leaves was one of them. -/
structure Bookkeeping (R : Session → Session → Prop) (P : (Nat → Nat) → Session → Prop)
    (Q : Session → Prop) : Prop where
  related : ∀ {s s'}, R s s' ↔ s.Evolves s' ∧ (Q s' → ∀ f, P f s → P f s')
  earlier : ∀ {s s'}, Q s' → s.Evolves s' → Q s
  openCalls : ∀ {s : Session} {f g : Nat → Nat} {calls : List (String × OpenCall)}, P f s →
    (∀ i, Session.heldOn { s with openCalls := calls } i + g i = s.heldOn i + f i) →
      P g { s with openCalls := calls }
  enterCall : ∀ {s : Session} {i : Nat} {f : Nat → Nat}, P f s → s.admits i = true →
    P (oneMore i f) (s.enterCall i)
  leave : ∀ {s : Session} {i : Nat} {f : Nat → Nat}, s.Valid → P (oneMore i f) s →
    Q (leave i s).2 → P f (leave i s).2

section

variable {R : Session → Session → Prop} {P : (Nat → Nat) → Session → Prop} {Q : Session → Prop}

/-- **What takes place inside a tracked call** sees one more call around. -/
theorem Bookkeeping.track (hR : Bookkeeping R P Q) {α : Type} {i : Nat} {body : Bool → Run α}
    (hbody : ∀ admitted, Keeps R (body admitted)) : Keeps R (track i body) := by
  intro s hs
  rw [track_run]
  cases hopen : s.admits i with
  | false => exact hbody false s hs
  | true =>
    have henter := evolves_enterCall s i
    obtain ⟨hin, hkeep⟩ := hR.related.mp (hbody true (s.enterCall i) (henter.valid hs))
    have hv := (henter.trans hin).valid hs
    have hleave := evolves_indifferent.leave i _ hv
    rw [if_pos rfl, andFinally_snd]
    refine hR.related.mpr ⟨(henter.trans hin).trans hleave, fun hq f hf => ?_⟩
    exact hR.leave hv (hkeep (hR.earlier hq hleave) _ (hR.enterCall hf hopen)) hq

/-- A call held open by hand moves from the calls around to the list of the session. -/
theorem Bookkeeping.beginCall [Lasting R] (hR : Bookkeeping R P Q) (name : String) :
    Keeps R (beginCall name) := by
  refine (Step.keeps_currentLink _).bind fun i => fun s hs => hR.related.mpr ?_
  rw [bind_run, enter_run]
  cases hopen : s.admits i with
  | false =>
    -- a call that was refused is on the list too, but it does not count
    exact ⟨.of_same rfl rfl rfl List.suffix_rfl, fun _ f hf =>
      hR.openCalls hf fun j => by simp [heldOn]⟩
  | true =>
    refine ⟨(evolves_enterCall s i).trans (.of_same rfl rfl rfl List.suffix_rfl), fun _ f hf => ?_⟩
    refine hR.openCalls (hR.enterCall hf hopen) fun j => ?_
    by_cases hij : i = j
    · simp [heldOn, Session.enterCall, oneMore, hij, Nat.add_right_comm, Nat.add_assoc]
    · simp [heldOn, Session.enterCall, oneMore, hij]

/-- A call held open by hand moves from the list of the session to the calls around, and leaves. -/
theorem Bookkeeping.endCall [Lasting R] (hR : Bookkeeping R P Q) (name : String) :
    Keeps R (endCall name) := by
  refine keeps_get_bind fun s hs => ?_
  cases hfind : s.openCalls.find? fun c => c.1 == name with
  | none => exact Lasting.refl s
  | some c =>
    obtain ⟨n, call⟩ := c
    have hcount := fun j : Nat => countP_eraseP_of_find (q := fun c : String × OpenCall =>
      c.2.link == j && c.2.admitted) hfind
    set s' : Session := { s with openCalls := s.openCalls.eraseP fun c => c.1 == name }
    have hev : s.Evolves s' := .of_same rfl rfl rfl List.suffix_rfl
    show R s ((if call.admitted then Run.leave call.link else pure ()) s').2
    cases hadm : call.admitted with
    | false =>
      refine hR.related.mpr ⟨hev, fun _ f hf => hR.openCalls hf fun j => ?_⟩
      have := hcount j
      simp only [hadm, Bool.and_false, Bool.false_eq_true, if_false, Nat.add_zero] at this
      unfold heldOn
      rw [this]
    | true =>
      have hv := hev.valid hs
      have hleave := evolves_indifferent.leave call.link s' hv
      refine hR.related.mpr ⟨hev.trans hleave, fun hq f hf => hR.leave hv ?_ hq⟩
      refine hR.openCalls hf fun j => ?_
      have := hcount j
      simp only [hadm, Bool.and_true, beq_iff_eq] at this
      unfold heldOn oneMore
      rw [← this]
      split <;> simp [*, Nat.add_right_comm, Nat.add_assoc]

end

/-! ## The books along a run -/

/-- **The books stay in order**, for any number of calls that are in progress around an activity,
unless a channel raises when it is told to close. -/
def KeepsBooks (s s' : Session) : Prop :=
  s.Evolves s' ∧ (s'.ClosesWell → ∀ f : Nat → Nat, s.Sound f none → s'.Sound f none)

instance : Lasting KeepsBooks where
  refl s := ⟨.refl s, fun _ _ => id⟩
  trans hab hbc :=
    ⟨hab.1.trans hbc.1, fun hq f => hbc.2 hq f ∘ hab.2 (hq.earlier hbc.1) f⟩
  evolves h := h.1
  note s e he :=
    ⟨evolves_push s e, fun _ _ hs => hs.push_aside (by cases e <;> first | rfl | cases he)⟩

theorem keepsBooks_aside (s : Session) {e : Event} (he : e.isAside = true) :
    KeepsBooks s (s.push e) := ⟨evolves_push s e, fun _ _ hs => hs.push_aside he⟩

theorem keepsBooks_unmanaged : Unmanaged KeepsBooks := by
  refine .of_events (fun s e he => keepsBooks_aside s (Event.isAside_of_isOfManager he))
    fun hev hh hlinks hcalls => ⟨hev, fun _ _ hs => hs.same hlinks hcalls ?_ ?_ ?_⟩
  · exact fun _ => by rw [hh]
  · exact fun _ => by rw [hh]
  · rw [hh]

theorem keepsBooks_deliver (i : Nat) (report : String) : Keeps KeepsBooks (deliver i report) := by
  intro s hs
  refine ⟨evolves_indifferent.considerate.deliver i report s hs, fun _ f hf => ?_⟩
  cases hi : s.handle? i with
  | none =>
    rw [deliver_run_none hi]
    exact hf
  | some h =>
    rw [deliver_run hi]
    have hheard := hf.hear i report
    split
    · exact hheard
    · exact hheard.noted _ _ _

theorem keepsBooks_makeLink (target : String) (options : ChannelOptions)
    (behaviour : ChannelBehaviour) : Keeps KeepsBooks (makeLink target options behaviour) :=
  keeps_makeLink (fun _ _ s => ⟨evolves_addLink s _, fun _ _ hf => (hf.addLink _ _ _).1⟩)
    (fun _ s => ⟨evolves_addLink s _, fun _ _ hf => (hf.addLink _ _ _).2⟩) keepsBooks_deliver

/-- The books are kept for any number of calls around, unless a channel raises when it is told to
close. -/
theorem bookkeeping_keepsBooks :
    Bookkeeping KeepsBooks (fun f s => s.Sound f none) ClosesWell where
  related := Iff.rfl
  earlier := ClosesWell.earlier
  openCalls hf hcalls := ⟨fun i => by rw [hcalls]; exact hf.booked i, hf.past⟩
  enterCall hf hopen := hf.enterCall hopen
  leave _ hf hq := sound_leave hf hq

/-! ## Waiting for running calls -/

/-- **While running calls are waited for the books stay in order.** If the wait comes to its end
because no call is running then the link is drained and lingers; otherwise it does not linger. -/
theorem sound_waitIdle {during : List (Run Unit)} (hd : ∀ x ∈ during, Keeps KeepsBooks x)
    {i : Nat} {f : Nat → Nat} {s s' : Session} {r : Except Failure Bool} (hv : s.Valid)
    (hshut : s.retired i = true) (hs : s.Sound f (some i))
    (hrun : waitIdle i during s = (r, s')) (hq : s'.ClosesWell) :
    (r = .ok true ∧ s'.Sound f (some i) ∧ s'.drained i = true) ∨
      (r ≠ .ok true ∧ s'.Sound f none) := by
  -- the books are only in order as long as no channel raises, which shows at the end
  have hwait := waitIdle_holds
    (I := fun t => t.Valid ∧ t.retired i = true ∧ (t.ClosesWell → t.Sound f (some i)))
    (J := fun t => t.Valid ∧ t.retired i = true ∧ (t.ClosesWell → t.Sound f none))
    (fun t ⟨htv, htret, ht⟩ hbusy => ⟨htv, htret, fun htq => (ht htq).settle fun h hi _ hz => ?_⟩)
    (fun t ⟨htv, htret, ht⟩ => ⟨htv, htret, fun htq => (ht htq).linger i⟩)
    (fun x hx t ⟨htv, htret, ht⟩ _ => ?_) ⟨hv, hshut, fun _ => hs⟩ hrun
  · obtain ⟨hr, ⟨-, hret, hs'⟩, hidle⟩ | ⟨hr, -, -, hs'⟩ := hwait
    · exact .inl ⟨hr, hs' hq, Scene.drained_of_idle hret hidle⟩
    · exact .inr ⟨hr, hs' hq⟩
  · rw [Scene.idle, hi, Option.map_some, hz] at hbusy
    exact absurd hbusy (by decide)
  · have hstep := hd x hx t htv
    exact ⟨hstep.1.valid htv, hstep.1.retired htret,
      fun hq => hstep.2 hq f (ht (hq.earlier hstep.1))⟩

/-- **Waiting for running calls keeps the books** of a link that is shut down: either the wait
closes its channel, or the last call that leaves will. -/
theorem sound_awaitTermination {during : List (Run Unit)}
    (hd : ∀ x ∈ during, Keeps KeepsBooks x) {i : Nat} {timeout : Value} {f : Nat → Nat}
    {s : Session} (hv : s.Valid) (hshut : s.retired i = true) (hs : s.Sound f (some i))
    (hq : (awaitTermination i timeout during s).2.ClosesWell) :
    (awaitTermination i timeout during s).2.Sound f none := by
  have hv₀ : (s.push (.waited timeout)).Valid := hv
  have hd' := forall_limited keeps_raise hd s.environment.clock timeout
  have hev : KeepsBooks (s.push (.waited timeout)) (waitIdle i _ _).2 := keeps_waitIdle hd' _ hv₀
  rw [awaitTermination_run_wait] at hq ⊢
  cases hrun : waitIdle i (limited s.environment.clock timeout during)
      (s.push (.waited timeout)) with
  | mk r s' =>
    rw [hrun] at hev hq
    have hwait := sound_waitIdle hd' hv₀ hshut (hs.push_aside rfl) hrun
    match r with
    | .error e => exact (hwait hq).elim (fun h => nomatch h.1) fun h => h.2
    | .ok false => exact (hwait hq).elim (fun h => nomatch h.1) fun h => h.2
    | .ok true =>
      have hclose := evolves_indifferent.close i s' (hev.1.valid hv₀)
      obtain ⟨-, hs', hdr⟩ | ⟨hr, -⟩ := hwait (ClosesWell.earlier hq hclose)
      · exact sound_close hs' hdr hq
      · exact absurd rfl hr

/-- **Disconnecting keeps the books**: nothing else takes place between shutting the handle down and
looking whether a call is running. -/
theorem keepsBooks_dismantle {m : Nat} {during : List (Run Unit)}
    (hd : ∀ x ∈ during, Keeps KeepsBooks x) : Keeps KeepsBooks (dismantle m during) := by
  intro s hs
  have hev : s.Evolves (dismantle m during s).2 :=
    evolves_unmanaged.dismantle evolves_indifferent.tending (fun x hx s hs => (hd x hx s hs).1) s hs
  refine ⟨hev, fun hq f hf => ?_⟩
  cases hcon : s.isConnected m with
  | false =>
    rw [dismantle_run_idle hcon]
    exact hf.noted _ _ _
  | true =>
    obtain ⟨i, h, hcur, hi, hready⟩ := Scene.isConnected_iff.mp hcon
    have hopen : h.isShutdown = false := (Handle.state_eq_ready.mp hready).2.1
    have hadm : s.admits i = true := Scene.admits_iff.mpr ⟨h, hi, hopen⟩
    set s₁ := (s.retire i).changeManager m fun mgr => { mgr with dispatcher? := none } with hs₁
    -- the link lingers from here until the wait has come to its end
    have hf₁ : s₁.Sound f (some i) :=
      (hf.retire hadm).same rfl rfl (fun _ => rfl) (fun _ => rfl) rfl
    have hshut : s₁.retired i = true := by
      show (s.retire i).retired i = true
      rw [Scene.retired, handle?_retire, hi]
      rfl
    have hv₁ : s₁.Valid :=
      ((evolves_retire s i).trans (evolves_changeManager _ m _)).valid hs
    rw [dismantle_run hcur hi hready] at hq ⊢
    set timeout : Value := .float (s.manager m).config.drainTimeout
    have hwait : s₁.Evolves (awaitTermination i timeout during s₁).2 :=
      evolves_indifferent.tending.awaitTermination (fun x hx s hs => (hd x hx s hs).1) s₁ hv₁
    have hsound : (awaitTermination i timeout during s₁).2.ClosesWell →
        (awaitTermination i timeout during s₁).2.Sound f none :=
      sound_awaitTermination hd hv₁ hshut hf₁
    rw [bind_run] at hq ⊢
    cases hrun : awaitTermination i timeout during s₁ with
    | mk r s₂ =>
      rw [hrun] at hq hwait hsound
      cases r with
      | error e => exact hsound hq
      | ok ended =>
        -- after the wait there are only notes
        have hend : KeepsBooks s₂ (farewell i ended s₂).2 :=
          keeps_farewell i ended s₂ (hwait.valid hv₁)
        exact hend.2 hq f (hsound (hq.earlier hend.1))

end Run

/-! ## The books at every moment -/

/-- Whether a step shuts a handle down by hand, or waits by hand for its calls. -/
def Step.closesByHand : Step → Bool
  | .shutDown | .awaitTermination _ _ => true
  | _ => false

/-- **Every step keeps the books**, unless it takes a handle's life into its own hands. -/
theorem Run.keepsBooks_respects : Step.Respects (fun step => !step.closesByHand) KeepsBooks where
  bracketed {s s'} answer hs := by
    have hbegan : KeepsBooks s (s.push (.began s.toScene)) :=
      ⟨Session.evolves_push s _, fun _ _ hf => hf.began⟩
    have hended : KeepsBooks s' (s'.push (.ended answer s'.toScene)) :=
      ⟨Session.evolves_push s' _, fun _ _ hf => hf.ended answer⟩
    exact Lasting.trans hbegan (Lasting.trans hs hended)
  connect hpause s hs _ :=
    keepsBooks_unmanaged.connect (fun _ _ => keepsBooks_makeLink _ _ _) hpause s hs
  disconnect hd s hs _ := keepsBooks_unmanaged.disconnect (keepsBooks_dismantle hd) s hs
  dispatch hd := keeps_dispatch (fun _ => bookkeeping_keepsBooks.track)
    (fun s _ _ => keepsBooks_aside s rfl) hd
  deliver := keepsBooks_deliver
  beginCall := bookkeeping_keepsBooks.beginCall
  endCall := bookkeeping_keepsBooks.endCall
  keepDispatcher := keepsBooks_unmanaged.keepDispatcher
  addClient := keepsBooks_unmanaged.addClient
  activate := keepsBooks_unmanaged.activate
  restoreDispatcher name _ := keepsBooks_unmanaged.restoreDispatcher name
  shutDown h := nomatch h
  awaitTermination _ _ h := nomatch h

namespace Session

/-- At the start there is nothing to keep books of. -/
theorem Initial.sound {s : Session} (hs : s.Initial) : s.Sound (fun _ => 0) none where
  booked i := by
    have hlink : s.links[i]? = none := by rw [hs.links, List.getElem?_nil]
    have hheld : s.heldOn i = 0 := by rw [heldOn, hs.openCalls, List.countP_nil]
    rw [hlink, hheld, hs.history]
    exact ⟨rfl, rfl, fun _ _ hl => (nomatch hl), fun _ _ hl => (nomatch hl)⟩
  past t ht := by
    rw [hs.history] at ht
    exact nomatch ht

/-- **Draining.** In a run in which no channel raises when it is told to close, at every moment,
also inside the run's steps, and for every handle, also one that was replaced: the calls in flight
are those that were admitted and have not left; a handle that is terminated is shut down and idle,
and one that is shut down and idle is terminated; and its channel was closed once if the handle is
terminated and else never. -/
theorem drained_throughout (start : Session) (steps : List Step) (hstart : start.Initial)
    (hsteps : Step.allWithin (fun step => !step.closesByHand) steps = true)
    (hclose : (start.after steps).ClosesWell) :
    ∀ s ∈ (start.after steps).moments, ∀ (i : Nat) (l : Link) (h : Handle),
      s.links[i]? = some l → l.handle? = some h →
        entries i s.history = exits i s.history + h.inFlight ∧
        (h.isTerminated = true ↔ h.isShutdown = true ∧ h.inFlight = 0) ∧
        l.closes = (if h.isTerminated then 1 else 0) ∧ l.isClosed = h.isTerminated := by
  have hsound := (hstart.related Run.keepsBooks_respects hsteps).2 hclose _ hstart.sound
  have hall : ∀ s ∈ (start.after steps).moments, s.Drained :=
    List.forall_mem_cons.mpr ⟨hsound.drained, hsound.past⟩
  intro s hs i l h hl hh
  obtain ⟨hcount, hsettled, hdrained⟩ := hall s hs i l h hl hh
  exact ⟨hcount, ⟨hsettled.ended, fun hd => hdrained hd.1 hd.2⟩, hsettled.closes, hsettled.closed⟩

/-- A call outlasts the wait of a disconnect, during which another is refused, and leaves only when
its handle has been replaced. -/
def outlastingSteps : List Step :=
  [.connectManager (.text "host") (.int 1) (.int 1000) .smooth [], .beginCall "early",
    .disconnect [.beginCall "late"],
    .connectManager (.text "host") (.int 2) (.int 1000) .smooth [], .endCall "early"]

/-- The channel whose call outlasted the wait is closed once, by the call that leaves. -/
theorem drained_throughout_outlasting :
    let s := (withManager .bare .standard).after outlastingSteps
    s.links.map Link.closes = [1, 0] ∧
      ∀ t ∈ s.moments, ∀ (i : Nat) (l : Link) (h : Handle),
        t.links[i]? = some l → l.handle? = some h →
          entries i t.history = exits i t.history + h.inFlight ∧
          (h.isTerminated = true ↔ h.isShutdown = true ∧ h.inFlight = 0) ∧
          l.closes = (if h.isTerminated then 1 else 0) ∧ l.isClosed = h.isTerminated :=
  ⟨by decide +kernel, drained_throughout _ outlastingSteps ⟨.bare, .standard, .inr rfl⟩ (by decide)
    (by decide +kernel)⟩

end Session

end VectorLink
