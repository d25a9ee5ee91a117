import VectorLink.Proofs.Draining
import VectorLink.Proofs.Logbook
import VectorLink.Proofs.Phases

/-!
# Counting calls whatever closing raises

A channel may raise when it is told to close. Then it counts as not closed, and the books of its
link are no longer in order: the handle is drained and yet not terminated. The number of calls in
flight has nothing to do with that. A call is counted when it is admitted and no more when it
leaves, and it leaves before the channel is closed, so the number is right even if closing raises.

So there are counts that hold of every run (`Session.Counts`), also where handles are shut down or
waited for by hand. As with the books of a link, a session lists only the calls that are held open
by hand, and the counts are kept for any number of calls in progress around it.
-/

namespace VectorLink

theorem entries_entered (i j : Nat) (history : List Event) : entries j (.entered i :: history)
    = if i = j then entries j history + 1 else entries j history := by
  rw [entries, List.countP_cons, Event.enters, entries]
  by_cases hij : i = j
  · simp [hij]
  · simp [hij, Ne.symm hij]

theorem exits_left (i j : Nat) (history : List Event) : exits j (.left i :: history)
    = if i = j then exits j history + 1 else exits j history := by
  rw [exits, List.countP_cons, Event.leaves, exits]
  by_cases hij : i = j
  · simp [hij]
  · simp [hij, Ne.symm hij]

namespace Session

/-- **The calls in flight are counted right**, where `f` counts those that activities around the
present one have entered. -/
structure Counts (f : Nat → Nat) (s : Session) : Prop where
  entered : ∀ i, entries i s.history = exits i s.history + (s.heldOn i + f i)
  running : ∀ i, s.running i = s.heldOn i + f i

/-- Calls were counted right all along. -/
structure Tallied (f : Nat → Nat) (s : Session) : Prop where
  now : s.Counts f
  past : ∀ t ∈ momentsOf s.history, ∃ g, t.Counts g

variable {s s' : Session} {f g : Nat → Nat} {i : Nat}

/-- **The calls in flight are those that entered and have not left.** -/
theorem Counts.balance (hs : s.Counts f) (i : Nat) :
    entries i s.history = exits i s.history + s.running i := by rw [hs.entered, hs.running]

/-- What changes no count leaves the calls counted right. -/
theorem Tallied.same (hs : s.Tallied f) (hrun : ∀ j, s'.running j = s.running j)
    (hcalls : s'.openCalls = s.openCalls)
    (hentries : ∀ j, entries j s'.history = entries j s.history)
    (hexits : ∀ j, exits j s'.history = exits j s.history)
    (hpast : momentsOf s'.history = momentsOf s.history) : s'.Tallied f where
  now := by
    refine ⟨fun j => ?_, fun j => ?_⟩
    · rw [hentries, hexits, heldOn, hcalls]
      exact hs.now.entered j
    · rw [hrun, heldOn, hcalls]
      exact hs.now.running j
  past := by rw [hpast]; exact hs.past

theorem Tallied.push_aside (hs : s.Tallied f) {e : Event} (he : e.isAside = true) :
    (s.push e).Tallied f :=
  hs.same (fun _ => rfl) rfl (fun j => entries_aside he j _) (fun j => exits_aside he j _)
    (momentsOf_aside he _)

/-- A change of one link that leaves its calls alone, after something aside was written down. -/
theorem Tallied.changeLink (hs : s.Tallied f) {e : Event} (he : e.isAside = true)
    {F : Link → Link} {F' : Handle → Handle} (hF : ∀ l, (F l).handle? = l.handle?.map F')
    (hF' : ∀ h, (F' h).inFlight = h.inFlight) (i : Nat) :
    ((s.push e).changeLink i F).Tallied f :=
  (hs.push_aside he).same (fun j => running_changeLink (s.push e) i j hF hF') rfl
    (fun _ => rfl) (fun _ => rfl) rfl

/-- A link that is new has no calls. -/
theorem Tallied.addLink (hs : s.Tallied f) {l : Link}
    (hl : (l.handle?.map Handle.inFlight).getD 0 = 0) : (s.addLink l).Tallied f := by
  refine hs.same (fun j => ?_) rfl (fun _ => rfl) (fun _ => rfl) rfl
  rw [Scene.running, handle?_addLink]
  split
  · next hj =>
    rw [hl, hj, Scene.running, Scene.handle?, List.getElem?_eq_none le_rfl]
    rfl
  · rfl

/-- **A call that enters** is counted as one more. -/
theorem Tallied.enterCall (hs : s.Tallied f) (hopen : s.admits i = true) :
    (s.enterCall i).Tallied (oneMore i f) where
  now := by
    refine ⟨fun j => ?_, fun j => ?_⟩
    · show entries j (.entered i :: s.history) = exits j s.history + (s.heldOn j + _)
      rw [entries_entered, hs.now.entered, oneMore]
      split <;> omega
    · show _ = s.heldOn j + _
      rw [running_enterCall hopen, hs.now.running, oneMore]
      split <;> omega
  past := hs.past

/-- **A call that leaves** is counted no more. -/
theorem Tallied.leaveCall (hs : s.Tallied (oneMore i f)) : (s.leaveCall i).Tallied f where
  now := by
    refine ⟨fun j => ?_, fun j => ?_⟩
    · show entries j s.history = exits j (.left i :: s.history) + (s.heldOn j + f j)
      rw [exits_left, hs.now.entered, oneMore]
      split <;> omega
    · show _ = s.heldOn j + f j
      rw [running_leaveCall, hs.now.running, oneMore]
      split <;> omega
  past := hs.past

theorem Tallied.began (hs : s.Tallied f) : (s.push (.began s.toScene)).Tallied f where
  now := ⟨hs.now.entered, hs.now.running⟩
  past := List.forall_mem_cons.mpr ⟨⟨f, hs.now⟩, hs.past⟩

theorem Tallied.ended (hs : s.Tallied f) (answer : Except Failure Answer) :
    (s.push (.ended answer s.toScene)).Tallied f where
  now := ⟨hs.now.entered, hs.now.running⟩
  past := List.forall_mem_cons.mpr ⟨⟨f, hs.now⟩, hs.past⟩

/-- Calls may move between those held open by hand and those in progress around. -/
theorem Tallied.openCalls (hs : s.Tallied f) {calls : List (String × OpenCall)}
    (hcalls : ∀ i, Session.heldOn { s with openCalls := calls } i + g i = s.heldOn i + f i) :
    Session.Tallied g { s with openCalls := calls } where
  now := by
    refine ⟨fun i => ?_, fun i => ?_⟩
    · rw [hcalls]
      exact hs.now.entered i
    · rw [hcalls]
      exact hs.now.running i
  past := hs.past

end Session

/-! ## The counts along a run -/

namespace Run

open Session

variable {s : Session} {i : Nat}

/-- **Calls go on to be counted right**, for any number of calls in progress around an activity. -/
structure KeepsCount (s s' : Session) : Prop where
  evolves : s.Evolves s'
  tallied : ∀ f : Nat → Nat, s.Tallied f → s'.Tallied f

theorem keepsCount_aside (s : Session) {e : Event} (he : e.isAside = true) :
    KeepsCount s (s.push e) := ⟨evolves_push s e, fun _ hs => hs.push_aside he⟩

instance : Lasting KeepsCount where
  refl s := ⟨.refl s, fun _ => id⟩
  trans h h' := ⟨h.evolves.trans h'.evolves, fun f hs => h'.tallied f (h.tallied f hs)⟩
  evolves := KeepsCount.evolves
  note s e he := keepsCount_aside s (by cases e <;> first | rfl | cases he)

theorem keepsCount_unmanaged : Unmanaged KeepsCount := by
  refine .of_events (fun s e he => keepsCount_aside s (Event.isAside_of_isOfManager he))
    fun hev hh hlinks hcalls => ⟨hev, fun _ hs => hs.same (fun j => ?_) hcalls ?_ ?_ ?_⟩
  · rw [Scene.running, Scene.running, Scene.handle?, Scene.handle?, hlinks]
  · exact fun _ => by rw [hh]
  · exact fun _ => by rw [hh]
  · rw [hh]

theorem keepsCount_deliver (i : Nat) (report : String) : Keeps KeepsCount (deliver i report) := by
  intro s _
  cases hi : s.handle? i with
  | none =>
    rw [deliver_run_none hi]
    exact Lasting.refl s
  | some h =>
    have hheard : KeepsCount s (s.hear i report) :=
      ⟨evolves_hear s i report, fun _ hs =>
        hs.changeLink rfl (fun _ => rfl) (fun h => h.notify_inFlight _) i⟩
    rw [deliver_run hi]
    split
    · exact hheard
    · exact Lasting.trans hheard (related_noted _ _ _ _)

theorem keepsCount_makeLink (target : String) (options : ChannelOptions)
    (behaviour : ChannelBehaviour) : Keeps KeepsCount (makeLink target options behaviour) :=
  keeps_makeLink (fun _ _ s => ⟨evolves_addLink s _, fun _ hs => hs.addLink rfl⟩)
    (fun _ s => ⟨evolves_addLink s _, fun _ hs => hs.addLink rfl⟩) keepsCount_deliver

theorem keepsCount_shutDown (i : Nat) : Keeps KeepsCount (shutDown i) := by
  intro s _
  rw [shutDown_run]
  split
  · have hsame : ∀ h : Handle, h.shutDown.inFlight = h.inFlight := fun _ => rfl
    exact ⟨evolves_retire s i, fun _ hs => hs.changeLink rfl (fun _ => rfl) hsame i⟩
  · exact Lasting.refl s

/-- **Closing counts no call**, whether or not it raises. -/
theorem keepsCount_close (i : Nat) : Keeps KeepsCount (close i) := by
  intro s _
  cases hi : s.handle? i with
  | none =>
    rw [close_run_none hi]
    exact Lasting.refl s
  | some h =>
    obtain ⟨l, hl, hh⟩ := Session.handle?_eq_some.mp hi
    rw [close_run hl hh]
    split
    · exact Lasting.refl s
    · cases l.behaviour.closingRaises? with
      | some r =>
        have hsame : ∀ l : Link, l.closeInVain.handle? = l.handle?.map id := fun l => by
          rw [Option.map_id]
          rfl
        exact ⟨evolves_closeLinkInVain s i, fun _ hs => hs.changeLink rfl hsame (fun _ => rfl) i⟩
      | none =>
        have hsame : ∀ h : Handle, h.terminate.inFlight = h.inFlight := fun _ => rfl
        have hclosed : KeepsCount s (s.closeLink i) :=
          ⟨evolves_closeLink s i, fun _ hs => hs.changeLink rfl (fun _ => rfl) hsame i⟩
        exact Lasting.trans hclosed (related_noted _ _ _ _)

/-- **A call that leaves is counted no more, even if closing the channel then raises.** -/
theorem tallied_leave {f : Nat → Nat} (hv : s.Valid) (hs : s.Tallied (oneMore i f)) :
    (leave i s).2.Tallied f := by
  rw [leave_run]
  split
  · exact (keepsCount_close i _ ((evolves_leaveCall s i).valid hv)).tallied f hs.leaveCall
  · exact hs.leaveCall

/-- Calls are counted for any number of calls around, whatever happens in the end. -/
theorem bookkeeping_keepsCount : Bookkeeping KeepsCount (fun f s => s.Tallied f) fun _ => True where
  related := ⟨fun h => ⟨h.evolves, fun _ => h.tallied⟩, fun h => ⟨h.1, h.2 trivial⟩⟩
  earlier _ _ := trivial
  openCalls hf hcalls := hf.openCalls hcalls
  enterCall := Tallied.enterCall
  leave hv hs _ := tallied_leave hv hs

theorem keepsCount_dismantle {m : Nat} {during : List (Run Unit)}
    (hd : ∀ x ∈ during, Keeps KeepsCount x) : Keeps KeepsCount (dismantle m during) := by
  refine keeps_look fun s => Keeps.ite ((keeps_log _ _ _).bind fun _ => keeps_pure _) ?_
  refine keeps_look fun _ => keeps_look fun _ => (keepsCount_shutDown _).bind fun _ => ?_
  exact (keepsCount_unmanaged.unbindCalls m).bind fun _ =>
    (keeps_awaitTermination (keepsCount_close _) hd).bind fun ended => keeps_farewell _ ended

/-- **Every step counts calls right**, also one that closes or rebinds by hand. -/
theorem keepsCount_respects : Step.Respects (fun _ => true) KeepsCount where
  bracketed {s s'} answer h := by
    have hbegan : KeepsCount s (s.push (.began s.toScene)) :=
      ⟨evolves_push s _, fun _ hf => hf.began⟩
    have hended : KeepsCount s' (s'.push (.ended answer s'.toScene)) :=
      ⟨evolves_push s' _, fun _ hf => hf.ended answer⟩
    exact Lasting.trans hbegan (Lasting.trans h hended)
  connect hpause s hs _ :=
    keepsCount_unmanaged.connect (fun _ _ => keepsCount_makeLink _ _ _) hpause s hs
  disconnect hd s hs _ := keepsCount_unmanaged.disconnect (keepsCount_dismantle hd) s hs
  dispatch hd := keeps_dispatch (fun _ => bookkeeping_keepsCount.track)
    (fun s _ _ => keepsCount_aside s rfl) hd
  deliver := keepsCount_deliver
  beginCall := bookkeeping_keepsCount.beginCall
  endCall := bookkeeping_keepsCount.endCall
  keepDispatcher := keepsCount_unmanaged.keepDispatcher
  addClient := keepsCount_unmanaged.addClient
  activate := keepsCount_unmanaged.activate
  restoreDispatcher name _ := keepsCount_unmanaged.restoreDispatcher name
  shutDown _ := keepsCount_shutDown
  awaitTermination _ _ _ _ _ hd := keeps_awaitTermination (keepsCount_close _) hd

end Run

namespace Session

theorem Initial.tallied {s : Session} (hs : s.Initial) : s.Tallied fun _ => 0 where
  now := by
    refine ⟨fun i => ?_, fun i => ?_⟩
    · rw [hs.history, heldOn, hs.openCalls]
      rfl
    · rw [Scene.running, Scene.handle?, hs.links, heldOn, hs.openCalls]
      rfl
  past t ht := by
    rw [hs.history] at ht
    cases ht

/-- **At every moment of every run calls are counted right**, for some number of calls that are in
progress around that moment. -/
theorem Reached.tallied {p : Step → Bool} {s : Session} (hs : s.Reached p) :
    ∃ f, s.Tallied f := by
  obtain ⟨start, steps, hstart, -, hmem⟩ := hs
  have hall := (hstart.related Run.keepsCount_respects (Step.allWithin_true steps)).tallied _
    hstart.tallied
  obtain rfl | hmem := List.mem_cons.mp hmem
  · exact ⟨_, hall⟩
  · obtain ⟨f, hf⟩ := hall.past s hmem
    exact ⟨f, hf, fun t ht => hall.past t (momentsOf_trans hmem ht)⟩

end Session

end VectorLink
