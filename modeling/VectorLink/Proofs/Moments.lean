import VectorLink.Proofs.Connecting

/-!
# What holds at every moment

An invariant of sessions that every activity preserves holds at the end of a run. That it also held
at every moment on the way is no new induction: the history holds those moments, so one asks that
the invariant holds now and at all of them (`Session.Always`), and this is again something that
activities preserve. Only brackets add a moment, and the moment that a bracket adds is the session
as it is then.
-/

namespace VectorLink

/-- Whether an event opens or closes a bracket. -/
def Event.isBracket : Event → Bool
  | .began _ | .ended _ _ => true
  | _ => false

theorem Event.isBracket_of_isOfLink {e : Event} (he : e.isOfLink = true) : e.isBracket = false := by
  cases e <;> first | rfl | cases he

theorem Event.isBracket_of_isOfManager {e : Event} (he : e.isOfManager = true) :
    e.isBracket = false := by
  cases e <;> first | rfl | cases he

namespace Session

theorem momentsOf_cons {e : Event} (he : e.isBracket = false) (history : List Event) :
    momentsOf (e :: history) = momentsOf history := by
  cases e with
  | began => exact absurd he Bool.false_ne_true.symm
  | ended => exact absurd he Bool.false_ne_true.symm
  | _ => rfl

/-- The moments of a moment are moments. -/
theorem momentsOf_trans {history : List Event} {s t : Session} (hs : s ∈ momentsOf history)
    (ht : t ∈ momentsOf s.history) : t ∈ momentsOf history := by
  induction history with
  | nil => cases hs
  | cons e before ih =>
    cases e with
    | began seen | ended answer seen =>
      obtain rfl | hs := List.mem_cons.mp hs
      · exact List.mem_cons_of_mem _ ht
      · exact List.mem_cons_of_mem _ (ih hs)
    | _ => exact ih hs

/-- **An invariant has held all along**, as far as the history tells. -/
structure Always (I : Session → Prop) (s : Session) : Prop where
  now : I s
  past : ∀ t ∈ momentsOf s.history, I t

/-- **An invariant goes on holding** from one session to a later one. -/
structure Upholds (I : Session → Prop) (s s' : Session) : Prop where
  evolves : s.Evolves s'
  always : s.Always I → s'.Always I

variable {I : Session → Prop} {s s' s'' : Session}

theorem Upholds.refl (s : Session) : Upholds I s s := ⟨.refl s, id⟩

theorem Upholds.trans (h : Upholds I s s') (h' : Upholds I s' s'') : Upholds I s s'' :=
  ⟨h.evolves.trans h'.evolves, h'.always ∘ h.always⟩

/-- What writes nothing down only has to preserve the invariant. -/
theorem Upholds.of_history (hev : s.Evolves s') (hh : s'.history = s.history) (hI : I s → I s') :
    Upholds I s s' :=
  ⟨hev, fun h => ⟨hI h.now, by rw [hh]; exact h.past⟩⟩

/-- What writes an event down, but no bracket, only has to preserve the invariant. -/
theorem Upholds.of_event (hev : s.Evolves s') {e : Event} (he : e.isBracket = false)
    (hh : s'.history = e :: s.history) (hI : I s → I s') : Upholds I s s' :=
  ⟨hev, fun h => ⟨hI h.now, by rw [hh, momentsOf_cons he]; exact h.past⟩⟩

/-- A bracket adds the session of its moment to those that an invariant held of. -/
theorem Always.began (ha : s.Always I) (hI : I (s.push (.began s.toScene))) :
    (s.push (.began s.toScene)).Always I :=
  ⟨hI, List.forall_mem_cons.mpr ⟨ha.now, ha.past⟩⟩

theorem Always.ended (ha : s.Always I) (answer : Except Failure Answer)
    (hI : I (s.push (.ended answer s.toScene))) :
    (s.push (.ended answer s.toScene)).Always I :=
  ⟨hI, List.forall_mem_cons.mpr ⟨ha.now, ha.past⟩⟩

/-- **A bracket adds the session of its moment**, which satisfies the invariant. -/
theorem Upholds.bracketed (hbegan : ∀ s : Session, I s → I (s.push (.began s.toScene)))
    (hended : ∀ (s : Session) (answer : Except Failure Answer), I s →
      I (s.push (.ended answer s.toScene)))
    (h : Upholds I (s.push (.began s.toScene)) s') (answer : Except Failure Answer) :
    Upholds I s (s'.push (.ended answer s'.toScene)) := by
  refine ⟨((evolves_push s _).trans h.evolves).trans (evolves_push s' _), fun ha => ?_⟩
  have hin := h.always (ha.began (hbegan s ha.now))
  exact hin.ended answer (hended s' answer hin.now)

/-- A run starts with nothing behind it. -/
theorem Initial.always (hs : s.Initial) (hI : I s) : s.Always I := by
  refine ⟨hI, fun t ht => ?_⟩
  rw [hs.history] at ht
  cases ht

/-- **An invariant that held at the start of a run and all along it** has held all along at each of
its moments. -/
theorem Initial.reached {p : Step → Bool} (hI : ∀ s : Session, s.Initial → I s)
    (hrun : ∀ (s : Session) (steps : List Step), s.Initial → Step.allWithin p steps = true →
      Upholds I s (s.after steps)) {s : Session} (hs : s.Reached p) : s.Always I := by
  obtain ⟨start, steps, hstart, hsteps, hmem⟩ := hs
  have hall := (hrun start steps hstart hsteps).always (hstart.always (hI start hstart))
  obtain rfl | hmem := List.mem_cons.mp hmem
  · exact hall
  · -- what is past for a moment of the run is past for the run
    exact ⟨hall.past s hmem, fun t ht => hall.past t (momentsOf_trans hmem ht)⟩

/-! ## The manager in use exists -/

/-- What evolves without a bracket stays valid. -/
theorem upholds_valid (hev : s.Evolves s') (hh : s'.history = s.history) : Upholds Valid s s' :=
  .of_history hev hh hev.valid

theorem upholds_valid_event (hev : s.Evolves s') {e : Event} (he : e.isBracket = false)
    (hh : s'.history = e :: s.history) : Upholds Valid s s' :=
  .of_event hev he hh hev.valid

instance : Run.Lasting (Upholds Valid) where
  refl := Upholds.refl
  trans := Upholds.trans
  evolves := Upholds.evolves
  note s e he :=
    upholds_valid_event (evolves_push s e) (by cases e <;> first | rfl | cases he) rfl

theorem valid_indifferent : Run.Indifferent (Upholds Valid) :=
  .of_events (fun hev he hh _ => upholds_valid_event hev (Event.isBracket_of_isOfLink he) hh)
    fun hev hh _ => upholds_valid hev hh

theorem valid_unmanaged : Run.Unmanaged (Upholds Valid) :=
  .of_events
    (fun s _ he => upholds_valid_event (evolves_push s _) (Event.isBracket_of_isOfManager he) rfl)
    fun hev hh _ _ => upholds_valid hev hh

/-- **At every moment the manager in use exists.** -/
theorem Reached.valid {p : Step → Bool} (hs : s.Reached p) : s.Valid := by
  refine (Initial.reached (fun s hs => hs.valid) (fun s steps hstart _ => ?_) hs).now
  exact hstart.related (valid_unmanaged.respects valid_indifferent.tending
    (fun s _ _ _ => upholds_valid_event (evolves_push s _) rfl rfl)
    fun answer h => h.bracketed (fun _ => id) (fun _ _ => id) answer) (Step.allWithin_true steps)

end Session

/-! ## Laws of links -/

/-- **A law of links**: it holds of every new link, which is listened to unless that raises, and
nothing in the life of a link breaks it. Only a link with a handle is ever closed. -/
structure Link.Law (P : Link → Prop) : Prop where
  fresh : ∀ (target : String) (options : ChannelOptions) {behaviour : ChannelBehaviour}
    {r : Raised}, behaviour.listeningRaises? = some r → P (.fresh target options behaviour)
  listen : ∀ (target : String) (options : ChannelOptions) {behaviour : ChannelBehaviour},
    behaviour.listeningRaises? = none → P (Link.fresh target options behaviour).listen
  enter : ∀ l, P l → P (l.onHandle Handle.enter)
  leave : ∀ l, P l → P (l.onHandle Handle.leave)
  notify : ∀ l c, P l → P (l.onHandle fun h => h.notify c)
  shutDown : ∀ l, P l → P l.shutDown
  close : ∀ l, l.handle?.isSome = true → P l → P l.close
  closeInVain : ∀ l, P l → P l.closeInVain

namespace Session

/-- Whether all links satisfy a law. -/
def Each (P : Link → Prop) (s : Session) : Prop :=
  ∀ (i : Nat) (l : Link), s.links[i]? = some l → P l

variable {P : Link → Prop} {s : Session} {i : Nat}

theorem Each.changeLink (hs : s.Each P) {f : Link → Link}
    (hf : ∀ l, s.links[i]? = some l → P l → P (f l)) : (s.changeLink i f).Each P := by
  intro j l hl
  rw [links_changeLink] at hl
  split at hl
  · next hij =>
    subst hij
    obtain ⟨l', hl', rfl⟩ := Option.map_eq_some_iff.mp hl
    exact hf l' hl' (hs i l' hl')
  · exact hs j l hl

theorem Each.addLink (hs : s.Each P) {l : Link} (hl : P l) : (s.addLink l).Each P := by
  intro j l' hl'
  rw [Session.addLink, List.getElem?_append] at hl'
  split at hl'
  · exact hs j l' hl'
  · rw [List.getElem?_singleton] at hl'
    split at hl'
    · cases hl'
      exact hl
    · cases hl'

/-- One link changed after something was written down. -/
theorem upholds_each {e : Event} (he : e.isBracket = false) {f : Link → Link}
    (hev : s.Evolves ((s.push e).changeLink i f))
    (hf : ∀ l, s.links[i]? = some l → P l → P (f l)) :
    Upholds (Each P) s ((s.push e).changeLink i f) :=
  .of_event hev he rfl fun hs => Each.changeLink (s := s.push e) hs hf

/-- Nothing changed about links after something was written down. -/
theorem upholds_each_push (s : Session) {e : Event} (he : e.isBracket = false) :
    Upholds (Each P) s (s.push e) := .of_event (evolves_push s e) he rfl id

instance : Run.Lasting (Upholds (Each P)) where
  refl := Upholds.refl
  trans := Upholds.trans
  evolves := Upholds.evolves
  note s e he := upholds_each_push s (by cases e <;> first | rfl | cases he)

theorem each_serene (hP : Link.Law P) : Run.Serene (Upholds (Each P)) where
  enterCall s i := upholds_each rfl (evolves_enterCall s i) fun l _ => hP.enter l
  leaveCall s i := upholds_each rfl (evolves_leaveCall s i) fun l _ => hP.leave l
  retire s i := upholds_each rfl (evolves_retire s i) fun l _ => hP.shutDown l
  hear s i report := upholds_each rfl (evolves_hear s i report) fun l _ => hP.notify l _
  closeLink s i hi := upholds_each rfl (evolves_closeLink s i) fun l hl =>
    hP.close l (by rwa [Scene.handle?, hl] at hi)
  closeLinkInVain s i := upholds_each rfl (evolves_closeLinkInVain s i) fun l _ =>
    hP.closeInVain l
  openCalls s calls := .of_history (evolves_indifferent.openCalls s calls) rfl id

theorem each_tending (hP : Link.Law P) : Run.Tending (Upholds (Each P)) :=
  (each_serene hP).tending fun target options _ => Run.keeps_makeLink
    (fun _ hraises s => .of_history (evolves_addLink s _) rfl fun hs =>
      hs.addLink (hP.fresh target options hraises))
    (fun hquiet s => .of_history (evolves_addLink s _) rfl fun hs =>
      hs.addLink (hP.listen target options hquiet))
    (each_serene hP).considerate.deliver

theorem each_unmanaged : Run.Unmanaged (Upholds (Each P)) :=
  .of_events (fun s _ he => upholds_each_push s (Event.isBracket_of_isOfManager he))
    fun hev hh hlinks _ => .of_history hev hh fun hs i l hl => hs i l (hlinks ▸ hl)

/-- **A law of links holds at every moment** of every run. -/
theorem Reached.link {p : Step → Bool} (hs : s.Reached p) (hP : Link.Law P) : s.Each P := by
  refine (Initial.reached (fun s hs i l hl => ?_) (fun s steps hstart _ => ?_) hs).now
  · rw [hs.links] at hl
    cases hl
  · exact hstart.related (each_unmanaged.respects (each_tending hP)
      (fun s _ _ _ => upholds_each_push s rfl)
      fun answer h => h.bracketed (fun _ => id) (fun _ _ => id) answer) (Step.allWithin_true steps)

end Session

end VectorLink
